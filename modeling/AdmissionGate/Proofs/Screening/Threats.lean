import AdmissionGate.Proofs.Screening.Demands
import AdmissionGate.Proofs.Text.Case

/-!
# Threats in headers

A header value is made of octets that need not be text at all. A needle that is spelled out among them,
in whatever case, is found all the same: what stands before it and after it can be read neither as a
part of it nor as a sequence that goes on into it (`holdsThreat_of_spells`). In strict mode the first
header with such a value is the one that a request is refused for (`headers_threat`).
-/

namespace AdmissionGate

open Text (Bytes encode decodeLossy)

/-! ## Needles among octets -/

/-- A needle is spelled out among some octets, with its letters in either case. -/
def SpellsThreat (value : Bytes) : Prop :=
  ∃ n ∈ headerNeedles, ∃ word, Text.eqIgnoringAsciiCase word n.1 = true ∧
    ∃ before behind, value = before ++ (encode word ++ behind)

/-- The needles are in lower case and in ASCII, and none is empty. -/
theorem isAscii_headerNeedles :
    ∀ n ∈ headerNeedles, Text.IsAscii (n.1.toList.map Char.toLower) ∧ n.1.toList ≠ [] ∧
      n.1.toList.map Char.toLower = n.1.toList := by
  simp [headerNeedles, Text.IsAscii]

/-- **What stands around a needle does not hide it.** -/
theorem holdsThreat_of_spells {value : Bytes} (h : SpellsThreat value) :
    HoldsThreat (decodeLossy value) := by
  obtain ⟨n, hn, word, hword, before, behind, rfl⟩ := h
  obtain ⟨hneedle, hne, hlower⟩ := isAscii_headerNeedles n hn
  have hascii : Text.IsAscii word.toList := Text.isAscii_of_eqIgnoringAsciiCase hword hneedle
  have hmap := Text.map_toLower_of_eqIgnoringAsciiCase hword
  -- the first character is what ends a sequence that breaks off in front of the word
  have hword' : word.toList ≠ [] := by
    intro hnil
    rw [hnil, hlower] at hmap
    exact hne hmap.symm
  have hfound := Text.map_toLower_infix hascii (decodeLossy before).toList (decodeLossy behind).toList
  -- needles are in lower case already, so what the word is lowered to is the needle itself
  refine ⟨n, hn, ?_⟩
  rw [encode, Text.decodeLossy_around hascii hword', ← hlower, ← hmap]
  exact hfound

/-- **A threat is found exactly in the values that hold a needle**, in whatever case. -/
theorem isSome_headerThreat (value : String) :
    (headerThreat value).isSome = true ↔ HoldsThreat value := by
  rw [Option.isSome_iff_ne_none, ne_eq, headerThreat_eq_none, not_not]

namespace Screening

/-! ## Headers -/

variable {s : ScreeningSettings} {r : Request}

/-- A header with a value that is a threat, be it for a needle that is spelled out among its octets or
for one that is there when its text is lowered. -/
def IsThreat (values : List Bytes) : Prop :=
  ∃ value ∈ values, SpellsThreat value ∨ HoldsThreat (decodeLossy value)

/-- The values of a header are a threat if one of them holds a needle. -/
theorem isThreat_iff {values : List Bytes} :
    IsThreat values ↔ ∃ value ∈ values, HoldsThreat (decodeLossy value) := by
  refine exists_congr fun value => and_congr_right fun _ => ?_
  exact ⟨fun h => h.elim holdsThreat_of_spells id, .inr⟩

instance (values : List Bytes) : Decidable (IsThreat values) :=
  decidable_of_iff _ isThreat_iff.symm

/-- The values of one header are refused under its name, whichever of them it is. -/
theorem firstUnmet?_values (hstrict : s.strict = true) (name : String) (values : List Bytes) :
    Demand.firstUnmet? ((values.map (name, ·)).flatMap fun f => [headerDemand s f.1 f.2])
      = if IsThreat values then some (.headerMalicious name) else none := by
  induction values with
  | nil => rw [if_neg fun ⟨_, hmem, _⟩ => List.not_mem_nil hmem]; rfl
  | cons value rest ih =>
    have hcons : IsThreat (value :: rest) ↔ HoldsThreat (decodeLossy value) ∨ IsThreat rest := by
      simp only [isThreat_iff, List.exists_mem_cons_iff]
    have hmet : (headerDemand s name value).met ↔ ¬ HoldsThreat (decodeLossy value) :=
      forall_prop_of_true hstrict
    rw [List.map_cons, List.flatMap_cons, List.singleton_append, Demand.firstUnmet?_cons, ih]
    by_cases hthreat : HoldsThreat (decodeLossy value)
    · rw [if_neg fun h => hmet.mp h hthreat, if_pos (hcons.mpr (.inl hthreat))]
      rfl
    · rw [if_pos (hmet.mpr hthreat)]
      simp only [hcons, hthreat, false_or]

/-- The first value that is a threat belongs to the first header that has one. -/
theorem firstUnmet?_entries (hstrict : s.strict = true) (entries : List (String × List Bytes)) :
    Demand.firstUnmet? ((entries.flatMap fun e => e.2.map (e.1, ·)).flatMap fun f =>
        [headerDemand s f.1 f.2])
      = (entries.find? fun e => decide (IsThreat e.2)).map fun e => .headerMalicious e.1 := by
  induction entries with
  | nil => rfl
  | cons e rest ih =>
    rw [List.flatMap_cons, List.flatMap_append, Demand.firstUnmet?_append, ih,
      firstUnmet?_values hstrict, List.find?_cons]
    by_cases hthreat : IsThreat e.2
    · rw [if_pos hthreat, decide_eq_true hthreat]
      rfl
    · rw [if_neg hthreat, decide_eq_false hthreat]
      rfl

/-- The first header with a threat is the one that is named. -/
theorem refusal?_headers (hstrict : s.strict = true) (hsize : r.headers.byteSize ≤ s.maxHeaderBytes) :
    (headers s r).refusal?
      = (r.headers.entries.find? fun e => decide (IsThreat e.2)).map
          fun e => .headerMalicious e.1 := by
  have henforces : (headers s r).refusal? = Demand.firstUnmet? (headerDemands s r) := enforces_headers
  rw [henforces, headerDemands, Demand.firstUnmet?_cons, if_pos (byteSize_eq r ▸ hsize)]
  exact firstUnmet?_entries hstrict r.headers.entries

/-- **No octets around a needle hide it.** A value in which a needle is spelled out, with its letters in
either case, is a threat, whatever octets come before it and behind it. In strict mode headers that are
not too long are refused for the first of them that has a value in which a needle is spelled out or, in
another way, comes about when its text is lowered; and they pass if none has. -/
theorem headers_threat (s : ScreeningSettings) (r : Request) :
    (∀ n ∈ headerNeedles, ∀ word, Text.eqIgnoringAsciiCase word n.1 = true → ∀ before behind : Bytes,
        (headerThreat (decodeLossy (before ++ (encode word ++ behind)))).isSome = true) ∧
      (s.strict = true → r.headers.byteSize ≤ s.maxHeaderBytes →
        (∀ name, (headers s r).refusal? = some (.headerMalicious name) ↔
          ∃ before values behind, r.headers.entries = before ++ (name, values) :: behind ∧
            IsThreat values ∧ ∀ e ∈ before, ¬ IsThreat e.2) ∧
          ((headers s r).refusal? = none ↔ ∀ e ∈ r.headers.entries, ¬ IsThreat e.2)) := by
  refine ⟨?_, fun hstrict hsize => ⟨fun name => ?_, ?_⟩⟩
  · intro n hn word hword before behind
    exact (isSome_headerThreat _).mpr
      (holdsThreat_of_spells ⟨n, hn, word, hword, before, behind, rfl⟩)
  · rw [refusal?_headers hstrict hsize, Option.map_eq_some_iff]
    constructor
    · rintro ⟨e, he, hname⟩
      obtain ⟨hthreat, before, behind, hentries, hbefore⟩ := List.find?_eq_some_iff_append.mp he
      cases hname
      exact ⟨before, e.2, behind, hentries, of_decide_eq_true hthreat, by simpa using hbefore⟩
    · rintro ⟨before, values, behind, hentries, hthreat, hbefore⟩
      refine ⟨(name, values), List.find?_eq_some_iff_append.mpr ?_, rfl⟩
      exact ⟨decide_eq_true hthreat, before, behind, hentries, by simpa using hbefore⟩
  · rw [refusal?_headers hstrict hsize, Option.map_eq_none_iff, List.find?_eq_none]
    simp only [decide_eq_true_eq]

/-- Headers with a tag between octets of sequences that break off, and a harmless header before them. -/
def brokenTag : Request :=
  { Request.ofPathAndQuery .get "/items" with
    headers := Headers.ofFields [("accept", [0xE2, 0x82]), ("x-tag", encode "a"),
      ("x-tag", [0xE2, 0x82] ++ (encode "<ScRiPT" ++ [0xC3])), ("x-way", encode "../")] }

/-- A tag between octets that are no text. -/
theorem headers_threat_brokenTag : (strictly .standard).strict = true ∧
    brokenTag.headers.byteSize ≤ (strictly .standard).maxHeaderBytes ∧
      (headers (strictly .standard) brokenTag).refusal? = some (.headerMalicious "x-tag") := by
  have hsize : brokenTag.headers.byteSize ≤ (strictly .standard).maxHeaderBytes := by decide +kernel
  obtain ⟨hfound, hheaders⟩ := headers_threat (strictly .standard) brokenTag
  obtain ⟨hfirst, -⟩ := hheaders rfl hsize
  have htag := hfound ("<script", .xss) (by decide) "<ScRiPT" (by decide +kernel) [0xE2, 0x82] [0xC3]
  refine ⟨rfl, hsize, (hfirst "x-tag").mpr ⟨[("accept", [[0xE2, 0x82]])],
    [encode "a", [0xE2, 0x82] ++ (encode "<ScRiPT" ++ [0xC3])], [("x-way", [encode "../"])],
    by decide +kernel, ?_, ?_⟩⟩
  · exact ⟨_, List.mem_cons_of_mem _ (List.mem_singleton_self _),
      .inr ((isSome_headerThreat _).mp htag)⟩
  · intro e he
    obtain rfl := List.mem_singleton.mp he
    rw [isThreat_iff]
    decide +kernel

end Screening

end AdmissionGate
