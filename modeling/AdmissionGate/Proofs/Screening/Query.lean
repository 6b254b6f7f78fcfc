import AdmissionGate.Proofs.Form.Parts
import AdmissionGate.Proofs.Form.Spelling
import AdmissionGate.Proofs.Pattern.Stretch
import AdmissionGate.Proofs.Screening.Depth

/-!
# What screening finds in a query

A query is looked through as it stands, and then by its decoded keys and values. No way of encoding a
form hides a suspicious key or value (`query_spelled`). The decoded query as a whole is not looked
through. What this comes to is a matter of where a stretch lies: if it is within a key or a value it is
found, since the signs at the edges of keys and values are no word characters and a signature cannot
tell them from the ends of a text (`query_whole`). A stretch that reaches from a key into the value
can be missed (`query_whole_missed`).
-/

namespace AdmissionGate

/-! ## Keys and values in the whole query -/

namespace Form

/-- The signs at which a query is cut are no word characters. -/
theorem isWord_cut {b : UInt8} (hb : IsCut b) : Text.isWord (Char.ofNat b.toNat) = false := by
  rcases hb with rfl | rfl <;> decide

/-- What leads up to a part does not end in a word character. -/
theorem wordBefore_read {left : Text.Bytes} (h : Leads left) :
    Pattern.wordBefore false (read left) = false := by
  rcases h with rfl | ⟨before, b, hb, rfl⟩
  · rw [read_nil]
    rfl
  · rw [read_cut hb, read_nil, Pattern.wordBefore_append]
    exact isWord_cut hb

theorem wordAfter_read {right : Text.Bytes} (h : Follows right) :
    Pattern.wordAfter (read right) false = false := by
  rcases h with rfl | ⟨b, behind, hb, rfl⟩
  · rw [read_nil]
    rfl
  · rw [read_cons hb]
    exact isWord_cut hb

/-- To a pattern the edge of a part is the end of a text. -/
theorem IsPart.matchesAt_iff {left part right : Text.Bytes} (h : IsPart left part right) (p : Pattern)
    (before mid behind : List Char) :
    p.MatchesAt (read left ++ before) mid (behind ++ read right) ↔ p.MatchesAt before mid behind :=
  Pattern.matchesAt_append (wordBefore_read h.leads) (wordAfter_read h.follows) p before mid behind

/-- The texts that a form is read as hold what signatures match in the whole form within a part. -/
theorem exists_holdsSignature_iff (bs : Text.Bytes) :
    (∃ p ∈ pairs bs, HoldsSignature p.1 ∨ HoldsSignature p.2) ↔
      ∃ s ∈ catalogue, ∃ pre mid post, (component bs).toList = pre ++ mid ++ post ∧
        s.pattern.MatchesAt pre mid post ∧ Within bs pre mid post := by
  constructor
  · rintro ⟨p, hp, hholds⟩
    obtain ⟨t, ht, s, hs, before, mid, behind, hsplit, hmatch⟩ :
        ∃ t, (t = p.1 ∨ t = p.2) ∧ HoldsSignature t := by
      rcases hholds with h | h
      · exact ⟨p.1, .inl rfl, h⟩
      · exact ⟨p.2, .inr rfl, h⟩
    have hne : t ≠ "" := by
      rintro rfl
      exact not_holdsSignature_empty ⟨s, hs, before, mid, behind, hsplit, hmatch⟩
    obtain ⟨left, part, right, rfl, hpart, rfl⟩ := exists_isPart_of_mem_pairs hp ht hne
    have hwithin : Within (left ++ part ++ right) (read left ++ before) mid (behind ++ read right) :=
      ⟨left, part, right, before, behind, rfl, hpart, rfl, hsplit, rfl⟩
    exact ⟨s, hs, _, _, _, hwithin.read_eq, (hpart.matchesAt_iff _ _ _ _).mpr hmatch, hwithin⟩
  · rintro ⟨s, hs, pre, mid, post, -, hmatch, hwithin⟩
    obtain ⟨left, part, right, before, behind, rfl, hpart, rfl, hsplit, rfl⟩ := hwithin
    have hholds : HoldsSignature (component part) :=
      ⟨s, hs, before, mid, behind, hsplit, (hpart.matchesAt_iff _ _ _ _).mp hmatch⟩
    have hne : part ≠ [] := by
      rintro rfl
      exact not_holdsSignature_empty hholds
    obtain ⟨p, hp, heq | heq⟩ := hpart.exists_mem_pairs hne
    · exact ⟨p, hp, .inl (heq ▸ hholds)⟩
    · exact ⟨p, hp, .inr (heq ▸ hholds)⟩

end Form

namespace Screening

variable {s : ScreeningSettings} {r : Request} {q : String}

/-! ## Suspicious texts -/

/-- The texts that are scanned are the raw query and each decoded key and value. -/
theorem mem_queryCandidates {t : String} :
    t ∈ queryCandidates q ↔ t = q ∨ ∃ p ∈ Form.pairs (Text.encode q), t = p.1 ∨ t = p.2 := by
  simp [queryCandidates]

/-- One of these is suspicious if the query is, or one of its pairs. -/
theorem exists_candidate_iff : (∃ t ∈ queryCandidates q, HoldsSignature t) ↔
    HoldsSignature q ∨ ∃ p ∈ Form.pairs (Text.encode q), HoldsSignature p.1 ∨ HoldsSignature p.2 := by
  constructor
  · rintro ⟨t, ht, hholds⟩
    rcases mem_queryCandidates.mp ht with rfl | ⟨p, hp, rfl | rfl⟩
    · exact .inl hholds
    · exact .inr ⟨p, hp, .inl hholds⟩
    · exact .inr ⟨p, hp, .inr hholds⟩
  · rintro (hholds | ⟨p, hp, hholds | hholds⟩)
    · exact ⟨q, mem_queryCandidates.mpr (.inl rfl), hholds⟩
    · exact ⟨p.1, mem_queryCandidates.mpr (.inr ⟨p, hp, .inl rfl⟩), hholds⟩
    · exact ⟨p.2, mem_queryCandidates.mpr (.inr ⟨p, hp, .inr rfl⟩), hholds⟩

/-- Nothing is found in clean texts only. -/
theorem firstInjection?_eq_none {texts : List String} :
    firstInjection? texts = none ↔ ∀ t ∈ texts, ¬ HoldsSignature t := by
  simp only [firstInjection?, List.findSome?_eq_none_iff, Option.map_eq_none_iff,
    injectionCategory_eq_none]

/-- Past its length, a query is screened by the first of its texts that is suspicious. -/
theorem query_eq (hquery : r.query = some q) (hne : q ≠ "")
    (hlength : q.utf8ByteSize ≤ s.maxQueryBytes) :
    query s r = match firstInjection? (queryCandidates q) with
      | none => Verdict.pass
      | some (text, category) => suspect s .queryMalicious ⟨.query, "query", category, text⟩ := by
  have hnonempty : ¬ q.isEmpty = true := by simpa using hne
  unfold query
  rw [hquery]
  dsimp only
  rw [if_neg hnonempty]
  exact if_neg (Nat.not_lt.mpr hlength)

theorem query_of_clean (hquery : r.query = some q) (hne : q ≠ "")
    (hlength : q.utf8ByteSize ≤ s.maxQueryBytes) (h : ¬ ∃ t ∈ queryCandidates q, HoldsSignature t) :
    query s r = .pass := by
  have hnone : firstInjection? (queryCandidates q) = none :=
    firstInjection?_eq_none.mpr fun t ht hholds => h ⟨t, ht, hholds⟩
  rw [query_eq hquery hne hlength, hnone]

/-- Otherwise there is one finding, whichever mode makes of it what it does. -/
theorem query_of_suspicious (hquery : r.query = some q) (hne : q ≠ "")
    (hlength : q.utf8ByteSize ≤ s.maxQueryBytes) (h : ∃ t ∈ queryCandidates q, HoldsSignature t) :
    ∃ f, f.place = .query ∧ query s r = suspect s .queryMalicious f := by
  obtain ⟨t, ht, hholds⟩ := h
  rw [query_eq hquery hne hlength]
  cases hfirst : firstInjection? (queryCandidates q) with
  | none => exact absurd hholds (firstInjection?_eq_none.mp hfirst t ht)
  | some found => exact ⟨_, rfl, rfl⟩

/-- **No spelling hides a suspicious key or value.** However a list of pairs is form-encoded, if one of
its keys or values holds a signature then strict mode refuses the query, and lenient mode lets it
through with one finding, which is reported. -/
theorem query_spelled {ps : List (String × String)} (hquery : r.query = some q)
    (hspells : Form.SpellsPairs ps q.toList) (hlength : q.utf8ByteSize ≤ s.maxQueryBytes)
    (hholds : ∃ p ∈ ps, HoldsSignature p.1 ∨ HoldsSignature p.2) :
    (s.strict = true → query s r = .refuse .queryMalicious) ∧
      (s.strict = false → (query s r).refusal? = none ∧ ∃ f, f.place = .query ∧
        (query s r).findings = [f] ∧ report r (query s r).findings =
          [.findingCounted f.category, .suspicious r.path r.method.name f]) := by
  have hpairs : Form.pairs (Text.encode q) = ps := by
    have hread := Form.pairs_of_spells hspells
    rwa [String.ofList_toList] at hread
  have hne : q ≠ "" := by
    rintro rfl
    obtain ⟨p, hp, -⟩ := hholds
    have hnil : p ∈ Form.pairs [] := hpairs ▸ hp
    cases hnil
  obtain ⟨f, hplace, hsuspect⟩ := query_of_suspicious (s := s) hquery hne hlength
    (exists_candidate_iff.mpr (.inr (hpairs ▸ hholds)))
  rw [hsuspect, suspect]
  constructor
  · intro hstrict
    rw [if_pos hstrict]
  · intro hlenient
    rw [hlenient]
    exact ⟨rfl, f, hplace, rfl, rfl⟩

/-- A query with an accented letter octet by octet, digits of either case and a space as a plus sign. -/
def spelled : Request := Request.ofPathAndQuery .get "/items?%C3%a9=1&k=a%3b+b"

theorem spellsPairs_spelled : Form.SpellsPairs [("é", "1"), ("k", "a; b")]
    "%C3%a9=1&k=a%3b+b".toList := by
  have plain : ∀ c, c ∉ ['&', '=', '+', '%', ' '] → Form.SpellsChar c [c] := fun _ => .literal
  have accent : Form.SpellsChar 'é' ['%', 'C', '3', '%', 'a', '9'] := by
    have first : Form.SpellsOctet 0xC3 ['%', 'C', '3'] := ⟨'C', '3', rfl, .inr rfl, .inl rfl⟩
    have second : Form.SpellsOctet 0xA9 ['%', 'a', '9'] := ⟨'a', '9', rfl, .inl rfl, .inl rfl⟩
    exact .escaped (.cons first (.cons second .nil))
  have semicolon : Form.SpellsChar ';' ['%', '3', 'b'] := by
    have octet : Form.SpellsOctet 0x3B ['%', '3', 'b'] := ⟨'3', 'b', rfl, .inl rfl, .inl rfl⟩
    exact .escaped (.cons octet .nil)
  have space : Form.SpellsChar ' ' ['+'] := .plus
  have first : Form.SpellsPair ("é", "1") "%C3%a9=1".toList :=
    ⟨_, _, .cons accent .nil, .cons (plain '1' (by decide)) .nil, rfl⟩
  have second : Form.SpellsPair ("k", "a; b") "k=a%3b+b".toList :=
    ⟨_, _, .cons (plain 'k' (by decide)) .nil, .cons (plain 'a' (by decide))
      (.cons semicolon (.cons space (.cons (plain 'b' (by decide)) .nil))), rfl⟩
  exact .more first (.one second)

/-- A value with a semicolon, next to one with a letter beyond ASCII. -/
theorem query_spelled_semicolon :
    (query (strictly .standard) spelled) = .refuse .queryMalicious ∧
      (query .standard spelled).refusal? = none ∧ ∃ f, (query .standard spelled).findings = [f] := by
  have hquery : spelled.query = some "%C3%a9=1&k=a%3b+b" := by decide +kernel
  have hlength : "%C3%a9=1&k=a%3b+b".utf8ByteSize ≤ 2000 := by decide +kernel
  have hholds : ∃ p ∈ [("é", "1"), ("k", "a; b")], HoldsSignature p.1 ∨ HoldsSignature p.2 := by
    refine ⟨("k", "a; b"), by simp, .inr ?_⟩
    rw [← isInjection_iff]
    decide +kernel
  have hlenient := (query_spelled (s := .standard) hquery spellsPairs_spelled hlength hholds).2 rfl
  obtain ⟨hnone, f, -, hfindings, -⟩ := hlenient
  exact ⟨(query_spelled (s := strictly .standard) hquery spellsPairs_spelled hlength hholds).1 rfl,
    hnone, f, hfindings⟩

/-! ## The query as a whole -/

/-- **What of the decoded query is looked through.** Strict mode refuses a query if a signature matches
the query as it stands, or a stretch of the decoded query that lies within a key or a value, and for no
other stretch. A stretch without the signs that part keys and values always lies within one. -/
theorem query_whole (hstrict : s.strict = true) (hquery : r.query = some q) (hne : q ≠ "")
    (hlength : q.utf8ByteSize ≤ s.maxQueryBytes) :
    ((query s r).refusal? = some .queryMalicious ↔
      HoldsSignature q ∨ ∃ sig ∈ catalogue, ∃ pre mid post,
        (Form.component (Text.encode q)).toList = pre ++ mid ++ post ∧
          sig.pattern.MatchesAt pre mid post ∧ Form.Within (Text.encode q) pre mid post) ∧
      ∀ sig ∈ catalogue, ∀ pre mid post,
        (Form.component (Text.encode q)).toList = pre ++ mid ++ post →
          sig.pattern.MatchesAt pre mid post → '&' ∉ mid → '=' ∉ mid →
            (query s r).refusal? = some .queryMalicious := by
  have hiff : (query s r).refusal? = some .queryMalicious ↔
      ∃ t ∈ queryCandidates q, HoldsSignature t := by
    constructor
    · intro hrefused
      by_contra hclean
      rw [query_of_clean hquery hne hlength hclean] at hrefused
      cases hrefused
    · intro hholds
      obtain ⟨f, -, hsuspect⟩ := query_of_suspicious (s := s) hquery hne hlength hholds
      rw [hsuspect, suspect, if_pos hstrict]
      rfl
  rw [hiff, exists_candidate_iff, Form.exists_holdsSignature_iff]
  refine ⟨Iff.rfl, fun sig hsig pre mid post hwhole hmatch hand hequals => ?_⟩
  exact .inr ⟨sig, hsig, pre, mid, post, hwhole, hmatch,
    Form.within_of_uncut hwhole hand hequals⟩

/-- A value with an equation between numbers, in a spelling that hides it in the query as it stands. -/
def equation : Request := Request.ofPathAndQuery .get "/items?x=or+1%3D1"

/-- A signature that lies within one decoded value, with an escaped sign in it. -/
theorem query_whole_equation :
    (query (strictly .standard) equation).refusal? = some .queryMalicious ∧
      ∃ sig ∈ catalogue, ∃ pre mid post,
        (Form.component (Text.encode "x=or+1%3D1")).toList = pre ++ mid ++ post ∧
          sig.pattern.MatchesAt pre mid post ∧ Form.Within (Text.encode "x=or+1%3D1") pre mid post := by
  have hrefused : (query (strictly .standard) equation).refusal? = some .queryMalicious := by
    decide +kernel
  have hraw : ¬ HoldsSignature "x=or+1%3D1" := by
    rw [← isInjection_iff]
    decide +kernel
  have hiff := (query_whole (s := strictly .standard) (r := equation) (q := "x=or+1%3D1") rfl
    (by decide +kernel) (by decide) (by decide +kernel)).1
  exact ⟨hrefused, (hiff.mp hrefused).resolve_left hraw⟩

/-- A query that is an equation between numbers if it is decoded as a whole, and is let through. -/
theorem query_whole_missed :
    (strictly .standard).strict = true ∧
      (Request.ofPathAndQuery .get "/s?or+1=1").query = some "or+1=1" ∧
      "or+1=1".utf8ByteSize ≤ (strictly .standard).maxQueryBytes ∧
      HoldsSignature (Form.component (Text.encode "or+1=1")) ∧
      query (strictly .standard) (Request.ofPathAndQuery .get "/s?or+1=1") = .pass := by
  refine ⟨rfl, by decide +kernel, by decide +kernel, ?_, by decide +kernel⟩
  rw [← isInjection_iff]
  decide +kernel

end Screening

end AdmissionGate
