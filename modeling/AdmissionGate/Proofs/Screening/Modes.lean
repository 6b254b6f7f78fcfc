import AdmissionGate.Screening.Screen

/-!
# Strict and lenient screening

The two modes run the same checks and differ in what they make of a suspicious value: strict mode
refuses the request, lenient mode reports the value and goes on. The strict verdict can therefore be
read off the lenient one (`Verdict.hardened`): it ends at the first finding that strict mode would
have refused.

* `Verdict.hardened_andThen`: hardening goes through sequences of checks, which is what makes it enough
  to look at one value at a time.
* `Screening.hardens_request`: every check is hardened by strict mode, and so is the whole of them.
* `Screening.strict_eq_lenient_upTo_findings`: what this means for refusals and findings.
-/

namespace AdmissionGate

/-- The places in which strict mode refuses what lenient mode reports. -/
def Place.isGuarded : Place → Bool
  | .header => true
  | .query => true
  | .pathParam => true
  | .jsonKey => true
  | .jsonValue => false

/-- What strict mode refuses a request with, where lenient mode has a finding. -/
def Finding.refusal? (f : Finding) : Option Refusal :=
  match f.place with
  | .header => some (.headerMalicious f.name)
  | .query => some .queryMalicious
  | .pathParam => some (.pathParamInvalid f.name .injection)
  | .jsonKey => some (.bodyMalformed ("Potentially malicious JSON key: " ++ preview f.name))
  | .jsonValue => none

/-- Refusals that are due to a suspicious value and not to a size, a shape or a syntax. -/
inductive Refusal.IsInjection : Refusal → Prop where
  | header (name : String) : IsInjection (.headerMalicious name)
  | query : IsInjection .queryMalicious
  | pathParam (name : String) : IsInjection (.pathParamInvalid name .injection)
  | memberName (name : String) :
      IsInjection (.bodyMalformed ("Potentially malicious JSON key: " ++ preview name))

/-- Strict mode lets a finding pass only in places that are not guarded. -/
theorem Finding.refusal?_eq_none {f : Finding} : f.refusal? = none ↔ f.place.isGuarded = false := by
  unfold Finding.refusal?
  cases f.place <;> simp [Place.isGuarded]

/-- What strict mode makes of a finding is a refusal for a suspicious value. -/
theorem Finding.isInjection_of_refusal? {f : Finding} {e : Refusal} (h : f.refusal? = some e) :
    e.IsInjection := by
  unfold Finding.refusal? at h
  split at h
  · cases h; exact .header _
  · cases h; exact .query
  · cases h; exact .pathParam _
  · cases h; exact .memberName _
  · cases h

/-- The wording for text that is no JSON is not that for a suspicious name. -/
theorem not_isInjection_invalidJson :
    ¬ (Refusal.bodyMalformed "Invalid JSON in request body").IsInjection := by
  intro h
  generalize heq : Refusal.bodyMalformed "Invalid JSON in request body" = e at h
  cases h with
  | header => cases heq
  | query => cases heq
  | pathParam => cases heq
  | memberName name =>
    -- the two texts differ at their first letters
    have hlist := congrArg String.toList (Refusal.bodyMalformed.inj heq)
    rw [String.toList_append] at hlist
    have hhead := congrArg List.head? hlist
    simp at hhead

namespace Verdict

/-! ## Checks one after the other -/

@[simp] theorem pass_andThen (v : Verdict) : pass.andThen v = v := by
  simp [andThen, pass]

theorem andThen_of_refusal {v : Verdict} {e : Refusal} (h : v.refusal? = some e) (w : Verdict) :
    v.andThen w = v := by
  simp [andThen, h]

theorem andThen_of_none {v : Verdict} (h : v.refusal? = none) (w : Verdict) :
    v.andThen w = ⟨v.findings ++ w.findings, w.refusal?⟩ := by
  simp [andThen, h]

/-- The first refusal is the one that counts. -/
theorem refusal?_andThen (v w : Verdict) : (v.andThen w).refusal? = v.refusal?.or w.refusal? := by
  cases h : v.refusal? with
  | some e => rw [andThen_of_refusal h, h, Option.some_or]
  | none => rw [andThen_of_none h, Option.none_or]

/-- Checks can be grouped in any way. -/
theorem andThen_assoc (u v w : Verdict) : (u.andThen v).andThen w = u.andThen (v.andThen w) := by
  cases hu : u.refusal? with
  | some e => rw [andThen_of_refusal hu, andThen_of_refusal hu, andThen_of_refusal hu]
  | none =>
    rw [andThen_of_none hu, andThen_of_none hu]
    cases hv : v.refusal? with
    | some e => simp [andThen, hv]
    | none => simp [andThen, hv]

/-! ## Hardening -/

/-- Some findings and the end of a check, as strict mode has them: the first finding that it refuses
takes the place of all that follows. -/
def hardenFrom (last : Option Refusal) : List Finding → Verdict
  | [] => ⟨[], last⟩
  | f :: rest =>
    match f.refusal? with
    | some e => refuse e
    | none => (note f).andThen (hardenFrom last rest)

/-- What a lenient verdict comes to in strict mode. -/
def hardened (v : Verdict) : Verdict := hardenFrom v.refusal? v.findings

/-- Findings are hardened in turn, up to the first that is refused. -/
theorem hardenFrom_append (last : Option Refusal) (fs gs : List Finding) :
    hardenFrom last (fs ++ gs) = (hardenFrom none fs).andThen (hardenFrom last gs) := by
  induction fs with
  | nil => exact (pass_andThen _).symm
  | cons f rest ih =>
    rw [List.cons_append, hardenFrom, hardenFrom]
    cases f.refusal? with
    | some e => rfl
    | none => rw [ih, andThen_assoc]

/-- A check that ends with a refusal ends with one in strict mode. -/
theorem exists_refusal_hardenFrom (e : Refusal) (fs : List Finding) :
    ∃ e', (hardenFrom (some e) fs).refusal? = some e' := by
  induction fs with
  | nil => exact ⟨e, rfl⟩
  | cons f rest ih =>
    rw [hardenFrom]
    cases f.refusal? with
    | some e' => exact ⟨e', rfl⟩
    | none =>
      rw [andThen_of_none rfl]
      exact ih

/-- **Hardening goes through sequences of checks.** -/
theorem hardened_andThen (v w : Verdict) :
    (v.andThen w).hardened = v.hardened.andThen w.hardened := by
  cases hv : v.refusal? with
  | some e =>
    -- neither mode gets to the second check
    rw [andThen_of_refusal hv, hardened, hv]
    obtain ⟨e', he'⟩ := exists_refusal_hardenFrom e v.findings
    rw [andThen_of_refusal he']
  | none =>
    rw [andThen_of_none hv]
    simp only [hardened, hv]
    exact hardenFrom_append w.refusal? v.findings w.findings

/-- Findings in places that are not guarded stay as they are. -/
theorem hardenFrom_of_unguarded {last : Option Refusal} {fs : List Finding}
    (h : ∀ f ∈ fs, f.place.isGuarded = false) : hardenFrom last fs = ⟨fs, last⟩ := by
  induction fs with
  | nil => rfl
  | cons f rest ih =>
    have hf : f.refusal? = none := Finding.refusal?_eq_none.mpr (h f (List.mem_cons_self ..))
    have hrest := ih fun g hg => h g (List.mem_cons_of_mem _ hg)
    simp only [hardenFrom, hf, hrest]
    rfl

/-- Either there is nothing to refuse, or the first finding that is refused ends the check. -/
theorem hardenFrom_cases (last : Option Refusal) (fs : List Finding) :
    (∀ f ∈ fs, f.place.isGuarded = false) ∨
      ∃ before f after e, fs = before ++ f :: after ∧ (∀ g ∈ before, g.place.isGuarded = false) ∧
        f.place.isGuarded = true ∧ f.refusal? = some e ∧
        hardenFrom last fs = ⟨before, some e⟩ := by
  induction fs with
  | nil => exact Or.inl nofun
  | cons f rest ih =>
    cases hf : f.refusal? with
    | some e =>
      have hguarded : f.place.isGuarded = true := by
        rw [← Bool.not_eq_false, ← Finding.refusal?_eq_none, hf]
        simp
      refine Or.inr ⟨[], f, rest, e, rfl, nofun, hguarded, hf, ?_⟩
      simp [hardenFrom, hf, refuse]
    | none =>
      have hopen := Finding.refusal?_eq_none.mp hf
      rcases ih with hnone | ⟨before, g, after, e, rfl, hbefore, hg, he, hrest⟩
      · exact Or.inl fun g hg => by
          rcases List.mem_cons.mp hg with rfl | hg
          · exact hopen
          · exact hnone g hg
      · refine Or.inr ⟨f :: before, g, after, e, rfl, ?_, hg, he, ?_⟩
        · intro k hk
          rcases List.mem_cons.mp hk with rfl | hk
          · exact hopen
          · exact hbefore k hk
        · simp only [hardenFrom, hf, hrest]
          rfl

/-- One verdict is what strict mode makes of another, and that other one is not itself due to a
suspicious value. -/
structure Hardens (strict lenient : Verdict) : Prop where
  eq : strict = lenient.hardened
  harmless : ∀ e, lenient.refusal? = some e → ¬ e.IsInjection

namespace Hardens

variable {v v' w w' : Verdict}

theorem pass : Hardens pass pass := ⟨rfl, nofun⟩

theorem refuse {e : Refusal} (h : ¬ e.IsInjection) : Hardens (refuse e) (refuse e) := by
  refine ⟨rfl, fun e' he' => ?_⟩
  cases he'
  exact h

/-- A finding that is reported in either mode. -/
theorem note {f : Finding} (h : f.refusal? = none) : Hardens (note f) (note f) := by
  refine ⟨?_, nofun⟩
  simp [hardened, hardenFrom, Verdict.note, andThen, h]

/-- What holds of two checks holds of one after the other. -/
theorem andThen (hv : Hardens v v') (hw : Hardens w w') :
    Hardens (v.andThen w) (v'.andThen w') := by
  refine ⟨by rw [hv.eq, hw.eq, hardened_andThen], fun e he => ?_⟩
  cases hv' : v'.refusal? with
  | some e' =>
    rw [andThen_of_refusal hv', hv'] at he
    cases he
    exact hv.harmless _ hv'
  | none =>
    rw [andThen_of_none hv'] at he
    exact hw.harmless e he

/-- The same check on everything in a list is hardened if it is for each. -/
theorem all_map {α : Type} {f g : α → Verdict} (h : ∀ a, Hardens (f a) (g a)) (as : List α) :
    Hardens (all (as.map f)) (all (as.map g)) := by
  induction as with
  | nil => exact pass
  | cons a rest ih => exact (h a).andThen ih

end Hardens

end Verdict

namespace Screening

open Verdict

/-! ## Every check -/

/-- Settings with everything as it is but the mode. -/
def strictly (s : ScreeningSettings) : ScreeningSettings := { s with strict := true }

/-- The same settings in lenient mode. -/
def leniently (s : ScreeningSettings) : ScreeningSettings := { s with strict := false }

variable (s : ScreeningSettings)

/-- A suspicious value is refused in the one mode and reported in the other. -/
theorem hardens_suspect {e : Refusal} {f : Finding} (h : f.refusal? = some e) :
    Hardens (suspect (strictly s) e f) (suspect (leniently s) e f) := by
  show Hardens (Verdict.refuse e) (Verdict.note f)
  refine ⟨?_, nofun⟩
  simp [hardened, hardenFrom, Verdict.note, h]

theorem hardens_headerValue (name : String) (value : Text.Bytes) :
    Hardens (headerValue (strictly s) name value) (headerValue (leniently s) name value) := by
  simp only [headerValue]
  split
  · exact .pass
  · exact hardens_suspect s rfl

/-- The headers: their size in both modes, their values as the mode has it. -/
theorem hardens_headers (r : Request) :
    Hardens (headers (strictly s) r) (headers (leniently s) r) := by
  show Hardens (if s.maxHeaderBytes < r.headers.byteSize then _ else _)
    (if s.maxHeaderBytes < r.headers.byteSize then _ else _)
  split
  · exact .refuse nofun
  · exact .all_map (fun (name, value) => hardens_headerValue s name value) _

/-- The query: its length in both modes, what is in it as the mode has it. -/
theorem hardens_query (r : Request) : Hardens (query (strictly s) r) (query (leniently s) r) := by
  unfold query
  cases r.query with
  | none => exact .pass
  | some q =>
    show Hardens (if q.isEmpty then _ else if s.maxQueryBytes < q.utf8ByteSize then _ else _)
      (if q.isEmpty then _ else if s.maxQueryBytes < q.utf8ByteSize then _ else _)
    split
    · exact .pass
    · split
      · exact .refuse nofun
      · cases firstInjection? (queryCandidates q) with
        | none => exact .pass
        | some found => exact hardens_suspect s rfl

/-- A path parameter: its shape in both modes, a signature in it as the mode has it. -/
theorem hardens_pathParam (name value : String) :
    Hardens (pathParam (strictly s) name value) (pathParam (leniently s) name value) := by
  simp only [pathParam]
  split
  · split
    · exact .pass
    · exact .refuse nofun
  · split
    · split
      · exact .pass
      · exact .refuse nofun
    · split
      · exact .pass
      · exact hardens_suspect s rfl

theorem hardens_pathParams (r : Request) :
    Hardens (pathParams (strictly s) r) (pathParams (leniently s) r) :=
  .all_map (fun (name, value) => hardens_pathParam s name value) _

/-- A name in a body is guarded. -/
theorem hardens_memberName (name : String) :
    Hardens (memberName (strictly s) name) (memberName (leniently s) name) := by
  unfold memberName
  cases injectionCategory name with
  | none => exact .pass
  | some category => exact hardens_suspect s rfl

/-- Strings are let through in either mode. -/
theorem refusal?_jsonString (text : String) : (jsonString text).refusal? = none := by
  unfold jsonString
  split <;> rfl

/-- A string in a body is reported in both modes. -/
theorem hardens_jsonString (text : String) : Hardens (jsonString text) (jsonString text) := by
  unfold jsonString
  cases injectionCategory text with
  | none => exact .pass
  | some category => exact .note rfl

/-- The bound on the depth is the same in both modes. -/
theorem hardens_unlessDeep (depth : Nat) {v w : Verdict} (h : Hardens v w) :
    Hardens (if (strictly s).maxJsonDepth < depth then Verdict.refuse .bodyTooDeep else v)
      (if (leniently s).maxJsonDepth < depth then Verdict.refuse .bodyTooDeep else w) := by
  show Hardens (if s.maxJsonDepth < depth then _ else _) (if s.maxJsonDepth < depth then _ else _)
  split
  · exact .refuse nofun
  · exact h

mutual

/-- **A JSON value**, by induction on it, at any depth. -/
theorem hardens_json (depth : Nat) (v : Json) :
    Hardens (json (strictly s) depth v) (json (leniently s) depth v) := by
  cases v with
  | object members =>
    simp only [json]
    exact hardens_unlessDeep s depth (hardens_jsonMembers (depth + 1) members)
  | array items =>
    simp only [json]
    exact hardens_unlessDeep s depth (hardens_jsonItems (depth + 1) items)
  | string text =>
    simp only [json]
    exact hardens_unlessDeep s depth (hardens_jsonString text)
  | null => simp only [json]; exact hardens_unlessDeep s depth .pass
  | bool b => simp only [json]; exact hardens_unlessDeep s depth .pass
  | number n => simp only [json]; exact hardens_unlessDeep s depth .pass

theorem hardens_jsonItems (depth : Nat) (items : List Json) :
    Hardens (jsonItems (strictly s) depth items) (jsonItems (leniently s) depth items) := by
  cases items with
  | nil => simp only [jsonItems]; exact .pass
  | cons v rest =>
    simp only [jsonItems]
    exact (hardens_json depth v).andThen (hardens_jsonItems depth rest)

theorem hardens_jsonMembers (depth : Nat) (members : List (String × Json)) :
    Hardens (jsonMembers (strictly s) depth members) (jsonMembers (leniently s) depth members) := by
  cases members with
  | nil => simp only [jsonMembers]; exact .pass
  | cons member rest =>
    obtain ⟨name, v⟩ := member
    simp only [jsonMembers]
    exact (hardens_memberName s name).andThen
      ((hardens_json depth v).andThen (hardens_jsonMembers depth rest))

end

/-- A body of JSON is parsed alike, and then looked through. -/
theorem hardens_jsonBody (body : Text.Bytes) :
    Hardens (jsonBody (strictly s) body) (jsonBody (leniently s) body) := by
  show Hardens (if Json.exceedsNesting body (s.maxJsonDepth + 1) then _ else _)
    (if Json.exceedsNesting body (s.maxJsonDepth + 1) then _ else _)
  split
  · exact .refuse nofun
  · cases Json.parse? body with
    | none => exact .refuse not_isInjection_invalidJson
    | some v => exact hardens_json s 0 v.settle

theorem hardens_body (r : Request) : Hardens (body (strictly s) r) (body (leniently s) r) := by
  unfold body
  cases BodyKind.of? r.method r.headers with
  | none => exact .pass
  | some kind =>
    show Hardens (if s.maxBodyBytes < r.body.length then _ else _)
      (if s.maxBodyBytes < r.body.length then _ else _)
    split
    · exact .refuse nofun
    · cases kind with
      | form => exact .pass
      | json => exact hardens_jsonBody s r.body

/-- **A whole request.** -/
theorem hardens_request (r : Request) :
    Hardens (request (strictly s) r) (request (leniently s) r) :=
  (hardens_headers s r).andThen
    ((hardens_query s r).andThen ((hardens_pathParams s r).andThen (hardens_body s r)))

/-! ## The two modes -/

/-- **Strict and lenient screening agree up to findings.** Strict mode lets through what lenient mode
lets through without a finding in a guarded place, and then reports the same. A request that lenient
mode refuses is refused by strict mode as well, for the same reason or for the first value in a
guarded place, which lenient mode has reported on its way. Lenient mode refuses nothing for being
suspicious. -/
theorem strict_eq_lenient_upTo_findings (r : Request) :
    let strict := request { s with strict := true } r
    let lenient := request { s with strict := false } r
    (strict.refusal? = none ↔
        lenient.refusal? = none ∧ ∀ f ∈ lenient.findings, f.place.isGuarded = false) ∧
      (strict.refusal? = none → strict.findings = lenient.findings) ∧
      (∀ e, lenient.refusal? = some e →
        strict = lenient ∨
          ∃ before f after e', lenient.findings = before ++ f :: after ∧
            (∀ g ∈ before, g.place.isGuarded = false) ∧ f.place.isGuarded = true ∧
            f.refusal? = some e' ∧ e'.IsInjection ∧ strict = ⟨before, some e'⟩) ∧
      ∀ e, lenient.refusal? = some e → ¬ e.IsInjection := by
  intro strict lenient
  obtain ⟨heq, hharmless⟩ : Hardens strict lenient := hardens_request s r
  have hstrict : strict = hardenFrom lenient.refusal? lenient.findings := heq
  -- either the modes do not differ, or strict mode ends at the first finding in a guarded place
  rcases hardenFrom_cases lenient.refusal? lenient.findings with
    hopen | ⟨before, f, after, e', hsplit, hbefore, hf, he', hcut⟩
  · have hsame : strict = lenient := by rw [hstrict, hardenFrom_of_unguarded hopen]
    refine ⟨?_, fun _ => by rw [hsame], fun e _ => Or.inl hsame, hharmless⟩
    rw [hsame]
    exact ⟨fun h => ⟨h, hopen⟩, fun h => h.1⟩
  · have hended : strict = ⟨before, some e'⟩ := by rw [hstrict, hcut]
    have hrefused : strict.refusal? = some e' := by rw [hended]
    have hmem : f ∈ lenient.findings := by rw [hsplit]; simp
    refine ⟨?_, fun h => ?_, fun e _ => Or.inr ?_, hharmless⟩
    · rw [hrefused]
      refine ⟨nofun, fun ⟨_, hopen⟩ => ?_⟩
      have := hopen f hmem
      simp [hf] at this
    · rw [hrefused] at h
      cases h
    · exact ⟨before, f, after, e', hsplit, hbefore, hf, he', Finding.isInjection_of_refusal? he',
        hended⟩

end Screening

end AdmissionGate
