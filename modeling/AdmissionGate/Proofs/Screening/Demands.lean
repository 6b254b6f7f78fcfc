import AdmissionGate.Proofs.Pattern.Shape
import AdmissionGate.Proofs.Screening.Query

/-!
# What the screen asks of a request

The screen goes through a request in one order and stops at the first thing that it refuses. What it
asks for can be said without an order: a request gets through if its headers and its query are not too
long, its parameters have the shapes that their names ask for, its body passes, and, in strict mode,
nothing in it is suspicious (`Declared`).

The order decides which refusal is given if several are due. To say this, what is asked of everything
but the body is put into one list of demands (`demands`), each of which is met or not whatever becomes
of the others. A part of the screen stands for a stretch of that list (`Verdict.Enforces`), and two
parts one after the other stand for both stretches (`Verdict.Enforces.andThen`).

* `Screening.enforces_headers`, `Screening.enforces_query`, `Screening.enforces_pathParams`: the parts.
* `Screening.request_declared`: which requests get through, and what the others are told.
-/

namespace AdmissionGate

/-! ## Demands -/

/-- Something that is asked of a request, and the refusal if it is not met. -/
structure Demand where
  met : Prop
  refusal : Refusal
  decidableMet : Decidable met := by infer_instance

namespace Demand

instance (d : Demand) : Decidable d.met := d.decidableMet

/-- The refusal for the first demand that is not met. -/
def firstUnmet? (ds : List Demand) : Option Refusal :=
  (ds.find? fun d => !decide d.met).map Demand.refusal

/-- Of two lists of demands the first is looked through first. -/
theorem firstUnmet?_append (ds es : List Demand) :
    firstUnmet? (ds ++ es) = (firstUnmet? ds).or (firstUnmet? es) := by
  rw [firstUnmet?, List.find?_append, Option.map_or]
  rfl

/-- There is no unmet demand if and only if all are met. -/
theorem firstUnmet?_eq_none {ds : List Demand} : firstUnmet? ds = none ↔ ∀ d ∈ ds, d.met := by
  simp [firstUnmet?]

/-- A demand that is not met comes before all that follow it. -/
theorem firstUnmet?_cons (d : Demand) (ds : List Demand) :
    firstUnmet? (d :: ds) = if d.met then firstUnmet? ds else some d.refusal := by
  by_cases h : d.met <;> simp [firstUnmet?, h]

end Demand

namespace Verdict

/-- A part of the screen that refuses a request for the first of some demands that is not met. -/
def Enforces (v : Verdict) (ds : List Demand) : Prop := v.refusal? = Demand.firstUnmet? ds

namespace Enforces

variable {v w : Verdict} {ds es : List Demand}

/-- Checks one after the other enforce their demands in that order. -/
theorem andThen (hv : v.Enforces ds) (hw : w.Enforces es) : (v.andThen w).Enforces (ds ++ es) := by
  rw [Enforces, refusal?_andThen, hv, hw, Demand.firstUnmet?_append]

/-- The same check on everything in a list. -/
theorem all_map {α : Type} {f : α → Verdict} {g : α → List Demand} {as : List α}
    (h : ∀ a ∈ as, (f a).Enforces (g a)) : (all (as.map f)).Enforces (as.flatMap g) := by
  induction as with
  | nil => rfl
  | cons a rest ih =>
    rw [List.map_cons, List.flatMap_cons]
    exact (h a (List.mem_cons_self ..)).andThen (ih fun b hb => h b (List.mem_cons_of_mem _ hb))

/-- A part refuses a request for its first demand, or goes on as a part with the others. -/
theorem cons {d : Demand} (hunmet : ¬ d.met → v.refusal? = some d.refusal)
    (hmet : d.met → v.Enforces ds) : v.Enforces (d :: ds) := by
  rw [Enforces, Demand.firstUnmet?_cons]
  split
  · next h => exact hmet h
  · next h => exact hunmet h

theorem nil (h : v.refusal? = none) : v.Enforces [] := h

theorem pass (h : ∀ d ∈ ds, d.met) : pass.Enforces ds := (Demand.firstUnmet?_eq_none.mpr h).symm

end Enforces

end Verdict

/-! ## Suspicious values and shapes -/

/-- One of the needles is in a text when its letters are lowered. -/
def HoldsThreat (value : String) : Prop :=
  ∃ n ∈ headerNeedles, n.1.toList <:+: Text.lowerChars value.toList

/-- A header value without any needle passes the check. -/
theorem headerThreat_eq_none (value : String) : headerThreat value = none ↔ ¬ HoldsThreat value := by
  rw [headerThreat, Option.map_eq_none_iff, List.find?_eq_none]
  simp only [Text.occursIn_iff, HoldsThreat, not_exists, not_and]

instance (value : String) : Decidable (HoldsThreat value) :=
  inferInstanceAs (Decidable (∃ n ∈ headerNeedles, n.1.toList <:+: Text.lowerChars value.toList))

instance (value : String) : Decidable (HoldsSignature value) :=
  decidable_of_iff _ (isInjection_iff value)

namespace Screening

open Verdict

/-- A parameter that has to be a UUID: one that is an id by its name, and is as long as a UUID. -/
def AsksUuid (name value : String) : Prop :=
  "id".toList <:+: (Text.lower name).toList ∧ value.length = 36

/-- A parameter that has to be a slug: one that is a slug by its name, and does not have to be a UUID. -/
def AsksSlug (name value : String) : Prop :=
  ¬ AsksUuid name value ∧ "slug".toList <:+: (Text.lower name).toList

/-- A parameter without a shape of its own that holds a signature. -/
def IsSuspicious (name value : String) : Prop :=
  ¬ AsksUuid name value ∧ ¬ AsksSlug name value ∧ HoldsSignature value

instance (name value : String) : Decidable (AsksUuid name value) :=
  inferInstanceAs (Decidable (_ ∧ _))

instance (name value : String) : Decidable (AsksSlug name value) :=
  inferInstanceAs (Decidable (_ ∧ _))

instance (name value : String) : Decidable (IsSuspicious name value) :=
  inferInstanceAs (Decidable (_ ∧ _ ∧ _))

/-- The octets of all headers, every value with its name. -/
def headerOctets (r : Request) : Nat :=
  (r.headers.fields.map fun f => f.1.utf8ByteSize + f.2.length).sum

/-- What is counted is the octets of all names and values. -/
theorem byteSize_eq (r : Request) : r.headers.byteSize = headerOctets r := by
  rw [headerOctets, List.sum_eq_foldl, List.foldl_map]
  rfl

/-! ## The list of demands -/

variable (s : ScreeningSettings) (r : Request)

/-- In strict mode, no header value may hold a threat. -/
def headerDemand (name : String) (value : Text.Bytes) : Demand where
  met := s.strict = true → ¬ HoldsThreat (Text.decodeLossy value)
  refusal := .headerMalicious name

/-- The size of all headers together, and then each value. -/
def headerDemands : List Demand :=
  ⟨headerOctets r ≤ s.maxHeaderBytes, .headerTooLarge, inferInstance⟩ ::
    r.headers.fields.flatMap fun f => [headerDemand s f.1 f.2]

/-- The length of the query, and then what is in it. -/
def queryDemands : List Demand :=
  [⟨∀ q ∈ r.query, q.utf8ByteSize ≤ s.maxQueryBytes, .queryTooLong, inferInstance⟩,
    ⟨s.strict = true → ¬ ∃ q ∈ r.query, ∃ t ∈ queryCandidates q, HoldsSignature t, .queryMalicious,
      inferInstance⟩]

/-- What is asked of one parameter. No parameter can fail in two of these. -/
def paramDemands (name value : String) : List Demand :=
  [⟨AsksUuid name value → HasUuidShape 0x2D IsHexOctet (Text.encode value),
      .pathParamInvalid name .uuid, inferInstance⟩,
    ⟨AsksSlug name value → value.toList ∈ slugSpelling, .pathParamInvalid name .slug, inferInstance⟩,
    ⟨s.strict = true → ¬ IsSuspicious name value, .pathParamInvalid name .injection, inferInstance⟩]

/-- All that is asked of a request besides its body, in the order in which it counts. -/
def demands : List Demand :=
  headerDemands s r ++ (queryDemands s r ++ r.pathParams.flatMap fun p => paramDemands s p.1 p.2)

/-! ## The parts of the screen -/

variable {s r}

/-- What is suspicious is refused in strict mode, and only there. -/
theorem enforces_suspicion {v : Verdict} {e : Refusal} {holds : Prop} [Decidable holds]
    (hclean : ¬ holds → v = pass) (hholds : holds → ∃ f, v = suspect s e f) :
    v.Enforces [⟨s.strict = true → ¬ holds, e, inferInstance⟩] := by
  refine .cons (fun hunmet => ?_) fun hmet => .nil ?_
  · obtain ⟨hstrict, h⟩ := Classical.not_imp.mp hunmet
    obtain ⟨f, rfl⟩ := hholds (not_not.mp h)
    rw [suspect, if_pos hstrict]
    rfl
  · by_cases h : holds
    · obtain ⟨f, rfl⟩ := hholds h
      have hlenient : ¬ s.strict = true := fun hstrict => hmet hstrict h
      rw [suspect, if_neg hlenient]
      rfl
    · rw [hclean h]
      rfl

/-- The check of one header value. -/
theorem enforces_headerValue (name : String) (value : Text.Bytes) :
    (headerValue s name value).Enforces [headerDemand s name value] := by
  refine enforces_suspicion (fun hclean => ?_) fun hholds => ?_
  · rw [headerValue, (headerThreat_eq_none _).mpr hclean]
  · rw [headerValue]
    cases hthreat : headerThreat (Text.decodeLossy value) with
    | none => exact absurd hholds ((headerThreat_eq_none _).mp hthreat)
    | some category => exact ⟨_, rfl⟩

/-- **The headers are held to their demands**, in order. -/
theorem enforces_headers : (headers s r).Enforces (headerDemands s r) := by
  refine .cons (fun hlong => ?_) fun hsize => ?_
  · rw [headers, if_pos (byteSize_eq r ▸ Nat.lt_of_not_le hlong)]
    rfl
  · rw [headers, if_neg (byteSize_eq r ▸ Nat.not_lt.mpr hsize)]
    exact .all_map fun f _ => enforces_headerValue f.1 f.2

theorem clean_candidates_empty : ∀ t ∈ queryCandidates "", ¬ HoldsSignature t := by
  intro t ht
  obtain rfl : t = "" := List.mem_singleton.mp ht
  exact not_holdsSignature_empty

/-- **The query is held to its demands**, whether there is one or not. -/
theorem enforces_query : (query s r).Enforces (queryDemands s r) := by
  by_cases hempty : ∀ q ∈ r.query, q = ""
  · -- without a query there is nothing to look at, and with an empty one it makes no difference
    have hpass : query s r = Verdict.pass := by
      rw [query]
      cases hquery : r.query with
      | none => rfl
      | some q => rw [hempty q hquery]; rfl
    rw [hpass]
    refine .pass fun d hd => ?_
    simp only [queryDemands, List.mem_cons, List.not_mem_nil, or_false] at hd
    rcases hd with rfl | rfl
    · intro q hq
      rw [hempty q hq]
      exact Nat.zero_le _
    · rintro - ⟨q, hq, t, ht, hholds⟩
      rw [hempty q hq] at ht
      exact clean_candidates_empty t ht hholds
  · push Not at hempty
    obtain ⟨q, hquery, hne⟩ := hempty
    have hquery : r.query = some q := hquery
    refine .cons (fun hlong => ?_) fun hlength => ?_
    · have hnot : ¬ q.isEmpty = true := by simpa using hne
      have hlt : s.maxQueryBytes < q.utf8ByteSize := by
        refine Nat.lt_of_not_le fun hle => hlong fun q' hq' => ?_
        rwa [Option.some.inj (hq'.symm.trans hquery)]
      unfold query
      rw [hquery]
      dsimp only
      rw [if_neg hnot, if_pos hlt]
      rfl
    · have hlength : q.utf8ByteSize ≤ s.maxQueryBytes := hlength q hquery
      refine enforces_suspicion (fun hclean => ?_) fun hholds => ?_
      · exact query_of_clean hquery hne hlength fun hholds => hclean ⟨q, hquery, hholds⟩
      · obtain ⟨q', hq', hholds⟩ := hholds
        obtain rfl : q' = q := Option.some.inj (hq'.symm.trans hquery)
        obtain ⟨f, -, hsuspect⟩ := query_of_suspicious (s := s) hquery hne hlength hholds
        exact ⟨f, hsuspect⟩

/-- Where the check looks for a UUID. -/
theorem asksUuid_iff (name value : String) :
    (Text.hasText "id" (Text.lower name) && value.length == uuidLength) = true
      ↔ AsksUuid name value := by
  rw [Bool.and_eq_true, beq_iff_eq, Text.hasText, Text.occursIn_iff]
  rfl

/-- Where it looks for a slug, which is after it has looked for a UUID. -/
theorem asksSlug_iff {name value : String} (hasks : ¬ AsksUuid name value) :
    Text.hasText "slug" (Text.lower name) = true ↔ AsksSlug name value := by
  rw [Text.hasText, Text.occursIn_iff, AsksSlug]
  exact (and_iff_right hasks).symm

/-- **A path parameter is held to the shape that its name asks for**, or else to being clean. -/
theorem enforces_pathParam (name value : String) :
    (pathParam s name value).Enforces (paramDemands s name value) := by
  unfold pathParam
  by_cases hasks : AsksUuid name value
  · rw [if_pos ((asksUuid_iff name value).mpr hasks)]
    refine .cons (fun hunmet => ?_) fun hmet => ?_
    · rw [if_neg fun hshape => hunmet fun _ => (isUuid_iff value).mp hshape]
      rfl
    · -- a value that has to be a UUID is asked for nothing else
      rw [if_pos ((isUuid_iff value).mpr (hmet hasks))]
      refine .cons (fun hunmet => absurd (fun h => absurd hasks h.1) hunmet) fun _ => ?_
      exact enforces_suspicion (fun _ => rfl) fun h => absurd hasks h.1
  · rw [if_neg fun h => hasks ((asksUuid_iff name value).mp h)]
    refine .cons (fun hunmet => absurd (fun h => absurd h hasks) hunmet) fun _ => ?_
    by_cases hslugged : AsksSlug name value
    · rw [if_pos ((asksSlug_iff hasks).mpr hslugged)]
      refine .cons (fun hunmet => ?_) fun hmet => ?_
      · rw [if_neg fun hshape => hunmet fun _ => (isSlug_iff_spelling value).mp hshape]
        rfl
      · rw [if_pos ((isSlug_iff_spelling value).mpr (hmet hslugged))]
        exact enforces_suspicion (fun _ => rfl) fun h => absurd hslugged h.2.1
    · rw [if_neg fun h => hslugged ((asksSlug_iff hasks).mp h)]
      refine .cons (fun hunmet => absurd (fun h => absurd h hslugged) hunmet) fun _ => ?_
      refine enforces_suspicion (fun hclean => ?_) fun hholds => ?_
      · have hnone := (injectionCategory_eq_none value).mpr fun h => hclean ⟨hasks, hslugged, h⟩
        rw [hnone]
      · cases hcategory : injectionCategory value with
        | none => exact absurd hholds.2.2 ((injectionCategory_eq_none value).mp hcategory)
        | some category => exact ⟨_, rfl⟩

/-- The parameters are held to their demands one after the other. -/
theorem enforces_pathParams :
    (pathParams s r).Enforces (r.pathParams.flatMap fun p => paramDemands s p.1 p.2) :=
  .all_map fun p _ => enforces_pathParam p.1 p.2

/-- A request is refused for the first demand that it does not meet, and otherwise for its body. -/
theorem refusal?_request (s : ScreeningSettings) (r : Request) :
    (request s r).refusal? = (Demand.firstUnmet? (demands s r)).or (body s r).refusal? := by
  have hparts : ((headers s r).andThen ((query s r).andThen (pathParams s r))).Enforces
      (demands s r) := enforces_headers.andThen (enforces_query.andThen enforces_pathParams)
  rw [← hparts, ← refusal?_andThen, andThen_assoc, andThen_assoc]
  rfl

/-! ## Requests that get through -/

/-- What it takes to get through the screen. No part of this depends on another. -/
structure Declared (s : ScreeningSettings) (r : Request) : Prop where
  headerSize : headerOctets r ≤ s.maxHeaderBytes
  queryLength : ∀ q, r.query = some q → q ≠ "" → q.utf8ByteSize ≤ s.maxQueryBytes
  uuids : ∀ p ∈ r.pathParams, AsksUuid p.1 p.2 → HasUuidShape 0x2D IsHexOctet (Text.encode p.2)
  slugs : ∀ p ∈ r.pathParams, AsksSlug p.1 p.2 → p.2.toList ∈ slugSpelling
  body : (body s r).refusal? = none
  cleanHeaders : s.strict = true → ∀ f ∈ r.headers.fields, ¬ HoldsThreat (Text.decodeLossy f.2)
  cleanQuery : s.strict = true → ∀ q, r.query = some q → ¬ HoldsSignature q ∧
    ∀ p ∈ Form.pairs (Text.encode q), ¬ HoldsSignature p.1 ∧ ¬ HoldsSignature p.2
  cleanParams : s.strict = true → ∀ p ∈ r.pathParams,
    ¬ AsksUuid p.1 p.2 → ¬ AsksSlug p.1 p.2 → ¬ HoldsSignature p.2

/-- Being as declared is meeting all demands and having a body that is not refused. -/
theorem declared_iff : Declared s r ↔
    (∀ d ∈ demands s r, d.met) ∧ (Screening.body s r).refusal? = none := by
  simp only [demands, headerDemands, queryDemands, paramDemands, headerDemand,
    List.forall_mem_append, List.forall_mem_cons, List.forall_mem_flatMap, exists_candidate_iff]
  constructor
  · intro h
    refine ⟨⟨⟨h.headerSize, fun f hf => ⟨fun hstrict => h.cleanHeaders hstrict f hf, nofun⟩⟩,
      ⟨fun q hq => ?_, ?_, nofun⟩, fun p hp => ⟨h.uuids p hp, h.slugs p hp, ?_, nofun⟩⟩, h.body⟩
    · by_cases hempty : q = ""
      · rw [hempty]
        exact Nat.zero_le _
      · exact h.queryLength q hq hempty
    · rintro hstrict ⟨q, hq, hholds⟩
      obtain ⟨hraw, hdecoded⟩ := h.cleanQuery hstrict q hq
      rcases hholds with hholds | ⟨p, hp, hholds | hholds⟩
      · exact hraw hholds
      · exact (hdecoded p hp).1 hholds
      · exact (hdecoded p hp).2 hholds
    · exact fun hstrict hsuspicious =>
        h.cleanParams hstrict p hp hsuspicious.1 hsuspicious.2.1 hsuspicious.2.2
  · rintro ⟨⟨⟨hsize, hvalues⟩, ⟨hlength, htexts, -⟩, hparams⟩, hbody⟩
    exact {
      headerSize := hsize
      queryLength := fun q hq _ => hlength q hq
      uuids := fun p hp => (hparams p hp).1
      slugs := fun p hp => (hparams p hp).2.1
      body := hbody
      cleanHeaders := fun hstrict f hf => (hvalues f hf).1 hstrict
      cleanQuery := fun hstrict q hq =>
        ⟨fun hholds => htexts hstrict ⟨q, hq, .inl hholds⟩, fun p hp =>
          ⟨fun hholds => htexts hstrict ⟨q, hq, .inr ⟨p, hp, .inl hholds⟩⟩,
            fun hholds => htexts hstrict ⟨q, hq, .inr ⟨p, hp, .inr hholds⟩⟩⟩⟩
      cleanParams := fun hstrict p hp huuid hslug hholds =>
        (hparams p hp).2.2.1 hstrict ⟨huuid, hslug, hholds⟩ }

/-- **The screen lets through the requests that meet all its demands, and no others.** Which these are
can be said without an order of the checks. If some of the demands are not met, the refusal is that of
the first of them, in the order of the headers in total and one by one, the length of the query and its
texts, the parameters one by one, and last the body. -/
theorem request_declared (s : ScreeningSettings) (r : Request) :
    ((request s r).refusal? = none ↔ Declared s r) ∧
      (request s r).refusal? = (Demand.firstUnmet? (demands s r)).or (body s r).refusal? := by
  refine ⟨?_, refusal?_request s r⟩
  rw [refusal?_request, declared_iff, Option.or_eq_none_iff, Demand.firstUnmet?_eq_none]

end Screening

end AdmissionGate
