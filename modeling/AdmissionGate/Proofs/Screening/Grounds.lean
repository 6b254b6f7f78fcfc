import AdmissionGate.Proofs.Admission.Body
import AdmissionGate.Proofs.Screening.Modes

/-!
# The grounds of a refusal

A request that screening refuses is refused for something that it contains. A refusal that names a
header names one of the request's, and a refusal that names a path parameter names one of those
(`Refusal.HasGrounds`). So the answer to the client is a problem and nothing else: quota and the
shared store are no grounds for screening (`Refusal.HasGrounds.response`).

`Verdict.RefusesOn` goes through sequences of checks, and every check has its own grounds.
-/

namespace AdmissionGate

/-- A refusal is for something that a request contains. -/
inductive Refusal.HasGrounds (r : Request) : Refusal → Prop where
  | headers : HasGrounds r .headerTooLarge
  | header {name : String} {value : Text.Bytes} (h : (name, value) ∈ r.headers.fields) :
      HasGrounds r (.headerMalicious name)
  | queryLength : HasGrounds r .queryTooLong
  | query : HasGrounds r .queryMalicious
  | pathParam {name value : String} (h : (name, value) ∈ r.pathParams) (rule : ParamRule) :
      HasGrounds r (.pathParamInvalid name rule)
  | bodyLength : HasGrounds r .bodyTooLarge
  | bodyText (text : String) : HasGrounds r (.bodyMalformed text)
  | bodyDepth : HasGrounds r .bodyTooDeep

/-- A client is told the problem, and nothing of quota. -/
theorem Refusal.HasGrounds.response {r : Request} {e : Refusal} (h : e.HasGrounds r) :
    e.response = .json e.status (problem e.code e.clientMessage none) := by
  cases h <;> rfl

namespace Verdict

/-- If a check refuses, then with a refusal of some kind. -/
def RefusesOn (P : Refusal → Prop) (v : Verdict) : Prop := ∀ e, v.refusal? = some e → P e

namespace RefusesOn

variable {P : Refusal → Prop} {v w : Verdict}

theorem of_none (h : v.refusal? = none) : v.RefusesOn P := by
  intro e he
  rw [h] at he
  cases he

theorem refuse {e : Refusal} (h : P e) : (refuse e).RefusesOn P := by
  intro e' he'
  cases he'
  exact h

/-- Checks one after the other refuse on the grounds that each has. -/
theorem andThen (hv : v.RefusesOn P) (hw : w.RefusesOn P) : (v.andThen w).RefusesOn P := by
  intro e he
  cases hrefusal : v.refusal? with
  | some e' =>
    rw [andThen_of_refusal hrefusal] at he
    exact hv e he
  | none =>
    rw [andThen_of_none hrefusal] at he
    exact hw e he

/-- The same of a check on everything in a list. -/
theorem all_map {α : Type} {f : α → Verdict} {as : List α} (h : ∀ a ∈ as, (f a).RefusesOn P) :
    (all (as.map f)).RefusesOn P := by
  induction as with
  | nil => exact of_none rfl
  | cons a rest ih =>
    exact (h a (List.mem_cons_self ..)).andThen (ih fun b hb => h b (List.mem_cons_of_mem _ hb))

/-- A suspicious value is refused on its own ground, if it is refused at all. -/
theorem suspect {e : Refusal} (h : P e) (s : ScreeningSettings) (f : Finding) :
    (Screening.suspect s e f).RefusesOn P := by
  unfold Screening.suspect
  split
  · exact refuse h
  · exact of_none rfl

end RefusesOn

end Verdict

namespace Screening

open Verdict

variable (s : ScreeningSettings) (r : Request)

/-- The headers are refused for their size or for a value of theirs. -/
theorem grounds_headers : (headers s r).RefusesOn (·.HasGrounds r) := by
  unfold headers
  split
  · exact .refuse .headers
  · refine .all_map fun (name, value) hf => ?_
    simp only [headerValue]
    cases headerThreat (Text.decodeLossy value) with
    | none => exact .of_none rfl
    | some category => exact .suspect (.header hf) s _

/-- The query is refused for its length or for what is in it. -/
theorem grounds_query : (query s r).RefusesOn (·.HasGrounds r) := by
  unfold query
  cases r.query with
  | none => exact .of_none rfl
  | some q =>
    show (if q.isEmpty then pass else _).RefusesOn _
    split
    · exact .of_none rfl
    · split
      · exact .refuse .queryLength
      · cases firstInjection? (queryCandidates q) with
        | none => exact .of_none rfl
        | some found => exact .suspect .query s _

/-- A path parameter is refused under its own name. -/
theorem grounds_pathParam {name value : String} (h : (name, value) ∈ r.pathParams) :
    (pathParam s name value).RefusesOn (·.HasGrounds r) := by
  simp only [pathParam]
  split
  · split
    · exact .of_none rfl
    · exact .refuse (.pathParam h .uuid)
  · split
    · split
      · exact .of_none rfl
      · exact .refuse (.pathParam h .slug)
    · split
      · exact .of_none rfl
      · exact .suspect (.pathParam h .injection) s _

/-! ## Bodies -/

variable {P : Refusal → Prop}

theorem refusesOn_memberName (htext : ∀ text, P (.bodyMalformed text)) (name : String) :
    (memberName s name).RefusesOn P := by
  unfold memberName
  cases injectionCategory name with
  | none => exact .of_none rfl
  | some category => exact .suspect (htext _) s _

/-- A value that goes too deep is refused for that. -/
theorem refusesOn_unlessDeep (hdeep : P .bodyTooDeep) (depth : Nat) {v : Verdict}
    (h : v.RefusesOn P) :
    (if s.maxJsonDepth < depth then Verdict.refuse .bodyTooDeep else v).RefusesOn P := by
  split
  · exact .refuse hdeep
  · exact h

mutual

/-- A value is refused for its depth or for a name in it. -/
theorem refusesOn_json (hdeep : P .bodyTooDeep) (htext : ∀ text, P (.bodyMalformed text))
    (depth : Nat) (v : Json) : (json s depth v).RefusesOn P := by
  cases v with
  | object members =>
    rw [json]
    exact refusesOn_unlessDeep s hdeep depth (refusesOn_jsonMembers hdeep htext (depth + 1) members)
  | array items =>
    rw [json]
    exact refusesOn_unlessDeep s hdeep depth (refusesOn_jsonItems hdeep htext (depth + 1) items)
  | string text =>
    rw [json]
    exact refusesOn_unlessDeep s hdeep depth (.of_none (refusal?_jsonString text))
  | null => rw [json]; exact refusesOn_unlessDeep s hdeep depth (.of_none rfl)
  | bool b => rw [json]; exact refusesOn_unlessDeep s hdeep depth (.of_none rfl)
  | number n => rw [json]; exact refusesOn_unlessDeep s hdeep depth (.of_none rfl)

theorem refusesOn_jsonItems (hdeep : P .bodyTooDeep) (htext : ∀ text, P (.bodyMalformed text))
    (depth : Nat) (items : List Json) : (jsonItems s depth items).RefusesOn P := by
  cases items with
  | nil => rw [jsonItems]; exact .of_none rfl
  | cons v rest =>
    rw [jsonItems]
    exact (refusesOn_json hdeep htext depth v).andThen (refusesOn_jsonItems hdeep htext depth rest)

theorem refusesOn_jsonMembers (hdeep : P .bodyTooDeep) (htext : ∀ text, P (.bodyMalformed text))
    (depth : Nat) (members : List (String × Json)) :
    (jsonMembers s depth members).RefusesOn P := by
  cases members with
  | nil => rw [jsonMembers]; exact .of_none rfl
  | cons member rest =>
    obtain ⟨name, v⟩ := member
    rw [jsonMembers]
    exact (refusesOn_memberName s htext name).andThen
      ((refusesOn_json hdeep htext depth v).andThen (refusesOn_jsonMembers hdeep htext depth rest))

end

/-- A body of JSON is refused for its depth or for what it says. -/
theorem refusesOn_jsonBody (hdeep : P .bodyTooDeep) (htext : ∀ text, P (.bodyMalformed text))
    (body : Text.Bytes) : (jsonBody s body).RefusesOn P := by
  unfold jsonBody
  split
  · exact .refuse hdeep
  · cases Json.parse? body with
    | none => exact .refuse (htext _)
    | some v => exact refusesOn_json s hdeep htext 0 v.settle

/-- A body is refused for what its kind is looked at for. -/
theorem grounds_body : (body s r).RefusesOn (·.HasGrounds r) := by
  unfold body
  cases BodyKind.of? r.method r.headers with
  | none => exact .of_none rfl
  | some kind =>
    show RefusesOn _ (if s.maxBodyBytes < r.body.length then _ else _)
    split
    · exact .refuse .bodyLength
    · cases kind with
      | form => exact .of_none rfl
      | json => exact refusesOn_jsonBody s .bodyDepth .bodyText r.body

/-- **Whatever a request is refused for is there in the request.** -/
theorem grounds_request : (request s r).RefusesOn (·.HasGrounds r) :=
  (grounds_headers s r).andThen ((grounds_query s r).andThen
    ((RefusesOn.all_map fun _ h => grounds_pathParam s r h).andThen (grounds_body s r)))

end Screening

namespace Gate

/-- A body that is not taken in is refused for its length. -/
theorem grounds_takeBody (g : Gate) (r : Request) {e : Refusal}
    (h : (g.takeBody r).2 = .error e) : e.HasGrounds r := by
  rw [result_takeBody] at h
  split at h
  next => cases h
  next =>
    split at h
    next =>
      obtain rfl := Except.error.inj h
      exact .bodyLength
    next => cases h

/-- A request that does not get past the screen has itself given the grounds for it. -/
theorem grounds_inspect (g : Gate) (r : Request) {e : Refusal}
    (h : (g.inspect r).2 = .error e) : e.HasGrounds r := by
  rcases inspect_eq_error_iff.mp h with htaken | ⟨-, hscreened⟩
  · exact g.grounds_takeBody r htaken
  · exact Screening.grounds_request g.screen r e hscreened

end Gate

end AdmissionGate
