import AdmissionGate.Proofs.Json.Names
import AdmissionGate.Proofs.Pattern.Stretch
import AdmissionGate.Proofs.Screening.Depth

/-!
# Which member names strict mode looks at

The walk refuses a value if it is too deep or if one of its member names is suspicious
(`json_accepts_iff`), but it walks over what is left of the text when repeated names have been settled.
A body that passes may still hold a suspicious name under a name that is repeated
(`body_names_missed`). All other names are looked at, which is to say all names of a body in which no
object repeats one (`body_names_strict`).
-/

namespace AdmissionGate

namespace Verdict

theorem refusal?_andThen_eq_none {v w : Verdict} :
    (v.andThen w).refusal? = none ↔ v.refusal? = none ∧ w.refusal? = none := by
  rw [refusal?_andThen, Option.or_eq_none_iff]

end Verdict

namespace Screening

open Verdict

variable {s : ScreeningSettings}

/-! ## The walk -/

/-- In strict mode, a name passes if it holds no signature. -/
theorem memberName_accepts_iff (hstrict : s.strict = true) (name : String) :
    (memberName s name).refusal? = none ↔ ¬ HoldsSignature name := by
  rw [← injectionCategory_eq_none, memberName]
  cases injectionCategory name with
  | none => exact ⟨fun _ => rfl, fun _ => rfl⟩
  | some category =>
    dsimp only
    rw [suspect, if_pos hstrict]
    exact ⟨nofun, nofun⟩

/-- A value passes if it is not too deep itself, and if what is inside of it passes. -/
theorem accepts_iff_of_depth {depth inner : Nat} {v : Verdict} {p : Prop}
    (h : depth ≤ s.maxJsonDepth → (v.refusal? = none ↔ depth + inner ≤ s.maxJsonDepth ∧ p)) :
    (if s.maxJsonDepth < depth then refuse .bodyTooDeep else v).refusal? = none ↔
      depth + inner ≤ s.maxJsonDepth ∧ p := by
  split
  · next hdeep =>
    refine ⟨nofun, fun ⟨hle, _⟩ => ?_⟩
    omega
  · next hroom => exact h (Nat.le_of_not_lt hroom)

/-- A value that is no container passes if it is not too deep. -/
theorem accepts_iff_of_leaf {depth : Nat} {v : Verdict} {p : Prop} (h : v.refusal? = none)
    (hp : p) : (if s.maxJsonDepth < depth then refuse .bodyTooDeep else v).refusal? = none ↔
      depth + 0 ≤ s.maxJsonDepth ∧ p :=
  accepts_iff_of_depth fun hle => ⟨fun _ => ⟨hle, hp⟩, fun _ => h⟩

mutual

/-- **Strict mode lets a value through if nothing inside of it is too deep and no member name is
suspicious**, and only then. -/
theorem json_accepts_iff (hstrict : s.strict = true) (depth : Nat) : ∀ v : Json,
    (json s depth v).refusal? = none ↔
      depth + v.deepest ≤ s.maxJsonDepth ∧ ∀ name, v.Names name → ¬ HoldsSignature name
  | .null => accepts_iff_of_leaf rfl nofun
  | .bool _ => accepts_iff_of_leaf rfl nofun
  | .number _ => accepts_iff_of_leaf rfl nofun
  | .string text => accepts_iff_of_leaf (refusal?_jsonString text) nofun
  | .array items => by
    have hnames : (∀ name, (Json.array items).Names name → ¬ HoldsSignature name) ↔
        ∀ v ∈ items, ∀ name, v.Names name → ¬ HoldsSignature name := by
      constructor
      · exact fun h v hv name hname => h name (.item hv hname)
      · rintro h name ⟨⟩
        next v hv hname => exact h v hv name hname
    rw [json, hnames]
    exact accepts_iff_of_depth fun hle => jsonItems_accepts_iff hstrict hle items
  | .object members => by
    have hnames : (∀ name, (Json.object members).Names name → ¬ HoldsSignature name) ↔
        ∀ m ∈ members, ¬ HoldsSignature m.1 ∧ ∀ name, m.2.Names name → ¬ HoldsSignature name := by
      constructor
      · exact fun h m hm => ⟨h m.1 (.here hm), fun name hname => h name (.member hm hname)⟩
      · rintro h name (⟨hv⟩ | _ | ⟨hv, hname⟩)
        · exact (h _ hv).1
        · exact (h _ hv).2 name hname
    rw [json, hnames]
    exact accepts_iff_of_depth fun hle => jsonMembers_accepts_iff hstrict hle members

/-- Items pass if none goes too deep, and none has a name with a signature in it. -/
theorem jsonItems_accepts_iff (hstrict : s.strict = true) {depth : Nat}
    (hle : depth ≤ s.maxJsonDepth) : ∀ items : List Json,
      (jsonItems s (depth + 1) items).refusal? = none ↔
        depth + Json.deepestItem items ≤ s.maxJsonDepth ∧
          ∀ v ∈ items, ∀ name, v.Names name → ¬ HoldsSignature name
  | [] => ⟨fun _ => ⟨hle, nofun⟩, fun _ => rfl⟩
  | v :: rest => by
    rw [jsonItems, refusal?_andThen_eq_none, json_accepts_iff hstrict (depth + 1) v,
      jsonItems_accepts_iff hstrict hle rest, Json.deepestItem, List.forall_mem_cons]
    have hsum : depth + max (v.deepest + 1) (Json.deepestItem rest) ≤ s.maxJsonDepth ↔
        depth + 1 + v.deepest ≤ s.maxJsonDepth ∧
          depth + Json.deepestItem rest ≤ s.maxJsonDepth := by omega
    rw [hsum, and_and_and_comm]

/-- Members pass if none goes too deep, and neither their names nor any in them hold a signature. -/
theorem jsonMembers_accepts_iff (hstrict : s.strict = true) {depth : Nat}
    (hle : depth ≤ s.maxJsonDepth) : ∀ members : List (String × Json),
      (jsonMembers s (depth + 1) members).refusal? = none ↔
        depth + Json.deepestMember members ≤ s.maxJsonDepth ∧
          ∀ m ∈ members, ¬ HoldsSignature m.1 ∧ ∀ name, m.2.Names name → ¬ HoldsSignature name
  | [] => ⟨fun _ => ⟨hle, nofun⟩, fun _ => rfl⟩
  | (n, v) :: rest => by
    rw [jsonMembers, refusal?_andThen_eq_none, refusal?_andThen_eq_none,
      memberName_accepts_iff hstrict, json_accepts_iff hstrict (depth + 1) v,
      jsonMembers_accepts_iff hstrict hle rest, Json.deepestMember, List.forall_mem_cons]
    have hsum : depth + max (v.deepest + 1) (Json.deepestMember rest) ≤ s.maxJsonDepth ↔
        depth + 1 + v.deepest ≤ s.maxJsonDepth ∧
          depth + Json.deepestMember rest ≤ s.maxJsonDepth := by omega
    rw [hsum]
    tauto

end

/-! ## Bodies -/

/-- A body passes by its brackets, and by the names and the depth of what is left of it when
repeated names are settled. -/
theorem jsonBody_accepts_iff (hstrict : s.strict = true) {bs : Text.Bytes} {v : Json}
    (hparse : Json.parse? bs = some v) : (jsonBody s bs).refusal? = none ↔
      v.height ≤ s.maxJsonDepth + 1 ∧ v.settle.deepest ≤ s.maxJsonDepth ∧
        ∀ name, v.KeptNames name → ¬ HoldsSignature name := by
  have hwalk := json_accepts_iff hstrict 0 v.settle
  simp only [Nat.zero_add, Json.names_settle_iff] at hwalk
  rw [jsonBody, Json.exceedsNesting_of_parse? hparse, hparse, ← hwalk]
  split
  · next hhigh =>
    have hheight : s.maxJsonDepth + 1 < v.height := of_decide_eq_true hhigh
    refine ⟨nofun, fun ⟨hle, _⟩ => ?_⟩
    omega
  · next hlow =>
    have hheight : ¬ s.maxJsonDepth + 1 < v.height := fun hlt => hlow (decide_eq_true hlt)
    exact ⟨fun haccepted => ⟨Nat.le_of_not_lt hheight, haccepted⟩, fun h => h.2⟩

theorem parse?_of_accepted {bs : Text.Bytes} (h : (jsonBody s bs).refusal? = none) :
    ∃ v, Json.parse? bs = some v := by
  cases hparse : Json.parse? bs with
  | some v => exact ⟨v, rfl⟩
  | none =>
    rw [jsonBody, hparse] at h
    split at h <;> cases h

/-- **The names that strict mode vouches for.** A body of JSON text passes in strict mode only if it can
be read and no name in it is suspicious, except for names under a name that is repeated later in the
same object. So no name is suspicious if no object repeats one. And if the names outside of such places
are not suspicious, a body passes that is not too long and has no value that is too deep. -/
theorem body_names_strict (hstrict : s.strict = true) {r : Request}
    (hkind : BodyKind.of? r.method r.headers = some .json) :
    ((body s r).refusal? = none → ∃ v, Json.parse? r.body = some v ∧
      Json.Token.stream? .full r.body = some v.tokens ∧
        (∀ name, v.KeptNames name → ¬ HoldsSignature name) ∧
          (v.RepeatsNoName → ∀ name, v.Names name → ¬ HoldsSignature name)) ∧
      ∀ v, Json.parse? r.body = some v → r.body.length ≤ s.maxBodyBytes →
        (∀ depth u, v.Occurs depth u → depth ≤ s.maxJsonDepth) →
          (∀ name, v.KeptNames name → ¬ HoldsSignature name) → (body s r).refusal? = none := by
  constructor
  · intro haccepted
    have hsize : r.body.length ≤ s.maxBodyBytes := by
      refine Nat.le_of_not_lt fun hlong => ?_
      rw [body, hkind] at haccepted
      dsimp only at haccepted
      rw [if_pos hlong] at haccepted
      cases haccepted
    rw [body_eq_jsonBody hkind hsize] at haccepted
    obtain ⟨v, hparse⟩ := parse?_of_accepted haccepted
    obtain ⟨-, -, hkept⟩ := (jsonBody_accepts_iff hstrict hparse).mp haccepted
    exact ⟨v, hparse, Json.stream?_of_parse? hparse, hkept,
      fun hdistinct name hname => hkept name (hname.keptNames hdistinct)⟩
  · intro v hparse hsize hle hkept
    have hdeepest := Json.deepest_le v hle
    have hheight := v.height_le
    have hsettled := v.deepest_settle_le
    rw [body_eq_jsonBody hkind hsize]
    exact (jsonBody_accepts_iff hstrict hparse).mpr ⟨by omega, by omega, hkept⟩

/-- A request with a body in which a name is repeated, and what stands under it at first has a member
with a semicolon in its name. -/
def shadowing : Request :=
  { Request.ofPathAndQuery .post "/items" with
    headers := Headers.setText Table.empty "content-type" "application/json"
    body := Text.encode "\x7b\"a\":\x7b\"x; drop\":true\x7d,\"a\":null\x7d" }

/-- The value of its body. -/
def shadowed : Json := .object [("a", .object [("x; drop", .bool true)]), ("a", .null)]

theorem parse?_shadowing : Json.parse? shadowing.body = some shadowed := by
  cbv

theorem ofType?_shadowing : BodyKind.of? shadowing.method shadowing.headers = some .json := by
  decide +kernel

/-- Of the names in it, only the one that is repeated is kept. -/
theorem keptNames_shadowed {name : String} (h : shadowed.KeptNames name) : name = "a" := by
  cases h with
  | here hmem =>
    simp only [List.mem_cons, Prod.mk.injEq, List.not_mem_nil, or_false] at hmem
    rcases hmem with ⟨hname, -⟩ | ⟨hname, -⟩ <;> exact hname
  | @member _ n _ v hlast hname =>
    -- of the two members of one name only the last counts, and nothing is inside of it
    have hnull : v = .null := by
      rcases Json.isLast_cons_iff.mp hlast with hlast | ⟨hnot, rfl, -⟩
      · exact congrArg Prod.snd (List.mem_singleton.mp hlast.mem)
      · simp at hnot
    rw [hnull] at hname
    cases hname

theorem accepts_shadowing : (body (strictly .standard) shadowing).refusal? = none := by
  have hsize : shadowing.body.length ≤ (strictly .standard).maxBodyBytes := by decide +kernel
  have hname : ¬ HoldsSignature "a" := by
    rw [← isInjection_iff]
    decide +kernel
  rw [body_eq_jsonBody ofType?_shadowing hsize, jsonBody_accepts_iff rfl parse?_shadowing]
  refine ⟨by decide, by decide, fun name hkept => ?_⟩
  rwa [keptNames_shadowed hkept]

/-- A body whose repeated member hides a name, with the names that are kept. -/
theorem body_names_strict_shadowing : (body (strictly .standard) shadowing).refusal? = none ∧
    ∃ v, Json.parse? shadowing.body = some v ∧ v.KeptNames "a" ∧
      ∀ name, v.KeptNames name → ¬ HoldsSignature name := by
  obtain ⟨v, hparse, -, hkept, -⟩ :=
    (body_names_strict (s := strictly .standard) rfl ofType?_shadowing).1 accepts_shadowing
  have hv : v = shadowed := Option.some_injective _ (hparse.symm.trans parse?_shadowing)
  refine ⟨accepts_shadowing, v, hparse, ?_, hkept⟩
  rw [hv]
  exact .here (List.mem_cons_self ..)

/-- **The hidden name holds a signature**, and strict mode lets it through. -/
theorem body_names_missed : (strictly .standard).strict = true ∧
    BodyKind.of? shadowing.method shadowing.headers = some .json ∧
      (body (strictly .standard) shadowing).refusal? = none ∧
        ∃ v, Json.parse? shadowing.body = some v ∧
          Json.Token.stream? .full shadowing.body = some v.tokens ∧
            v.Names "x; drop" ∧ HoldsSignature "x; drop" := by
  refine ⟨rfl, ofType?_shadowing, accepts_shadowing, shadowed, parse?_shadowing,
    Json.stream?_of_parse? parse?_shadowing, ?_, ?_⟩
  · exact .member (List.mem_cons_self ..) (.here (List.mem_singleton_self _))
  · rw [← isInjection_iff]
    decide +kernel

end Screening

end AdmissionGate
