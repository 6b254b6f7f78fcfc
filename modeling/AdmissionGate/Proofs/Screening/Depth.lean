import AdmissionGate.Proofs.Json.Depth
import AdmissionGate.Proofs.Screening.Modes
import Mathlib

/-!
# How deep a body may be

Three readings of a body have a say in how deep it may be: the scan of the text counts brackets, the
parser has a bound of its own, and the walk counts values of what is left when repeated names have been
settled. In lenient mode the walk refuses nothing but depth, and refuses it just where the deepest
value lies below the limit (`json_refusal?`). The scan allows one bracket more than the limit, so that
it only refuses texts in which some value is too deep, though that value may be one that the walk does
not get to see (`body_refusal?_lenient`).
-/

namespace AdmissionGate

namespace Screening

/-- The refusal of a value that reaches so deep. -/
def depthRefusal? (s : ScreeningSettings) (depth : Nat) : Option Refusal :=
  if s.maxJsonDepth < depth then some .bodyTooDeep else none

variable {s : ScreeningSettings}

theorem depthRefusal?_of_le {depth : Nat} (hle : depth ≤ s.maxJsonDepth) :
    depthRefusal? s depth = none := if_neg (Nat.not_lt.mpr hle)

theorem depthRefusal?_of_lt {depth : Nat} (hlt : s.maxJsonDepth < depth) :
    depthRefusal? s depth = some .bodyTooDeep := if_pos hlt

/-- The deeper of two is refused if either is. -/
theorem depthRefusal?_max (m n : Nat) :
    depthRefusal? s (max m n) = (depthRefusal? s m).or (depthRefusal? s n) := by
  by_cases hm : s.maxJsonDepth < m
  · -- the first is too deep, so the second does not matter
    have hmax : s.maxJsonDepth < max m n := by omega
    rw [depthRefusal?_of_lt hm, depthRefusal?_of_lt hmax, Option.some_or]
  · have hmax : s.maxJsonDepth < max m n ↔ s.maxJsonDepth < n := by omega
    rw [depthRefusal?_of_le (Nat.le_of_not_lt hm), Option.none_or, depthRefusal?, depthRefusal?]
    simp only [hmax]

theorem refusal?_memberName (hlenient : s.strict = false) (name : String) :
    (memberName s name).refusal? = none := by
  unfold memberName suspect
  rw [hlenient]
  split <;> rfl

/-- A value is refused at once if it is too deep itself, and by what is inside of it if it is not. -/
theorem refusal?_of_depth {depth inner : Nat} {v : Verdict}
    (h : depth ≤ s.maxJsonDepth → v.refusal? = depthRefusal? s (depth + inner)) :
    (if s.maxJsonDepth < depth then Verdict.refuse .bodyTooDeep else v).refusal?
      = depthRefusal? s (depth + inner) := by
  split
  · next hdeep =>
    have hinner : s.maxJsonDepth < depth + inner := by omega
    exact (depthRefusal?_of_lt hinner).symm
  · next hroom => exact h (Nat.le_of_not_lt hroom)

/-- A value that is no container is refused for its own depth only. -/
theorem refusal?_of_leaf {depth : Nat} {v : Verdict} (h : v.refusal? = none) :
    (if s.maxJsonDepth < depth then Verdict.refuse .bodyTooDeep else v).refusal?
      = depthRefusal? s (depth + 0) :=
  refusal?_of_depth fun hle => h.trans (depthRefusal?_of_le hle).symm

mutual

/-- **In lenient mode a value is refused if it has a value inside that is too deep**, and for nothing
else. -/
theorem json_refusal? (hlenient : s.strict = false) (depth : Nat) :
    ∀ v : Json, (json s depth v).refusal? = depthRefusal? s (depth + v.deepest)
  | .null => refusal?_of_leaf rfl
  | .bool _ => refusal?_of_leaf rfl
  | .number _ => refusal?_of_leaf rfl
  | .string text => refusal?_of_leaf (refusal?_jsonString text)
  | .array items => by
    rw [json]
    exact refusal?_of_depth fun hle => jsonItems_refusal? hlenient hle items
  | .object members => by
    rw [json]
    exact refusal?_of_depth fun hle => jsonMembers_refusal? hlenient hle members

/-- Items are refused if one of them goes too deep. -/
theorem jsonItems_refusal? (hlenient : s.strict = false) {depth : Nat}
    (hle : depth ≤ s.maxJsonDepth) : ∀ items : List Json,
      (jsonItems s (depth + 1) items).refusal? = depthRefusal? s (depth + Json.deepestItem items)
  | [] => (depthRefusal?_of_le hle).symm
  | v :: rest => by
    -- the depth of an item is counted from the array in the one place, and from itself in the other
    have hsum : depth + max (v.deepest + 1) (Json.deepestItem rest)
        = max (depth + 1 + v.deepest) (depth + Json.deepestItem rest) := by omega
    rw [jsonItems, Verdict.refusal?_andThen, json_refusal? hlenient (depth + 1) v,
      jsonItems_refusal? hlenient hle rest, Json.deepestItem, hsum, depthRefusal?_max]

/-- Members are refused if what stands under one of them goes too deep. -/
theorem jsonMembers_refusal? (hlenient : s.strict = false) {depth : Nat}
    (hle : depth ≤ s.maxJsonDepth) : ∀ members : List (String × Json),
      (jsonMembers s (depth + 1) members).refusal?
        = depthRefusal? s (depth + Json.deepestMember members)
  | [] => (depthRefusal?_of_le hle).symm
  | (name, v) :: rest => by
    have hsum : depth + max (v.deepest + 1) (Json.deepestMember rest)
        = max (depth + 1 + v.deepest) (depth + Json.deepestMember rest) := by omega
    rw [jsonMembers, Verdict.refusal?_andThen, Verdict.refusal?_andThen,
      refusal?_memberName hlenient, json_refusal? hlenient (depth + 1) v,
      jsonMembers_refusal? hlenient hle rest, Json.deepestMember, hsum, depthRefusal?_max,
      Option.none_or]

end

/-! ## Bodies -/

/-- A body that is announced as JSON and within the limit is looked into as JSON. -/
theorem body_eq_jsonBody {r : Request} (hkind : BodyKind.of? r.method r.headers = some .json)
    (hsize : r.body.length ≤ s.maxBodyBytes) : body s r = jsonBody s r.body := by
  unfold body
  rw [hkind]
  exact if_neg (Nat.not_lt.mpr hsize)

/-- A text that can be read is refused for its brackets, or for the values that are left of it. -/
theorem jsonBody_refusal? (hlenient : s.strict = false) {bs : Text.Bytes} {v : Json}
    (h : Json.parse? bs = some v) :
    (jsonBody s bs).refusal?
      = if s.maxJsonDepth + 1 < v.height then some .bodyTooDeep
        else depthRefusal? s v.settle.deepest := by
  unfold jsonBody
  rw [Json.exceedsNesting_of_parse? h]
  by_cases hheight : s.maxJsonDepth + 1 < v.height
  · rw [decide_eq_true hheight, if_pos rfl, if_pos hheight]
    rfl
  · rw [decide_eq_false hheight, if_neg Bool.false_ne_true, if_neg hheight, h]
    show (json s 0 v.settle).refusal? = _
    rw [json_refusal? hlenient, Nat.zero_add]

/-- **How deep a body may be in lenient mode.** A body of JSON text that is looked into and is not too
long is refused for its depth if, of the value that it comes to, something lies deeper than the limit;
it passes if nothing does that stands anywhere in the text, the members whose names are repeated later
included; and as long as it can be read it is refused for nothing else. A body that cannot be read is
refused, as malformed or for its depth. -/
theorem body_depth_lenient (hlenient : s.strict = false) (r : Request)
    (hkind : BodyKind.of? r.method r.headers = some .json)
    (hsize : r.body.length ≤ s.maxBodyBytes) :
    (∀ v, Json.parse? r.body = some v →
      Json.Token.stream? .full r.body = some v.tokens ∧
        ((∃ depth u, v.settle.Occurs depth u ∧ s.maxJsonDepth < depth) →
          (body s r).refusal? = some .bodyTooDeep) ∧
        ((∀ depth u, v.Occurs depth u → depth ≤ s.maxJsonDepth) → (body s r).refusal? = none) ∧
        ((body s r).refusal? = none ∨ (body s r).refusal? = some .bodyTooDeep)) ∧
      (Json.parse? r.body = none →
        (body s r).refusal? = some (.bodyMalformed "Invalid JSON in request body") ∨
          (body s r).refusal? = some .bodyTooDeep) := by
  rw [body_eq_jsonBody hkind hsize]
  refine ⟨fun v hparse => ?_, fun hparse => ?_⟩
  · rw [jsonBody_refusal? hlenient hparse]
    refine ⟨Json.stream?_of_parse? hparse, ?_, fun hle => ?_, ?_⟩
    · -- whether the scan has refused the text already makes no difference
      rintro ⟨depth, u, hu, hdeep⟩
      have hdeepest := hu.le_deepest
      rw [depthRefusal?_of_lt (by omega), ite_self]
    · -- the scan allows one container more than the limit, so that it lets this text through
      have hdeepest := Json.deepest_le v hle
      have hheight := v.height_le
      have hsettled := v.deepest_settle_le
      rw [if_neg (by omega), depthRefusal?_of_le (by omega)]
    · split
      · exact .inr rfl
      · unfold depthRefusal?
        split
        · exact .inr rfl
        · exact .inl rfl
  · unfold jsonBody
    rw [hparse]
    split
    · exact .inr rfl
    · exact .inl rfl

/-- A request with a body in which a name is repeated, and what is deepest stands under the name at
first. -/
def repeated : Request :=
  { Request.ofPathAndQuery .post "/items" with
    headers := Headers.setText Table.empty "content-type" "application/json"
    body := Text.encode "\x7b\"a\": [[\"x\"]], \"a\": \"y\"\x7d" }

/-- A body in which a deeper member is hidden by a later one of its name. -/
theorem body_depth_lenient_repeated :
    (body ⟨false, 8000, 2000, 100, 3⟩ repeated).refusal? = none ∧
      (body ⟨false, 8000, 2000, 100, 0⟩ repeated).refusal? = some .bodyTooDeep := by
  have hkind : BodyKind.of? repeated.method repeated.headers = some .json := by decide +kernel
  have hsize : repeated.body.length ≤ 100 := by decide +kernel
  have hparse : Json.parse? repeated.body
      = some (.object [("a", .array [.array [.string "x"]]), ("a", .string "y")]) := by cbv
  constructor
  · refine ((body_depth_lenient rfl repeated hkind hsize).1 _ hparse).2.2.1 ?_
    exact Json.deepest_le_iff.mp (by decide)
  · refine ((body_depth_lenient rfl repeated hkind hsize).1 _ hparse).2.1 ⟨1, .string "y", ?_, ?_⟩
    · exact .member (List.mem_singleton.mpr rfl) (.root _)
    · decide

end Screening

end AdmissionGate
