import AdmissionGate.Proofs.Json.Scan
import AdmissionGate.Proofs.Json.Spelling

/-!
# Depth

The depth of a value inside of another is the number of containers around it (`Occurs`). It can be
measured by values, of which the outermost has depth zero (`deepest`), and by the containers that are
open at once (`height`). The two differ by one at most, and not always: an empty container is open but
has nothing inside.

* `deepest_le_iff`: the deepest of the values inside of a value.
* `exceedsFrom_tokens`: the height is what counting the brackets of a value comes to.
* `deepest_settle_le`: nothing gets deeper by giving up members whose names are repeated.
-/

namespace AdmissionGate.Json

/-- A value inside of another, or that other itself, with the number of containers around it. -/
inductive Occurs : Json → Nat → Json → Prop where
  | root (v : Json) : Occurs v 0 v
  | item {items : List Json} {v u : Json} {depth : Nat} (hv : v ∈ items) (h : Occurs v depth u) :
      Occurs (.array items) (depth + 1) u
  | member {members : List (String × Json)} {name : String} {v u : Json} {depth : Nat}
      (hv : (name, v) ∈ members) (h : Occurs v depth u) : Occurs (.object members) (depth + 1) u

mutual

/-- How many containers are around the deepest of the values inside of a value. -/
def deepest : Json → Nat
  | .array items => deepestItem items
  | .object members => deepestMember members
  | .null => 0
  | .bool _ => 0
  | .number _ => 0
  | .string _ => 0

/-- The depth of the deepest value in the items, as it is inside of their array. -/
def deepestItem : List Json → Nat
  | [] => 0
  | v :: rest => max (deepest v + 1) (deepestItem rest)

/-- The depth of the deepest value in the members, as it is inside of their object. -/
def deepestMember : List (String × Json) → Nat
  | [] => 0
  | (_, v) :: rest => max (deepest v + 1) (deepestMember rest)

end

mutual

/-- How many containers of a value are open at once. -/
def height : Json → Nat
  | .array items => highestItem items + 1
  | .object members => highestMember members + 1
  | .null => 0
  | .bool _ => 0
  | .number _ => 0
  | .string _ => 0

def highestItem : List Json → Nat
  | [] => 0
  | v :: rest => max (height v) (highestItem rest)

def highestMember : List (String × Json) → Nat
  | [] => 0
  | (_, v) :: rest => max (height v) (highestMember rest)

end

/-! ## The deepest value -/

/-- No item goes deeper than the deepest. -/
theorem le_deepestItem {items : List Json} {v : Json} (hv : v ∈ items) :
    deepest v + 1 ≤ deepestItem items := by
  induction items with
  | nil => cases hv
  | cons w rest ih =>
    rw [deepestItem]
    rcases List.mem_cons.mp hv with rfl | hv
    · omega
    · have := ih hv
      omega

theorem le_deepestMember {members : List (String × Json)} {name : String} {v : Json}
    (hv : (name, v) ∈ members) : deepest v + 1 ≤ deepestMember members := by
  induction members with
  | nil => cases hv
  | cons m rest ih =>
    obtain ⟨name', w⟩ := m
    rw [deepestMember]
    rcases List.mem_cons.mp hv with heq | hv
    · cases heq
      omega
    · have := ih hv
      omega

/-- Nothing inside of a value is deeper than its deepest value. -/
theorem Occurs.le_deepest {v u : Json} {depth : Nat} (h : Occurs v depth u) :
    depth ≤ v.deepest := by
  induction h with
  | root v => exact Nat.zero_le _
  | item hv h ih =>
    rw [deepest]
    have := le_deepestItem hv
    omega
  | member hv h ih =>
    rw [deepest]
    have := le_deepestMember hv
    omega

mutual

/-- A depth that no value inside exceeds is not exceeded by the deepest one. -/
theorem deepest_le : ∀ (v : Json) {bound : Nat}, (∀ depth u, Occurs v depth u → depth ≤ bound) →
    v.deepest ≤ bound
  | .null, _, _ => Nat.zero_le _
  | .bool _, _, _ => Nat.zero_le _
  | .number _, _, _ => Nat.zero_le _
  | .string _, _, _ => Nat.zero_le _
  | .array items, _, h => deepestItem_le items fun _ hv _ _ hu => h _ _ (.item hv hu)
  | .object members, _, h => deepestMember_le members fun _ _ hv _ _ hu => h _ _ (.member hv hu)

theorem deepestItem_le : ∀ (items : List Json) {bound : Nat},
    (∀ v ∈ items, ∀ depth u, Occurs v depth u → depth + 1 ≤ bound) → deepestItem items ≤ bound
  | [], _, _ => Nat.zero_le _
  | v :: rest, bound, h => by
    have hfirst := h v (List.mem_cons_self ..)
    -- the item itself is one deep, so that the bound can be lowered by one for what is inside of it
    have hpos := hfirst 0 v (.root v)
    have hv : v.deepest ≤ bound - 1 :=
      deepest_le v fun depth u hu => Nat.le_sub_one_of_lt (hfirst depth u hu)
    have hrest : deepestItem rest ≤ bound :=
      deepestItem_le rest fun w hw => h w (List.mem_cons_of_mem _ hw)
    rw [deepestItem]
    omega

theorem deepestMember_le : ∀ (members : List (String × Json)) {bound : Nat},
    (∀ name v, (name, v) ∈ members → ∀ depth u, Occurs v depth u → depth + 1 ≤ bound) →
      deepestMember members ≤ bound
  | [], _, _ => Nat.zero_le _
  | (name, v) :: rest, bound, h => by
    have hfirst := h name v (List.mem_cons_self ..)
    have hpos := hfirst 0 v (.root v)
    have hv : v.deepest ≤ bound - 1 :=
      deepest_le v fun depth u hu => Nat.le_sub_one_of_lt (hfirst depth u hu)
    have hrest : deepestMember rest ≤ bound :=
      deepestMember_le rest fun _ w hw => h _ w (List.mem_cons_of_mem _ hw)
    rw [deepestMember]
    omega

end

/-- **The deepest value, by what is inside**: a bound on it is a bound on every depth. -/
theorem deepest_le_iff {v : Json} {bound : Nat} :
    v.deepest ≤ bound ↔ ∀ depth u, Occurs v depth u → depth ≤ bound :=
  ⟨fun hle _ _ hu => Nat.le_trans hu.le_deepest hle, deepest_le v⟩

/-! ## Values and containers -/

mutual

/-- The containers that are open at once are one more than the deepest value has around it, at most. -/
theorem height_le : ∀ v : Json, v.height ≤ v.deepest + 1
  | .null => Nat.zero_le _
  | .bool _ => Nat.zero_le _
  | .number _ => Nat.zero_le _
  | .string _ => Nat.zero_le _
  | .array items => Nat.succ_le_succ (highestItem_le items)
  | .object members => Nat.succ_le_succ (highestMember_le members)

theorem highestItem_le : ∀ items : List Json, highestItem items ≤ deepestItem items
  | [] => Nat.le_refl 0
  | v :: rest => by
    have hv := height_le v
    have hrest := highestItem_le rest
    rw [highestItem, deepestItem]
    omega

theorem highestMember_le : ∀ members : List (String × Json),
    highestMember members ≤ deepestMember members
  | [] => Nat.le_refl 0
  | (_, v) :: rest => by
    have hv := height_le v
    have hrest := highestMember_le rest
    rw [highestMember, deepestMember]
    omega

end

/-! ## Brackets -/

open Token (exceedsFrom)

/-- A container with its closing bracket, by what is inside. -/
theorem exceedsFrom_container {limit depth h : Nat} (hle : depth ≤ limit) {inner ts : List Token}
    {close : Token} (hclose : exceedsFrom limit (depth + 1) (close :: ts) = exceedsFrom limit depth ts)
    (hinner : depth + 1 ≤ limit → exceedsFrom limit (depth + 1) (inner ++ close :: ts)
      = (decide (limit < depth + 1 + h) || exceedsFrom limit (depth + 1) (close :: ts))) :
    (decide (limit < depth + 1) || exceedsFrom limit (depth + 1) (inner ++ [close] ++ ts))
      = (decide (limit < depth + (h + 1)) || exceedsFrom limit depth ts) := by
  have hassoc : inner ++ [close] ++ ts = inner ++ close :: ts := by simp
  have hsum : depth + (h + 1) = depth + 1 + h := by omega
  rw [hassoc, hsum]
  -- unless the opening bracket is one too many by itself, what is inside decides
  by_cases hroom : depth + 1 ≤ limit
  · rw [hinner hroom, hclose, decide_eq_false (Nat.not_lt.mpr hroom), Bool.false_or]
  · rw [decide_eq_true (Nat.lt_of_not_le hroom), decide_eq_true (by omega), Bool.true_or,
      Bool.true_or]

/-- A value that is no container has no brackets to count. -/
theorem exceedsFrom_leaf {limit depth : Nat} (hle : depth ≤ limit) (ts : List Token) {t : Token}
    (hleaf : ∀ next, t.scan limit depth next = next depth) :
    exceedsFrom limit depth ([t] ++ ts)
      = (decide (limit < depth + 0) || exceedsFrom limit depth ts) := by
  rw [Nat.add_zero, decide_eq_false (Nat.not_lt.mpr hle), Bool.false_or]
  exact hleaf _

/-- One part of a container and, behind a comma, the others. -/
theorem exceedsFrom_parts {limit depth h h' : Nat} {part rest ts : List Token}
    (hpart : ∀ ts, exceedsFrom limit depth (part ++ ts)
      = (decide (limit < depth + h) || exceedsFrom limit depth ts))
    (hrest : exceedsFrom limit depth (rest ++ ts)
      = (decide (limit < depth + h') || exceedsFrom limit depth ts)) :
    exceedsFrom limit depth (part ++ ([.comma] ++ rest) ++ ts)
      = (decide (limit < depth + max h h') || exceedsFrom limit depth ts) := by
  have hcomma : exceedsFrom limit depth ([.comma] ++ rest ++ ts)
      = exceedsFrom limit depth (rest ++ ts) := rfl
  have hmax : decide (limit < depth + max h h')
      = (decide (limit < depth + h) || decide (limit < depth + h')) := by
    rw [← Bool.decide_or]
    exact decide_eq_decide.mpr (by omega)
  rw [List.append_assoc, hpart, hcomma, hrest, hmax, Bool.or_assoc]

mutual

/-- Counting the brackets of a value comes to its height. -/
theorem exceedsFrom_tokens {limit depth : Nat} (hle : depth ≤ limit) (ts : List Token) :
    ∀ v : Json, exceedsFrom limit depth (v.tokens ++ ts)
      = (decide (limit < depth + v.height) || exceedsFrom limit depth ts)
  | .null => exceedsFrom_leaf hle ts fun _ => rfl
  | .bool _ => exceedsFrom_leaf hle ts fun _ => rfl
  | .number _ => exceedsFrom_leaf hle ts fun _ => rfl
  | .string _ => exceedsFrom_leaf hle ts fun _ => rfl
  | .array items =>
    exceedsFrom_container hle rfl fun hroom => exceedsFrom_itemTokens hroom _ items
  | .object members =>
    exceedsFrom_container hle rfl fun hroom => exceedsFrom_memberTokens hroom _ members

/-- Counting through items finds out whether the highest of them has room. -/
theorem exceedsFrom_itemTokens {limit depth : Nat} (hle : depth ≤ limit) (ts : List Token) :
    ∀ items : List Json, exceedsFrom limit depth ([.comma].intercalate (itemTokens items) ++ ts)
      = (decide (limit < depth + highestItem items) || exceedsFrom limit depth ts)
  | [] => by
    rw [highestItem, Nat.add_zero, decide_eq_false (Nat.not_lt.mpr hle)]
    rfl
  | [v] => by
    -- nothing is between the last item and the closing bracket
    have hone : [.comma].intercalate (itemTokens [v]) = v.tokens := List.append_nil _
    rw [hone, highestItem, highestItem, Nat.max_zero]
    exact exceedsFrom_tokens hle ts v
  | v :: w :: rest =>
    exceedsFrom_parts (fun ts => exceedsFrom_tokens hle ts v)
      (exceedsFrom_itemTokens hle ts (w :: rest))

/-- Counting through members finds it out likewise, past the names. -/
theorem exceedsFrom_memberTokens {limit depth : Nat} (hle : depth ≤ limit) (ts : List Token) :
    ∀ members : List (String × Json),
      exceedsFrom limit depth ([.comma].intercalate (memberTokens members) ++ ts)
        = (decide (limit < depth + highestMember members) || exceedsFrom limit depth ts)
  | [] => by
    rw [highestMember, Nat.add_zero, decide_eq_false (Nat.not_lt.mpr hle)]
    rfl
  | [(name, v)] => by
    have hone : [.comma].intercalate (memberTokens [(name, v)]) = .string name :: .colon :: v.tokens :=
      List.append_nil _
    rw [hone, highestMember, highestMember, Nat.max_zero]
    exact exceedsFrom_tokens hle ts v
  | (_, v) :: m :: rest =>
    exceedsFrom_parts (fun ts => exceedsFrom_tokens hle ts v)
      (exceedsFrom_memberTokens hle ts (m :: rest))

end

/-- **The scan of a text is exact.** It tells how many containers of the value are open at once. -/
theorem exceedsNesting_of_parse? {bs : Text.Bytes} {v : Json} (h : parse? bs = some v)
    (limit : Nat) : exceedsNesting bs limit = decide (limit < v.height) := by
  have hscan := exceedsNestingFrom_stream? (stream?_of_parse? h) limit 0
  have htokens := exceedsFrom_tokens (Nat.zero_le limit) [] v
  rw [List.append_nil, Nat.zero_add] at htokens
  rw [exceedsNesting, hscan, htokens]
  exact Bool.or_false _

/-! ## Repeated names -/

/-- A member that is put among others goes no deeper than it does by itself. -/
theorem deepestMember_insertMember_le (name : String) (v : Json) (members : List (String × Json)) :
    deepestMember (insertMember name v members) ≤ max (v.deepest + 1) (deepestMember members) := by
  induction members with
  | nil => exact Nat.le_refl _
  | cons m rest ih =>
    obtain ⟨name', w⟩ := m
    rw [insertMember]
    split
    · exact Nat.le_refl _
    · split
      · rw [deepestMember, deepestMember]
        omega
      · rw [deepestMember, deepestMember]
        omega

mutual

/-- **Nothing gets deeper by settling repeated names.** -/
theorem deepest_settle_le : ∀ v : Json, v.settle.deepest ≤ v.deepest
  | .null => Nat.le_refl 0
  | .bool _ => Nat.le_refl 0
  | .number _ => Nat.le_refl 0
  | .string _ => Nat.le_refl 0
  | .array items => deepestItem_settleItems_le items
  | .object members => by
    have h := deepestMember_settleMembers_le [] members
    rw [deepestMember, Nat.zero_max] at h
    exact h

theorem deepestItem_settleItems_le : ∀ items : List Json,
    deepestItem (settleItems items) ≤ deepestItem items
  | [] => Nat.le_refl 0
  | v :: rest => by
    have hv := deepest_settle_le v
    have hrest := deepestItem_settleItems_le rest
    rw [settleItems, deepestItem, deepestItem]
    omega

/-- Members that are settled go no deeper than those that were there and those that come in. -/
theorem deepestMember_settleMembers_le (settled : List (String × Json)) :
    ∀ members : List (String × Json), deepestMember (settleMembers settled members)
      ≤ max (deepestMember settled) (deepestMember members)
  | [] => Nat.le_max_left _ _
  | (name, v) :: rest => by
    -- a member takes the place of an earlier one of its name, or comes in addition
    have hv := deepest_settle_le v
    have hinsert := deepestMember_insertMember_le name v.settle settled
    have hrest := deepestMember_settleMembers_le (insertMember name v.settle settled) rest
    rw [settleMembers]
    rw [deepestMember]
    omega

end

end AdmissionGate.Json
