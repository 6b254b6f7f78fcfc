/-!
Sequences kept in a ring of slots. What a ring holds is its `items`; besides, it knows how many slots
there are and where the first item lies, and hence where the sequence runs over the end of the slots.
Items leave at the front and come in anywhere, and the shorter side makes room for them.

`partitionPoint` counts the leading items with a property by bisection. It looks at the two stretches
of the ring one at a time. On items of which those with the property come first, it is their number;
on others it depends on how the ring lies.
-/

namespace AdmissionGate

/-- The number of leading elements with a property, by bisection. It is that number whenever no
element without the property precedes one that has it. -/
def bisect {α : Type} (p : α → Bool) : List α → Nat
  | [] => 0
  | [x] => if p x then 1 else 0
  | x :: y :: rest =>
    let half := (x :: y :: rest).length / 2
    match (x :: y :: rest)[half]? with
    | none => 0
    | some z =>
      if p z then half + bisect p ((x :: y :: rest).drop half)
      else bisect p ((x :: y :: rest).take ((x :: y :: rest).length - half))
termination_by xs => xs.length
decreasing_by
  all_goals
    simp only [List.length_drop, List.length_take, List.length_cons]
    omega

/-- Bisection finds the seam between the elements with a property and those without it. -/
theorem bisect_append {α : Type} {p : α → Bool} {a b : List α} (ha : ∀ x ∈ a, p x = true)
    (hb : ∀ x ∈ b, p x = false) : bisect p (a ++ b) = a.length := by
  generalize hxs : a ++ b = xs
  fun_induction bisect p xs generalizing a b with
  | case1 =>
    obtain ⟨rfl, -⟩ := List.append_eq_nil_iff.mp hxs
    rfl
  | case2 x hx =>
    cases a with
    | nil =>
      have hxb : x ∈ b := by simp [show b = [x] from hxs]
      simp [hb x hxb] at hx
    | cons y a =>
      obtain ⟨-, hrest⟩ := List.cons.inj hxs
      simp [(List.append_eq_nil_iff.mp hrest).1]
  | case3 x hx =>
    cases a with
    | nil => rfl
    | cons y a =>
      obtain ⟨rfl, -⟩ := List.cons.inj hxs
      exact absurd (ha y (by simp)) hx
  | case4 x y rest half =>
    rename_i hnone
    rw [List.getElem?_eq_none_iff] at hnone
    simp only [half, List.length_cons] at hnone
    omega
  | case5 x y rest half z hz hp =>
    rename_i ih
    rw [← hxs] at hz ih ⊢
    -- the middle element has the property, so it lies before the seam
    have hlt : half < a.length := by
      refine Nat.lt_of_not_le fun hge => ?_
      rw [List.getElem?_append_right (by omega)] at hz
      rw [hb z (List.mem_of_getElem? hz)] at hp
      simp at hp
    have hdrop : (a ++ b).drop half = a.drop half ++ b :=
      List.drop_append_of_le_length (by omega)
    rw [ih (fun x hx => ha x (List.mem_of_mem_drop hx)) hb hdrop.symm, List.length_drop]
    omega
  | case6 x y rest half z hz hp =>
    rename_i ih
    rw [← hxs] at hz ih ⊢
    have hlen : (a ++ b).length = rest.length + 2 := by rw [hxs]; rfl
    have hhalf : half = (rest.length + 2) / 2 := rfl
    have hge : a.length ≤ half := by
      refine Nat.le_of_not_lt fun hlt => ?_
      rw [List.getElem?_append_left (by omega)] at hz
      exact hp (ha z (List.mem_of_getElem? hz))
    have htake : (a ++ b).take ((a ++ b).length - half)
        = a ++ b.take ((a ++ b).length - half - a.length) := by
      rw [List.take_append, List.take_of_length_le (by omega)]
    exact ih ha (fun x hx => hb x (List.mem_of_mem_take hx)) htake.symm

/-- A sequence in a ring of slots, the first item in the slot `head`. -/
structure Ring (α : Type) where
  items : List α
  slots : Nat
  head : Nat
  deriving DecidableEq, Repr

namespace Ring

variable {α : Type}

def empty : Ring α := ⟨[], 0, 0⟩

/-- The number of items up to the end of the slots. -/
def seam (r : Ring α) : Nat := r.slots - r.head

/-- The number of leading items with a property, by bisection of the stretch before the seam, or of
the one after it if that begins with the property. -/
def partitionPoint (p : α → Bool) (r : Ring α) : Nat :=
  let front := r.items.take r.seam
  let back := r.items.drop r.seam
  if back.head?.any p then front.length + bisect p back else bisect p front

/-! ## Leaving -/

/-- Drops the leading items with a property. -/
def dropWhile (p : α → Bool) (r : Ring α) : Ring α :=
  let gone := (r.items.takeWhile p).length
  { r with items := r.items.dropWhile p, head := (r.head + gone) % r.slots }

/-! ## Coming in -/

/-- The fewest slots of a ring that has any. -/
def fewestSlots : Nat := 4

/-- A full ring with twice the slots. The stretch after the seam moves behind the other one if it is
the shorter; otherwise the stretch before the seam moves to the end of the slots. A sequence that does
not run over the end stays where it is. -/
def grow (r : Ring α) : Ring α :=
  let slots := max (2 * r.slots) fewestSlots
  let front := r.seam
  let back := r.head
  if back = 0 ∨ back < front then { r with slots } else { r with slots, head := slots - front }

/-- The ring with a slot to spare. -/
def withRoom (r : Ring α) : Ring α :=
  if r.items.length < r.slots then r else r.grow

/-- The slot before that of the first item. -/
def slotBefore (r : Ring α) : Nat :=
  if r.head = 0 then r.slots - 1 else r.head - 1

/-- Puts an item behind the first `n`. -/
def insertAt (r : Ring α) (n : Nat) (a : α) : Ring α :=
  let r := r.withRoom
  let items := r.items.take n ++ a :: r.items.drop n
  if r.items.length - n < n then { r with items } else { r with items, head := r.slotBefore }

/-! ## What a ring holds -/

@[simp] theorem items_empty : (empty : Ring α).items = [] := rfl

@[simp] theorem items_dropWhile (p : α → Bool) (r : Ring α) :
    (r.dropWhile p).items = r.items.dropWhile p := rfl

@[simp] theorem items_withRoom (r : Ring α) : r.withRoom.items = r.items := by
  unfold withRoom grow
  split
  · rfl
  · dsimp only
    split <;> rfl

@[simp] theorem items_insertAt (r : Ring α) (n : Nat) (a : α) :
    (r.insertAt n a).items = r.items.take n ++ a :: r.items.drop n := by
  unfold insertAt
  dsimp only
  split <;> simp

/-- On items of which those with a property come first, the partition point is their number,
wherever the sequence runs over the end of the slots. -/
theorem partitionPoint_append {p : α → Bool} {r : Ring α} {a b : List α} (hr : r.items = a ++ b)
    (ha : ∀ x ∈ a, p x = true) (hb : ∀ x ∈ b, p x = false) : r.partitionPoint p = a.length := by
  simp only [partitionPoint, hr]
  rcases Nat.lt_or_ge r.seam a.length with hlt | hge
  · -- the stretch after the seam begins with the property
    have hback : (a ++ b).drop r.seam = a.drop r.seam ++ b :=
      List.drop_append_of_le_length (by omega)
    have hhead : ((a ++ b).drop r.seam).head?.any p = true := by
      rw [List.head?_drop, List.getElem?_append_left hlt, List.getElem?_eq_getElem hlt]
      exact ha _ (List.getElem_mem hlt)
    rw [if_pos hhead, hback, bisect_append (fun x hx => ha x (List.mem_of_mem_drop hx)) hb,
      List.length_take, List.length_append, List.length_drop]
    omega
  · have hfront : (a ++ b).take r.seam = a ++ b.take (r.seam - a.length) := by
      rw [List.take_append, List.take_of_length_le hge]
    have hhead : ¬ ((a ++ b).drop r.seam).head?.any p = true := by
      rw [List.head?_drop, List.getElem?_append_right hge]
      cases hx : b[r.seam - a.length]? with
      | none => simp
      | some x => simp [hb x (List.mem_of_getElem? hx)]
    rw [if_neg hhead, hfront, bisect_append ha fun x hx => hb x (List.mem_of_mem_take hx)]

/-- An item that comes in at the partition point comes in where the property ends. -/
theorem items_insertAt_partitionPoint {p : α → Bool} {r : Ring α} {a b : List α} (x : α)
    (hr : r.items = a ++ b) (ha : ∀ x ∈ a, p x = true) (hb : ∀ x ∈ b, p x = false) :
    (r.insertAt (r.partitionPoint p) x).items = a ++ x :: b := by
  rw [items_insertAt, partitionPoint_append hr ha hb, hr, List.take_left, List.drop_left]

end Ring

end AdmissionGate
