import AdmissionGate.Text.Split

/-!
# Pieces of a text

What cutting a text at a separator comes to: two texts with a separator between them have the pieces
of the one and those of the other (`splitAll_append_cons`), and the pieces are the stretches without the
separator that go from one edge to the next (`exists_of_mem_splitAll`, `mem_splitAll`). A text that is
put into another is found there (`occursIn_append`), and nothing else is (`occursIn_iff`).
-/

namespace AdmissionGate.Text

variable {α : Type} {sep : α}

/-- A text after which a piece begins: nothing, or one that ends with the separator. -/
def LeadsPiece (sep : α) (left : List α) : Prop :=
  left = [] ∨ ∃ before, left = before ++ [sep]

/-- A text before which a piece ends: nothing, or one that begins with the separator. -/
def FollowsPiece (sep : α) (right : List α) : Prop :=
  right = [] ∨ ∃ behind, right = sep :: behind

/-- What leads up to a piece may have anything before its separator. -/
theorem LeadsPiece.append_cons {left : List α} (h : LeadsPiece sep left) (xs : List α) :
    LeadsPiece sep (xs ++ sep :: left) := by
  rcases h with rfl | ⟨before, rfl⟩
  · exact .inr ⟨xs, rfl⟩
  · exact .inr ⟨xs ++ sep :: before, by simp⟩

/-- Every list starts with a piece that ends at a separator or at the end of the list. -/
theorem exists_firstPiece (sep : α) (xs : List α) :
    ∃ piece right, xs = piece ++ right ∧ sep ∉ piece ∧ FollowsPiece sep right := by
  by_cases hmem : sep ∈ xs
  · obtain ⟨piece, behind, rfl, hpiece⟩ := List.eq_append_cons_of_mem hmem
    exact ⟨piece, sep :: behind, rfl, hpiece, .inr ⟨behind, rfl⟩⟩
  · exact ⟨xs, [], (List.append_nil xs).symm, hmem, .inl rfl⟩

variable [BEq α] [LawfulBEq α]

/-! ## All pieces -/

omit [LawfulBEq α] in
/-- There is always at least one piece. -/
theorem splitAll_ne_nil (xs : List α) : splitAll sep xs ≠ [] := by
  cases xs with
  | nil => exact List.cons_ne_nil _ _
  | cons x xs =>
    rw [splitAll]
    split
    · exact List.cons_ne_nil _ _
    · split <;> exact List.cons_ne_nil _ _

/-- A separator cuts a list in two, and the pieces of both sides follow each other. -/
theorem splitAll_append_cons (xs ys : List α) :
    splitAll sep (xs ++ sep :: ys) = splitAll sep xs ++ splitAll sep ys := by
  induction xs with
  | nil => simp [splitAll]
  | cons x xs ih =>
    rw [List.cons_append, splitAll, splitAll, ih]
    split
    · rfl
    · -- the character belongs to the first piece of what follows, and there is one
      cases hpieces : splitAll sep xs with
      | nil => exact absurd hpieces (splitAll_ne_nil xs)
      | cons piece pieces => rfl

theorem splitAll_of_notMem {xs : List α} (h : sep ∉ xs) : splitAll sep xs = [xs] := by
  induction xs with
  | nil => rfl
  | cons x xs ih =>
    rw [List.mem_cons, not_or] at h
    have hne : ¬ (x == sep) = true := fun heq => h.1 (eq_of_beq heq).symm
    rw [splitAll, if_neg hne, ih h.2]

/-- A map that keeps the separator apart from all else works on each piece by itself. -/
theorem splitAll_map {f : α → α} {xs : List α} (h : ∀ x ∈ xs, f x = sep ↔ x = sep) :
    splitAll sep (xs.map f) = (splitAll sep xs).map (List.map f) := by
  induction xs with
  | nil => rfl
  | cons x xs ih =>
    obtain ⟨hx, hrest⟩ := List.forall_mem_cons.mp h
    have hbeq : (f x == sep) = (x == sep) := by rw [Bool.eq_iff_iff, beq_iff_eq, beq_iff_eq, hx]
    rw [List.map_cons, splitAll, splitAll, ih hrest, hbeq]
    split
    · rfl
    · cases splitAll sep xs <;> rfl

/-- A piece goes from one edge to the next. -/
theorem exists_of_mem_splitAll {piece xs : List α} (h : piece ∈ splitAll sep xs) :
    sep ∉ piece ∧ ∃ left right, xs = left ++ piece ++ right ∧ LeadsPiece sep left ∧
      FollowsPiece sep right := by
  by_cases hmem : sep ∈ xs
  · obtain ⟨first, rest, hxs, hfirst⟩ := List.eq_append_cons_of_mem hmem
    have hshorter : rest.length < xs.length := by
      rw [hxs, List.length_append, List.length_cons]
      omega
    rw [hxs, splitAll_append_cons, splitAll_of_notMem hfirst] at h
    rcases List.mem_cons.mp h with rfl | h
    · exact ⟨hfirst, [], sep :: rest, hxs, .inl rfl, .inr ⟨rest, rfl⟩⟩
    · obtain ⟨hpiece, left, right, hrest, hleft, hright⟩ := exists_of_mem_splitAll h
      refine ⟨hpiece, first ++ sep :: left, right, ?_, hleft.append_cons first, hright⟩
      rw [hxs, hrest]
      simp
  · rw [splitAll_of_notMem hmem] at h
    obtain rfl := List.mem_singleton.mp h
    exact ⟨hmem, [], [], by simp, .inl rfl, .inl rfl⟩
termination_by xs.length

/-- What goes from one edge to the next is a piece. -/
theorem mem_splitAll {left piece right : List α} (hpiece : sep ∉ piece)
    (hleft : LeadsPiece sep left) (hright : FollowsPiece sep right) :
    piece ∈ splitAll sep (left ++ piece ++ right) := by
  have hhead : piece ∈ splitAll sep (piece ++ right) := by
    rcases hright with rfl | ⟨behind, rfl⟩
    · rw [List.append_nil, splitAll_of_notMem hpiece]
      exact List.mem_singleton_self piece
    · rw [splitAll_append_cons, splitAll_of_notMem hpiece]
      exact List.mem_cons_self ..
  rcases hleft with rfl | ⟨before, rfl⟩
  · exact hhead
  · rw [List.append_assoc, List.append_assoc, List.singleton_append, splitAll_append_cons]
    exact List.mem_append_right _ hhead

/-! ## The first piece -/

/-- The first separator cuts off what stands before it. -/
theorem splitFirst_append_cons {xs : List α} (h : sep ∉ xs) (ys : List α) :
    splitFirst sep (xs ++ sep :: ys) = (xs, some ys) := by
  induction xs with
  | nil => simp [splitFirst]
  | cons x xs ih =>
    rw [List.mem_cons, not_or] at h
    have hne : ¬ (x == sep) = true := fun heq => h.1 (eq_of_beq heq).symm
    rw [List.cons_append, splitFirst, if_neg hne, ih h.2]

theorem splitFirst_of_notMem {xs : List α} (h : sep ∉ xs) : splitFirst sep xs = (xs, none) := by
  induction xs with
  | nil => rfl
  | cons x xs ih =>
    rw [List.mem_cons, not_or] at h
    have hne : ¬ (x == sep) = true := fun heq => h.1 (eq_of_beq heq).symm
    rw [splitFirst, if_neg hne, ih h.2]

/-! ## A text inside another -/

theorem occursIn_append (left needle right : List α) :
    occursIn needle (left ++ needle ++ right) = true := by
  induction left with
  | nil =>
    have hhead : needle.isPrefixOf (needle ++ right) = true :=
      List.isPrefixOf_iff_prefix.mpr (List.prefix_append needle right)
    rw [List.nil_append]
    cases hwhole : needle ++ right with
    | nil =>
      obtain ⟨rfl, -⟩ := List.append_eq_nil_iff.mp hwhole
      rfl
    | cons c rest => rw [occursIn, ← hwhole, hhead, Bool.true_or]
  | cons c left ih => rw [List.cons_append, List.cons_append, occursIn, ih, Bool.or_true]

/-- Looking for a needle finds it exactly where it occurs as a stretch. -/
theorem occursIn_iff {needle cs : List α} : occursIn needle cs = true ↔ needle <:+: cs := by
  constructor
  · intro h
    induction cs with
    | nil =>
      rw [occursIn, List.isEmpty_iff] at h
      subst h
      exact List.infix_rfl
    | cons c rest ih =>
      rw [occursIn, Bool.or_eq_true] at h
      rcases h with h | h
      · exact (List.isPrefixOf_iff_prefix.mp h).isInfix
      · exact List.infix_cons (ih h)
  · rintro ⟨left, right, rfl⟩
    exact occursIn_append left needle right

end AdmissionGate.Text
