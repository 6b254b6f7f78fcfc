import Mathlib.Data.List.DropRight
import AdmissionGate.Proofs.Text.Case
import AdmissionGate.Proofs.Text.Split
import AdmissionGate.Text.Classes

/-!
# Texts without the blanks around them

What trimming leaves, said without the way in which it is done: a text pads another if it is that text
with blanks on either side (`Pads`), and trimming gives the one text that the original pads and that has
no blank at its ends (`trimChars_eq_iff`). A list with separators is read the same way: its pieces are
the only ones without the separator that make up the text again (`splitAll_eq_iff`).
-/

namespace AdmissionGate.Text

/-! ## Blanks -/

/-- A blank has no case. -/
theorem isBlank_toLower (c : Char) : isBlank c.toLower = isBlank c := by
  by_cases h : c.toNat < 0x80
  · exact forall_ascii (p := fun c => isBlank c.toLower = isBlank c) (by decide +kernel) h
  · have hsame : c.toLower = c := dif_neg fun hupper => h (Nat.lt_of_le_of_lt hupper.2 (by decide))
    rw [hsame]

theorem isBlank_of_isDigit {c : Char} (h : c.isDigit = true) : isBlank c = false := by
  obtain ⟨hlow, hhigh⟩ := Bool.and_eq_true_iff.mp h
  have hlow : 48 ≤ c.toNat := of_decide_eq_true hlow
  have hhigh : c.toNat ≤ 57 := of_decide_eq_true hhigh
  simp only [isBlank, Bool.or_eq_false_iff, Bool.and_eq_false_iff, decide_eq_false_iff_not,
    beq_eq_false_iff_ne, ne_eq]
  omega

/-! ## Blanks at the ends -/

/-- The second text is the first with blanks on either side. -/
def Pads (core cs : List Char) : Prop :=
  ∃ left right, cs = left ++ core ++ right ∧ (∀ c ∈ left, isBlank c = true) ∧
    ∀ c ∈ right, isBlank c = true

/-- Neither end of the text is a blank. -/
structure Tight (cs : List Char) : Prop where
  head : ∀ c, cs.head? = some c → isBlank c = false
  last : ∀ c, cs.getLast? = some c → isBlank c = false

theorem Tight.of_forall {cs : List Char} (h : ∀ c ∈ cs, isBlank c = false) : Tight cs where
  head c hc := h c (List.mem_of_mem_head? hc)
  last c hc := h c (List.mem_of_getLast? hc)

theorem Tight.reverse {cs : List Char} (h : Tight cs) : Tight cs.reverse where
  head c hc := h.last c (by rwa [List.head?_reverse] at hc)
  last c hc := h.head c (by rwa [List.getLast?_reverse] at hc)

/-- Nothing is dropped in front of a text that starts with no blank. -/
theorem Tight.dropWhile_eq {cs : List Char} (h : Tight cs) : cs.dropWhile isBlank = cs := by
  cases cs with
  | nil => rfl
  | cons c cs => rw [List.dropWhile_cons, h.head c rfl, if_neg Bool.false_ne_true]

/-- Trimming takes away nothing but blanks at the ends. -/
theorem pads_trimChars (cs : List Char) : Pads (trimChars cs) cs := by
  have hfront := List.takeWhile_append_dropWhile (p := isBlank) (l := cs)
  have hback := List.takeWhile_append_dropWhile (p := isBlank)
    (l := (cs.dropWhile isBlank).reverse)
  refine ⟨cs.takeWhile isBlank, ((cs.dropWhile isBlank).reverse.takeWhile isBlank).reverse,
    ?_, ?_, ?_⟩
  · have hrest : trimChars cs ++ ((cs.dropWhile isBlank).reverse.takeWhile isBlank).reverse
        = cs.dropWhile isBlank := by
      rw [trimChars, ← List.reverse_append, hback, List.reverse_reverse]
    rw [List.append_assoc, hrest, hfront]
  · intro c hc
    exact List.mem_takeWhile_imp hc
  · intro c hc
    rw [List.mem_reverse] at hc
    exact List.mem_takeWhile_imp hc

/-- Trimming leaves no blank at an end. -/
theorem tight_trimChars (cs : List Char) : Tight (trimChars cs) where
  head c hc := by
    -- what is cut off at the back leaves a prefix, so the head is that of the text cut in front
    obtain ⟨rest, hrest⟩ := List.rdropWhile_prefix isBlank (l := cs.dropWhile isBlank)
    have hhead : (cs.dropWhile isBlank).head? = some c := by
      rw [← hrest, List.head?_append]
      have htrim : ((cs.dropWhile isBlank).rdropWhile isBlank).head? = some c := hc
      rw [htrim, Option.some_or]
    have hnot := List.head?_dropWhile_not isBlank cs
    rw [hhead] at hnot
    exact hnot
  last c hc := by
    have hnot := List.head?_dropWhile_not isBlank (cs.dropWhile isBlank).reverse
    rw [trimChars, List.getLast?_reverse] at hc
    rw [hc] at hnot
    exact hnot

/-- Blanks around a text with none at its ends are just what trimming takes away. -/
theorem Pads.trimChars_eq {core cs : List Char} (h : Pads core cs) (htight : Tight core) :
    trimChars cs = core := by
  obtain ⟨left, right, rfl, hleft, hright⟩ := h
  have hcore : ((core ++ right).dropWhile isBlank).reverse.dropWhile isBlank = core.reverse := by
    cases core with
    | nil =>
      -- nothing but blanks is left, and the cut in front takes them all
      rw [List.nil_append, List.dropWhile_eq_nil_iff.mpr hright]
      rfl
    | cons c core =>
      have hback : ∀ a ∈ right.reverse, isBlank a = true := by
        intro a ha
        exact hright a (List.mem_reverse.mp ha)
      rw [List.cons_append, List.dropWhile_cons, htight.head c rfl, if_neg Bool.false_ne_true,
        ← List.cons_append, List.reverse_append, List.dropWhile_append_of_pos hback,
        htight.reverse.dropWhile_eq]
  rw [trimChars, List.append_assoc, List.dropWhile_append_of_pos hleft, hcore, List.reverse_reverse]

/-- **What trimming leaves**: the one text that the original pads and that has no blank at its ends. -/
theorem trimChars_eq_iff {core cs : List Char} : trimChars cs = core ↔ Pads core cs ∧ Tight core := by
  constructor
  · rintro rfl
    exact ⟨pads_trimChars cs, tight_trimChars cs⟩
  · rintro ⟨hpads, htight⟩
    exact hpads.trimChars_eq htight

@[simp]
theorem toList_trim (s : String) : (trim s).toList = trimChars s.toList :=
  String.toList_ofList ..

/-! ## Items of a list -/

section Separator

variable {α : Type} {sep : α}

theorem intercalate_cons {first : List α} {items : List (List α)} (h : items ≠ []) :
    [sep].intercalate (first :: items) = first ++ sep :: [sep].intercalate items := by
  cases items with
  | nil => exact absurd rfl h
  | cons second items => rfl

variable [BEq α] [LawfulBEq α]

/-- Items without the separator are got back from the list they are joined to. -/
theorem splitAll_intercalate {items : List (List α)} (hne : items ≠ [])
    (hsep : ∀ item ∈ items, sep ∉ item) : splitAll sep ([sep].intercalate items) = items := by
  induction items with
  | nil => exact absurd rfl hne
  | cons first items ih =>
    have hfirst : sep ∉ first := hsep first (List.mem_cons_self ..)
    by_cases hitems : items = []
    · subst hitems
      have hone : [sep].intercalate [first] = first := by simp [List.intercalate]
      rw [hone, splitAll_of_notMem hfirst]
    · rw [intercalate_cons hitems, splitAll_append_cons, splitAll_of_notMem hfirst,
        ih hitems fun item hitem => hsep item (List.mem_cons_of_mem _ hitem), List.singleton_append]

/-- Joining the pieces gives the list again. -/
theorem intercalate_splitAll (xs : List α) : [sep].intercalate (splitAll sep xs) = xs := by
  induction xs with
  | nil => rfl
  | cons x xs ih =>
    rw [splitAll]
    split
    next heq => rw [intercalate_cons (splitAll_ne_nil xs), ih, eq_of_beq heq, List.nil_append]
    next =>
      -- the element joins the first of the pieces, of which there is one
      cases hpieces : splitAll sep xs with
      | nil => exact absurd hpieces (splitAll_ne_nil xs)
      | cons piece pieces =>
        rw [hpieces] at ih
        show [sep].intercalate ((x :: piece) :: pieces) = x :: xs
        rw [← ih]
        cases pieces <;> rfl

/-- **What splitting gives**: the pieces without the separator that make up the list again. -/
theorem splitAll_eq_iff {xs : List α} {items : List (List α)} :
    splitAll sep xs = items ↔
      items ≠ [] ∧ (∀ item ∈ items, sep ∉ item) ∧ xs = [sep].intercalate items := by
  constructor
  · rintro rfl
    refine ⟨splitAll_ne_nil xs, ?_, (intercalate_splitAll xs).symm⟩
    intro item hitem
    exact (exists_of_mem_splitAll hitem).1
  · rintro ⟨hne, hsep, rfl⟩
    exact splitAll_intercalate hne hsep

end Separator

end AdmissionGate.Text
