import AdmissionGate.Proofs.Text.Case
import AdmissionGate.Text.Classes
import Mathlib.Data.List.Forall2

/-!
# Letters of ASCII in the other case

A text is recased if some of its letters of ASCII are put into the other case. Nothing that a search
asks of a single character tells a letter from the same letter in the other case: not the class that it
belongs to, and not what it folds to. Lowering forgets the difference as a whole (`Recased.lowerChars`),
although a capital sigma looks at the letters around it: letters have case either way, and no letter of
ASCII is looked through.
-/

namespace AdmissionGate.Text

/-- Two characters that are equal, or the same letter of ASCII. -/
def Recases (c d : Char) : Prop :=
  c = d ∨ (c.isAlpha = true ∧ d.isAlpha = true ∧ c.toLower = d.toLower)

instance (c d : Char) : Decidable (Recases c d) :=
  inferInstanceAs (Decidable (c = d ∨ _))

/-- Two texts that differ in the case of letters of ASCII alone. -/
def Recased (cs ds : List Char) : Prop := List.Forall₂ Recases cs ds

instance (cs ds : List Char) : Decidable (Recased cs ds) :=
  inferInstanceAs (Decidable (List.Forall₂ Recases cs ds))

/-! ## Letters -/

/-- Where the letters of ASCII stand. -/
theorem bounds_of_isAlpha {c : Char} (h : c.isAlpha = true) :
    (65 ≤ c.toNat ∧ c.toNat ≤ 90) ∨ (97 ≤ c.toNat ∧ c.toNat ≤ 122) := by
  have hcase : c.isUpper = true ∨ c.isLower = true := Bool.or_eq_true_iff.mp h
  rcases hcase with hupper | hlower
  · have hbounds : c.val ≥ 'A'.val ∧ c.val ≤ 'Z'.val := of_decide_eq_true hupper
    exact .inl hbounds
  · obtain ⟨hlow, hhigh⟩ := Bool.and_eq_true_iff.mp hlower
    exact .inr ⟨of_decide_eq_true hlow, of_decide_eq_true hhigh⟩

theorem toNat_lt_of_isAlpha {c : Char} (h : c.isAlpha = true) : c.toNat < 0x80 := by
  have := bounds_of_isAlpha h
  omega

/-- What is the same for every letter of ASCII and asks for nothing else. -/
theorem Recases.congr {α : Type} {f : Char → α} {c d : Char} (h : Recases c d) {a : α}
    (hletter : ∀ e : Char, e.isAlpha = true → f e = a) : f c = f d := by
  rcases h with rfl | ⟨hc, hd, -⟩
  · rfl
  · rw [hletter c hc, hletter d hd]

section Classes

variable {c d : Char}

theorem isWord_of_isAlpha (h : c.isAlpha = true) : isWord c = true := by
  rw [isWord, if_pos (toNat_lt_of_isAlpha h), Char.isAlphanum, h]
  rfl

theorem isDecimalDigit_of_isAlpha (h : c.isAlpha = true) : isDecimalDigit c = false := by
  have hbounds := bounds_of_isAlpha h
  rw [isDecimalDigit, if_pos (toNat_lt_of_isAlpha h), ← Bool.not_eq_true]
  intro hdigit
  have hle : c.toNat ≤ 57 := of_decide_eq_true (Bool.and_eq_true_iff.mp hdigit).2
  omega

theorem isBlank_of_isAlpha (h : c.isAlpha = true) : isBlank c = false := by
  have hbounds := bounds_of_isAlpha h
  simp only [isBlank, Bool.or_eq_false_iff, Bool.and_eq_false_iff, decide_eq_false_iff_not,
    beq_eq_false_iff_ne, ne_eq]
  omega

/-- A letter has a case, as far as the final sigma is concerned. -/
theorem isCased_of_isAlpha (h : c.isAlpha = true) : isCased c = true := by
  rw [isCased, if_pos (toNat_lt_of_isAlpha h), h]

/-- A letter is never skipped in looking for a cased character. -/
theorem isCaseIgnorable_of_isAlpha (h : c.isAlpha = true) : isCaseIgnorable c = false :=
  forall_ascii (p := fun c => c.isAlpha = true → isCaseIgnorable c = false) (by decide +kernel)
    (toNat_lt_of_isAlpha h) h

theorem ne_capitalSigma_of_isAlpha (h : c.isAlpha = true) : c ≠ capitalSigma := by
  rintro rfl
  exact absurd h (by decide)

/-- Word characters are told apart from others without regard to case. -/
theorem Recases.isWord_eq (h : Recases c d) : isWord c = isWord d :=
  h.congr fun _ => isWord_of_isAlpha

theorem Recases.isDecimalDigit_eq (h : Recases c d) : isDecimalDigit c = isDecimalDigit d :=
  h.congr fun _ => isDecimalDigit_of_isAlpha

theorem Recases.isBlank_eq (h : Recases c d) : isBlank c = isBlank d :=
  h.congr fun _ => isBlank_of_isAlpha

/-- Whether a character has a case does not depend on which it has. -/
theorem Recases.isCased_eq (h : Recases c d) : isCased c = isCased d :=
  h.congr fun _ => isCased_of_isAlpha

/-- Whether a character is skipped in looking for a cased one does not depend on its case. -/
theorem Recases.isCaseIgnorable_eq (h : Recases c d) : isCaseIgnorable c = isCaseIgnorable d :=
  h.congr fun _ => isCaseIgnorable_of_isAlpha

/-- The capital sigma is no letter of ASCII, and stands in both texts or in neither. -/
theorem Recases.eq_capitalSigma_iff (h : Recases c d) : c = capitalSigma ↔ d = capitalSigma := by
  rcases h with rfl | ⟨hc, hd, -⟩
  · rfl
  · exact iff_of_false (ne_capitalSigma_of_isAlpha hc) (ne_capitalSigma_of_isAlpha hd)

/-- Characters that differ by case have one lower case. -/
theorem Recases.lowerImage_eq (h : Recases c d) : lowerImage c = lowerImage d := by
  rcases h with rfl | ⟨hc, hd, hlower⟩
  · rfl
  · rw [lowerImage, lowerImage, if_pos (toNat_lt_of_isAlpha hc), if_pos (toNat_lt_of_isAlpha hd),
      hlower]

end Classes

/-! ## Lowering -/

variable {cs ds : List Char}

/-- The first character that is not skipped is cased in both texts or in neither. -/
theorem Recased.meetsCased_eq (h : Recased cs ds) : meetsCased cs = meetsCased ds := by
  induction h with
  | nil => rfl
  | @cons c d cs ds hc _ ih =>
    rw [meetsCased, meetsCased, List.dropWhile_cons, List.dropWhile_cons, hc.isCaseIgnorable_eq]
    split
    · exact ih
    · exact hc.isCased_eq

/-- **Texts that differ by ASCII case have the same lower case**, after texts that do so too. -/
theorem Recased.lowerFrom_eq (h : Recased cs ds) {before before' : List Char}
    (hbefore : Recased before before') : lowerFrom before cs = lowerFrom before' ds := by
  induction h generalizing before before' with
  | nil => rfl
  | cons hc hrest ih =>
    have hmeets := Recased.meetsCased_eq hrest
    rw [lowerFrom, lowerFrom, hc.lowerImage_eq, hbefore.meetsCased_eq, hmeets,
      ih (List.Forall₂.cons hc hbefore)]
    simp only [hc.eq_capitalSigma_iff]

/-- Texts that differ in the case of letters of ASCII are the same when they are lowered. -/
theorem Recased.lowerChars_eq (h : Recased cs ds) : lowerChars cs = lowerChars ds :=
  h.lowerFrom_eq List.Forall₂.nil

theorem Recased.eq_nil_iff (h : Recased cs ds) : cs = [] ↔ ds = [] := by
  cases h <;> simp

end AdmissionGate.Text
