import Mathlib.Tactic.Ring
import AdmissionGate.Decimal.Double
import AdmissionGate.Decimal.Natural

/-!
# Numbers in decimal

Which texts are read as a number, and as which. A text spells a number if it is a run of digits with that
value, with or without one plus sign before it (`Spells`); a text is read as a number exactly when it
spells that number and the number is in range (`readChars_eq_ok_iff`). Leading zeros do not matter, and a
text that leaves the range on its way never comes back into it.
-/

namespace AdmissionGate.Decimal

/-- The text is a run of digits that has the value `n`, with at most one plus sign before it. -/
def Spells (cs : List Char) (n : Nat) : Prop :=
  ∃ ds, (cs = ds ∨ cs = '+' :: ds) ∧ ds ≠ [] ∧ (∀ c ∈ ds, c.isDigit = true) ∧ digitValue ds = n

/-- Reading digits after a number shifts it by as many places. -/
theorem foldl_digits (n : Nat) (ds : List Char) :
    ds.foldl (fun n c => n * 10 + (c.toNat - '0'.toNat)) n
      = n * 10 ^ ds.length + digitValue ds := by
  induction ds generalizing n with
  | nil => simp [digitValue]
  | cons c ds ih =>
    rw [digitValue, List.foldl_cons, List.foldl_cons, ih, ih (0 * 10 + _), List.length_cons]
    ring

theorem digitValue_cons (c : Char) (ds : List Char) :
    digitValue (c :: ds) = (c.toNat - '0'.toNat) * 10 ^ ds.length + digitValue ds := by
  rw [digitValue, List.foldl_cons, foldl_digits]
  ring

/-- Reading on from `n` puts the digits behind it, as long as the number stays in range. -/
theorem digitsUpTo_eq_ok_iff {max n m : Nat} {ds : List Char} (hn : n ≤ max) :
    digitsUpTo max n ds = .ok m ↔
      (∀ c ∈ ds, c.isDigit = true) ∧ n * 10 ^ ds.length + digitValue ds = m ∧ m ≤ max := by
  induction ds generalizing n with
  | nil =>
    have hempty : n * 10 ^ ([] : List Char).length + digitValue [] = n := by
      simp [digitValue]
    rw [digitsUpTo, hempty, Except.ok.injEq]
    constructor
    · rintro rfl
      exact ⟨nofun, rfl, hn⟩
    · rintro ⟨-, hm, -⟩
      exact hm
  | cons c ds ih =>
    have hvalue : n * 10 ^ (c :: ds).length + digitValue (c :: ds)
        = (n * 10 + (c.toNat - '0'.toNat)) * 10 ^ ds.length + digitValue ds := by
      rw [digitValue_cons, List.length_cons]
      ring
    rw [digitsUpTo, hvalue, List.forall_mem_cons]
    split
    next hdigit =>
      dsimp only
      split
      next hle => rw [ih hle, and_iff_right hdigit]
      next hgt =>
        -- more digits only make the number larger, so no reading of the rest is in range
        refine iff_of_false nofun ?_
        rintro ⟨-, rfl, hle⟩
        have hpow : 0 < 10 ^ ds.length := Nat.pow_pos (by decide)
        have hgrow := Nat.le_mul_of_pos_right (n * 10 + (c.toNat - '0'.toNat)) hpow
        omega
    next hdigit =>
      refine iff_of_false nofun ?_
      rintro ⟨⟨hc, -⟩, -⟩
      exact hdigit hc

/-- After a plus sign, a spelling is a digit string that is not empty. -/
theorem Spells.plus_iff {ds : List Char} {n : Nat} :
    Spells ('+' :: ds) n ↔ ds ≠ [] ∧ (∀ c ∈ ds, c.isDigit = true) ∧ digitValue ds = n := by
  constructor
  · rintro ⟨ds', rfl | hcs, hne, hdigits, hvalue⟩
    · have hplus := hdigits '+' (List.mem_cons_self ..)
      exact absurd hplus (by decide)
    · obtain rfl := (List.cons.inj hcs).2
      exact ⟨hne, hdigits, hvalue⟩
  · rintro ⟨hne, hdigits, hvalue⟩
    exact ⟨ds, .inr rfl, hne, hdigits, hvalue⟩

theorem Spells.bare_iff {cs : List Char} {n : Nat} (h : ∀ ds, cs ≠ '+' :: ds) :
    Spells cs n ↔ cs ≠ [] ∧ (∀ c ∈ cs, c.isDigit = true) ∧ digitValue cs = n := by
  constructor
  · rintro ⟨ds, rfl | hcs, hne, hdigits, hvalue⟩
    · exact ⟨hne, hdigits, hvalue⟩
    · exact absurd hcs (h ds)
  · rintro ⟨hne, hdigits, hvalue⟩
    exact ⟨cs, .inl rfl, hne, hdigits, hvalue⟩

/-- A text is read as a number exactly when it spells it and the number is in range. -/
theorem readChars_eq_ok_iff {max n : Nat} {cs : List Char} :
    readChars max cs = .ok n ↔ Spells cs n ∧ n ≤ max := by
  have hread : ∀ ds : List Char, digitsUpTo max 0 ds = .ok n ↔
      ((∀ c ∈ ds, c.isDigit = true) ∧ digitValue ds = n) ∧ n ≤ max := by
    intro ds
    rw [digitsUpTo_eq_ok_iff (Nat.zero_le max), Nat.zero_mul, Nat.zero_add, and_assoc]
  unfold readChars
  split
  next =>
    have hbare : ∀ ds, ([] : List Char) ≠ '+' :: ds := nofun
    rw [Spells.bare_iff hbare]
    simp
  next =>
    rw [Spells.plus_iff]
    simp
  next ds hne =>
    have hds : ds ≠ [] := hne
    rw [hread, Spells.plus_iff, and_iff_right hds]
  next hnil hsign hplus =>
    rw [hread, Spells.bare_iff hplus, and_iff_right hnil]

/-- A spelling has plus signs and digits only. -/
theorem Spells.forall_mem {cs : List Char} {n : Nat} (h : Spells cs n) :
    ∀ c ∈ cs, c = '+' ∨ c.isDigit = true := by
  obtain ⟨ds, rfl | rfl, -, hdigits, -⟩ := h
  · intro c hc
    exact .inr (hdigits c hc)
  · intro c hc
    rcases List.mem_cons.mp hc with rfl | hc
    · exact .inl rfl
    · exact .inr (hdigits c hc)

end AdmissionGate.Decimal
