import AdmissionGate.Proofs.Time.Rounding

/-!
# Rounding of parts

Doubles are computed with by their parts: a sign, a mantissa and an exponent. An exact result is
rounded by shifting its mantissa to the exponent that doubles have at that size.

* `Represents em rest`: the bits kept of a shifted mantissa are enough to round it.
* `lies_round`: rounding parts takes their value to its place (`Rounding.magnitude`), with a mantissa
  and an exponent as doubles have them, but for the bound on the exponent.
-/

namespace AdmissionGate

open Float.Model Float.Model.UnpackedFloat

namespace Rounding

/-! ## Shifted mantissas

Bits that are shifted out of a mantissa are not lost at once: the last of them and whether there was
another one are remembered, which is enough to round the quotient. -/

/-- A mantissa with its two further bits stands for the value `em.mantissa + rest`. -/
structure Represents (em : ExtendedMantissa) (rest : ℚ) : Prop where
  nonneg : 0 ≤ rest
  lt_one : rest < 1
  roundBit : em.roundBit = true ↔ 1 / 2 ≤ rest
  stickyBit : em.stickyBit = true ↔ rest ≠ 0 ∧ rest ≠ 1 / 2

/-- The nearest integer of a value that is given by its whole part and the rest. -/
theorem nearestEven_add (m : ℤ) {rest : ℚ} (h0 : 0 ≤ rest) (h1 : rest < 1) :
    nearestEven (m + rest)
      = if rest < 1 / 2 then m else if 1 / 2 < rest then m + 1 else m + m % 2 := by
  have hfloor : ⌊(m : ℚ) + rest⌋ = m := by
    rw [Int.floor_eq_iff]
    constructor <;> linarith
  have hfract : Int.fract ((m : ℚ) + rest) = rest := by
    rw [Int.fract, hfloor]
    ring
  rw [nearestEven, hfract, hfloor]

/-- A mantissa with what was shifted out of it is rounded to the nearest even one. -/
theorem Represents.roundedMantissa {em : ExtendedMantissa} {rest : ℚ} (h : Represents em rest) :
    (em.roundedMantissa : ℤ) = nearestEven (em.mantissa + rest) := by
  have hnearest := nearestEven_add em.mantissa h.nonneg h.lt_one
  push_cast at hnearest
  rw [hnearest]
  obtain ⟨m, r, s⟩ := em
  obtain ⟨-, -, hr, hs⟩ := h
  cases r with
  | false =>
    have hlow : rest < 1 / 2 := by simpa using hr
    rw [if_pos hlow]
    cases s <;> rfl
  | true =>
    have hhigh : 1 / 2 ≤ rest := hr.mp rfl
    rw [if_neg hhigh.not_gt]
    cases s with
    | false =>
      have hhalf : rest = 1 / 2 := by
        by_contra hne
        have : false = true := hs.mpr ⟨by linarith, hne⟩
        cases this
      rw [if_neg hhalf.not_gt]
      rfl
    | true =>
      rw [if_pos (lt_of_le_of_ne hhigh (Ne.symm (hs.mp rfl).2))]
      rfl

/-- Shifting by one bit halves the value, and no bit but the last of the rest gets lost. -/
theorem Represents.shiftRightOne {em : ExtendedMantissa} {rest : ℚ} (h : Represents em rest) :
    Represents em.shiftRightOne (((em.mantissa % 2 : ℕ) + rest) / 2) := by
  obtain ⟨m, r, s⟩ := em
  obtain ⟨h0, h1, hr, hs⟩ := h
  -- the sticky bit takes in the old round bit, so it tells whether there was any rest
  have hany : (r || s) = true ↔ rest ≠ 0 := by
    rw [Bool.or_eq_true, hr, hs]
    constructor
    · rintro (hle | ⟨hne, -⟩)
      · intro hzero
        linarith
      · exact hne
    · intro hne
      rcases eq_or_ne rest (1 / 2) with heq | hne'
      · exact Or.inl heq.ge
      · exact Or.inr ⟨hne, hne'⟩
  rcases Nat.mod_two_eq_zero_or_one m with hmod | hmod
  · refine ⟨?_, ?_, ?_, hany.trans ?_⟩ <;>
      simp only [ExtendedMantissa.shiftRightOne, hmod, Nat.cast_zero, zero_add]
    · linarith
    · linarith
    · simp only [bne_self_eq_false, Bool.false_eq_true, false_iff, not_le]
      linarith
    · constructor
      · intro hne
        exact ⟨fun hzero => hne (by linarith), fun hhalf => by linarith⟩
      · rintro ⟨hne, -⟩ hzero
        exact hne (by rw [hzero]; norm_num)
  · refine ⟨?_, ?_, ?_, hany.trans ?_⟩ <;>
      simp only [ExtendedMantissa.shiftRightOne, hmod, Nat.cast_one]
    · linarith
    · linarith
    · simp only [Nat.one_ne_zero, ne_eq, not_false_eq_true, bne_iff_ne, true_iff]
      linarith
    · constructor
      · intro hne
        exact ⟨fun hzero => by linarith, fun hhalf => hne (by linarith)⟩
      · rintro ⟨-, hne⟩ hzero
        exact hne (by rw [hzero]; norm_num)

/-- A mantissa that was shifted by `n` bits, with what is left of those. -/
theorem exists_represents_shiftRight (m n : ℕ) :
    ∃ rest, Represents ((⟨m, false, false⟩ : ExtendedMantissa) >>> n) rest ∧
      (m : ℚ) / 2 ^ n = ((⟨m, false, false⟩ : ExtendedMantissa) >>> n).mantissa + rest := by
  induction n with
  | zero =>
    show ∃ rest, Represents ⟨m, false, false⟩ rest ∧ (m : ℚ) / 2 ^ 0 = m + rest
    refine ⟨0, ⟨le_rfl, one_pos, ?_, ?_⟩, by simp⟩ <;> norm_num
  | succ n ih =>
    obtain ⟨rest, hrest, hvalue⟩ := ih
    refine ⟨_, hrest.shiftRightOne, ?_⟩
    rw [show (⟨m, false, false⟩ : ExtendedMantissa) >>> (n + 1)
      = ((⟨m, false, false⟩ : ExtendedMantissa) >>> n).shiftRightOne from rfl]
    -- one shift more halves what the shifts so far stand for
    generalize (⟨m, false, false⟩ : ExtendedMantissa) >>> n = em at hvalue ⊢
    show (m : ℚ) / 2 ^ (n + 1) = (em.mantissa / 2 : ℕ) + ((em.mantissa % 2 : ℕ) + rest) / 2
    have hsplit : (em.mantissa : ℚ) = 2 * (em.mantissa / 2 : ℕ) + (em.mantissa % 2 : ℕ) := by
      exact_mod_cast (Nat.div_add_mod em.mantissa 2).symm
    rw [pow_succ, ← div_div, hvalue, hsplit]
    ring

/-! ## Rounding of parts -/

/-- A mantissa and an exponent as doubles have them, but for the bound on the exponent. -/
structure Rounded (m : ℕ) (e : ℤ) : Prop where
  lt : m < 2 ^ 53
  le : -1074 ≤ e
  normal : 2 ^ 52 ≤ m ∨ e = -1074

/-- The distance from zero, in places, of a mantissa with an exponent. -/
def steps (m : ℕ) (e : ℤ) : ℤ := (e + 1074) * 2 ^ 52 + m

/-- A float of sign `s` that is rounded and lies `n` places away from zero. -/
def Lies (s : Sign) (n : ℤ) : UnpackedFloat → Prop
  | .zero s' => s' = s ∧ n = 0
  | .finite s' m e _ => s' = s ∧ Rounded m e ∧ steps m e = n
  | _ => False

/-- Shifting to the exponent of the value rounds the mantissa. -/
theorem roundedMantissa_shiftRight {m : ℕ} {e t : ℤ} (het : e ≤ t) :
    ((((⟨m, false, false⟩ : ExtendedMantissa) >>> (t - e).toNat).roundedMantissa : ℕ) : ℤ)
      = nearestEven (m * 2 ^ e / 2 ^ t) := by
  obtain ⟨rest, hrest, hvalue⟩ := exists_represents_shiftRight m (t - e).toNat
  have hpow : (m : ℚ) * 2 ^ e / 2 ^ t = m / 2 ^ (t - e).toNat := by
    rw [← zpow_natCast, Int.toNat_of_nonneg (by omega), zpow_sub₀ two_ne_zero]
    field_simp
  rw [hrest.roundedMantissa, hpow, hvalue]

theorem targetExponent_eq (n : ℤ) : Format.binary64.targetExponent n = max (n - 53) (-1074) := rfl

/-- The exponent that parts are rounded to is that of their exact value. -/
theorem targetExponent_totalExponent {m : ℕ} (hm : m ≠ 0) (e : ℤ) :
    Format.binary64.targetExponent (totalExponent m e) = exponent (m * 2 ^ e) := by
  rw [targetExponent_eq, totalExponent, exponent_mul_zpow hm]
  omega

/-- A smaller exponent does not change the value. -/
theorem decreaseExponent_value (m : ℕ) (e t : ℤ) :
    ((decreaseExponent m e t).1 : ℚ) * 2 ^ (decreaseExponent m e t).2 = m * 2 ^ e := by
  rw [decreaseExponent]
  push_cast [Nat.shiftLeft_eq]
  rw [zpow_sub₀ two_ne_zero, zpow_natCast]
  field_simp

/-- The second shift of rounding, after which a float is put together. -/
def assemble (s : Sign) (m : ℕ) (e : ℤ) : UnpackedFloat :=
  let shifted := shiftToTargetExponent .binary64 m e .exact
  if h : shifted.1.mantissa = 0 then .zero s
  else .finite s shifted.1.mantissa shifted.2 (Nat.pos_of_ne_zero h)

/-- A mantissa that was rounded up to `2 ^ 53` is taken into the next binade, and others are left as
they are. -/
theorem lies_assemble {s : Sign} {m : ℕ} {e : ℤ} (hm : m ≤ 2 ^ 53) (he : -1074 ≤ e)
    (hnormal : 2 ^ 52 ≤ m ∨ e = -1074) : Lies s (steps m e) (assemble s m e) := by
  rcases hm.eq_or_lt with rfl | hlt
  · have hshift : shiftToTargetExponent .binary64 (2 ^ 53) e .exact
        = (⟨2 ^ 52, false, false⟩, e + 1) := by
      have htarget : Format.binary64.targetExponent (totalExponent (2 ^ 53) e) - e = 1 := by
        rw [targetExponent_eq, totalExponent, Nat.log2_two_pow]
        omega
      rw [shiftToTargetExponent, shiftToExponent, htarget]
      rfl
    simp only [assemble, hshift]
    exact ⟨rfl, ⟨by norm_num, by omega, Or.inl le_rfl⟩, by rw [steps, steps]; push_cast; ring⟩
  · have hshift : shiftToTargetExponent .binary64 m e .exact = (⟨m, false, false⟩, e) := by
      have hlog : m.log2 < 53 := by
        rcases Nat.eq_zero_or_pos m with rfl | hpos
        · decide
        · rwa [Nat.log2_lt hpos.ne']
      have htarget : (Format.binary64.targetExponent (totalExponent m e) - e).toNat = 0 := by
        rw [targetExponent_eq, totalExponent]
        omega
      rw [shiftToTargetExponent, shiftToExponent, htarget, Nat.cast_zero, add_zero]
      rfl
    simp only [assemble, hshift]
    split
    · next hzero =>
      refine ⟨rfl, ?_⟩
      rw [steps, hzero]
      omega
    · exact ⟨rfl, ⟨hlt, he, hnormal⟩, rfl⟩

/-- Rounding takes a value to its place. -/
theorem lies_round (s : Sign) {m : ℕ} (hm : m ≠ 0) (e : ℤ) :
    Lies s (magnitude (m * 2 ^ e)) (round .binary64 s m e) := by
  have htarget := targetExponent_totalExponent hm e
  have hvalue := decreaseExponent_value m e (exponent (m * 2 ^ e))
  have hle : (decreaseExponent m e (exponent (m * 2 ^ e))).2 ≤ exponent (m * 2 ^ e) := by
    rw [decreaseExponent]
    omega
  rw [UnpackedFloat.round, htarget]
  -- only the value of the shifted parts matters from here on
  generalize decreaseExponent m e (exponent (m * 2 ^ e)) = d at hvalue hle ⊢
  have hpos : (0 : ℚ) < m * 2 ^ e := by positivity
  generalize hv : (m : ℚ) * 2 ^ e = v at hvalue hle hpos ⊢
  obtain ⟨m', e'⟩ := d
  show Lies s (magnitude v) (roundWithAccuracy .binary64 s m' e' .exact)
  have hm' : m' ≠ 0 := by
    rintro rfl
    simp [← hvalue] at hpos
  have hshift : shiftToTargetExponent .binary64 m' e' .exact
      = ((⟨m', false, false⟩ : ExtendedMantissa) >>> (exponent v - e').toNat, exponent v) := by
    rw [shiftToTargetExponent, targetExponent_totalExponent hm', hvalue, shiftToExponent,
      Int.toNat_of_nonneg (by omega), add_sub_cancel]
    rfl
  have hmantissa : ((((⟨m', false, false⟩ : ExtendedMantissa) >>> (exponent v - e').toNat
      ).roundedMantissa : ℕ) : ℤ) = mantissa v := by
    rw [roundedMantissa_shiftRight hle, hvalue, mantissa]
  have hround : roundWithAccuracy .binary64 s m' e' .exact
      = assemble s ((⟨m', false, false⟩ : ExtendedMantissa) >>> (exponent v - e').toNat
      ).roundedMantissa (exponent v) := by
    rw [roundWithAccuracy, hshift]
    rfl
  -- the first shift rounds, and the second one can only carry into the next binade
  rw [hround, magnitude, ← hmantissa]
  refine lies_assemble ?_ (le_max_right _ _) ?_
  · have := mantissa_le (v := v)
    omega
  · rcases (show -1074 ≤ exponent v from le_max_right _ _).eq_or_lt with hmin | hmin
    · exact Or.inr hmin.symm
    · have := le_mantissa hpos hmin
      omega

end Rounding

end AdmissionGate
