import Mathlib

/-!
# Rounding to doubles

The doubles that are numbers lie in a row: the zeros, then the subnormal and the normal ones, one
binade after the other, up to infinity, and the same on the negative side. `Rounding.position` gives
the place in this row of the double that an exact value is rounded to, to the nearest one and to an
even mantissa in the middle of two. `Rounding.position_mono` says that rounding keeps the order of
values, also across binades, into the subnormal range and into infinity.
-/

namespace AdmissionGate

namespace Rounding

/-! ## Nearest integers -/

/-- The nearest integer, a half going to the even neighbour. -/
def nearestEven (x : ℚ) : ℤ :=
  if Int.fract x < 1 / 2 then ⌊x⌋
  else if 1 / 2 < Int.fract x then ⌊x⌋ + 1
  else ⌊x⌋ + ⌊x⌋ % 2

/-- Rounding does not go below the next whole number down. -/
theorem floor_le_nearestEven (x : ℚ) : ⌊x⌋ ≤ nearestEven x := by
  rw [nearestEven]
  split_ifs <;> omega

theorem nearestEven_le (x : ℚ) : nearestEven x ≤ ⌊x⌋ + 1 := by
  rw [nearestEven]
  split_ifs <;> omega

/-- **Rounding to whole numbers keeps the order.** -/
theorem nearestEven_mono {x y : ℚ} (h : x ≤ y) : nearestEven x ≤ nearestEven y := by
  rcases (Int.floor_mono h).eq_or_lt with hfloor | hfloor
  · -- within one unit the fractions decide
    have hfract : Int.fract x ≤ Int.fract y := by
      rw [Int.fract, Int.fract, hfloor]
      linarith
    rw [nearestEven, nearestEven, hfloor]
    split_ifs <;> first | omega | linarith
  · calc nearestEven x ≤ ⌊x⌋ + 1 := nearestEven_le x
      _ ≤ ⌊y⌋ := hfloor
      _ ≤ nearestEven y := floor_le_nearestEven y

@[simp] theorem nearestEven_intCast (n : ℤ) : nearestEven n = n := by
  simp [nearestEven]

/-! ## Binades -/

/-- The exponent of the unit that a positive value is rounded to. -/
def exponent (v : ℚ) : ℤ := max (Int.log 2 v - 52) (-1074)

/-- The multiple of the unit that a positive value is rounded to. -/
def mantissa (v : ℚ) : ℤ := nearestEven (v / 2 ^ exponent v)

/-- The place of the double that a positive value is rounded to, among positive doubles whose
exponents are not bounded. -/
def magnitude (v : ℚ) : ℤ := (exponent v + 1074) * 2 ^ 52 + mantissa v

/-- The exponent of a value that is given by a mantissa and an exponent, read off the mantissa's
leading bit. -/
theorem exponent_mul_zpow {m : ℕ} (hm : m ≠ 0) (e : ℤ) :
    exponent (m * 2 ^ e) = max (Nat.log2 m + e - 52) (-1074) := by
  have hpos : (0 : ℚ) < m * 2 ^ e := by positivity
  have hlow : ((2 : ℕ) : ℚ) ^ ((Nat.log2 m : ℤ) + e) ≤ m * 2 ^ e := by
    rw [Nat.cast_ofNat, zpow_add₀ two_ne_zero, zpow_natCast]
    gcongr
    exact_mod_cast Nat.log2_self_le hm
  have hhigh : m * 2 ^ e < ((2 : ℕ) : ℚ) ^ ((Nat.log2 m : ℤ) + 1 + e) := by
    rw [Nat.cast_ofNat, zpow_add₀ two_ne_zero]
    gcongr
    exact_mod_cast Nat.lt_log2_self
  rw [Int.zpow_le_iff_le_log one_lt_two hpos] at hlow
  rw [Int.lt_zpow_iff_log_lt one_lt_two hpos] at hhigh
  rw [exponent]
  omega

/-- Greater values have no smaller unit. -/
theorem exponent_mono {v w : ℚ} (hv : 0 < v) (h : v ≤ w) : exponent v ≤ exponent w := by
  have hlog : Int.log 2 v ≤ Int.log 2 w := Int.log_mono_right hv h
  exact max_le_max (by omega) le_rfl

/-- A value is less than `2 ^ 53` of its units. -/
theorem div_exponent_lt {v : ℚ} : v / 2 ^ exponent v < 2 ^ 53 := by
  have hv : v < (2 : ℚ) ^ (Int.log 2 v + 1) := by
    exact_mod_cast Int.lt_zpow_succ_log_self (b := 2) one_lt_two v
  rw [div_lt_iff₀ (by positivity)]
  refine hv.trans_le ?_
  rw [← zpow_natCast, ← zpow_add₀ two_ne_zero]
  refine zpow_le_zpow_right₀ one_le_two ?_
  have := le_max_left (Int.log 2 v - 52) (-1074)
  rw [exponent]
  omega

/-- Above the least exponent mantissas have their leading bit. -/
theorem le_div_exponent {v : ℚ} (hv : 0 < v) (h : -1074 < exponent v) :
    2 ^ 52 ≤ v / 2 ^ exponent v := by
  have hlow : (2 : ℚ) ^ Int.log 2 v ≤ v := by
    exact_mod_cast Int.zpow_log_le_self (b := 2) one_lt_two hv
  have hexp : exponent v = Int.log 2 v - 52 := by
    rw [exponent] at h ⊢
    omega
  rw [le_div_iff₀ (by positivity), hexp, ← zpow_natCast, ← zpow_add₀ two_ne_zero]
  simpa using hlow

theorem mantissa_le {v : ℚ} : mantissa v ≤ 2 ^ 53 := by
  have hfloor : ⌊v / 2 ^ exponent v⌋ < 2 ^ 53 := by
    rw [Int.floor_lt]
    exact_mod_cast div_exponent_lt
  have := nearestEven_le (v / 2 ^ exponent v)
  rw [mantissa]
  omega

/-- Above the subnormal range, it is no less than `2 ^ 52` of them. -/
theorem le_mantissa {v : ℚ} (hv : 0 < v) (h : -1074 < exponent v) : 2 ^ 52 ≤ mantissa v := by
  have hfloor : 2 ^ 52 ≤ ⌊v / 2 ^ exponent v⌋ := by
    rw [Int.le_floor]
    exact_mod_cast le_div_exponent hv h
  exact hfloor.trans (floor_le_nearestEven _)

theorem mantissa_nonneg {v : ℚ} (hv : 0 < v) : 0 ≤ mantissa v := by
  have hfloor : 0 ≤ ⌊v / 2 ^ exponent v⌋ := Int.floor_nonneg.mpr (by positivity)
  exact hfloor.trans (floor_le_nearestEven _)

theorem magnitude_nonneg {v : ℚ} (hv : 0 < v) : 0 ≤ magnitude v := by
  have hexp : -1074 ≤ exponent v := le_max_right _ _
  have hmant := mantissa_nonneg hv
  rw [magnitude]
  omega

/-- Rounding positive values keeps their order, also from one binade to the next. -/
theorem magnitude_mono {v w : ℚ} (hv : 0 < v) (h : v ≤ w) : magnitude v ≤ magnitude w := by
  have hw : 0 < w := hv.trans_le h
  rw [magnitude, magnitude]
  rcases (exponent_mono hv h).eq_or_lt with hexp | hexp
  · have hmant : mantissa v ≤ mantissa w := by
      rw [mantissa, mantissa, hexp]
      exact nearestEven_mono (by gcongr)
    rw [hexp]
    omega
  · -- a higher binade begins where the lower one ends
    have hlow : -1074 ≤ exponent v := le_max_right _ _
    have hmant : mantissa v ≤ 2 ^ 53 := mantissa_le
    have hmant' : 2 ^ 52 ≤ mantissa w := le_mantissa hw (by omega)
    omega

/-! ## Positions -/

/-- The place of infinity. -/
def top : ℤ := 2047 * 2 ^ 52

/-- The place of the double that a value is rounded to. -/
def position (v : ℚ) : ℤ :=
  if 0 < v then min top (magnitude v) else if v < 0 then -min top (magnitude (-v)) else 0

theorem position_of_pos {v : ℚ} (h : 0 < v) : position v = min top (magnitude v) := if_pos h

/-- The row of doubles is symmetric about zero. -/
theorem position_neg (v : ℚ) : position (-v) = -position v := by
  rcases lt_trichotomy v 0 with h | rfl | h
  · simp [position, h, h.not_gt]
  · simp [position]
  · simp [position, h, h.not_gt]

@[simp] theorem position_zero : position 0 = 0 := by simp [position]

theorem position_nonneg {v : ℚ} (h : 0 ≤ v) : 0 ≤ position v := by
  rcases h.eq_or_lt with rfl | h
  · simp
  · rw [position_of_pos h]
    exact le_min (by norm_num [top]) (magnitude_nonneg h)

/-- Rounding keeps the order of values. -/
theorem position_mono {v w : ℚ} (h : v ≤ w) : position v ≤ position w := by
  rcases lt_or_ge 0 v with hv | hv
  · rw [position_of_pos hv, position_of_pos (hv.trans_le h)]
    exact min_le_min le_rfl (magnitude_mono hv h)
  · have hv' : position v ≤ 0 := by
      have := position_nonneg (neg_nonneg.mpr hv)
      rw [position_neg] at this
      omega
    rcases le_or_gt 0 w with hw | hw
    · exact hv'.trans (position_nonneg hw)
    · -- two negative values are rounded as their opposites
      have hopp : position (-w) ≤ position (-v) := by
        rw [position_of_pos (neg_pos.mpr hw), position_of_pos (neg_pos.mpr (h.trans_lt hw))]
        exact min_le_min le_rfl (magnitude_mono (neg_pos.mpr hw) (neg_le_neg h))
      rw [position_neg, position_neg] at hopp
      omega

end Rounding

end AdmissionGate
