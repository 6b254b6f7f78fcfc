import AdmissionGate.Proofs.Time.Lawful
import AdmissionGate.Proofs.Time.Stored

/-!
# Doubles are lawful instants

Two facts about the parts of doubles make them lawful instants. The comparison follows their places
in the row of all doubles (`le_iff_place_le`), and a difference is taken exactly and then rounded to
a place (`roundsTo_sub`). Rounding keeps the order, so `LawfulInstant Double` holds, whatever gets
lost in the differences.
-/

namespace AdmissionGate

open Float.Model
open Float.Model.UnpackedFloat hiding unpack pack

namespace Rounding

/-! ## Places -/

/-- The place of a float in the row of doubles, and beyond it for exponents that do not fit. -/
def place : UnpackedFloat → ℤ
  | .infinity s => s.apply top
  | .notANumber => 0
  | .zero _ => 0
  | .finite s m e _ => s.apply (steps m e)

theorem steps_pos {m : ℕ} {e : ℤ} (h : Rounded m e) (hm : 0 < m) : 0 < steps m e := by
  have := h.le
  rw [steps]
  omega

theorem steps_lt_top {m : ℕ} {e : ℤ} (h : Rounded m e) (he : e < 972) : steps m e < top := by
  have := h.lt
  rw [steps, top]
  omega

/-- Parts are compared by exponent first, which is the order of their places. -/
theorem isLE_compare_parts {m₁ m₂ : ℕ} {e₁ e₂ : ℤ} (h₁ : Rounded m₁ e₁) (h₂ : Rounded m₂ e₂) :
    ((compare e₁ e₂).then (compare m₁ m₂)).isLE = true ↔ steps m₁ e₁ ≤ steps m₂ e₂ := by
  have hlt₁ := h₁.lt
  have hlt₂ := h₂.lt
  have hn₁ := h₁.normal
  have hn₂ := h₂.normal
  have hl₁ := h₁.le
  have hl₂ := h₂.le
  rw [steps, steps]
  rcases lt_trichotomy e₁ e₂ with he | rfl | he
  · rw [compare_lt_iff_lt.mpr he]
    simp only [Ordering.then, Ordering.isLE, true_iff]
    omega
  · rw [compare_eq_iff_eq.mpr rfl]
    simp only [Ordering.then, Nat.isLE_compare]
    omega
  · rw [compare_gt_iff_gt.mpr he]
    simp only [Ordering.then, Ordering.isLE, Bool.false_eq_true, false_iff]
    omega

/-- The comparison by exponent first is reversed by looking at the parts the other way round. -/
theorem swap_compare_parts (m₁ m₂ : ℕ) (e₁ e₂ : ℤ) :
    ((compare e₁ e₂).then (compare m₁ m₂)).swap = (compare e₂ e₁).then (compare m₂ m₁) := by
  rw [Ordering.swap_then, Int.compare_swap, Nat.compare_swap]

theorem top_pos : 0 < top := by norm_num [top]

/-- Infinities are compared by their signs. -/
theorem compare_infinity (s₁ s₂ : Sign) :
    (compare s₁ s₂).isLE = true ↔ s₁.apply top ≤ s₂.apply top := by
  cases s₁ <;> cases s₂ <;> decide

/-- The comparison of doubles follows their places. -/
theorem le_iff_place_le {a b : UnpackedFloat} (ha : IsDouble a) (hb : IsDouble b)
    (hna : a ≠ .notANumber) (hnb : b ≠ .notANumber) : a.le b = true ↔ place a ≤ place b := by
  have htop := top_pos
  cases a with
  | notANumber => exact absurd rfl hna
  | infinity s₁ =>
    cases b with
    | notANumber => exact absurd rfl hnb
    | infinity s₂ => exact compare_infinity s₁ s₂
    | zero s₂ =>
      cases s₁ <;> simp [UnpackedFloat.le, UnpackedFloat.compare, place, Sign.apply] <;> omega
    | finite s₂ m₂ e₂ hm₂ =>
      have hpos := steps_pos hb.1 hm₂
      have hlt := steps_lt_top hb.1 hb.2
      cases s₁ <;> cases s₂ <;>
        simp [UnpackedFloat.le, UnpackedFloat.compare, place, Sign.apply] <;> omega
  | zero s₁ =>
    cases b with
    | notANumber => exact absurd rfl hnb
    | infinity s₂ =>
      cases s₂ <;> simp [UnpackedFloat.le, UnpackedFloat.compare, place, Sign.apply] <;> omega
    | zero s₂ => simp [UnpackedFloat.le, UnpackedFloat.compare, place]
    | finite s₂ m₂ e₂ hm₂ =>
      have hpos := steps_pos hb.1 hm₂
      cases s₂ <;> simp [UnpackedFloat.le, UnpackedFloat.compare, place, Sign.apply] <;> omega
  | finite s₁ m₁ e₁ hm₁ =>
    have hpos := steps_pos ha.1 hm₁
    have hlt := steps_lt_top ha.1 ha.2
    cases b with
    | notANumber => exact absurd rfl hnb
    | infinity s₂ =>
      cases s₁ <;> cases s₂ <;>
        simp [UnpackedFloat.le, UnpackedFloat.compare, place, Sign.apply] <;> omega
    | zero s₂ =>
      cases s₁ <;> simp [UnpackedFloat.le, UnpackedFloat.compare, place, Sign.apply] <;> omega
    | finite s₂ m₂ e₂ hm₂ =>
      have hpos' := steps_pos hb.1 hm₂
      cases s₁ with
      | positive =>
        cases s₂ with
        | positive => exact isLE_compare_parts ha.1 hb.1
        | negative =>
          simp [UnpackedFloat.le, UnpackedFloat.compare, place, Sign.apply]
          omega
      | negative =>
        cases s₂ with
        | positive =>
          simp [UnpackedFloat.le, UnpackedFloat.compare, place, Sign.apply]
          omega
        | negative =>
          show ((compare e₁ e₂).then (compare m₁ m₂)).swap.isLE = true ↔ _
          rw [swap_compare_parts, isLE_compare_parts hb.1 ha.1]
          exact neg_le_neg_iff.symm

/-! ## Differences -/

/-- The exact value of a finite float. -/
def value : UnpackedFloat → ℚ
  | .finite .positive m e _ => m * 2 ^ e
  | .finite .negative m e _ => -(m * 2 ^ e)
  | _ => 0

/-- Rounded parts are rounded to themselves. -/
theorem magnitude_mul_zpow {m : ℕ} {e : ℤ} (h : Rounded m e) (hm : 0 < m) :
    magnitude (m * 2 ^ e) = steps m e := by
  have hexp : exponent (m * 2 ^ e) = e := by
    have hlt := (Nat.log2_lt hm.ne').mpr h.lt
    have hle := h.le
    rw [exponent_mul_zpow hm.ne']
    rcases h.normal with hn | rfl
    · have := (Nat.le_log2 hm.ne').mpr hn
      omega
    · omega
  have hmant : mantissa (m * 2 ^ e) = m := by
    rw [mantissa, hexp, mul_div_assoc, div_self (by positivity), mul_one]
    exact nearestEven_intCast m
  rw [magnitude, hexp, hmant, steps]

/-- Rounded parts within the range are in their own place. -/
theorem position_mul_zpow {m : ℕ} {e : ℤ} (h : Rounded m e) (he : e < 972) (hm : 0 < m) :
    position (m * 2 ^ e) = steps m e := by
  rw [position_of_pos (by positivity), magnitude_mul_zpow h hm]
  exact min_eq_right (steps_lt_top h he).le

/-- A finite double is the one that its value is rounded to. -/
theorem position_value {a : UnpackedFloat} (ha : IsDouble a) (hfin : a.isFinite = true) :
    position (value a) = place a := by
  cases a with
  | notANumber => cases hfin
  | infinity s => cases hfin
  | zero s => exact position_zero
  | finite s m e hm =>
    have hposition := position_mul_zpow ha.1 ha.2 hm
    cases s with
    | positive => exact hposition
    | negative =>
      show position (-(m * 2 ^ e)) = -steps m e
      rw [position_neg, hposition]

/-- A float that, once written and read, is the double that a value is rounded to. -/
structure RoundsTo (f : UnpackedFloat) (v : ℚ) : Prop where
  isNumber : stored f ≠ .notANumber
  place_eq : place (stored f) = position v

/-- Rounding parts comes to the double nearest to their exact value. -/
theorem roundsTo_round (s : Sign) {m : ℕ} (hm : m ≠ 0) (e : ℤ) :
    RoundsTo (round .binary64 s m e)
      (match s with | .positive => m * 2 ^ e | .negative => -(m * 2 ^ e)) := by
  have hpos : (0 : ℚ) < m * 2 ^ e := by positivity
  have hposition : position (match s with | .positive => (m : ℚ) * 2 ^ e | .negative => -(m * 2 ^ e))
      = s.apply (min top (magnitude (m * 2 ^ e))) := by
    cases s with
    | positive => exact position_of_pos hpos
    | negative => rw [position_neg, position_of_pos hpos]; rfl
  have hlies := lies_round s hm e
  generalize UnpackedFloat.round .binary64 s m e = f at hlies ⊢
  cases f with
  | notANumber => exact hlies.elim
  | infinity s' => exact hlies.elim
  | zero s' =>
    obtain ⟨rfl, hzero⟩ := hlies
    rw [hzero, min_eq_right top_pos.le] at hposition
    constructor
    · rw [stored_zero]
      intro h
      cases h
    · rw [hposition, stored_zero]
      cases s' <;> rfl
  | finite s' m' e' hm' =>
    obtain ⟨rfl, hrounded, hsteps⟩ := hlies
    -- an exponent that has no room in a word is read back as infinity, which is the place beyond
    rcases lt_or_ge e' 972 with he | he
    · have hlt := steps_lt_top hrounded he
      rw [hsteps] at hlt
      rw [min_eq_right hlt.le] at hposition
      constructor
      · rw [stored_finite_of_lt hrounded he]
        intro h
        cases h
      · rw [hposition, stored_finite_of_lt hrounded he, place, hsteps]
    · have hge : top ≤ magnitude (m * 2 ^ e) := by
        have hnormal := hrounded.normal
        rw [← hsteps, steps, top]
        omega
      rw [min_eq_left hge] at hposition
      constructor
      · rw [stored_finite_of_ge hrounded he]
        intro h
        cases h
      · rw [hposition, stored_finite_of_ge hrounded he, place]

/-- Rounding a mantissa with a sign of its own comes to the double nearest to its value. -/
theorem roundsTo_normalize (m e : ℤ) (s : Sign) :
    RoundsTo (normalize .binary64 m e s) (m * 2 ^ e) := by
  rw [UnpackedFloat.normalize]
  rcases lt_trichotomy m 0 with hm | rfl | hm
  · rw [compare_lt_iff_lt.mpr hm]
    have hround := roundsTo_round .negative (m := (-m).toNat) (by omega) e
    have hcast : (((-m).toNat : ℕ) : ℚ) = -m := by
      exact_mod_cast Int.toNat_of_nonneg (show 0 ≤ -m by omega)
    simpa only [hcast, neg_mul, neg_neg] using hround
  · rw [compare_eq_iff_eq.mpr rfl]
    constructor
    · show stored (.zero s) ≠ _
      rw [stored_zero]
      intro h
      cases h
    · show place (stored (.zero s)) = _
      rw [stored_zero, Int.cast_zero, zero_mul, position_zero]
      rfl
  · rw [compare_gt_iff_gt.mpr hm]
    have hround := roundsTo_round .positive (m := m.toNat) (by omega) e
    have hcast : ((m.toNat : ℕ) : ℚ) = m := by
      exact_mod_cast Int.toNat_of_nonneg hm.le
    simpa only [hcast] using hround

/-- A double is what its value is rounded to. -/
theorem roundsTo_of_isDouble {a : UnpackedFloat} (ha : IsDouble a) (hfin : a.isFinite = true) :
    RoundsTo a (value a) := by
  constructor
  · rw [stored_eq_self ha]
    rintro rfl
    cases hfin
  · rw [stored_eq_self ha, position_value ha hfin]

/-- A smaller unit leaves the value as it is. -/
theorem decreaseExponent_cast (m : ℕ) {e t : ℤ} (h : t ≤ e) :
    ((decreaseExponent m e t).1 : ℚ) * 2 ^ t = m * 2 ^ e := by
  have hexp : (decreaseExponent m e t).2 = t := by
    rw [decreaseExponent]
    omega
  rw [← decreaseExponent_value m e t, hexp]

theorem value_finite (s : Sign) {m : ℕ} {e : ℤ} (hm : 0 < m) :
    value (.finite s m e hm) = (s.apply m : ℤ) * 2 ^ e := by
  cases s with
  | positive => simp [value, Sign.apply]
  | negative => simp [value, Sign.apply]

/-- The difference of finite doubles is the exact one, rounded. -/
theorem roundsTo_sub {a b : UnpackedFloat} (ha : IsDouble a) (hb : IsDouble b)
    (hfina : a.isFinite = true) (hfinb : b.isFinite = true) :
    RoundsTo (sub .binary64 a b) (value a - value b) := by
  cases a with
  | notANumber => cases hfina
  | infinity s => cases hfina
  | zero s₁ =>
    cases b with
    | notANumber => cases hfinb
    | infinity s => cases hfinb
    | zero s₂ =>
      have hzero (s : Sign) : RoundsTo (.zero s) (value (.zero s₁) - value (.zero s₂)) := by
        rw [show value (.zero s₁) - value (.zero s₂) = value (.zero s) from sub_zero 0]
        exact roundsTo_of_isDouble trivial rfl
      show RoundsTo (if _ then _ else _) _
      split <;> exact hzero _
    | finite s m e hm =>
      have hneg : value (.zero s₁) - value (.finite s m e hm) = value (.finite (-s) m e hm) := by
        cases s with
        | positive => exact zero_sub _
        | negative => exact (zero_sub _).trans (neg_neg _)
      rw [hneg]
      exact roundsTo_of_isDouble (a := .finite (-s) m e hm) hb rfl
  | finite s₁ m₁ e₁ hm₁ =>
    cases b with
    | notANumber => cases hfinb
    | infinity s => cases hfinb
    | zero s₂ =>
      rw [show value (.zero s₂) = 0 from rfl, sub_zero]
      exact roundsTo_of_isDouble ha rfl
    | finite s₂ m₂ e₂ hm₂ =>
      have h₁ := decreaseExponent_cast m₁ (min_le_left e₁ e₂)
      have h₂ := decreaseExponent_cast m₂ (min_le_right e₁ e₂)
      have hround := roundsTo_normalize (s₁.apply (decreaseExponent m₁ e₁ (min e₁ e₂)).1
        - s₂.apply (decreaseExponent m₂ e₂ (min e₁ e₂)).1) (min e₁ e₂) .positive
      -- both mantissas are taken at the smaller exponent, where nothing is lost
      have happly (s : Sign) (n : ℕ) : ((s.apply n : ℤ) : ℚ) = (s.apply 1 : ℤ) * n := by
        cases s <;> simp [Sign.apply]
      have hvalue : value (.finite s₁ m₁ e₁ hm₁) - value (.finite s₂ m₂ e₂ hm₂)
          = ((s₁.apply (decreaseExponent m₁ e₁ (min e₁ e₂)).1
            - s₂.apply (decreaseExponent m₂ e₂ (min e₁ e₂)).1 : ℤ) : ℚ) * 2 ^ min e₁ e₂ := by
        rw [value_finite, value_finite, Int.cast_sub, happly s₁ m₁, happly s₂ m₂, mul_assoc,
          mul_assoc, ← h₁, ← h₂, happly s₁ (decreaseExponent _ _ _).1,
          happly s₂ (decreaseExponent _ _ _).1]
        ring
      rw [hvalue]
      exact hround

/-- **No two rounded parts have the same place.** -/
theorem parts_eq_of_steps_eq {m₁ m₂ : ℕ} {e₁ e₂ : ℤ} (h₁ : Rounded m₁ e₁) (h₂ : Rounded m₂ e₂)
    (h : steps m₁ e₁ = steps m₂ e₂) : m₁ = m₂ ∧ e₁ = e₂ := by
  obtain ⟨hlt₁, hl₁, hn₁⟩ := h₁
  obtain ⟨hlt₂, hl₂, hn₂⟩ := h₂
  rw [steps, steps] at h
  omega

/-- Doubles in the same place have the same value. -/
theorem value_eq_of_place_eq {a b : UnpackedFloat} (ha : IsDouble a) (hb : IsDouble b)
    (hfina : a.isFinite = true) (hfinb : b.isFinite = true) (h : place a = place b) :
    value a = value b := by
  cases a with
  | notANumber => cases hfina
  | infinity s => cases hfina
  | zero s₁ =>
    cases b with
    | notANumber => cases hfinb
    | infinity s => cases hfinb
    | zero s₂ => rfl
    | finite s m e hm =>
      have hpos := steps_pos hb.1 hm
      cases s <;> simp only [place, Sign.apply] at h <;> omega
  | finite s₁ m₁ e₁ hm₁ =>
    have hpos := steps_pos ha.1 hm₁
    cases b with
    | notANumber => cases hfinb
    | infinity s => cases hfinb
    | zero s₂ => cases s₁ <;> simp only [place, Sign.apply] at h <;> omega
    | finite s₂ m₂ e₂ hm₂ =>
      have hpos' := steps_pos hb.1 hm₂
      have heq : s₁ = s₂ ∧ steps m₁ e₁ = steps m₂ e₂ := by
        cases s₁ with
        | positive =>
          cases s₂ with
          | positive => exact ⟨rfl, h⟩
          | negative =>
            simp only [place, Sign.apply] at h
            omega
        | negative =>
          cases s₂ with
          | positive =>
            simp only [place, Sign.apply] at h
            omega
          | negative => exact ⟨rfl, neg_inj.mp h⟩
      obtain ⟨rfl, hsteps⟩ := heq
      obtain ⟨rfl, rfl⟩ := parts_eq_of_steps_eq ha.1 hb.1 hsteps
      rfl

/-- The values of finite doubles are in the order of their places. -/
theorem value_le_value {a b : UnpackedFloat} (ha : IsDouble a) (hb : IsDouble b)
    (hfina : a.isFinite = true) (hfinb : b.isFinite = true) (h : place a ≤ place b) :
    value a ≤ value b := by
  -- rounding keeps the order of values, so values against it have one and the same place
  rcases lt_or_ge (value b) (value a) with hlt | hle
  · have hback : place b ≤ place a := by
      rw [← position_value ha hfina, ← position_value hb hfinb]
      exact position_mono hlt.le
    exact (value_eq_of_place_eq ha hb hfina hfinb (le_antisymm h hback)).le
  · exact hle

/-- A double strictly between the infinities is finite. -/
theorem isFinite_of_place {a : UnpackedFloat} (hna : a ≠ .notANumber) (hlow : -top < place a)
    (hhigh : place a < top) : a.isFinite = true := by
  cases a with
  | notANumber => exact absurd rfl hna
  | infinity s => cases s <;> simp only [place, Sign.apply] at hlow hhigh <;> omega
  | zero s => rfl
  | finite s m e hm => rfl

/-- Infinity less something finite is infinity. -/
theorem sub_infinity (s : Sign) {b : UnpackedFloat} (hfin : b.isFinite = true) :
    sub .binary64 (.infinity s) b = .infinity s := by
  cases b with
  | notANumber => cases hfin
  | infinity s => cases hfin
  | zero s => rfl
  | finite s m e hm => rfl

/-- A difference with something finite is a number if that which it is taken from is. -/
theorem stored_sub_isNumber {a b : UnpackedFloat} (ha : IsDouble a) (hb : IsDouble b)
    (hna : a ≠ .notANumber) (hfin : b.isFinite = true) :
    stored (sub .binary64 a b) ≠ .notANumber := by
  cases hfina : a.isFinite with
  | true => exact (roundsTo_sub ha hb hfina hfin).isNumber
  | false =>
    cases a with
    | notANumber => exact absurd rfl hna
    | infinity s =>
      rw [sub_infinity s hfin, stored_infinity]
      exact hna
    | zero s => cases hfina
    | finite s m e hm => cases hfina

theorem place_lt_top {a : UnpackedFloat} (ha : IsDouble a) (h : a ≠ .infinity .positive) :
    place a < top := by
  have htop := top_pos
  cases a with
  | notANumber => exact htop
  | infinity s =>
    cases s with
    | positive => exact absurd rfl h
    | negative => simp only [place, Sign.apply]; omega
  | zero s => exact htop
  | finite s m e hm =>
    have hpos := steps_pos ha.1 hm
    have hlt := steps_lt_top ha.1 ha.2
    cases s <;> simp only [place, Sign.apply] <;> omega

theorem neg_top_lt_place {a : UnpackedFloat} (ha : IsDouble a) (h : a ≠ .infinity .negative) :
    -top < place a := by
  have htop := top_pos
  cases a with
  | notANumber => simp only [place]; omega
  | infinity s =>
    cases s with
    | positive => simp only [place, Sign.apply]; omega
    | negative => exact absurd rfl h
  | zero s => simp only [place]; omega
  | finite s m e hm =>
    have hpos := steps_pos ha.1 hm
    have hlt := steps_lt_top ha.1 ha.2
    cases s <;> simp only [place, Sign.apply] <;> omega

theorem place_bounds {a : UnpackedFloat} (ha : IsDouble a) : -top ≤ place a ∧ place a ≤ top := by
  constructor
  · by_cases h : a = .infinity .negative
    · rw [h]
      exact le_rfl
    · exact (neg_top_lt_place ha h).le
  · by_cases h : a = .infinity .positive
    · rw [h]
      exact le_rfl
    · exact (place_lt_top ha h).le

/-- Taking the same finite double from two doubles keeps their order. -/
theorem place_sub_mono {a b c : UnpackedFloat} (ha : IsDouble a) (hb : IsDouble b)
    (hc : IsDouble c) (hna : a ≠ .notANumber) (hnb : b ≠ .notANumber) (hfin : c.isFinite = true)
    (h : place a ≤ place b) :
    place (stored (sub .binary64 a c)) ≤ place (stored (sub .binary64 b c)) := by
  by_cases hbtop : b = .infinity .positive
  · rw [hbtop, sub_infinity _ hfin, stored_infinity]
    exact (place_bounds (isDouble_stored _)).2
  by_cases habot : a = .infinity .negative
  · rw [habot, sub_infinity _ hfin, stored_infinity]
    exact (place_bounds (isDouble_stored _)).1
  -- what is left is finite on both sides
  have hlow := neg_top_lt_place ha habot
  have hhigh := place_lt_top hb hbtop
  have hfina := isFinite_of_place hna hlow (h.trans_lt hhigh)
  have hfinb := isFinite_of_place hnb (hlow.trans_le h) hhigh
  rw [(roundsTo_sub ha hc hfina hfin).place_eq, (roundsTo_sub hb hc hfinb hfin).place_eq]
  exact position_mono (sub_le_sub_right (value_le_value ha hb hfina hfinb h) _)

/-- Words are finite as doubles. -/
theorem isFinite_stored_ofUInt64 (n : UInt64) :
    (stored (ofUInt64 .binary64 n)).isFinite = true := by
  have hround : RoundsTo (ofUInt64 .binary64 n) ((n.toNat : ℤ) * 2 ^ (0 : ℤ)) :=
    roundsTo_normalize n.toNat 0 .positive
  -- no word is beyond `2 ^ 64`, whose place is far below that of infinity
  have hle : ((n.toNat : ℤ) : ℚ) * 2 ^ (0 : ℤ) ≤ ((2 ^ 52 : ℕ) : ℚ) * 2 ^ (12 : ℤ) := by
    have hlt : n.toNat < 2 ^ 64 := n.toNat_lt
    have : (n.toNat : ℚ) ≤ 2 ^ 64 := by exact_mod_cast hlt.le
    norm_num at this ⊢
    exact this
  have hnonneg : (0 : ℚ) ≤ ((n.toNat : ℤ) : ℚ) * 2 ^ (0 : ℤ) := by positivity
  have hrounded : Rounded (2 ^ 52) 12 := ⟨by norm_num, by norm_num, Or.inl le_rfl⟩
  have hhigh := position_mono hle
  rw [position_mul_zpow hrounded (by norm_num) (by norm_num)] at hhigh
  have hlow := position_nonneg hnonneg
  have htop := top_pos
  have hlt := steps_lt_top hrounded (by norm_num)
  refine isFinite_of_place hround.isNumber ?_ ?_ <;> rw [hround.place_eq] <;> omega

end Rounding

/-! ## The instance -/

open Rounding Instant

namespace Double

/-- The sign, the mantissa and the exponent of a double. -/
def parts (x : Double) : UnpackedFloat := UnpackedFloat.unpack .binary64 x.bits.toBitVec

theorem isDouble_parts (x : Double) : IsDouble x.parts := isDouble_unpack _

/-- Writing the parts of a double and reading them again gives the same parts. -/
theorem stored_parts (x : Double) : stored x.parts = x.parts := stored_eq_self x.isDouble_parts

/-- Going back by whole seconds takes them away and rounds. -/
theorem parts_back (now : Double) (secs : UInt64) :
    (back now secs).parts
      = stored (sub .binary64 now.parts (stored (ofUInt64 .binary64 secs))) := by
  rw [← now.stored_parts]
  rfl

/-- Instants are compared by their parts. -/
theorem notAfter_iff_le (a b : Double) : NotAfter a b ↔ a.parts.le b.parts = true := by
  rw [← a.stored_parts, ← b.stored_parts]
  show decide (a.toFloat ≤ b.toFloat) = true ↔ _
  rw [decide_eq_true_iff]
  show decide ((stored a.parts).le (stored b.parts) = true) = true ↔ _
  rw [decide_eq_true_iff]

theorem le_notANumber_left (a : UnpackedFloat) : UnpackedFloat.le .notANumber a = false := by
  cases a <;> rfl

theorem le_notANumber_right (a : UnpackedFloat) : UnpackedFloat.le a .notANumber = false := by
  cases a <;> rfl

/-- Doubles that are numbers are compared by their places, and what is no number cannot be
compared. -/
theorem notAfter_iff {a b : Double} :
    NotAfter a b ↔
      a.parts ≠ .notANumber ∧ b.parts ≠ .notANumber ∧ place a.parts ≤ place b.parts := by
  rw [notAfter_iff_le]
  by_cases hna : a.parts = .notANumber
  · simp [hna, le_notANumber_left]
  by_cases hnb : b.parts = .notANumber
  · simp [hnb, le_notANumber_right]
  rw [le_iff_place_le a.isDouble_parts b.isDouble_parts hna hnb]
  simp only [ne_eq, hna, hnb, not_false_eq_true, true_and]

/-- A double is a time unless it is no number. -/
theorem isTime_iff {a : Double} : IsTime a ↔ a.parts ≠ .notANumber := by
  rw [IsTime, notAfter_iff]
  exact ⟨fun h => h.1, fun h => ⟨h, h, le_rfl⟩⟩

/-- The doubles that are instants are those that are numbers. -/
theorem isTime_iff_isNaN {a : Double} : IsTime a ↔ a.toFloat.isNaN = false := by
  have hnan : a.toFloat.isNaN = (stored a.parts).isNaN := rfl
  rw [isTime_iff, hnan, stored_parts]
  cases a.parts <;> simp [UnpackedFloat.isNaN]

end Double

/-- Stepping back by a fixed number of seconds rounds, and rounding keeps the order. -/
instance : LawfulInstant Double where
  isTime_of_notAfter h := by
    obtain ⟨hna, hnb, -⟩ := Double.notAfter_iff.mp h
    exact ⟨Double.isTime_iff.mpr hna, Double.isTime_iff.mpr hnb⟩
  trans hab hbc := by
    rw [Double.notAfter_iff] at hab hbc ⊢
    exact ⟨hab.1, hbc.2.1, hab.2.2.trans hbc.2.2⟩
  total {a b} ha hb := by
    rw [Double.isTime_iff] at ha hb
    rcases le_total (place a.parts) (place b.parts) with hle | hle
    · exact Or.inl (Double.notAfter_iff.mpr ⟨ha, hb, hle⟩)
    · exact Or.inr (Double.notAfter_iff.mpr ⟨hb, ha, hle⟩)
  back_mono {a b} secs h := by
    obtain ⟨hna, hnb, hle⟩ := Double.notAfter_iff.mp h
    have hfin := isFinite_stored_ofUInt64 secs
    have hword := isDouble_stored (ofUInt64 .binary64 secs)
    rw [Double.notAfter_iff, Double.parts_back, Double.parts_back]
    exact ⟨stored_sub_isNumber a.isDouble_parts hword hna hfin,
      stored_sub_isNumber b.isDouble_parts hword hnb hfin,
      place_sub_mono a.isDouble_parts b.isDouble_parts hword hna hnb hfin hle⟩

end AdmissionGate
