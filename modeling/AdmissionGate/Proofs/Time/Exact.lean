import AdmissionGate.Proofs.Window.Content
import Mathlib

/-!
# Exact time

The numbers of an ordered field as instants. They are compared and stepped back from exactly; only
what is reported in whole seconds is cut to the range of words.
-/

namespace AdmissionGate

/-! ## Words -/

/-- A number as a word, or the largest word where that is out of range. -/
def clampWord (n : ℕ) : UInt64 := UInt64.ofNat (min n (2 ^ 64 - 1))

/-- A number that does not fit into a word becomes the greatest one. -/
theorem toNat_clampWord (n : ℕ) : (clampWord n).toNat = min n (2 ^ 64 - 1) := by
  have hlt : min n (2 ^ 64 - 1) < 2 ^ 64 := by omega
  rw [clampWord, UInt64.toNat_ofNat', Nat.mod_eq_of_lt hlt]

/-- A sum that does not fit becomes the greatest word. -/
theorem toNat_addSaturating (a b : UInt64) :
    (addSaturating a b).toNat = min (a.toNat + b.toNat) (2 ^ 64 - 1) := by
  have hsize : UInt64.size = 2 ^ 64 := rfl
  rw [addSaturating, hsize]
  split
  · next hlt =>
    rw [UInt64.toNat_add, Nat.mod_eq_of_lt hlt]
    omega
  · next hge =>
    rw [show maxWord.toNat = 2 ^ 64 - 1 by decide]
    omega

/-! ## Instants -/

variable {K : Type} [Field K] [LinearOrder K] [FloorRing K]

/-- Exact instants. -/
instance (priority := low) exactInstant : Instant K where
  ofMicros m := m.toNat / 1000000
  notAfter a b := decide (a ≤ b)
  back now secs := now - secs.toNat
  wholeSeconds now := clampWord ⌊now⌋₊
  secondsUntil entry window now :=
    let secs := ⌈entry + window.toNat - now⌉
    if 1 ≤ secs then clampWord secs.toNat else 1

open Instant

theorem notAfter_iff_le {a b : K} : NotAfter a b ↔ a ≤ b := decide_eq_true_iff

/-- Every exact time can be compared. -/
theorem isTime_exact (a : K) : IsTime a := notAfter_iff_le.mpr le_rfl

instance [IsStrictOrderedRing K] : LawfulInstant K where
  isTime_of_notAfter _ := ⟨isTime_exact _, isTime_exact _⟩
  trans hab hbc := notAfter_iff_le.mpr ((notAfter_iff_le.mp hab).trans (notAfter_iff_le.mp hbc))
  total {a b} _ _ := (le_total a b).imp notAfter_iff_le.mpr notAfter_iff_le.mpr
  back_mono _ h := notAfter_iff_le.mpr (sub_le_sub_right (notAfter_iff_le.mp h) _)

/-- An event is live as long as it is less than a window old. -/
theorem isLive_iff_lt {window : UInt64} {now t : K} :
    Bucket.isLive window now t = true ↔ now - window.toNat < t := by
  rw [Bucket.isLive, Bool.not_eq_true', ← not_le]
  exact decide_eq_false_iff_not

/-- An event is inside of its own window. -/
theorem isLive_self [IsStrictOrderedRing K] {window : UInt64} (hwindow : 1 ≤ window.toNat) (now : K) :
    Bucket.isLive window now now = true := by
  rw [isLive_iff_lt, sub_lt_self_iff]
  exact_mod_cast hwindow

/-- The second that lies a number of seconds ahead. -/
theorem toNat_addSaturating_wholeSeconds (now : K) (secs : UInt64) :
    (addSaturating (wholeSeconds now) secs).toNat = min (⌊now⌋₊ + secs.toNat) (2 ^ 64 - 1) := by
  have hwhole : (wholeSeconds now).toNat = min ⌊now⌋₊ (2 ^ 64 - 1) := toNat_clampWord _
  rw [toNat_addSaturating, hwhole]
  omega

theorem one_le_secondsUntil (entry now : K) (window : UInt64) :
    1 ≤ (secondsUntil entry window now).toNat := by
  show 1 ≤ (if 1 ≤ ⌈entry + window.toNat - now⌉
    then clampWord ⌈entry + window.toNat - now⌉.toNat else 1).toNat
  split
  · next hle =>
    rw [toNat_clampWord]
    omega
  · decide

end AdmissionGate
