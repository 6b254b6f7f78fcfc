import AdmissionGate.Proofs.Time.Parts

/-!
# Doubles in words

Parts are written into a word and read back from it (`stored`). Every word holds parts of a double
(`isDouble_unpack`), and those are read back as they are (`stored_eq_self`). Rounded parts whose
exponent has no room in a word come back as infinity (`stored_finite_of_ge`).
-/

namespace AdmissionGate

open Float.Model
open Float.Model.UnpackedFloat hiding unpack pack

namespace Rounding

/-! ## Writing and reading -/

/-- The sign is read back from a word. -/
theorem unpackSign_packComponents (s : Sign) (e : BitVec 11) (m : BitVec 52) :
    unpackSign (packComponents .binary64 s e m) = s.toBitVec := by
  ext i hi
  obtain rfl : i = 0 := by omega
  simp only [unpackSign, BitVec.getElem_cast, BitVec.getElem_extract]
  show (s.toBitVec ++ e ++ m).getLsbD 63 = s.toBitVec[0]
  rw [BitVec.getLsbD_append, if_neg (by decide), BitVec.getLsbD_append, if_neg (by decide)]
  rfl

theorem ofBitVec_toBitVec (s : Sign) : Sign.ofBitVec s.toBitVec = s := by
  cases s <;> rfl

/-- The bit that a word leaves out is put in front of the mantissa. -/
theorem toNat_leading_append (m : BitVec 52) : (1#1 ++ m).toNat = 2 ^ 52 + m.toNat := by
  rw [BitVec.toNat_append, ← Nat.shiftLeft_add_eq_or_of_lt m.isLt]
  rfl

/-- The double that is written for a float and read again. -/
def stored (f : UnpackedFloat) : UnpackedFloat :=
  UnpackedFloat.unpack .binary64 (UnpackedFloat.pack .binary64 f)

/-- **What is read from a word**, by the components that it was put together from. -/
theorem unpack_packComponents (s : Sign) (e : BitVec 11) (m : BitVec 52) :
    UnpackedFloat.unpack .binary64 (packComponents .binary64 s e m)
      = if e = -1#11 then if m = 0#52 then .infinity s else .notANumber
        else if e = 0#11 then
          if h : m = 0#52 then .zero s
          else .finite s m.toNat ((e.toNat : ℤ) - 1074)
            (Nat.pos_of_ne_zero fun hz => h (BitVec.eq_of_toNat_eq hz))
        else .finite s (2 ^ 52 + m.toNat) ((e.toNat : ℤ) - 1075) (by omega) := by
  simp only [UnpackedFloat.unpack, unpackMantissa_packComponents, unpackExponent_packComponents,
    unpackSign_packComponents, ofBitVec_toBitVec, ← toNat_leading_append]
  split
  · rfl
  · split
    · split
      · rfl
      · congr 1
        show (e.toNat : ℤ) - (1023 + 52) + 1 = _
        omega
    · rfl

theorem stored_infinity (s : Sign) : stored (.infinity s) = .infinity s := by
  cases s <;> rfl

theorem stored_zero (s : Sign) : stored (.zero s) = .zero s := by
  cases s <;> rfl

theorem stored_notANumber : stored .notANumber = .notANumber := by rfl

/-- The word for rounded parts, by the range that they lie in. -/
theorem pack_finite {m : ℕ} {e : ℤ} (h : Rounded m e) (s : Sign) (hm : 0 < m) :
    UnpackedFloat.pack .binary64 (.finite s m e hm)
      = if 972 ≤ e then packedInfinity .binary64 s
        else if 2 ^ 52 ≤ m then
          packComponents .binary64 s (BitVec.ofNat 11 (e + 1075).toNat) (BitVec.ofNat 52 m)
        else packComponents .binary64 s 0#11 (BitVec.ofNat 52 m) := by
  have hbiased : (e + (Format.binary64.exponentBias : ℕ) + (52 : ℕ)).toNat = (e + 1075).toNat := by
    show (e + 1023 + 52).toNat = _
    rw [add_assoc]
    rfl
  have hlog : m.log2 + 1 = Format.binary64.mantissaBits ↔ 2 ^ 52 ≤ m := by
    show m.log2 + 1 = 53 ↔ _
    have hlt := (Nat.log2_lt hm.ne').mpr h.lt
    rw [← Nat.le_log2 hm.ne']
    omega
  have hle := h.le
  simp only [UnpackedFloat.pack, hbiased, hlog]
  congr 1
  exact propext (by show 2048 ≤ _ + 1 ↔ _; omega)

/-- Exponents up to 971 have room in a word. -/
theorem stored_finite_of_lt {m : ℕ} {e : ℤ} (h : Rounded m e) (he : e < 972) (s : Sign)
    (hm : 0 < m) : stored (.finite s m e hm) = .finite s m e hm := by
  have hle := h.le
  have hlt := h.lt
  rw [stored, pack_finite h, if_neg (by omega)]
  split
  · next hnormal =>
    have hexp : (BitVec.ofNat 11 (e + 1075).toNat).toNat = (e + 1075).toNat :=
      Nat.mod_eq_of_lt (by omega)
    have hmant : 2 ^ 52 + (BitVec.ofNat 52 m).toNat = m := by
      rw [BitVec.toNat_ofNat]
      omega
    -- the written exponent is that of neither a subnormal number nor an infinity
    rw [unpack_packComponents, if_neg ?_, if_neg ?_]
    · congr 1
      omega
    · intro hzero
      rw [hzero] at hexp
      simp at hexp
      omega
    · intro hones
      rw [hones] at hexp
      have : (e + 1075).toNat = 2047 := hexp.symm
      omega
  · next hsub =>
    have hmant : (BitVec.ofNat 52 m).toNat = m := Nat.mod_eq_of_lt (by omega)
    rw [unpack_packComponents, if_neg (by decide), if_pos rfl, dif_neg ?_]
    · congr 1
      have := h.normal
      show (0 : ℤ) - 1074 = e
      omega
    · intro hzero
      rw [hzero] at hmant
      simp at hmant
      omega

/-- Parts beyond the range come back as infinity. -/
theorem stored_finite_of_ge {m : ℕ} {e : ℤ} (h : Rounded m e) (he : 972 ≤ e) (s : Sign)
    (hm : 0 < m) : stored (.finite s m e hm) = .infinity s := by
  rw [stored, pack_finite h, if_pos he]
  exact stored_infinity s

/-! ## Words as doubles -/

/-- The parts of a double: a finite one is rounded and has an exponent that fits into a word. -/
def IsDouble : UnpackedFloat → Prop
  | .finite _ m e _ => Rounded m e ∧ e < 972
  | _ => True

/-- Whatever is in a word, it is a double. -/
theorem isDouble_unpack (b : BitVec 64) : IsDouble (UnpackedFloat.unpack .binary64 b) := by
  have hbias : ((Format.binary64.exponentBias : ℕ) : ℤ) = 1023 := rfl
  have hexp : (@unpackExponent .binary64 b).toNat < 2 ^ 11 := BitVec.isLt _
  have hmant : (@unpackMantissa .binary64 b).toNat < 2 ^ 52 := BitVec.isLt _
  simp only [UnpackedFloat.unpack, hbias]
  split
  · split <;> trivial
  · next hones =>
    have hlt : (@unpackExponent .binary64 b).toNat ≠ 2047 :=
      fun h => hones (BitVec.eq_of_toNat_eq h)
    split
    · next hzero =>
      split
      · trivial
      · have hnone : ((@unpackExponent .binary64 b).toNat : ℤ) = 0 := by
          rw [hzero]
          rfl
        refine ⟨⟨?_, ?_, Or.inr ?_⟩, ?_⟩ <;> omega
    · next hzero =>
      have hpos : (@unpackExponent .binary64 b).toNat ≠ 0 :=
        fun h => hzero (BitVec.eq_of_toNat_eq h)
      have hlead := toNat_leading_append (@unpackMantissa .binary64 b)
      refine ⟨⟨?_, ?_, Or.inl ?_⟩, ?_⟩ <;> omega

theorem isDouble_stored (f : UnpackedFloat) : IsDouble (stored f) := isDouble_unpack _

/-- A double is written and read as it is. -/
theorem stored_eq_self {a : UnpackedFloat} (ha : IsDouble a) : stored a = a := by
  cases a with
  | notANumber => exact stored_notANumber
  | infinity s => exact stored_infinity s
  | zero s => exact stored_zero s
  | finite s m e hm => exact stored_finite_of_lt ha.1 ha.2 s hm

end Rounding

end AdmissionGate
