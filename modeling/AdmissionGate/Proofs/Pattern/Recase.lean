import AdmissionGate.Pattern.Catalogue
import AdmissionGate.Proofs.Text.Recase

/-!
# Detection in either case

A search learns two things of a character: which sets of a pattern it belongs to, and whether it is a
word character. Both are the same for a letter of ASCII in either case, and so is what remains to be
matched after it, for every pattern there is (`Pattern.after_recases`). Hence the search takes the same
course on two texts that differ in the case of such letters alone, and the first signature, or the first
needle of a header value, is the same (`detection_recased`).
-/

namespace AdmissionGate

open Text (Recases Recased)

/-! ## Patterns -/

/-- Characters that differ by ASCII case are folded into one. -/
theorem foldAscii_recases {c d : Char} (h : Recases c d) : foldAscii c = foldAscii d := by
  rcases h with rfl | ⟨hc, hd, hlower⟩
  · rfl
  · rw [foldAscii, foldAscii, if_pos (Text.toNat_lt_of_isAlpha hc),
      if_pos (Text.toNat_lt_of_isAlpha hd), hlower]

/-- A set of characters has both or neither of them. -/
theorem CharSet.has_recases {c d : Char} (h : Recases c d) (s : CharSet) : s.has c = s.has d := by
  cases s with
  | literal a =>
    show (foldAscii c == foldAscii a) = (foldAscii d == foldAscii a)
    rw [foldAscii_recases h]
  | except a =>
    show (foldAscii c != foldAscii a) = (foldAscii d != foldAscii a)
    rw [foldAscii_recases h]
  | word => exact h.isWord_eq
  | digit => exact h.isDecimalDigit_eq
  | blank => exact h.isBlank_eq

namespace Pattern

/-- After a letter in either case the same remains to be matched. -/
theorem after_recases {c d : Char} (h : Recases c d) (before : Bool) (p : Pattern) :
    p.after before c = p.after before d := by
  induction p with
  | empty => rfl
  | one s => rw [after, after, CharSet.has_recases h]
  | seq p q ihp ihq => rw [after, after, ihp, ihq, h.isWord_eq]
  | alt p q ihp ihq => rw [after, after, ihp, ihq]
  | many r p ih => rw [after, after, ih]
  | boundary => rfl

/-- A search goes the same way through texts that differ by ASCII case. -/
theorem searchFrom_recased {cs ds : List Char} (h : Recased cs ds) (p : Pattern) (before : Bool)
    (live : List Pattern) : searchFrom p before live cs = searchFrom p before live ds := by
  induction h generalizing before live with
  | nil => rfl
  | @cons c d cs ds hc _ ih =>
    have hafter : after before c = after before d := funext (after_recases hc before)
    rw [searchFrom, searchFrom, hc.isWord_eq, hafter, ih]

/-- **A search comes to the same in texts that differ by ASCII case.** -/
theorem search_recased {cs ds : List Char} (h : Recased cs ds) (p : Pattern) :
    p.search cs = p.search ds :=
  searchFrom_recased h p false []

end Pattern

/-! ## Signatures and needles -/

/-- **Case does not matter to detection.** In texts that differ in the case of letters of ASCII alone,
the same signature of the catalogue is found first, or none in either, and the same holds of the needles
of header values. -/
theorem detection_recased {value value' : String} (h : Recased value.toList value'.toList) :
    findInjection value = findInjection value' ∧ headerThreat value = headerThreat value' := by
  constructor
  · have hempty : value.isEmpty = value'.isEmpty := by
      rw [Bool.eq_iff_iff, String.isEmpty_iff, String.isEmpty_iff, ← String.toList_eq_nil_iff,
        ← String.toList_eq_nil_iff]
      exact h.eq_nil_iff
    have hfound : ∀ s : Signature, s.isIn value = s.isIn value' :=
      fun s => Pattern.search_recased h s.pattern
    rw [findInjection, findInjection, hempty]
    simp only [hfound]
  · rw [headerThreat, headerThreat, h.lowerChars_eq]

/-- A script is found with its letters in either case, a long s among them, and behind a capital sigma that
ends a word after a letter in either case. -/
theorem detection_recased_sigma :
    Recased "OΣ <ſcRIPt>jAva</sCripT> ../K".toList "oΣ <ſCript>JAVA</ScRiPt> ../k".toList ∧
      (findInjection "oΣ <ſCript>JAVA</ScRiPt> ../k").map Prod.fst = some 6 ∧
      headerThreat "oΣ <ſCript>JAVA</ScRiPt> ../k" = some .pathTraversal := by
  have hrecased : Recased "OΣ <ſcRIPt>jAva</sCripT> ../K".toList
      "oΣ <ſCript>JAVA</ScRiPt> ../k".toList := by decide +kernel
  obtain ⟨hinjection, hthreat⟩ := detection_recased hrecased
  rw [← hinjection, ← hthreat]
  exact ⟨hrecased, by decide +kernel, by decide +kernel⟩

end AdmissionGate
