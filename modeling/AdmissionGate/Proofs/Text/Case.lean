import AdmissionGate.Proofs.Text.Utf8
import AdmissionGate.Text.Case

/-!
# Lower case around ASCII

Octets of ASCII are read as themselves, whatever stands around them, and letters of ASCII are lowered
as by themselves, whatever the context. So a word of ASCII is still there when a text that holds it is
read and lowered (`map_toLower_infix`), and it does not matter in which case its letters were written
(`isAscii_of_eqIgnoringAsciiCase`).
-/

namespace AdmissionGate.Text

/-- Characters that are one octet each. -/
def IsAscii (cs : List Char) : Prop := ∀ c ∈ cs, c.toNat < 0x80

instance (cs : List Char) : Decidable (IsAscii cs) :=
  inferInstanceAs (Decidable (∀ c ∈ cs, c.toNat < 0x80))

/-- What holds of the first 128 characters, which can be gone through. -/
theorem forall_ascii {p : Char → Prop} (h : ∀ n < 0x80, p (Char.ofNat n)) {c : Char}
    (hc : c.toNat < 0x80) : p c := by
  have hback : Char.ofNat c.toNat = c := Char.ofNat_toNat c
  exact hback ▸ h c.toNat hc

/-- An ASCII text is encoded one octet a character. -/
theorem flatMap_utf8EncodeChar_ascii {cs : List Char} (h : IsAscii cs) :
    cs.flatMap String.utf8EncodeChar = cs.map fun c => UInt8.ofNat c.toNat := by
  induction cs with
  | nil => rfl
  | cons c rest ih =>
    obtain ⟨hc, hrest⟩ := List.forall_mem_cons.mp h
    rw [List.flatMap_cons, utf8EncodeChar_ascii hc, ih hrest]
    rfl

/-- A text without an octet beyond ASCII has no character beyond it either. -/
theorem isAscii_of_encode {s : String} (h : ∀ b ∈ encode s, b.toNat < 0x80) : IsAscii s.toList := by
  intro c hc
  obtain ⟨b, hb⟩ := List.exists_mem_of_ne_nil _ (String.utf8EncodeChar_ne_nil (c := c))
  have hlt := h b (List.mem_flatMap.mpr ⟨c, hc, hb⟩)
  rwa [mem_utf8EncodeChar hb hlt]

/-! ## Reading -/

/-- A character of ASCII is cut out of what stands around it. -/
theorem decodeLossy_cut_char {c : Char} (hc : c.toNat < 0x80) (xs ys : Bytes) :
    (decodeLossy (xs ++ (String.utf8EncodeChar c ++ ys))).toList
      = (decodeLossy xs).toList ++ c :: (decodeLossy ys).toList := by
  have hback : (UInt8.ofNat c.toNat).toNat = c.toNat :=
    UInt8.toNat_ofNat_of_lt' (show c.toNat < 256 by omega)
  rw [utf8EncodeChar_ascii hc, List.singleton_append, decodeLossy_cut (by omega), hback,
    Char.ofNat_toNat]

/-- An ASCII word at the front of octets is decoded as itself, whatever follows. -/
theorem decodeLossy_ascii {word : List Char} (h : IsAscii word) (ys : Bytes) :
    (decodeLossy (word.flatMap String.utf8EncodeChar ++ ys)).toList
      = word ++ (decodeLossy ys).toList := by
  induction word with
  | nil => rfl
  | cons c rest ih =>
    obtain ⟨hc, hrest⟩ := List.forall_mem_cons.mp h
    rw [List.flatMap_cons, List.append_assoc]
    exact (decodeLossy_cut_char hc [] _).trans (congrArg (c :: ·) (ih hrest))

/-- A word of ASCII is cut out of what stands around it. -/
theorem decodeLossy_around {word : List Char} (h : IsAscii word) (hne : word ≠ []) (xs ys : Bytes) :
    (decodeLossy (xs ++ (word.flatMap String.utf8EncodeChar ++ ys))).toList
      = (decodeLossy xs).toList ++ (word ++ (decodeLossy ys).toList) := by
  cases word with
  | nil => exact absurd rfl hne
  | cons c rest =>
    obtain ⟨hc, hrest⟩ := List.forall_mem_cons.mp h
    rw [List.flatMap_cons, List.append_assoc, decodeLossy_cut_char hc, decodeLossy_ascii hrest]
    rfl

/-! ## Lowering -/

/-- The front of a text does not change how the rest is lowered, beyond what stands before it. -/
theorem lowerFrom_append (before xs ys : List Char) :
    ∃ left, lowerFrom before (xs ++ ys) = left ++ lowerFrom (xs.reverse ++ before) ys := by
  induction xs generalizing before with
  | nil => exact ⟨[], rfl⟩
  | cons c rest ih =>
    obtain ⟨left, hleft⟩ := ih (c :: before)
    rw [List.cons_append, lowerFrom, hleft, List.reverse_cons, List.append_assoc,
      List.singleton_append]
    split
    · exact ⟨finalSigma :: left, rfl⟩
    · exact ⟨lowerImage c ++ left, (List.append_assoc ..).symm⟩

/-- The one letter that looks at its context is not of ASCII. -/
theorem lowerFrom_ascii {word : List Char} (h : IsAscii word) (before rest : List Char) :
    lowerFrom before (word ++ rest)
      = word.map Char.toLower ++ lowerFrom (word.reverse ++ before) rest := by
  induction word generalizing before with
  | nil => rfl
  | cons c word ih =>
    obtain ⟨hc, hword⟩ := List.forall_mem_cons.mp h
    have hsigma : c ≠ capitalSigma := by
      rintro rfl
      exact absurd hc (by decide)
    rw [List.cons_append, lowerFrom, if_neg fun hcontext => hsigma hcontext.1, lowerImage, if_pos hc,
      ih hword, List.reverse_cons, List.append_assoc, List.singleton_append]
    rfl

/-- An ASCII word is found, in lower case, in the lowered text around it. -/
theorem map_toLower_infix {word : List Char} (h : IsAscii word) (xs ys : List Char) :
    word.map Char.toLower <:+: lowerChars (xs ++ (word ++ ys)) := by
  obtain ⟨left, hleft⟩ := lowerFrom_append [] xs (word ++ ys)
  rw [lowerChars, hleft, lowerFrom_ascii h]
  exact ⟨left, _, List.append_assoc ..⟩

/-! ## Either case -/

/-- Only an ASCII character is lowered letter by letter to one. -/
theorem toNat_lt_of_toLower {c : Char} (h : c.toLower.toNat < 0x80) : c.toNat < 0x80 := by
  -- a capital letter is of ASCII itself, and all else stays as it is
  by_cases hupper : c.val ≥ 'A'.val ∧ c.val ≤ 'Z'.val
  · have hle : c.toNat ≤ 90 := hupper.2
    omega
  · have hsame : c.toLower = c := dif_neg hupper
    rwa [hsame] at h

/-- Words that are equal up to ASCII case have the same lower case. -/
theorem map_toLower_of_eqIgnoringAsciiCase {word needle : String}
    (h : eqIgnoringAsciiCase word needle = true) :
    word.toList.map Char.toLower = needle.toList.map Char.toLower := by
  have heq : lowerAscii word = lowerAscii needle := eq_of_beq h
  have hlists := congrArg String.toList heq
  rwa [lowerAscii, lowerAscii, String.toList_ofList, String.toList_ofList] at hlists

/-- A word that is an ASCII needle up to ASCII case is in ASCII itself. -/
theorem isAscii_of_eqIgnoringAsciiCase {word needle : String}
    (h : eqIgnoringAsciiCase word needle = true) (hneedle : IsAscii (needle.toList.map Char.toLower)) :
    IsAscii word.toList := by
  intro c hc
  have hmem : c.toLower ∈ word.toList.map Char.toLower := List.mem_map_of_mem hc
  rw [map_toLower_of_eqIgnoringAsciiCase h] at hmem
  exact toNat_lt_of_toLower (hneedle _ hmem)

end AdmissionGate.Text
