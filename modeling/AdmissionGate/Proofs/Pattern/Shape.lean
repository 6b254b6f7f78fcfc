import AdmissionGate.Pattern.Shape
import AdmissionGate.Proofs.Text.Language
import AdmissionGate.Proofs.Text.Lowered

/-!
# The shapes of values

The two shapes that parameters are held to, each said by itself: slugs as a language of characters, and
UUIDs by their octets. Slugs are looked at when their letters are lowered, which takes characters from
outside into ASCII; a chain of words is what can be spelled with letters of either case, digits and the
sign of the kelvin, and with nothing else (`lowerChars_mem_slug`).

* `isSlug_iff`, `isSlug_iff_spelling`: the texts that are slugs, by what they are lowered to and by
  themselves.
* `isUuid_iff`: the texts that are UUIDs.
-/

namespace AdmissionGate

open Text (oneOf textsOf between chain IsAscii LowersToAscii lowered kelvinSign lowerChars)
open scoped Computability

/-! ## Slugs -/

/-- What a slug consists of, besides the hyphens between its words. -/
def slugLetter : Language Char := between 'a' 'z' + between '0' '9'

/-- Words of lower-case letters and digits, with single hyphens between them. -/
def slug : Language Char := chain '-' (slugLetter * slugLetter∗)

/-- What the words of a slug can be spelled with. -/
def slugSpellingLetter : Language Char :=
  between 'a' 'z' + between 'A' 'Z' + between '0' '9' + oneOf (· == kelvinSign)

/-- What is spelled as a slug: the same with letters of either case and the Kelvin sign. -/
def slugSpelling : Language Char := chain '-' (slugSpellingLetter * slugSpellingLetter∗)

/-- A letter of either case, a digit or the sign of the kelvin. -/
def isSlugSpellingChar (c : Char) : Bool :=
  ('a' ≤ c && c ≤ 'z') || ('A' ≤ c && c ≤ 'Z') || ('0' ≤ c && c ≤ '9') || c == kelvinSign

/-- What a slug consists of is what the check lets through. -/
theorem slugLetter_eq : slugLetter = oneOf isSlugChar := Text.oneOf_add_oneOf

theorem slugSpellingLetter_eq : slugSpellingLetter = oneOf isSlugSpellingChar := by
  simp only [slugSpellingLetter, between, Text.oneOf_add_oneOf]
  rfl

section Letters

variable {c : Char}

/-- A slug is in ASCII once it is lowered. -/
theorem toNat_lt_of_isSlugChar (h : isSlugChar c = true) : c.toNat < 0x80 := by
  have hcase : c.isLower = true ∨ c.isDigit = true := Bool.or_eq_true_iff.mp h
  rcases hcase with h | h
  · have hle := of_decide_eq_true (Bool.and_eq_true_iff.mp h).2
    exact Nat.lt_of_le_of_lt hle (by decide)
  · have hle := of_decide_eq_true (Bool.and_eq_true_iff.mp h).2
    exact Nat.lt_of_le_of_lt hle (by decide)

/-- What a slug is spelled with has its lower case in ASCII. -/
theorem lowersToAscii_of_isSlugSpellingChar (h : isSlugSpellingChar c = true) :
    LowersToAscii c := by
  simp only [isSlugSpellingChar, Bool.or_eq_true, Bool.and_eq_true, decide_eq_true_eq,
    beq_iff_eq] at h
  rcases h with ((⟨-, h⟩ | ⟨-, h⟩) | ⟨-, h⟩) | h
  · exact .inl (Nat.lt_of_le_of_lt h (by decide))
  · exact .inl (Nat.lt_of_le_of_lt h (by decide))
  · exact .inl (Nat.lt_of_le_of_lt h (by decide))
  · exact .inr h

/-- Among these, lowering makes a hyphen of the hyphen only. -/
theorem lowered_eq_hyphen_iff (h : LowersToAscii c) : lowered c = '-' ↔ c = '-' := by
  rcases h with h | rfl
  · exact Text.forall_ascii (p := fun c => lowered c = '-' ↔ c = '-') (by decide +kernel) h
  · decide +kernel

/-- **What becomes a character of slugs by lowering**: those they are spelled with. -/
theorem isSlugChar_lowered (c : Char) : isSlugChar (lowered c) = isSlugSpellingChar c := by
  by_cases h : LowersToAscii c
  · rcases h with h | rfl
    · exact Text.forall_ascii (p := fun c => isSlugChar (lowered c) = isSlugSpellingChar c)
        (by decide +kernel) h
    · decide +kernel
  · rw [Bool.eq_false_iff.mpr fun hletter => h
        (Text.lowersToAscii_of_lowered (toNat_lt_of_isSlugChar hletter)),
      Bool.eq_false_iff.mpr fun hletter => h (lowersToAscii_of_isSlugSpellingChar hletter)]

end Letters

section Words

variable {p q : Char → Bool} {w : List Char}

/-- A chain of words is told by cutting it at the hyphens: no piece is empty, nor strays from the
class. -/
theorem mem_hyphened (hp : p '-' = false) :
    w ∈ chain '-' (oneOf p * (oneOf p)∗)
      ↔ ∀ word ∈ Text.splitAll '-' w, word ≠ [] ∧ ∀ c ∈ word, p c = true := by
  have hsep : ∀ word ∈ oneOf p * (oneOf p)∗, '-' ∉ word := by
    intro word hword hmem
    have hletter := (Text.mem_oneOf_mul_kstar.mp hword).2 '-' hmem
    rw [hp] at hletter
    exact absurd hletter Bool.false_ne_true
  simp only [Text.mem_chain hsep, Text.mem_oneOf_mul_kstar]

/-- A chain of words has only the characters of a class that includes theirs and the hyphen. -/
theorem forall_mem_of_hyphened (hq : q '-' = true) (hp : ∀ c, p c = true → q c = true)
    (hw : w ∈ chain '-' (oneOf p * (oneOf p)∗)) : ∀ c ∈ w, q c = true := by
  have hletter : oneOf p ≤ textsOf q := Text.oneOf_le_textsOf hp
  exact Text.chain_le_textsOf hq (Text.mul_le_textsOf hletter (Text.kstar_le_textsOf hletter)) hw

end Words

/-- The check is on the lowered text, which has to be a slug. -/
theorem isSlug_iff (value : String) : isSlug value = true ↔ lowerChars value.toList ∈ slug := by
  rw [slug, slugLetter_eq, mem_hyphened (by decide), isSlug, List.all_eq_true]
  simp

section Spelling

variable {cs : List Char}

/-- A text that becomes a slug has only characters whose lower case is in ASCII. -/
theorem lowersToAscii_of_mem_slug (h : lowerChars cs ∈ slug) : ∀ c ∈ cs, LowersToAscii c := by
  rw [slug, slugLetter_eq] at h
  have hascii : IsAscii (lowerChars cs) := fun c hc => of_decide_eq_true <|
    forall_mem_of_hyphened (q := fun c => decide (c.toNat < 0x80)) (by decide)
      (fun c hletter => decide_eq_true (toNat_lt_of_isSlugChar hletter)) h c hc
  exact Text.lowersToAscii_of_lowerFrom hascii

/-- A text that is spelled as a slug has only characters whose lower case is in ASCII. -/
theorem lowersToAscii_of_mem_slugSpelling (h : cs ∈ slugSpelling) : ∀ c ∈ cs, LowersToAscii c := by
  rw [slugSpelling, slugSpellingLetter_eq] at h
  exact fun c hc => of_decide_eq_true <|
    forall_mem_of_hyphened (q := fun c => decide (LowersToAscii c)) (by decide)
      (fun c hletter => decide_eq_true (lowersToAscii_of_isSlugSpellingChar hletter)) h c hc

/-- **The texts that lowering makes slugs of** are those that are spelled as slugs. -/
theorem lowerChars_mem_slug : lowerChars cs ∈ slug ↔ cs ∈ slugSpelling := by
  -- on either side lowering takes one character to one, and no other to a hyphen
  have hiff : (∀ c ∈ cs, LowersToAscii c) → (lowerChars cs ∈ slug ↔ cs ∈ slugSpelling) := by
    intro h
    rw [slug, slugSpelling, slugLetter_eq, slugSpellingLetter_eq, mem_hyphened (by decide),
      mem_hyphened (by decide), lowerChars, Text.lowerFrom_eq_map h,
      Text.splitAll_map fun c hc => lowered_eq_hyphen_iff (h c hc)]
    simp [isSlugChar_lowered]
  exact ⟨fun h => (hiff (lowersToAscii_of_mem_slug h)).mp h,
    fun h => (hiff (lowersToAscii_of_mem_slugSpelling h)).mpr h⟩

end Spelling

/-- The texts that pass the check are those that are spelled as slugs. -/
theorem isSlug_iff_spelling (value : String) :
    isSlug value = true ↔ value.toList ∈ slugSpelling := by
  rw [isSlug_iff, lowerChars_mem_slug]

/-- Whether a text is spelled as a slug is told by lowering it. -/
instance (value : String) : Decidable (value.toList ∈ slugSpelling) :=
  decidable_of_iff _ (isSlug_iff_spelling value)

/-! ## UUIDs -/

/-- 36 hexadecimal digits, but for the hyphens in four places. -/
structure HasUuidShape {α : Type} (hyphen : α) (digit : α → Prop) (xs : List α) : Prop where
  length : xs.length = 36
  hyphens : ∀ i x, xs[i]? = some x → (x = hyphen ↔ i = 8 ∨ i = 13 ∨ i = 18 ∨ i = 23)
  digits : ∀ x ∈ xs, x ≠ hyphen → digit x

/-- Octets of hexadecimal digits of either case. -/
def IsHexOctet (b : UInt8) : Prop :=
  (0x30 ≤ b ∧ b ≤ 0x39) ∨ (0x41 ≤ b ∧ b ≤ 0x46) ∨ (0x61 ≤ b ∧ b ≤ 0x66)

instance (b : UInt8) : Decidable (IsHexOctet b) := inferInstanceAs (Decidable (_ ∨ _))

/-- A map that takes hyphens to hyphens, digits to digits, and nothing else to either keeps the
shape. -/
theorem hasUuidShape_map {α β : Type} {f : α → β} {hyphen : α} {hyphen' : β} {digit : α → Prop}
    {digit' : β → Prop} {xs : List α} (hhyphen : ∀ x ∈ xs, f x = hyphen' ↔ x = hyphen)
    (hdigit : ∀ x ∈ xs, digit' (f x) ↔ digit x) :
    HasUuidShape hyphen' digit' (xs.map f) ↔ HasUuidShape hyphen digit xs := by
  constructor
  · rintro ⟨hlength, hhyphens, hdigits⟩
    refine ⟨by rwa [List.length_map] at hlength, fun i x hx => ?_, fun x hx hne => ?_⟩
    · rw [← hhyphen x (List.mem_of_getElem? hx)]
      exact hhyphens i (f x) (by rw [List.getElem?_map, hx]; rfl)
    · exact (hdigit x hx).mp (hdigits (f x) (List.mem_map_of_mem hx) fun heq =>
        hne ((hhyphen x hx).mp heq))
  · rintro ⟨hlength, hhyphens, hdigits⟩
    refine ⟨by rwa [List.length_map], fun i y hy => ?_, fun y hy hne => ?_⟩
    · rw [List.getElem?_map, Option.map_eq_some_iff] at hy
      obtain ⟨x, hx, rfl⟩ := hy
      rw [hhyphen x (List.mem_of_getElem? hx)]
      exact hhyphens i x hx
    · obtain ⟨x, hx, rfl⟩ := List.mem_map.mp hy
      exact (hdigit x hx).mpr (hdigits x hx fun heq => hne ((hhyphen x hx).mpr heq))

section Places

variable {cs : List Char}

/-- What the check asks of a character in its place. -/
theorem uuidPlace_iff (c : Char) (i : Nat) :
    (if uuidHyphens.contains i = true then c == '-' else isHexDigit c) = true
      ↔ (c = '-' ↔ i = 8 ∨ i = 13 ∨ i = 18 ∨ i = 23) ∧ (c ≠ '-' → isHexDigit c = true) := by
  have hplace : uuidHyphens.contains i = true ↔ i = 8 ∨ i = 13 ∨ i = 18 ∨ i = 23 := by
    simp [uuidHyphens]
  have hhyphen : isHexDigit '-' = false := by decide
  rw [← hplace]
  split
  · next h =>
    rw [beq_iff_eq]
    exact ⟨fun hc => ⟨iff_of_true hc h, fun hne => absurd hc hne⟩, fun hc => hc.1.mpr h⟩
  · next h =>
    refine ⟨fun hdigit => ⟨iff_of_false (fun hc => ?_) h, fun _ => hdigit⟩,
      fun hc => hc.2 fun heq => h (hc.1.mp heq)⟩
    rw [hc, hhyphen] at hdigit
    cases hdigit

/-- The check by characters: the shape, in as many octets as characters. -/
theorem isUuid_iff_chars (value : String) : isUuid value = true ↔
    value.utf8ByteSize = 36 ∧ HasUuidShape '-' (isHexDigit · = true) value.toList := by
  simp only [isUuid, Bool.and_eq_true, beq_iff_eq, List.all_eq_true, Prod.forall,
    List.mem_zipIdx_iff_getElem?, uuidPlace_iff, and_assoc]
  refine and_congr_right fun _ => ⟨fun ⟨hlength, hall⟩ => ?_, fun h => ?_⟩
  · refine ⟨hlength, fun i c hc => (hall c i hc).1, fun c hc => ?_⟩
    obtain ⟨i, hi⟩ := List.getElem?_of_mem hc
    exact (hall c i hi).2
  · exact ⟨h.length, fun c i hc => ⟨h.hyphens i c hc, h.digits c (List.mem_of_getElem? hc)⟩⟩

theorem toNat_lt_of_isHexDigit {c : Char} (h : isHexDigit c = true) : c.toNat < 0x80 := by
  simp only [isHexDigit, Char.isDigit, Bool.or_eq_true, Bool.and_eq_true, decide_eq_true_eq] at h
  rcases h with (⟨-, h⟩ | ⟨-, h⟩) | ⟨-, h⟩
  · exact Nat.lt_of_le_of_lt h (by decide)
  · exact Nat.lt_of_le_of_lt h (by decide)
  · exact Nat.lt_of_le_of_lt h (by decide)

theorem toNat_lt_of_isHexOctet {b : UInt8} (h : IsHexOctet b) : b.toNat < 0x80 := by
  rcases h with ⟨-, h⟩ | ⟨-, h⟩ | ⟨-, h⟩
  · exact Nat.lt_of_le_of_lt h (by decide)
  · exact Nat.lt_of_le_of_lt h (by decide)
  · exact Nat.lt_of_le_of_lt h (by decide)

theorem HasUuidShape.isAscii (h : HasUuidShape '-' (isHexDigit · = true) cs) : IsAscii cs := by
  intro c hc
  by_cases hhyphen : c = '-'
  · rw [hhyphen]
    decide
  · exact toNat_lt_of_isHexDigit (h.digits c hc hhyphen)

/-- A text whose octets have the shape is in ASCII. -/
theorem HasUuidShape.isAscii_of_encode {value : String}
    (h : HasUuidShape 0x2D IsHexOctet (Text.encode value)) : IsAscii value.toList := by
  refine Text.isAscii_of_encode fun b hb => ?_
  by_cases hhyphen : b = 0x2D
  · rw [hhyphen]
    decide
  · exact toNat_lt_of_isHexOctet (h.digits b hb hhyphen)

theorem octetOf_eq_hyphen_iff {c : Char} (h : c.toNat < 0x80) :
    UInt8.ofNat c.toNat = 0x2D ↔ c = '-' :=
  Text.forall_ascii (p := fun c => UInt8.ofNat c.toNat = 0x2D ↔ c = '-') (by decide +kernel) h

theorem isHexOctet_octetOf {c : Char} (h : c.toNat < 0x80) :
    IsHexOctet (UInt8.ofNat c.toNat) ↔ isHexDigit c = true :=
  Text.forall_ascii (p := fun c => IsHexOctet (UInt8.ofNat c.toNat) ↔ isHexDigit c = true)
    (by decide +kernel) h

/-- On ASCII, characters and octets have the shape together. -/
theorem hasUuidShape_octets (h : IsAscii cs) :
    HasUuidShape 0x2D IsHexOctet (cs.flatMap String.utf8EncodeChar)
      ↔ HasUuidShape '-' (isHexDigit · = true) cs := by
  rw [Text.flatMap_utf8EncodeChar_ascii h]
  exact hasUuidShape_map (fun c hc => octetOf_eq_hyphen_iff (h c hc))
    fun c hc => isHexOctet_octetOf (h c hc)

/-- **The texts that are UUIDs**, by the octets that they are sent as. -/
theorem isUuid_iff (value : String) :
    isUuid value = true ↔ HasUuidShape 0x2D IsHexOctet (Text.encode value) := by
  rw [isUuid_iff_chars]
  constructor
  · rintro ⟨-, h⟩
    exact (hasUuidShape_octets h.isAscii).mpr h
  · intro h
    exact ⟨(Text.length_encode value).symm.trans h.length,
      (hasUuidShape_octets h.isAscii_of_encode).mp h⟩

end Places

/-- Whether a text has the shape of a UUID is told by looking at its characters. -/
instance (value : String) : Decidable (HasUuidShape 0x2D IsHexOctet (Text.encode value)) :=
  decidable_of_iff _ (isUuid_iff value)

end AdmissionGate
