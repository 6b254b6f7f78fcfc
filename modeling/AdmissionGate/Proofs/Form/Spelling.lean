import AdmissionGate.Form
import AdmissionGate.Proofs.Text.Split
import AdmissionGate.Proofs.Text.Utf8

/-!
# The spellings of a list of pairs

A list of keys and values has many form-encoded spellings: a character may stand for itself or be
written octet by octet, digits of either case may be used, and a space has a sign of its own
(`SpellsPairs`). Whatever the spelling, reading gives the pairs back (`pairs_of_spells`). The reason is
that a spelling of one text never holds a sign that cuts a form, and that each spelled character is
undone by itself, whatever follows it.
-/

namespace AdmissionGate.Form

open Text (Bytes)

/-! ## Spellings -/

/-- The members of a list are spelled one after the other. -/
inductive InTurn {α : Type} (spells : α → List Char → Prop) : List α → List Char → Prop where
  | nil : InTurn spells [] []
  | cons {a : α} {as : List α} {cs ds : List Char} (h : spells a cs) (hs : InTurn spells as ds) :
      InTurn spells (a :: as) (cs ++ ds)

/-- The hexadecimal digit of a number, in either case. -/
def SpellsDigit (n : Nat) (c : Char) : Prop :=
  c = Nat.digitChar n ∨ c = (Nat.digitChar n).toUpper

/-- A percent sign and the two digits of an octet. -/
def SpellsOctet (b : UInt8) (cs : List Char) : Prop :=
  ∃ high low, cs = ['%', high, low] ∧ SpellsDigit (b.toNat / 16) high ∧ SpellsDigit (b.toNat % 16) low

/-- A character as itself, a space as a plus sign, or any character octet by octet. -/
inductive SpellsChar : Char → List Char → Prop where
  | literal {c : Char} (h : c ∉ ['&', '=', '+', '%', ' ']) : SpellsChar c [c]
  | plus : SpellsChar ' ' ['+']
  | escaped {c : Char} {cs : List Char} (h : InTurn SpellsOctet (String.utf8EncodeChar c) cs) :
      SpellsChar c cs

/-- A text is spelled character by character. -/
def SpellsText (s : String) (cs : List Char) : Prop := InTurn SpellsChar s.toList cs

/-- A pair is spelled by its key, an equals sign and its value. -/
def SpellsPair (p : String × String) (cs : List Char) : Prop :=
  ∃ key value, SpellsText p.1 key ∧ SpellsText p.2 value ∧ cs = key ++ '=' :: value

/-- Pairs with a sign between each two of them. -/
inductive SpellsPairs : List (String × String) → List Char → Prop where
  | nil : SpellsPairs [] []
  | one {p : String × String} {cs : List Char} (h : SpellsPair p cs) : SpellsPairs [p] cs
  | more {p q : String × String} {ps : List (String × String)} {cs ds : List Char}
      (h : SpellsPair p cs) (hs : SpellsPairs (q :: ps) ds) :
      SpellsPairs (p :: q :: ps) (cs ++ '&' :: ds)

/-! ## Percent signs -/

/-- An octet that starts no escape stands for itself. -/
theorem percentDecode_cons {b : UInt8} {rest : Bytes}
    (h : b = 0x25 → ∀ high low tail, rest = high :: low :: tail → hexPair? high low = none) :
    percentDecode (b :: rest) = b :: percentDecode rest := by
  rw [percentDecode.eq_def]
  split
  · next high low tail heq =>
    obtain ⟨rfl, rfl⟩ := List.cons_eq_cons.mp heq
    rw [h rfl high low tail rfl]
  · next heq =>
    obtain ⟨rfl, rfl⟩ := List.cons_eq_cons.mp heq
    rfl
  · next heq => cases heq

theorem percentDecode_cons_of_ne {b : UInt8} (h : b ≠ 0x25) (rest : Bytes) :
    percentDecode (b :: rest) = b :: percentDecode rest :=
  percentDecode_cons fun heq => absurd heq h

/-- An escape stands for the octet whose two digits it has. -/
theorem percentDecode_escape {high low b : UInt8} (h : hexPair? high low = some b) (rest : Bytes) :
    percentDecode (0x25 :: high :: low :: rest) = b :: percentDecode rest := by
  rw [percentDecode, h]

/-! ## Undoing a spelling -/

/-- The octets of some characters, with spaces in the place of plus signs. -/
def spaced (cs : List Char) : Bytes := (cs.flatMap String.utf8EncodeChar).map plusToSpace

/-- Pluses stand for spaces wherever they are. -/
theorem spaced_append (cs ds : List Char) : spaced (cs ++ ds) = spaced cs ++ spaced ds := by
  rw [spaced, List.flatMap_append, List.map_append]
  rfl

/-- A spelling stands for some octets, whatever follows it. -/
def Undone (cs : List Char) (bs : Bytes) : Prop :=
  ∀ rest, percentDecode (spaced cs ++ rest) = bs ++ percentDecode rest

/-- What is spelled part by part is undone part by part. -/
theorem undone_inTurn {α : Type} {spells : α → List Char → Prop} (octets : α → Bytes)
    (h : ∀ a cs, spells a cs → Undone cs (octets a)) {as : List α} {cs : List Char}
    (hs : InTurn spells as cs) : Undone cs (as.flatMap octets) := by
  induction hs with
  | nil => exact fun _ => rfl
  | cons ha _ ih =>
    intro rest
    rw [spaced_append, List.append_assoc, h _ _ ha, ih rest, List.flatMap_cons, List.append_assoc]

/-- A digit is one octet, which stands for the number. -/
theorem spaced_digit {n : Nat} {c : Char} (hn : n < 16) (h : SpellsDigit n c) :
    spaced [c] = [UInt8.ofNat c.toNat] ∧ hexValue? (UInt8.ofNat c.toNat) = some (UInt8.ofNat n) := by
  have hdigits : ∀ m < 16, [Nat.digitChar m, (Nat.digitChar m).toUpper].all (fun c =>
      spaced [c] = [UInt8.ofNat c.toNat] ∧ hexValue? (UInt8.ofNat c.toNat) = some (UInt8.ofNat m)) := by
    decide
  have hall := List.all_eq_true.mp (hdigits n hn) c (by simpa [SpellsDigit] using h)
  exact of_decide_eq_true hall

/-- **Decoding undoes the spelling of an octet**, whatever comes next. -/
theorem undone_octet {b : UInt8} {cs : List Char} (h : SpellsOctet b cs) : Undone cs [b] := by
  obtain ⟨high, low, rfl, hhigh, hlow⟩ := h
  have hb := b.toNat_lt
  obtain ⟨hspacedHigh, hvalueHigh⟩ := spaced_digit (by omega) hhigh
  obtain ⟨hspacedLow, hvalueLow⟩ := spaced_digit (by omega) hlow
  have hspaced : spaced ['%', high, low]
      = [0x25, UInt8.ofNat high.toNat, UInt8.ofNat low.toNat] := by
    rw [show ['%', high, low] = ['%'] ++ ([high] ++ [low]) from rfl, spaced_append, spaced_append,
      hspacedHigh, hspacedLow]
    rfl
  have hpair : hexPair? (UInt8.ofNat high.toNat) (UInt8.ofNat low.toNat) = some b := by
    rw [hexPair?, hvalueHigh, hvalueLow]
    refine congrArg some (UInt8.toNat_inj.mp ?_)
    simp only [UInt8.toNat_add, UInt8.toNat_mul, UInt8.toNat_ofNat', UInt8.reduceToNat]
    omega
  intro rest
  rw [hspaced]
  exact percentDecode_escape hpair rest

/-- Without percent signs there is nothing to undo. -/
theorem percentDecode_append_of_plain {bs : Bytes} (h : 0x25 ∉ bs) (rest : Bytes) :
    percentDecode (bs ++ rest) = bs ++ percentDecode rest := by
  induction bs with
  | nil => rfl
  | cons b bs ih =>
    rw [List.mem_cons, not_or] at h
    rw [List.cons_append, percentDecode_cons_of_ne (Ne.symm h.1), ih h.2, List.cons_append]

theorem undone_char {c : Char} {cs : List Char} (h : SpellsChar c cs) :
    Undone cs (String.utf8EncodeChar c) := by
  cases h with
  | literal hc =>
    have hplus : '+' ∉ [c] := by
      rintro hmem
      obtain rfl := List.mem_singleton.mp hmem
      exact hc (by decide)
    have hpercent : '%' ∉ [c] := by
      rintro hmem
      obtain rfl := List.mem_singleton.mp hmem
      exact hc (by decide)
    have hspaced : spaced [c] = String.utf8EncodeChar c := by
      have hsame : ∀ b ∈ [c].flatMap String.utf8EncodeChar, plusToSpace b = id b := by
        rintro b hb
        have hne : b ≠ 0x2B := by
          rintro rfl
          exact Text.notMem_encode (by decide) hplus hb
        exact if_neg hne
      rw [spaced, List.map_congr_left hsame, List.map_id, List.flatMap_singleton]
    intro rest
    rw [hspaced]
    refine percentDecode_append_of_plain ?_ rest
    have hnone := Text.notMem_encode (by decide) hpercent
    rwa [List.flatMap_singleton] at hnone
  | plus => exact fun rest => percentDecode_cons_of_ne (by decide) rest
  | escaped h =>
    have hundone := undone_inTurn (fun b => [b]) (fun _ _ => undone_octet) h
    rwa [List.flatMap_singleton'] at hundone

/-- The octets of some characters, read as one component, are the text that is spelled. -/
theorem component_of_spells {s : String} {cs : List Char} (h : SpellsText s cs) :
    component (cs.flatMap String.utf8EncodeChar) = s := by
  have hundone : Undone cs (Text.encode s) :=
    undone_inTurn String.utf8EncodeChar (fun _ _ => undone_char) h
  have hdecode : percentDecode (spaced cs) = Text.encode s := by
    have hwhole := hundone []
    rwa [List.append_nil, percentDecode, List.append_nil] at hwhole
  show Text.decodeLossy (percentDecode (spaced cs)) = s
  rw [hdecode, Text.decodeLossy_encode]

/-! ## Cutting a spelling -/

/-- The signs at which a form is cut. -/
def cuts : List Char := ['&', '=']

/-- A character that no part is spelled with is not in the whole either. -/
theorem notMem_inTurn {α : Type} {spells : α → List Char → Prop} {d : Char}
    (h : ∀ a cs, spells a cs → d ∉ cs) {as : List α} {cs : List Char} (hs : InTurn spells as cs) :
    d ∉ cs := by
  induction hs with
  | nil => exact List.not_mem_nil
  | cons ha _ ih =>
    rw [List.mem_append, not_or]
    exact ⟨h _ _ ha, ih⟩

/-- No octet is spelled with a sign at which forms are cut. -/
theorem notMem_octet {d : Char} (hd : d ∈ cuts) {b : UInt8} {cs : List Char}
    (h : SpellsOctet b cs) : d ∉ cs := by
  have hdigits : ∀ n < 16, Nat.digitChar n ∉ cuts ∧ (Nat.digitChar n).toUpper ∉ cuts := by
    decide
  have hdigit : ∀ {n : Nat} {c : Char}, n < 16 → SpellsDigit n c → d ≠ c := by
    rintro n c hn (hc | hc) rfl
    · exact (hdigits n hn).1 (hc ▸ hd)
    · exact (hdigits n hn).2 (hc ▸ hd)
  have hb := b.toNat_lt
  obtain ⟨high, low, rfl, hhigh, hlow⟩ := h
  have hpercent : d ≠ '%' := by
    rintro rfl
    exact absurd hd (by decide)
  simp [hpercent, hdigit (by omega) hhigh, hdigit (by omega) hlow]

theorem notMem_char {d : Char} (hd : d ∈ cuts) {c : Char} {cs : List Char} (h : SpellsChar c cs) :
    d ∉ cs := by
  cases h with
  | literal hc =>
    intro hmem
    obtain rfl := List.mem_singleton.mp hmem
    have hlisted : ∀ d ∈ cuts, d ∈ ['&', '=', '+', '%', ' '] := by simp [cuts]
    exact hc (hlisted d hd)
  | plus =>
    have hplus : '+' ∉ cuts := by decide
    intro hmem
    exact hplus (List.mem_singleton.mp hmem ▸ hd)
  | escaped h => exact notMem_inTurn (fun _ _ => notMem_octet hd) h

theorem notMem_text {d : Char} (hd : d ∈ cuts) {s : String} {cs : List Char} (h : SpellsText s cs) :
    d ∉ cs :=
  notMem_inTurn (fun _ _ => notMem_char hd) h

/-- A pair is read back from its spelling, which the form is not cut in. -/
theorem pair_of_spells {p : String × String} {cs : List Char} (h : SpellsPair p cs) :
    0x26 ∉ cs.flatMap String.utf8EncodeChar ∧ cs.flatMap String.utf8EncodeChar ≠ [] ∧
      pair (cs.flatMap String.utf8EncodeChar) = p := by
  obtain ⟨key, value, hkey, hvalue, rfl⟩ := h
  have hsplit : (key ++ '=' :: value).flatMap String.utf8EncodeChar
      = key.flatMap String.utf8EncodeChar ++ 0x3D :: value.flatMap String.utf8EncodeChar := by
    rw [List.flatMap_append, List.flatMap_cons]
    rfl
  have hkeyEquals : 0x3D ∉ key.flatMap String.utf8EncodeChar :=
    Text.notMem_encode (d := '=') (by decide) (notMem_text (by decide) hkey)
  refine ⟨?_, ?_, ?_⟩
  · refine Text.notMem_encode (d := '&') (by decide) ?_
    simp [notMem_text (d := '&') (by decide) hkey, notMem_text (d := '&') (by decide) hvalue]
  · rw [hsplit]
    simp
  · rw [hsplit, pair, Text.splitFirst_append_cons hkeyEquals]
    exact Prod.ext (component_of_spells hkey) (component_of_spells hvalue)

/-- **Whatever the spelling, the pairs are read as they are.** -/
theorem pairs_of_spells {ps : List (String × String)} {cs : List Char} (h : SpellsPairs ps cs) :
    pairs (Text.encode (String.ofList cs)) = ps := by
  rw [Text.encode_ofList]
  induction h with
  | nil => rfl
  | one h =>
    obtain ⟨hcut, hne, hpair⟩ := pair_of_spells h
    rw [pairs, Text.splitAll_of_notMem hcut]
    simp [hne, hpair]
  | @more p q ps cs ds h _ ih =>
    obtain ⟨hcut, hne, hpair⟩ := pair_of_spells h
    have hsplit : (cs ++ '&' :: ds).flatMap String.utf8EncodeChar
        = cs.flatMap String.utf8EncodeChar ++ 0x26 :: ds.flatMap String.utf8EncodeChar := by
      rw [List.flatMap_append, List.flatMap_cons]
      rfl
    rw [hsplit, pairs, Text.splitAll_append_cons, Text.splitAll_of_notMem hcut]
    rw [pairs] at ih
    simp [hne, hpair, ih]

end AdmissionGate.Form
