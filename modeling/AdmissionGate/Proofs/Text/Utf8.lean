import AdmissionGate.Text.Utf8

/-!
# UTF-8

What is written as UTF-8 is read as it was, and every text can be cut at an ASCII octet: whatever
stands before it, the octet is a character of its own.

* `units_encode`, `decodeLossy_encode`: reading what was written.
* `mem_utf8EncodeChar`: an ASCII octet comes from its character alone.
* `decodeLossy_cut`: the two sides of an ASCII octet are read each on its own.
* `encode_lt`: texts are in the order of what is written for them.
-/

namespace AdmissionGate.Text

namespace Utf8

/-! ## Reading one character -/

/-- An octet in the range that is expected adds six bits, and the next may be any continuation. -/
theorem extend_ofNat {owed low high value n : Nat} (hn : n < 256) (hlow : low ≤ n) (hhigh : n ≤ high) :
    Pending.extend ⟨owed, low, high, value⟩ (UInt8.ofNat n)
      = some ⟨owed - 1, 0x80, 0xBF, value * 64 + (n - 0x80)⟩ := by
  rw [Pending.extend, UInt8.toNat_ofNat_of_lt' hn, if_pos ⟨hlow, hhigh⟩]

/-- An octet that is not the last one of its character is taken in. -/
theorem unitsFrom_more {owed low high value n : Nat} (howed : 1 < owed) (hn : n < 256)
    (hlow : low ≤ n) (hhigh : n ≤ high) (rest : Bytes) :
    unitsFrom (some ⟨owed, low, high, value⟩) (UInt8.ofNat n :: rest)
      = unitsFrom (some ⟨owed - 1, 0x80, 0xBF, value * 64 + (n - 0x80)⟩) rest := by
  have hmore : ¬ owed - 1 = 0 := by omega
  rw [unitsFrom, extend_ofNat hn hlow hhigh]
  exact if_neg hmore

theorem unitsFrom_last {low high value n : Nat} (hn : n < 256) (hlow : low ≤ n) (hhigh : n ≤ high)
    (rest : Bytes) :
    unitsFrom (some ⟨1, low, high, value⟩) (UInt8.ofNat n :: rest)
      = some (Char.ofNat (value * 64 + (n - 0x80))) :: unitsFrom none rest := by
  rw [unitsFrom, extend_ofNat hn hlow hhigh]
  rfl

/-- An ASCII octet is a character by itself. -/
theorem unitsFrom_ascii {b : UInt8} (h : b.toNat < 0x80) (rest : Bytes) :
    unitsFrom none (b :: rest) = some (Char.ofNat b.toNat) :: unitsFrom none rest := by
  rw [unitsFrom, lead, if_pos h]

/-- The octets that open a character of two. -/
theorem lead_two {n : Nat} (hlow : 0xC2 ≤ n) (hhigh : n < 0xE0) :
    lead (UInt8.ofNat n) = .opens ⟨1, 0x80, 0xBF, n - 0xC0⟩ := by
  have hn : (UInt8.ofNat n).toNat = n := UInt8.toNat_ofNat_of_lt' (show n < 256 by omega)
  rw [lead, hn, if_neg (by omega), if_neg (by omega), if_pos hhigh]

/-- The second of three octets has bounds of its own after two of the first octets. -/
theorem lead_three {n : Nat} (hlow : 0xE0 ≤ n) (hhigh : n < 0xF0) :
    lead (UInt8.ofNat n) = .opens ⟨2, if n = 0xE0 then 0xA0 else 0x80,
      if n = 0xED then 0x9F else 0xBF, n - 0xE0⟩ := by
  have hn : (UInt8.ofNat n).toNat = n := UInt8.toNat_ofNat_of_lt' (show n < 256 by omega)
  rw [lead, hn, if_neg (by omega), if_neg (by omega), if_neg (by omega)]
  by_cases hfirst : n = 0xE0
  · subst hfirst
    rfl
  · by_cases hsurrogate : n = 0xED
    · subst hsurrogate
      rfl
    · rw [if_neg hfirst, if_neg hsurrogate, if_pos hhigh, if_neg hfirst, if_neg hsurrogate]

/-- The octets that open a character of four: the range of the next keeps it within Unicode. -/
theorem lead_four {n : Nat} (hlow : 0xF0 ≤ n) (hhigh : n < 0xF5) :
    lead (UInt8.ofNat n) = .opens ⟨3, if n = 0xF0 then 0x90 else 0x80,
      if n = 0xF4 then 0x8F else 0xBF, n - 0xF0⟩ := by
  have hn : (UInt8.ofNat n).toNat = n := UInt8.toNat_ofNat_of_lt' (show n < 256 by omega)
  rw [lead, hn, if_neg (by omega), if_neg (by omega), if_neg (by omega), if_neg (by omega),
    if_neg (by omega), if_neg (by omega)]
  by_cases hfirst : n = 0xF0
  · subst hfirst
    rfl
  · by_cases hlast : n = 0xF4
    · subst hlast
      rfl
    · rw [if_neg hfirst, if_pos (by omega), if_neg hfirst, if_neg hlast]

theorem unitsFrom_opens {b : UInt8} {p : Pending} (h : lead b = .opens p) (rest : Bytes) :
    unitsFrom none (b :: rest) = unitsFrom (some p) rest := by
  rw [unitsFrom, h]

/-- What is written for a character is read as this character. -/
theorem unitsFrom_encodeChar (c : Char) (rest : Bytes) :
    unitsFrom none (String.utf8EncodeChar c ++ rest) = some c :: unitsFrom none rest := by
  have hvalid : c.val.toNat < 0xD800 ∨ (0xDFFF < c.val.toNat ∧ c.val.toNat < 0x110000) := c.valid
  have hback : Char.ofNat c.val.toNat = c := Char.ofNat_toNat c
  simp only [String.utf8EncodeChar]
  generalize c.val.toNat = v at hvalid hback
  split
  · next hone =>
    have hv : (UInt8.ofNat v).toNat = v := UInt8.toNat_ofNat_of_lt' (show v < 256 by omega)
    rw [List.singleton_append, unitsFrom_ascii (by omega), hv, hback]
  split
  · next hone htwo =>
    have hlead := lead_two (n := v / 64 % 32 + 192) (by omega) (by omega)
    have hvalue : (v / 64 % 32 + 192 - 0xC0) * 64 + (v % 64 + 128 - 0x80) = v := by omega
    simp only [List.cons_append, List.nil_append]
    rw [unitsFrom_opens hlead, unitsFrom_last (by omega) (by omega) (by omega), hvalue, hback]
  split
  · next hone htwo hthree =>
    have hlead := lead_three (n := v / 4096 % 16 + 224) (by omega) (by omega)
    have hvalue : ((v / 4096 % 16 + 224 - 0xE0) * 64 + (v / 64 % 64 + 128 - 0x80)) * 64
        + (v % 64 + 128 - 0x80) = v := by omega
    simp only [List.cons_append, List.nil_append]
    -- overlong forms and surrogates are what the bounds on the second octet leave out
    have hlow : (if v / 4096 % 16 + 224 = 0xE0 then 0xA0 else 0x80) ≤ v / 64 % 64 + 128 := by
      split <;> omega
    have hhigh : v / 64 % 64 + 128 ≤ if v / 4096 % 16 + 224 = 0xED then 0x9F else 0xBF := by
      split <;> omega
    rw [unitsFrom_opens hlead, unitsFrom_more (by omega) (by omega) hlow hhigh,
      unitsFrom_last (by omega) (by omega) (by omega), hvalue, hback]
  · next hone htwo hthree =>
    have hlead := lead_four (n := v / 262144 % 8 + 240) (by omega) (by omega)
    have hvalue : (((v / 262144 % 8 + 240 - 0xF0) * 64 + (v / 4096 % 64 + 128 - 0x80)) * 64
        + (v / 64 % 64 + 128 - 0x80)) * 64 + (v % 64 + 128 - 0x80) = v := by omega
    simp only [List.cons_append, List.nil_append]
    have hlow : (if v / 262144 % 8 + 240 = 0xF0 then 0x90 else 0x80) ≤ v / 4096 % 64 + 128 := by
      split <;> omega
    have hhigh : v / 4096 % 64 + 128 ≤ if v / 262144 % 8 + 240 = 0xF4 then 0x8F else 0xBF := by
      split <;> omega
    rw [unitsFrom_opens hlead, unitsFrom_more (by omega) (by omega) hlow hhigh,
      unitsFrom_more (by omega) (by omega) (by omega) (by omega),
      unitsFrom_last (by omega) (by omega) (by omega), hvalue, hback]

/-! ## Cutting at an ASCII octet -/

/-- No sequence that is not complete goes on with an ASCII octet. -/
def Pending.IsAboveAscii (p : Pending) : Prop := 0x80 ≤ p.low

/-- An octet that opens a character asks for octets beyond ASCII. -/
theorem isAboveAscii_of_lead {b : UInt8} {p : Pending} (h : lead b = .opens p) :
    p.IsAboveAscii := by
  simp only [lead] at h
  repeat' split at h
  all_goals
    cases h
    try exact Nat.le_of_ble_eq_true rfl

theorem isAboveAscii_of_extend {p q : Pending} {b : UInt8} (h : p.extend b = some q) :
    q.IsAboveAscii := by
  obtain ⟨-, h⟩ := Option.ite_none_right_eq_some.mp h
  cases h
  exact Nat.le_refl 0x80

/-- An ASCII octet ends whatever was being read before it, and starts anew. -/
theorem unitsFrom_cut {b : UInt8} (hb : b.toNat < 0x80) (xs ys : Bytes) {p? : Option Pending}
    (hp : ∀ p, p? = some p → p.IsAboveAscii) :
    unitsFrom p? (xs ++ b :: ys)
      = unitsFrom p? xs ++ some (Char.ofNat b.toNat) :: unitsFrom none ys := by
  have hnone : ∀ {p : Pending}, p.IsAboveAscii → p.extend b = none := by
    intro p habove
    rw [Pending.extend]
    exact if_neg fun h => absurd (Nat.le_trans habove h.1) (Nat.not_le.mpr hb)
  have hlead : lead b = .char (Char.ofNat b.toNat) := by rw [lead, if_pos hb]
  fun_induction unitsFrom p? xs with
  | case1 => exact unitsFrom_ascii hb ys
  | case2 p =>
    rw [List.nil_append, unitsFrom, hnone (hp p rfl), hlead]
    rfl
  | case3 b' rest c hc ih =>
    rw [List.cons_append, unitsFrom, hc, List.cons_append]
    exact congrArg _ (ih nofun)
  | case4 b' rest q hq ih =>
    rw [List.cons_append, unitsFrom, hq]
    refine ih fun p heq => ?_
    cases heq
    exact isAboveAscii_of_lead hq
  | case5 b' rest hb' ih =>
    rw [List.cons_append, unitsFrom, hb', List.cons_append]
    exact congrArg _ (ih nofun)
  | case6 p b' rest q hq howed ih =>
    rw [List.cons_append, unitsFrom, hq]
    simp only [howed, if_true, List.cons_append]
    exact congrArg _ (ih nofun)
  | case7 p b' rest q hq howed ih =>
    rw [List.cons_append, unitsFrom, hq]
    simp only [howed, if_false]
    refine ih fun p heq => ?_
    cases heq
    exact isAboveAscii_of_extend hq
  | case8 p b' rest hq c hc ih =>
    rw [List.cons_append, unitsFrom, hq, hc]
    simp only [List.cons_append]
    rw [ih nofun]
  | case9 p b' rest hq q hb' ih =>
    rw [List.cons_append, unitsFrom, hq, hb']
    simp only [List.cons_append]
    rw [ih]
    intro p heq
    cases heq
    exact isAboveAscii_of_lead hb'
  | case10 p b' rest hq hb' ih =>
    rw [List.cons_append, unitsFrom, hq, hb']
    simp only [List.cons_append]
    rw [ih nofun]

end Utf8

/-! ## Texts -/

/-- A text is encoded character by character. -/
theorem encode_ofList (cs : List Char) :
    encode (String.ofList cs) = cs.flatMap String.utf8EncodeChar := by
  rw [encode, String.toList_ofList]

theorem length_encode (s : String) : (encode s).length = s.utf8ByteSize := by
  rw [← String.size_toByteArray, ← String.utf8Encode_toList, List.utf8Encode, List.size_toByteArray,
    encode]

/-- **Decoding what was encoded gives every character back**, and no faulty unit. -/
theorem units_encode (s : String) : Utf8.units (encode s) = s.toList.map some := by
  rw [encode, Utf8.units]
  induction s.toList with
  | nil => rfl
  | cons c cs ih =>
    rw [List.flatMap_cons, Utf8.unitsFrom_encodeChar, ih, List.map_cons]

/-- Nothing is lost on a text that was encoded. -/
theorem decodeLossy_encode (s : String) : decodeLossy (encode s) = s := by
  rw [decodeLossy, units_encode, List.map_map]
  exact (congrArg String.ofList (List.map_id _)).trans (String.ofList_toList)

theorem utf8EncodeChar_ascii {c : Char} (h : c.toNat < 0x80) :
    String.utf8EncodeChar c = [UInt8.ofNat c.toNat] :=
  if_pos (Nat.le_of_lt_succ h)

/-- An ASCII octet comes from its character alone; every octet of any other character is above. -/
theorem mem_utf8EncodeChar {c : Char} {b : UInt8} (h : b ∈ String.utf8EncodeChar c)
    (hb : b.toNat < 0x80) : c.toNat = b.toNat := by
  by_cases hc : c.toNat < 0x80
  · rw [utf8EncodeChar_ascii hc] at h
    obtain rfl := List.mem_singleton.mp h
    exact (UInt8.toNat_ofNat_of_lt' (show c.toNat < 256 by omega)).symm
  · -- the other octets are sums with 128 or more
    have hnot : ¬ c.val.toNat ≤ 127 := fun hle => hc (Nat.lt_succ_of_le hle)
    have habove : ∀ n, 128 ≤ n → n < 256 → b ≠ UInt8.ofNat n := by
      rintro n hlow hhigh rfl
      rw [UInt8.toNat_ofNat_of_lt' hhigh] at hb
      omega
    simp only [String.utf8EncodeChar, if_neg hnot] at h
    split at h
    · simp only [List.mem_cons, List.not_mem_nil, or_false] at h
      rcases h with h | h <;> exact absurd h (habove _ (by omega) (by omega))
    split at h
    · simp only [List.mem_cons, List.not_mem_nil, or_false] at h
      rcases h with h | h | h <;> exact absurd h (habove _ (by omega) (by omega))
    · simp only [List.mem_cons, List.not_mem_nil, or_false] at h
      rcases h with h | h | h | h <;> exact absurd h (habove _ (by omega) (by omega))

/-- An ASCII octet stands in an encoded text only for its own character. -/
theorem notMem_encode {cs : List Char} {d : Char} (hd : d.toNat < 0x80) (h : d ∉ cs) :
    UInt8.ofNat d.toNat ∉ cs.flatMap String.utf8EncodeChar := by
  have hback : (UInt8.ofNat d.toNat).toNat = d.toNat :=
    UInt8.toNat_ofNat_of_lt' (show d.toNat < 256 by omega)
  intro hmem
  obtain ⟨c, hc, hmem⟩ := List.mem_flatMap.mp hmem
  have hsame := mem_utf8EncodeChar hmem (by omega)
  rw [hback] at hsame
  exact h (Char.toNat_inj.mp hsame ▸ hc)

/-- Decoding goes on independently on either side of an ASCII octet. -/
theorem decodeLossy_cut {b : UInt8} (hb : b.toNat < 0x80) (xs ys : Bytes) :
    (decodeLossy (xs ++ b :: ys)).toList
      = (decodeLossy xs).toList ++ Char.ofNat b.toNat :: (decodeLossy ys).toList := by
  simp only [decodeLossy, String.toList_ofList, Utf8.units]
  have hnone : ∀ p : Utf8.Pending, none = some p → p.IsAboveAscii := by
    intro p h
    cases h
  rw [Utf8.unitsFrom_cut hb xs ys hnone, List.map_append, List.map_cons]
  rfl

/-! ## The order of octets -/

namespace Utf8

variable {v w : Nat} (xs ys : Bytes)

/-- Octet strings are ordered by their first octets, and then by the rest. -/
theorem cons_ofNat_lt {m n : Nat} {xs ys : Bytes} (hm : m < 256) (hn : n < 256)
    (h : m < n ∨ m = n ∧ xs < ys) : UInt8.ofNat m :: xs < UInt8.ofNat n :: ys := by
  rw [List.cons_lt_cons_iff, UInt8.lt_iff_toNat_lt, UInt8.toNat_ofNat_of_lt' hm,
    UInt8.toNat_ofNat_of_lt' hn]
  exact h.imp_right fun ⟨heq, hlt⟩ => ⟨congrArg _ heq, hlt⟩

/-- The last octet, which holds the last six bits, decides if all before it are the same. -/
theorem last_lt (hlt : v < w) (h : v / 64 = w / 64) :
    UInt8.ofNat (v % 64 + 128) :: xs < UInt8.ofNat (w % 64 + 128) :: ys :=
  cons_ofNat_lt (by omega) (by omega) (.inl (by omega))

/-- The last two octets keep the order of two numbers that share the bits before. -/
theorem last_two_lt (hlt : v < w) (h : v / 4096 = w / 4096) :
    UInt8.ofNat (v / 64 % 64 + 128) :: UInt8.ofNat (v % 64 + 128) :: xs
      < UInt8.ofNat (w / 64 % 64 + 128) :: UInt8.ofNat (w % 64 + 128) :: ys := by
  rcases Nat.lt_or_eq_of_le (show v / 64 ≤ w / 64 by omega) with hnext | hnext
  · exact cons_ofNat_lt (by omega) (by omega) (.inl (by omega))
  · exact cons_ofNat_lt (by omega) (by omega) (.inr ⟨by omega, last_lt xs ys hlt hnext⟩)

theorem last_three_lt (hlt : v < w) (h : v / 262144 = w / 262144) :
    UInt8.ofNat (v / 4096 % 64 + 128) :: UInt8.ofNat (v / 64 % 64 + 128)
        :: UInt8.ofNat (v % 64 + 128) :: xs
      < UInt8.ofNat (w / 4096 % 64 + 128) :: UInt8.ofNat (w / 64 % 64 + 128)
        :: UInt8.ofNat (w % 64 + 128) :: ys := by
  rcases Nat.lt_or_eq_of_le (show v / 4096 ≤ w / 4096 by omega) with hnext | hnext
  · exact cons_ofNat_lt (by omega) (by omega) (.inl (by omega))
  · exact cons_ofNat_lt (by omega) (by omega) (.inr ⟨by omega, last_two_lt xs ys hlt hnext⟩)

end Utf8

open Utf8

/-- The first octet that differs decides. Where two characters have forms of different lengths, it is
the very first. -/
theorem utf8EncodeChar_lt {c d : Char} (h : c < d) (xs ys : Bytes) :
    String.utf8EncodeChar c ++ xs < String.utf8EncodeChar d ++ ys := by
  have hlt : c.val.toNat < d.val.toNat := UInt32.lt_iff_toNat_lt.mp h
  have hvalid : d.val.toNat < 0xD800 ∨ (0xDFFF < d.val.toNat ∧ d.val.toNat < 0x110000) := d.valid
  simp only [String.utf8EncodeChar]
  generalize c.val.toNat = v at hlt
  generalize d.val.toNat = w at hlt hvalid
  split
  · split
    · exact cons_ofNat_lt (by omega) (by omega) (.inl hlt)
    split
    · exact cons_ofNat_lt (by omega) (by omega) (.inl (by omega))
    split <;> exact cons_ofNat_lt (by omega) (by omega) (.inl (by omega))
  split
  · rw [if_neg (show ¬ w ≤ 127 by omega)]
    split
    · rcases Nat.lt_or_eq_of_le (show v / 64 ≤ w / 64 by omega) with hnext | hnext
      · exact cons_ofNat_lt (by omega) (by omega) (.inl (by omega))
      · exact cons_ofNat_lt (by omega) (by omega) (.inr ⟨by omega, last_lt xs ys hlt hnext⟩)
    split <;> exact cons_ofNat_lt (by omega) (by omega) (.inl (by omega))
  split
  · rw [if_neg (show ¬ w ≤ 127 by omega), if_neg (show ¬ w ≤ 2047 by omega)]
    split
    · rcases Nat.lt_or_eq_of_le (show v / 4096 ≤ w / 4096 by omega) with hnext | hnext
      · exact cons_ofNat_lt (by omega) (by omega) (.inl (by omega))
      · exact cons_ofNat_lt (by omega) (by omega) (.inr ⟨by omega, last_two_lt xs ys hlt hnext⟩)
    · exact cons_ofNat_lt (by omega) (by omega) (.inl (by omega))
  · rw [if_neg (show ¬ w ≤ 127 by omega), if_neg (show ¬ w ≤ 2047 by omega),
      if_neg (show ¬ w ≤ 65535 by omega)]
    rcases Nat.lt_or_eq_of_le (show v / 262144 ≤ w / 262144 by omega) with hnext | hnext
    · exact cons_ofNat_lt (by omega) (by omega) (.inl (by omega))
    · exact cons_ofNat_lt (by omega) (by omega) (.inr ⟨by omega, last_three_lt xs ys hlt hnext⟩)

/-- Texts are in the order of their octets. -/
theorem encode_lt {a b : String} (h : a < b) : encode a < encode b := by
  rw [String.lt_iff] at h
  unfold encode
  generalize a.toList = cs at h
  generalize b.toList = ds at h
  induction cs generalizing ds with
  | nil =>
    cases ds with
    | nil => exact absurd h (List.lt_irrefl _)
    | cons d ds =>
      rw [List.flatMap_cons, List.flatMap_nil]
      cases hoctets : String.utf8EncodeChar d with
      | nil => exact absurd hoctets String.utf8EncodeChar_ne_nil
      | cons b rest => exact List.nil_lt_cons ..
  | cons c cs ih =>
    cases ds with
    | nil => exact absurd h (List.not_lt_nil _)
    | cons d ds =>
      rw [List.flatMap_cons, List.flatMap_cons]
      rcases List.cons_lt_cons_iff.mp h with hlt | ⟨rfl, hlt⟩
      · exact utf8EncodeChar_lt hlt _ _
      · exact List.append_left_lt (ih ds hlt)

end AdmissionGate.Text
