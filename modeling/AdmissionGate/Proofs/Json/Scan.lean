import AdmissionGate.Json.Nesting
import AdmissionGate.Json.Parser

/-!
# The scan for nesting, token by token

The scan for nesting goes through a text byte by byte and knows nothing of JSON but brackets, quotes
and backslashes. Where the text can be cut into tokens, what it sees is the brackets among these:
everything else is passed over, the brackets inside of strings included.

* `passedOver_numeral?`, `inString_of_pieces?`: numerals and string literals, however they are written.
* `scan_next?`: the next token of a text.
* `exceedsNestingFrom_stream?`: the whole of a text.
-/

namespace AdmissionGate.Json

open Text (Bytes)

/-! ## What is passed over -/

/-- The scan comes from a text to a rest of it without having seen a bracket. -/
def PassedOver (bs rest : Bytes) : Prop :=
  ∀ limit depth, exceedsNestingFrom limit .outside depth bs
    = exceedsNestingFrom limit .outside depth rest

/-- The octets that the scan does not stop at outside of strings. -/
def isPlain (b : UInt8) : Bool :=
  b != 0x22 && b != 0x7B && b != 0x5B && b != 0x7D && b != 0x5D

theorem PassedOver.trans {bs cs ds : Bytes} (h : PassedOver bs cs) (h' : PassedOver cs ds) :
    PassedOver bs ds := fun limit depth => (h limit depth).trans (h' limit depth)

theorem passedOver_cons {b : UInt8} (h : isPlain b = true) (rest : Bytes) :
    PassedOver (b :: rest) rest := by
  intro limit depth
  simp only [isPlain, Bool.and_eq_true, bne_iff_ne] at h
  obtain ⟨⟨⟨⟨hquote, hbrace⟩, hbracket⟩, hbrace'⟩, hbracket'⟩ := h
  rw [exceedsNestingFrom, if_neg hquote, if_neg (not_or.mpr ⟨hbrace, hbracket⟩),
    if_neg (not_or.mpr ⟨hbrace', hbracket'⟩)]

/-- Blanks are passed over. -/
theorem passedOver_blanks (bs : Bytes) : PassedOver bs (bs.dropWhile isJsonBlank) := by
  induction bs with
  | nil => exact fun _ _ => rfl
  | cons b rest ih =>
    rw [List.dropWhile_cons]
    split
    · next hblank =>
      have hplain : isPlain b = true := by
        simp only [isJsonBlank, Bool.or_eq_true, beq_iff_eq] at hblank
        obtain ((rfl | rfl) | rfl) | rfl := hblank <;> decide
      exact (passedOver_cons hplain rest).trans ih
    · exact fun _ _ => rfl

theorem passedOver_append {head : Bytes} (h : head.all isPlain = true) (rest : Bytes) :
    PassedOver (head ++ rest) rest := by
  induction head with
  | nil => exact fun _ _ => rfl
  | cons b head ih =>
    rw [List.all_cons, Bool.and_eq_true] at h
    obtain ⟨hb, hhead⟩ := h
    exact (passedOver_cons hb (head ++ rest)).trans (ih hhead)

/-- The letters of a name are passed over once it has been recognised. -/
theorem passedOver_word {word : String} (hword : (Text.encode word).all isPlain = true)
    {bs rest : Bytes} (h : afterWord? word bs = some rest) : PassedOver bs rest := by
  unfold afterWord? at h
  obtain ⟨hbegins, hrest⟩ := Option.ite_none_right_eq_some.mp h
  obtain ⟨tail, rfl⟩ := List.isPrefixOf_iff_prefix.mp hbegins
  rw [List.drop_left, Option.some.injEq] at hrest
  subst hrest
  exact passedOver_append hword tail

/-! ## Numerals -/

theorem isPlain_digit {b : UInt8} (h : 0x30 ≤ b ∧ b ≤ 0x39) : isPlain b = true := by
  have hne : ∀ c : UInt8, ¬ (0x30 ≤ c ∧ c ≤ 0x39) → b ≠ c := by
    rintro c hc rfl
    exact hc h
  simp only [isPlain, Bool.and_eq_true, bne_iff_ne]
  exact ⟨⟨⟨⟨hne _ (by decide), hne _ (by decide)⟩, hne _ (by decide)⟩, hne _ (by decide)⟩,
    hne _ (by decide)⟩

/-- Reading digits takes nothing but digits, which are passed over. -/
theorem passedOver_digits (bs : Bytes) : PassedOver bs (digits bs).2 := by
  fun_induction digits bs with
  | case1 => exact fun _ _ => rfl
  | case2 b rest hb ds tail hd ih =>
    rw [hd] at ih
    exact (passedOver_cons (isPlain_digit hb) rest).trans ih
  | case3 => exact fun _ _ => rfl

/-- Digits are passed over where there has to be one. -/
theorem passedOver_digits? {bs : Bytes} {ds : List Nat} {rest : Bytes}
    (h : digits? bs = some (ds, rest)) : PassedOver bs rest := by
  have hdigits := passedOver_digits bs
  unfold digits? at h
  split at h
  · cases h
  · rw [Option.some.inj h] at hdigits
    exact hdigits

theorem passedOver_whole? {bs : Bytes} {ds : List Nat} {rest : Bytes}
    (h : whole? bs = some (ds, rest)) : PassedOver bs rest := by
  have hdigits := passedOver_digits bs
  unfold whole? at h
  split at h
  · cases h
  · cases h
  · rw [Option.some.inj h] at hdigits
    exact hdigits

theorem passedOver_fraction? {bs : Bytes} {ds : List Nat} {rest : Bytes}
    (h : fraction? bs = some (ds, rest)) : PassedOver bs rest := by
  unfold fraction? at h
  split at h
  · next tail => exact (passedOver_cons (by decide) tail).trans (passedOver_digits? h)
  · obtain ⟨-, rfl⟩ := Prod.mk.inj (Option.some.inj h)
    exact fun _ _ => rfl

theorem passedOver_exponent? {bs : Bytes} {e : Option (Bool × List Nat)} {rest : Bytes}
    (h : exponent? bs = some (e, rest)) : PassedOver bs rest := by
  unfold exponent? at h
  split at h
  · next b tail =>
    split at h
    · next hletter =>
      have hplain : isPlain b = true := by rcases hletter with rfl | rfl <;> decide
      refine (passedOver_cons hplain tail).trans ?_
      -- the digits come after a sign, or at once
      split at h
      · next tail =>
        obtain ⟨⟨ds, rest⟩, hdigits, heq⟩ := Option.map_eq_some_iff.mp h
        cases heq
        exact (passedOver_cons (by decide) tail).trans (passedOver_digits? hdigits)
      · next tail =>
        obtain ⟨⟨ds, rest⟩, hdigits, heq⟩ := Option.map_eq_some_iff.mp h
        cases heq
        exact (passedOver_cons (by decide) tail).trans (passedOver_digits? hdigits)
      · obtain ⟨⟨ds, rest⟩, hdigits, heq⟩ := Option.map_eq_some_iff.mp h
        cases heq
        exact passedOver_digits? hdigits
    · cases h
      exact fun _ _ => rfl
  · cases h
    exact fun _ _ => rfl

theorem passedOver_unsigned? {sign : Bool} {bs : Bytes} {n : Numeral} {rest : Bytes}
    (h : unsigned? sign bs = some (n, rest)) : PassedOver bs rest := by
  simp only [unsigned?, Option.bind_eq_bind, Option.bind_eq_some_iff, Option.pure_def,
    Option.some.injEq, Prod.mk.injEq, Prod.exists] at h
  obtain ⟨_, _, hwhole, _, _, hfraction, _, _, hexponent, -, rfl⟩ := h
  exact ((passedOver_whole? hwhole).trans (passedOver_fraction? hfraction)).trans
    (passedOver_exponent? hexponent)

/-- **A number is passed over**, with all its parts. -/
theorem passedOver_numeral? {bs : Bytes} {n : Numeral} {rest : Bytes}
    (h : numeral? bs = some (n, rest)) : PassedOver bs rest := by
  unfold numeral? at h
  split at h
  · next tail => exact (passedOver_cons (by decide) tail).trans (passedOver_unsigned? h)
  · exact passedOver_unsigned? h

/-! ## Strings -/

/-- Inside of a string, only a backslash and a quotation mark make a difference. -/
theorem inString_cons {b : UInt8} (hescape : b ≠ 0x5C) (hquote : b ≠ 0x22) (limit depth : Nat)
    (rest : Bytes) :
    exceedsNestingFrom limit .inString depth (b :: rest)
      = exceedsNestingFrom limit .inString depth rest := by
  rw [exceedsNestingFrom, if_neg hescape, if_neg hquote]

/-- A hexadecimal digit is neither of them. -/
theorem ne_of_hexValue? {b n : UInt8} (h : hexValue? b = some n) : b ≠ 0x5C ∧ b ≠ 0x22 := by
  have hescape : hexValue? 0x5C = none := by decide
  have hquote : hexValue? 0x22 = none := by decide
  constructor
  · rintro rfl
    rw [hescape] at h
    cases h
  · rintro rfl
    rw [hquote] at h
    cases h

/-- Two hexadecimal digits are passed over inside of a string. -/
theorem inString_pair {a b n : UInt8} (h : hexPair? a b = some n) (limit depth : Nat)
    (rest : Bytes) :
    exceedsNestingFrom limit .inString depth (a :: b :: rest)
      = exceedsNestingFrom limit .inString depth rest := by
  unfold hexPair? at h
  split at h
  · next ha hb =>
    have ha' := ne_of_hexValue? ha
    have hb' := ne_of_hexValue? hb
    rw [inString_cons ha'.1 ha'.2, inString_cons hb'.1 hb'.2]
  · cases h

/-- The digits of a 16-bit unit are no quotes and no backslashes. -/
theorem inString_unit {a b c d : UInt8} {n : Nat} (h : unit? a b c d = some n) (limit depth : Nat)
    (rest : Bytes) :
    exceedsNestingFrom limit .inString depth (a :: b :: c :: d :: rest)
      = exceedsNestingFrom limit .inString depth rest := by
  unfold unit? at h
  split at h
  · next hhigh hlow => rw [inString_pair hhigh, inString_pair hlow]
  · cases h

/-- The scan leaves a string literal at its closing quote. -/
theorem inString_of_pieces? {bs : Bytes} {ps : List Piece} {rest : Bytes}
    (h : pieces? bs = some (ps, rest)) (limit depth : Nat) :
    exceedsNestingFrom limit .inString depth bs = exceedsNestingFrom limit .outside depth rest := by
  fun_induction pieces? bs generalizing ps rest with
  | case1 => cases h
  | case2 tail =>
    cases h
    rfl
  | case3 a b c d tail n ps' tail' hp hunit ih =>
    cases h
    -- the letter after the backslash is skipped, whichever it is
    calc exceedsNestingFrom limit .inString depth (0x5C :: 0x75 :: a :: b :: c :: d :: tail)
        = exceedsNestingFrom limit .inString depth (a :: b :: c :: d :: tail) := rfl
      _ = exceedsNestingFrom limit .inString depth tail := inString_unit hunit limit depth tail
      _ = exceedsNestingFrom limit .outside depth tail' := ih hp
  | case4 => cases h
  | case5 e tail hne b ps' tail' hp he ih =>
    cases h
    calc exceedsNestingFrom limit .inString depth (0x5C :: e :: tail)
        = exceedsNestingFrom limit .inString depth tail := rfl
      _ = exceedsNestingFrom limit .outside depth tail' := ih hp
  | case6 => cases h
  | case7 => cases h
  | case8 b tail hquote hu he hb ih =>
    obtain ⟨⟨ps', tail'⟩, hp, heq⟩ := Option.map_eq_some_iff.mp h
    cases heq
    have hescape : b ≠ 0x5C := fun heq => hb (.inr heq)
    rw [inString_cons hescape (fun heq => hquote heq), ih hp]

/-! ## Tokens -/

/-- What the scan sees of a token, and `next` of the tokens behind it. -/
def Token.scan (limit depth : Nat) (next : Nat → Bool) : Token → Bool
  | .openArray | .openObject => limit < depth + 1 || next (depth + 1)
  | .closeArray | .closeObject => next (depth - 1)
  | _ => next depth

/-- A token that the scan passes over. -/
theorem scan_of_passedOver {t : Token} {bs rest : Bytes} (h : PassedOver bs rest)
    (hplain : ∀ limit depth next, t.scan limit depth next = next depth) (limit depth : Nat) :
    exceedsNestingFrom limit .outside depth bs
      = t.scan limit depth fun depth => exceedsNestingFrom limit .outside depth rest := by
  rw [hplain]
  exact h limit depth

/-- A string token leaves the scan outside of strings again, with the same count. -/
theorem scan_string {how : Reading} {bs : Bytes} {t : Token} {rest : Bytes}
    (h : stringToken? how bs = some (t, rest)) (limit depth : Nat) :
    exceedsNestingFrom limit .outside depth (0x22 :: bs)
      = t.scan limit depth fun depth => exceedsNestingFrom limit .outside depth rest := by
  simp only [stringToken?, Option.bind_eq_bind, Option.bind_eq_some_iff, Prod.exists] at h
  obtain ⟨ps, tail, hp, h⟩ := h
  have hscan := inString_of_pieces? hp limit depth
  cases how with
  | skim =>
    cases h
    exact hscan
  | full =>
    obtain ⟨text, -, heq⟩ := Option.bind_eq_some_iff.mp h
    cases heq
    exact hscan

theorem scan_number {how : Reading} {bs : Bytes} {t : Token} {rest : Bytes}
    (h : numberToken? how bs = some (t, rest)) (limit depth : Nat) :
    exceedsNestingFrom limit .outside depth bs
      = t.scan limit depth fun depth => exceedsNestingFrom limit .outside depth rest := by
  simp only [numberToken?, Option.bind_eq_bind, Option.bind_eq_some_iff, Prod.exists] at h
  obtain ⟨n, tail, hn, h⟩ := h
  split at h
  · cases h
  · cases h
    exact passedOver_numeral? hn limit depth

/-- The token of a name leaves the count as it is. -/
theorem scan_word {word : String} (hword : (Text.encode word).all isPlain = true) {b : UInt8}
    (hb : isPlain b = true) {bs : Bytes} {t t' : Token} {rest : Bytes}
    (h : (afterWord? word bs).map (t', ·) = some (t, rest))
    (hplain : ∀ limit depth next, t'.scan limit depth next = next depth) (limit depth : Nat) :
    exceedsNestingFrom limit .outside depth (b :: bs)
      = t.scan limit depth fun depth => exceedsNestingFrom limit .outside depth rest := by
  obtain ⟨tail, hafter, heq⟩ := Option.map_eq_some_iff.mp h
  cases heq
  exact scan_of_passedOver ((passedOver_cons hb bs).trans (passedOver_word hword hafter)) hplain
    limit depth

/-- The scan does to the octets of a token what the token stands for. -/
theorem scan_read? {how : Reading} {bs : Bytes} {t : Token} {rest : Bytes}
    (h : Token.read? how bs = some (t, rest)) (limit depth : Nat) :
    exceedsNestingFrom limit .outside depth bs
      = t.scan limit depth fun depth => exceedsNestingFrom limit .outside depth rest := by
  unfold Token.read? at h
  split at h
  · cases h
  iterate 6 · cases h; rfl
  · exact scan_string h limit depth
  · exact scan_word (by decide) (by decide) h (fun _ _ _ => rfl) limit depth
  · exact scan_word (by decide) (by decide) h (fun _ _ _ => rfl) limit depth
  · exact scan_word (by decide) (by decide) h (fun _ _ _ => rfl) limit depth
  · exact scan_number h limit depth

/-- The scan does to a token what it stands for, with blanks before it. -/
theorem scan_next? {how : Reading} {bs : Bytes} {t : Token} {rest : Bytes}
    (h : Token.next? how bs = some (t, rest)) (limit depth : Nat) :
    exceedsNestingFrom limit .outside depth bs
      = t.scan limit depth fun depth => exceedsNestingFrom limit .outside depth rest :=
  (passedOver_blanks bs limit depth).trans (scan_read? h limit depth)

/-- Whether some tokens, with `depth` containers open before them, open more than `limit` at once. -/
def Token.exceedsFrom (limit : Nat) : Nat → List Token → Bool
  | _, [] => false
  | depth, t :: ts => t.scan limit depth fun depth => Token.exceedsFrom limit depth ts

/-- **Of a text that can be cut into tokens, the scan sees the brackets among the tokens.** -/
theorem exceedsNestingFrom_stream? {how : Reading} {bs : Bytes} {ts : List Token}
    (h : Token.stream? how bs = some ts) (limit depth : Nat) :
    exceedsNestingFrom limit .outside depth bs = Token.exceedsFrom limit depth ts := by
  fun_induction Token.stream? how bs generalizing ts depth with
  | case1 bs hspent =>
    cases h
    have hblank : bs.dropWhile isJsonBlank = [] := List.isEmpty_iff.mp hspent
    rw [passedOver_blanks bs limit depth, hblank]
    rfl
  | case2 => cases h
  | case3 bs hspent t rest hnext ih =>
    obtain ⟨ts', hts, rfl⟩ := Option.map_eq_some_iff.mp h
    rw [scan_next? hnext, Token.exceedsFrom]
    congr 1
    funext depth
    exact ih hts depth

end AdmissionGate.Json
