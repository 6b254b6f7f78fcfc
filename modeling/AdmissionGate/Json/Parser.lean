import AdmissionGate.Json.Token

/-!
Reading JSON text. `Token.stream?` cuts a text into tokens, and `Assembly` builds the value from
them: a machine whose stack holds the containers that are open, each with what it has collected so
far. `Json.parse?` allows a fixed number of open containers.
-/

namespace AdmissionGate.Json

open Text (Bytes)

/-! ## Tokens of a text -/

theorem digits_length (bs : Bytes) : (digits bs).2.length + (digits bs).1.length = bs.length := by
  fun_induction digits bs with
  | case1 => rfl
  | case2 b rest hb ds tail hd ih =>
    rw [hd] at ih
    simp only [List.length_cons] at ih ⊢
    omega
  | case3 => simp

theorem length_of_digits? {bs : Bytes} {ds : List Nat} {rest : Bytes}
    (h : digits? bs = some (ds, rest)) : rest.length < bs.length := by
  have hl := digits_length bs
  unfold digits? at h
  split at h
  · simp at h
  · rename_i found hne
    simp only [Option.some.injEq] at h
    rw [h] at hl
    cases ds with
    | nil => exact absurd h (hne rest)
    | cons d ds => simp at hl; omega

theorem length_of_whole? {bs : Bytes} {ds : List Nat} {rest : Bytes}
    (h : whole? bs = some (ds, rest)) : rest.length < bs.length := by
  have hl := digits_length bs
  unfold whole? at h
  split at h
  · simp at h
  · simp at h
  · rename_i found hne _
    simp only [Option.some.injEq] at h
    rw [h] at hl
    cases ds with
    | nil => exact absurd h (hne rest)
    | cons d ds => simp at hl; omega

theorem length_of_fraction? {bs : Bytes} {ds : List Nat} {rest : Bytes}
    (h : fraction? bs = some (ds, rest)) : rest.length ≤ bs.length := by
  unfold fraction? at h
  split at h
  · have := length_of_digits? h
    simp; omega
  · simp at h
    simp [h.2]

theorem length_of_exponent? {bs : Bytes} {e : Option (Bool × List Nat)} {rest : Bytes}
    (h : exponent? bs = some (e, rest)) : rest.length ≤ bs.length := by
  unfold exponent? at h
  split at h
  · split at h
    · split at h <;>
      · simp only [Option.map_eq_some_iff] at h
        obtain ⟨⟨ds, tail⟩, hd, heq⟩ := h
        have := length_of_digits? hd
        simp at heq
        simp [← heq.2] at this ⊢
        omega
    · simp at h
      simp [← h.2]
  · simp at h
    simp [← h.2]

theorem length_of_unsigned? {sign : Bool} {bs : Bytes} {n : Numeral} {rest : Bytes}
    (h : unsigned? sign bs = some (n, rest)) : rest.length < bs.length := by
  simp only [unsigned?, Option.bind_eq_bind, Option.bind_eq_some_iff, Option.pure_def,
    Option.some.injEq, Prod.mk.injEq, Prod.exists] at h
  obtain ⟨w, r₁, hw, f, r₂, hf, e, r₃, he, -, rfl⟩ := h
  have := length_of_whole? hw
  have := length_of_fraction? hf
  have := length_of_exponent? he
  omega

theorem length_of_numeral? {bs : Bytes} {n : Numeral} {rest : Bytes}
    (h : numeral? bs = some (n, rest)) : rest.length < bs.length := by
  unfold numeral? at h
  split at h
  · have := length_of_unsigned? h
    simp; omega
  · exact length_of_unsigned? h

theorem length_of_pieces? {bs : Bytes} {ps : List Piece} {rest : Bytes}
    (h : pieces? bs = some (ps, rest)) : rest.length < bs.length := by
  fun_induction pieces? bs generalizing ps rest with
  | case1 => simp at h
  | case2 r =>
    simp at h
    simp [← h.2]
  | case3 a b c d r n ps' tail hn hp ih =>
    simp at h
    have := ih hn
    simp [← h.2]
    omega
  | case4 => simp at h
  | case5 e r hne b ps' tail hp he ih =>
    simp at h
    have := ih hp
    simp [← h.2]
    omega
  | case6 => simp at h
  | case7 => simp at h
  | case8 b r hq hu he hb ih =>
    simp only [Option.map_eq_some_iff, Prod.exists, Prod.mk.injEq] at h
    obtain ⟨ps', tail, hp, -, rfl⟩ := h
    have := ih hp
    simp
    omega

theorem length_of_afterWord? {word : String} {bs rest : Bytes}
    (h : afterWord? word bs = some rest) : rest.length ≤ bs.length := by
  unfold afterWord? at h
  simp only [Option.ite_none_right_eq_some, Option.some.injEq] at h
  simp [← h.2]

theorem length_of_stringToken? {how : Reading} {bs : Bytes} {t : Token} {rest : Bytes}
    (h : stringToken? how bs = some (t, rest)) : rest.length < bs.length := by
  simp only [stringToken?, Option.bind_eq_bind, Option.bind_eq_some_iff, Prod.exists] at h
  obtain ⟨ps, r, hp, h⟩ := h
  have := length_of_pieces? hp
  cases how with
  | skim =>
    simp at h
    simpa [← h.2]
  | full =>
    simp only [Option.bind_eq_some_iff, Option.pure_def, Option.some.injEq, Prod.mk.injEq] at h
    obtain ⟨s, -, -, rfl⟩ := h
    exact this

theorem length_of_numberToken? {how : Reading} {bs : Bytes} {t : Token} {rest : Bytes}
    (h : numberToken? how bs = some (t, rest)) : rest.length < bs.length := by
  simp only [numberToken?, Option.bind_eq_bind, Option.bind_eq_some_iff, Prod.exists] at h
  obtain ⟨n, r, hn, h⟩ := h
  have := length_of_numeral? hn
  grind

theorem Token.length_of_read? {how : Reading} {bs : Bytes} {t : Token} {rest : Bytes}
    (h : Token.read? how bs = some (t, rest)) : rest.length < bs.length := by
  have word {t' : Token} {w : String} {b : UInt8} {r : Bytes}
      (h : (afterWord? w r).map (t', ·) = some (t, rest)) : rest.length < (b :: r).length := by
    simp only [Option.map_eq_some_iff, Prod.mk.injEq] at h
    obtain ⟨r', hr, -, rfl⟩ := h
    have := length_of_afterWord? hr
    simp
    omega
  unfold Token.read? at h
  split at h
  · simp at h
  iterate 6 · simp at h; simp [← h.2]
  · have := length_of_stringToken? h
    simp
    omega
  iterate 3 · exact word h
  · exact length_of_numberToken? h

theorem Token.length_of_next? {how : Reading} {bs : Bytes} {t : Token} {rest : Bytes}
    (h : Token.next? how bs = some (t, rest)) : rest.length < bs.length := by
  have h₁ := Token.length_of_read? h
  have h₂ := (List.dropWhile_suffix isJsonBlank (l := bs)).length_le
  omega

def Token.stream? (how : Reading) (bs : Bytes) : Option (List Token) :=
  if isSpent bs then some []
  else
    match _h : Token.next? how bs with
    | none => none
    | some (t, rest) => (Token.stream? how rest).map (t :: ·)
termination_by bs.length
decreasing_by exact Token.length_of_next? ‹_›

/-! ## Values -/

/-- A container that is open: the items so far, last first, or the members so far, last first, and
the name whose value is being read. -/
inductive Frame where
  | array (items : List Json)
  | object (members : List (String × Json)) (name : String)
  deriving Repr

/-- What has been read of a value. In `value` and `name`, `first` tells that a container has just
been opened, so that it may close at once. -/
inductive Assembly where
  /-- A value is due. -/
  | value (first : Bool) (stack : List Frame)
  /-- A member name is due. -/
  | name (first : Bool) (members : List (String × Json)) (stack : List Frame)
  /-- The colon after a name is due. -/
  | colon (members : List (String × Json)) (name : String) (stack : List Frame)
  /-- A value has been read inside the open containers. -/
  | finished (v : Json) (stack : List Frame)
  deriving Repr

namespace Assembly

/-- Whether one more container may be open besides those of `stack`. At most `limit` may be open at
once, if there is a limit. -/
def hasRoom (limit : Option Nat) (stack : List Frame) : Bool :=
  limit.all (stack.length < ·)

/-- The start of a value inside `stack`, given its first token. -/
def begin? (limit : Option Nat) (stack : List Frame) : Token → Option Assembly
  | .null => some (.finished .null stack)
  | .bool b => some (.finished (.bool b) stack)
  | .number n => some (.finished (.number n) stack)
  | .string s => some (.finished (.string s) stack)
  | .openArray => if hasRoom limit stack then some (.value true (.array [] :: stack)) else none
  | .openObject => if hasRoom limit stack then some (.name true [] stack) else none
  | _ => none

def step? (limit : Option Nat) : Assembly → Token → Option Assembly
  | .value true (.array [] :: stack), .closeArray => some (.finished (.array []) stack)
  | .value _ stack, t => begin? limit stack t
  | .name true [] stack, .closeObject => some (.finished (.object []) stack)
  | .name _ members stack, .string s => some (.colon members s stack)
  | .colon members key stack, .colon => some (.value false (.object members key :: stack))
  | .finished v (.array items :: stack), .comma => some (.value false (.array (v :: items) :: stack))
  | .finished v (.array items :: stack), .closeArray =>
    some (.finished (.array (v :: items).reverse) stack)
  | .finished v (.object members key :: stack), .comma =>
    some (.name false ((key, v) :: members) stack)
  | .finished v (.object members key :: stack), .closeObject =>
    some (.finished (.object ((key, v) :: members).reverse) stack)
  | _, _ => none

/-- The value, once nothing is open any more. -/
def result? : Assembly → Option Json
  | .finished v [] => some v
  | _ => none

end Assembly

/-- The value that a list of tokens spells. -/
def ofTokens? (limit : Option Nat) (ts : List Token) : Option Json :=
  (ts.foldlM (Assembly.step? limit) (.value false [])).bind Assembly.result?

/-- The number of containers that may be open at once. -/
def maxOpen : Nat := 127

/-- The value that a text spells, members in the order of the text. -/
def parse? (bs : Bytes) : Option Json :=
  (Token.stream? .full bs).bind (ofTokens? (some maxOpen))

end AdmissionGate.Json
