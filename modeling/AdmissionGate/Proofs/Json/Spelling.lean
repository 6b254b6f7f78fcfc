import AdmissionGate.Json.Parser

/-!
# The tokens that spell a value

Each value is spelled by one list of tokens, in which every member stands where it was written,
repeated names included. The machine that builds values from tokens keeps account of what it has read:
the tokens that have led to a state can be told from the state (`Assembly.tokens`), and each step adds
its own to them. So it builds a value from no tokens but those that spell it (`tokens_of_ofTokens?`).
-/

namespace AdmissionGate.Json

open Text (Bytes)

/-! ## Values -/

mutual

/-- The tokens that spell a value. -/
def tokens : Json → List Token
  | .null => [.null]
  | .bool b => [.bool b]
  | .number n => [.number n]
  | .string s => [.string s]
  | .array items => .openArray :: ([.comma].intercalate (itemTokens items) ++ [.closeArray])
  | .object members => .openObject :: ([.comma].intercalate (memberTokens members) ++ [.closeObject])

/-- The spelling of each item. -/
def itemTokens : List Json → List (List Token)
  | [] => []
  | v :: rest => tokens v :: itemTokens rest

/-- The spelling of each member: its name, a colon and its value. -/
def memberTokens : List (String × Json) → List (List Token)
  | [] => []
  | (name, v) :: rest => (.string name :: .colon :: tokens v) :: memberTokens rest

end

theorem itemTokens_append (items items' : List Json) :
    itemTokens (items ++ items') = itemTokens items ++ itemTokens items' := by
  induction items with
  | nil => rfl
  | cons v rest ih => rw [List.cons_append, itemTokens, ih, itemTokens, List.cons_append]

theorem memberTokens_append (members members' : List (String × Json)) :
    memberTokens (members ++ members') = memberTokens members ++ memberTokens members' := by
  induction members with
  | nil => rfl
  | cons m rest ih => rw [List.cons_append, memberTokens, ih, memberTokens, List.cons_append]

/-! ## Values that are not complete -/

/-- Some parts of a container with a comma behind each. -/
def led (parts : List (List Token)) : List Token := parts.flatMap (· ++ [.comma])

/-- Another part is followed by a comma of its own. -/
theorem led_concat (parts : List (List Token)) (part : List Token) :
    led (parts ++ [part]) = led parts ++ (part ++ [.comma]) := by
  rw [led, List.flatMap_append, List.flatMap_singleton]
  rfl

/-- All parts but the last are followed by commas. -/
theorem intercalate_concat (parts : List (List Token)) (part : List Token) :
    [Token.comma].intercalate (parts ++ [part]) = led parts ++ part := by
  induction parts with
  | nil => simp [led, List.intercalate]
  | cons head rest ih =>
    -- whatever is behind the first part, a comma is between them
    have hne : rest ++ [part] ≠ [] := by simp
    rw [List.cons_append, List.intercalate_cons_of_ne_nil hne, ih, led, led, List.flatMap_cons]
    simp only [List.append_assoc]

/-- The tokens of what is open. -/
def Frame.tokens : Frame → List Token
  | .array items => .openArray :: led (itemTokens items.reverse)
  | .object members name =>
    .openObject :: (led (memberTokens members.reverse) ++ [.string name, .colon])

/-- The tokens of some containers that are open, the innermost first. -/
def openTokens : List Frame → List Token
  | [] => []
  | frame :: stack => openTokens stack ++ frame.tokens

/-- The tokens that have led to a state. -/
def Assembly.tokens : Assembly → List Token
  | .value _ stack => openTokens stack
  | .name _ members stack =>
    openTokens stack ++ .openObject :: led (memberTokens members.reverse)
  | .colon members key stack =>
    openTokens stack ++ .openObject :: (led (memberTokens members.reverse) ++ [.string key])
  | .finished v stack => openTokens stack ++ v.tokens

/-- A token that begins a value is added to what was spelled. -/
theorem tokens_of_begin? {limit : Option Nat} {stack : List Frame} {t : Token} {a : Assembly}
    (h : Assembly.begin? limit stack t = some a) : a.tokens = openTokens stack ++ [t] := by
  cases t with
  | null | bool | number | string =>
    cases h
    rfl
  | openArray | openObject =>
    obtain ⟨-, h⟩ := Option.ite_none_right_eq_some.mp h
    cases h
    rfl
  | closeArray | closeObject | comma | colon => cases h

/-! ## Steps

One more part of a container, with a comma behind it or with the end of the container. -/

/-- An item that is followed by a comma is part of what the open array has spelled. -/
theorem led_items_cons (items : List Json) (v : Json) :
    .openArray :: led (itemTokens (v :: items).reverse)
      = (Frame.array items).tokens ++ (v.tokens ++ [.comma]) := by
  rw [List.reverse_cons, itemTokens_append, itemTokens, itemTokens, led_concat, Frame.tokens,
    List.cons_append]

theorem led_members_cons (members : List (String × Json)) (name : String) (v : Json) :
    .openObject :: led (memberTokens ((name, v) :: members).reverse)
      = (Frame.object members name).tokens ++ (v.tokens ++ [.comma]) := by
  rw [List.reverse_cons, memberTokens_append, memberTokens, memberTokens, led_concat, Frame.tokens]
  simp only [List.append_assoc, List.cons_append, List.nil_append]

/-- Closing an array with a last item spells the whole array. -/
theorem tokens_array_concat (items : List Json) (v : Json) :
    tokens (.array (v :: items).reverse)
      = (Frame.array items).tokens ++ (v.tokens ++ [.closeArray]) := by
  rw [List.reverse_cons, tokens, itemTokens_append, itemTokens, itemTokens, intercalate_concat,
    Frame.tokens, List.append_assoc, List.cons_append]

theorem tokens_object_concat (members : List (String × Json)) (name : String) (v : Json) :
    tokens (.object ((name, v) :: members).reverse)
      = (Frame.object members name).tokens ++ (v.tokens ++ [.closeObject]) := by
  rw [List.reverse_cons, tokens, memberTokens_append, memberTokens, memberTokens,
    intercalate_concat, Frame.tokens]
  simp only [List.append_assoc, List.cons_append, List.nil_append]

/-- **A step adds its token to what has been spelled.** -/
theorem tokens_of_step? {limit : Option Nat} {a a' : Assembly} {t : Token}
    (h : a.step? limit t = some a') : a'.tokens = a.tokens ++ [t] := by
  unfold Assembly.step? at h
  split at h
  · next stack =>
    cases h
    show openTokens stack ++ tokens (.array []) = (openTokens stack ++ _) ++ [.closeArray]
    rw [List.append_assoc]
    rfl
  · exact tokens_of_begin? h
  · next stack =>
    cases h
    show openTokens stack ++ tokens (.object []) = (openTokens stack ++ _) ++ [.closeObject]
    rw [List.append_assoc]
    rfl
  · next members stack s =>
    cases h
    show openTokens stack ++ _ = (openTokens stack ++ _) ++ [.string s]
    rw [List.append_assoc]
    rfl
  · next members name stack =>
    cases h
    show openTokens stack ++ Frame.tokens _ = (openTokens stack ++ _) ++ [.colon]
    rw [Frame.tokens]
    simp only [List.append_assoc, List.cons_append, List.nil_append]
  · next v items stack =>
    cases h
    show openTokens stack ++ (.openArray :: _) = (openTokens stack ++ _) ++ v.tokens ++ [.comma]
    rw [led_items_cons]
    simp only [List.append_assoc]
  · next v items stack =>
    cases h
    show openTokens stack ++ tokens _ = (openTokens stack ++ _) ++ v.tokens ++ [.closeArray]
    rw [tokens_array_concat]
    simp only [List.append_assoc]
  · next v members name stack =>
    cases h
    show openTokens stack ++ (.openObject :: _) = (openTokens stack ++ _) ++ v.tokens ++ [.comma]
    rw [led_members_cons]
    simp only [List.append_assoc]
  · next v members name stack =>
    cases h
    show openTokens stack ++ tokens _ = (openTokens stack ++ _) ++ v.tokens ++ [.closeObject]
    rw [tokens_object_concat]
    simp only [List.append_assoc]
  · cases h

/-- Any number of steps add their tokens. -/
theorem tokens_of_foldlM {limit : Option Nat} {a a' : Assembly} {ts : List Token}
    (h : ts.foldlM (Assembly.step? limit) a = some a') : a'.tokens = a.tokens ++ ts := by
  induction ts generalizing a with
  | nil =>
    cases h
    exact (List.append_nil _).symm
  | cons t rest ih =>
    rw [List.foldlM_cons] at h
    obtain ⟨b, hb, hrest⟩ := Option.bind_eq_some_iff.mp h
    rw [ih hrest, tokens_of_step? hb, List.append_assoc]
    rfl

/-- **A value is read from the tokens that spell it, and from no others.** -/
theorem tokens_of_ofTokens? {limit : Option Nat} {ts : List Token} {v : Json}
    (h : ofTokens? limit ts = some v) : ts = v.tokens := by
  obtain ⟨a, ha, hresult⟩ := Option.bind_eq_some_iff.mp h
  have htokens := tokens_of_foldlM ha
  unfold Assembly.result? at hresult
  split at hresult
  · cases hresult
    exact htokens.symm
  · cases hresult

/-- A value that was parsed is spelled by the tokens of the text. -/
theorem stream?_of_parse? {bs : Bytes} {v : Json} (h : parse? bs = some v) :
    Token.stream? .full bs = some v.tokens := by
  obtain ⟨ts, hts, hv⟩ := Option.bind_eq_some_iff.mp h
  rw [hts, tokens_of_ofTokens? hv]

end AdmissionGate.Json
