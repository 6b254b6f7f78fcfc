import AdmissionGate.Proofs.Json.Scan

/-!
# Outlines

The outline of a value is what is left of it when its strings are emptied, and the outline of some
tokens what is left of them when those string literals are emptied that are no member names. Of two
texts whose tokens have one outline, neither the nesting nor the reading can tell the strings apart.

* `exceedsFrom_outline`: brackets are counted alike.
* `ofTokens?_outline`: the outline of some tokens spells the outline of the value that they spell.
* `settle_outline`: repeated names are settled alike.
-/

namespace AdmissionGate.Json

mutual

/-- A value with all strings in the place of values emptied. The names of members stay. -/
def outline : Json → Json
  | .string _ => .string ""
  | .array items => .array (outlineItems items)
  | .object members => .object (outlineMembers members)
  | .null => .null
  | .bool b => .bool b
  | .number n => .number n

def outlineItems : List Json → List Json
  | [] => []
  | v :: rest => outline v :: outlineItems rest

def outlineMembers : List (String × Json) → List (String × Json)
  | [] => []
  | (name, v) :: rest => (name, outline v) :: outlineMembers rest

end

/-- The outline of items goes through them one by one. -/
theorem outlineItems_eq_map (items : List Json) : outlineItems items = items.map outline := by
  induction items with
  | nil => rfl
  | cons v rest ih => rw [outlineItems, ih, List.map_cons]

theorem outlineMembers_eq_map (members : List (String × Json)) :
    outlineMembers members = members.map fun m => (m.1, m.2.outline) := by
  induction members with
  | nil => rfl
  | cons m rest ih => rw [outlineMembers, ih, List.map_cons]

/-- A string literal with a colon behind it is a member name, and any other is a value. -/
def Token.outline : List Token → List Token
  | [] => []
  | .string name :: .colon :: rest => .string name :: .colon :: Token.outline rest
  | .string _ :: rest => .string "" :: Token.outline rest
  | t :: rest => t :: Token.outline rest

/-- The outline of tokens starts with a colon only if they do. -/
theorem Token.outline_ne_colon {ts : List Token} (h : ∀ rest, ts ≠ .colon :: rest)
    (rest : List Token) : Token.outline ts ≠ .colon :: rest := by
  fun_cases Token.outline ts with
  | case1 | case2 | case3 => nofun
  | case4 t ts hname hstring =>
    intro heq
    exact h ts (congrArg (· :: ts) (List.cons.inj heq).1)

/-! ## Nesting -/

/-- Strings have no part in the count of brackets. -/
theorem exceedsFrom_outline (limit depth : Nat) (ts : List Token) :
    Token.exceedsFrom limit depth (Token.outline ts) = Token.exceedsFrom limit depth ts := by
  fun_induction Token.outline ts generalizing depth with
  | case1 => rfl
  | case2 name rest ih => exact ih depth
  | case3 s rest hname ih => exact ih depth
  | case4 t rest hname hstring ih =>
    rw [Token.exceedsFrom, Token.exceedsFrom]
    congr 1
    funext depth
    exact ih depth

/-! ## Reading -/

def Frame.outline : Frame → Frame
  | .array items => .array (outlineItems items)
  | .object members name => .object (outlineMembers members) name

namespace Assembly

def outline : Assembly → Assembly
  | .value first stack => .value first (stack.map Frame.outline)
  | .name first members stack => .name first (outlineMembers members) (stack.map Frame.outline)
  | .colon members key stack => .colon (outlineMembers members) key (stack.map Frame.outline)
  | .finished v stack => .finished v.outline (stack.map Frame.outline)

/-- An assembly of outlines comes to the outline of what it would have come to. -/
theorem result?_outline (a : Assembly) : a.outline.result? = a.result?.map Json.outline := by
  cases a with
  | finished v stack => cases stack <;> rfl
  | value | name | colon => rfl

/-- The room for another container does not depend on strings. -/
theorem hasRoom_outline (limit : Option Nat) (stack : List Frame) :
    hasRoom limit (stack.map Frame.outline) = hasRoom limit stack := by
  rw [hasRoom, hasRoom, List.length_map]

/-- Anything but a string begins the same value in outline. -/
theorem begin?_outline (limit : Option Nat) (stack : List Frame) {t : Token}
    (ht : ∀ s, t ≠ .string s) :
    begin? limit (stack.map Frame.outline) t = (begin? limit stack t).map outline := by
  cases t with
  | string s => exact absurd rfl (ht s)
  | openArray | openObject =>
    rw [begin?, begin?, hasRoom_outline]
    split <;> rfl
  | closeArray | closeObject | comma | colon | null | bool | number => rfl

/-- A token that is no string says the same of a state and of its outline. -/
theorem step?_outline (limit : Option Nat) (a : Assembly) {t : Token} (ht : ∀ s, t ≠ .string s) :
    a.outline.step? limit t = (a.step? limit t).map outline := by
  cases a with
  | value first stack =>
    have hbegin := begin?_outline limit stack ht
    -- an array that has just been opened may close, and all else begins a value
    rcases stack with _ | ⟨⟨_ | ⟨v, items⟩⟩ | ⟨members, name⟩, stack⟩ <;> cases first <;> cases t <;>
      first | exact hbegin | rfl
  | name first members stack =>
    cases t with
    | string s => exact absurd rfl (ht s)
    | closeObject => cases first <;> rcases members with _ | ⟨m, members⟩ <;> rfl
    | openArray | closeArray | openObject | comma | colon | null | bool | number =>
      cases first <;> rcases members with _ | ⟨m, members⟩ <;> rfl
  | colon members key stack =>
    cases t <;> rfl
  | finished v stack =>
    rcases stack with _ | ⟨⟨items⟩ | ⟨members, name⟩, stack⟩
    · cases t <;> rfl
    · cases t with
      | closeArray =>
        show some (finished (.array _) _) = some (finished (.array _) _)
        rw [outlineItems_eq_map, outlineItems_eq_map, ← List.map_cons, List.map_reverse]
      | openArray | openObject | closeObject | comma | colon | null | bool | number | string => rfl
    · cases t with
      | closeObject =>
        show some (finished (.object _) _) = some (finished (.object _) _)
        rw [outlineMembers_eq_map, outlineMembers_eq_map, List.map_reverse, List.map_cons]
      | openArray | openObject | closeArray | comma | colon | null | bool | number | string => rfl

/-- The value that a state comes to with the tokens behind it. -/
def finish? (limit : Option Nat) (a : Assembly) (ts : List Token) : Option Json :=
  (ts.foldlM (step? limit) a).bind result?

/-- Assembling from tokens goes one token after the other. -/
theorem finish?_cons (limit : Option Nat) (a : Assembly) (t : Token) (ts : List Token) :
    a.finish? limit (t :: ts) = (a.step? limit t).bind (finish? limit · ts) := by
  rw [finish?, List.foldlM_cons, Option.bind_eq_bind, Option.bind_assoc]
  rfl

theorem step?_value_string (limit : Option Nat) (first : Bool) (stack : List Frame) (s : String) :
    (value first stack).step? limit (.string s) = some (.finished (.string s) stack) := by
  rcases stack with _ | ⟨⟨_ | ⟨v, items⟩⟩ | ⟨members, key⟩, stack⟩ <;> cases first <;> rfl

/-- A name needs its colon. -/
theorem finish?_colon_eq_none {limit : Option Nat} {members : List (String × Json)} {key : String}
    {stack : List Frame} {ts : List Token} (h : ∀ rest, ts ≠ .colon :: rest) :
    finish? limit (.colon members key stack) ts = none := by
  cases ts with
  | nil => rfl
  | cons t rest =>
    rw [finish?_cons]
    cases t with
    | colon => exact absurd rfl (h rest)
    | openArray | closeArray | openObject | closeObject | comma | null | bool | number | string => rfl

/-- A string with a colon behind it is taken for a name or not at all. -/
theorem finish?_name_outline {limit : Option Nat} {name : String} {rest : List Token}
    (ih : ∀ a : Assembly, a.outline.finish? limit (Token.outline rest)
      = (a.finish? limit rest).map Json.outline) (a : Assembly) :
    a.outline.finish? limit (.string name :: .colon :: Token.outline rest)
      = (a.finish? limit (.string name :: .colon :: rest)).map Json.outline := by
  simp only [finish?_cons]
  -- only a state that is due a name gets past the colon
  cases a with
  | name first members stack =>
    have hnamed := ih (.value false (.object members name :: stack))
    cases first <;> rcases members with _ | ⟨m, members⟩ <;> exact hnamed
  | value first stack =>
    rw [outline, step?_value_string, step?_value_string]
    rcases stack with _ | ⟨⟨items⟩ | ⟨members, key⟩, stack⟩ <;> rfl
  | colon members key stack => rfl
  | finished v stack => rcases stack with _ | ⟨⟨items⟩ | ⟨members, key⟩, stack⟩ <;> rfl

/-- A string without a colon behind it is taken for a value or not at all. -/
theorem finish?_value_outline {limit : Option Nat} {s : String} {rest : List Token}
    (hrest : ∀ rest', rest ≠ .colon :: rest') (houtline : ∀ rest', Token.outline rest ≠ .colon :: rest')
    (ih : ∀ a : Assembly, a.outline.finish? limit (Token.outline rest)
      = (a.finish? limit rest).map Json.outline) (a : Assembly) :
    a.outline.finish? limit (.string "" :: Token.outline rest)
      = (a.finish? limit (.string s :: rest)).map Json.outline := by
  simp only [finish?_cons]
  -- only a state that is due a value takes the string, and then forgets what it says
  cases a with
  | name first members stack =>
    cases first <;> rcases members with _ | ⟨m, members⟩ <;>
      exact (finish?_colon_eq_none houtline).trans
        (congrArg (Option.map Json.outline) (finish?_colon_eq_none hrest)).symm
  | value first stack =>
    rw [outline, step?_value_string, step?_value_string]
    exact ih (.finished (.string s) stack)
  | colon members key stack => rfl
  | finished v stack => rcases stack with _ | ⟨⟨items⟩ | ⟨members, key⟩, stack⟩ <;> rfl

/-- **A value assembled from tokens in outline is the outline of the value.** -/
theorem finish?_outline (limit : Option Nat) (ts : List Token) (a : Assembly) :
    a.outline.finish? limit (Token.outline ts) = (a.finish? limit ts).map Json.outline := by
  fun_induction Token.outline ts generalizing a with
  | case1 => exact result?_outline a
  | case2 name rest ih => exact finish?_name_outline ih a
  | case3 s rest hname ih =>
    exact finish?_value_outline hname (Token.outline_ne_colon hname) ih a
  | case4 t rest hname hstring ih =>
    rw [finish?_cons, finish?_cons, step?_outline limit a hstring]
    cases a.step? limit t with
    | none => rfl
    | some a' => exact ih a'

end Assembly

/-- **The outline of some tokens spells the outline of their value**, if they spell any. -/
theorem ofTokens?_outline (limit : Option Nat) (ts : List Token) :
    ofTokens? limit (Token.outline ts) = (ofTokens? limit ts).map outline :=
  Assembly.finish?_outline limit ts (.value false [])

/-! ## Repeated names -/

/-- Where a member goes depends on its name, which the outline keeps. -/
theorem insertMember_outline (name : String) (v : Json) (members : List (String × Json)) :
    insertMember name v.outline (outlineMembers members)
      = outlineMembers (insertMember name v members) := by
  induction members with
  | nil => rfl
  | cons m rest ih =>
    obtain ⟨n, u⟩ := m
    rw [outlineMembers, insertMember, insertMember, ih]
    split
    · rfl
    · split <;> rfl

mutual

/-- Names can be settled before or after taking the outline. -/
theorem settle_outline : ∀ v : Json, v.outline.settle = v.settle.outline
  | .null => rfl
  | .bool _ => rfl
  | .number _ => rfl
  | .string _ => rfl
  | .array items => congrArg Json.array (settleItems_outline items)
  | .object members => congrArg Json.object (settleMembers_outline [] members)

theorem settleItems_outline : ∀ items : List Json,
    settleItems (outlineItems items) = outlineItems (settleItems items)
  | [] => rfl
  | v :: rest => by
    rw [outlineItems, settleItems, settleItems, outlineItems, settle_outline v,
      settleItems_outline rest]

/-- Members that come in among settled ones can be settled before or after taking the outline. -/
theorem settleMembers_outline (settled : List (String × Json)) : ∀ members : List (String × Json),
    settleMembers (outlineMembers settled) (outlineMembers members)
      = outlineMembers (settleMembers settled members)
  | [] => rfl
  | (name, v) :: rest => by
    rw [outlineMembers, settleMembers, settleMembers, settle_outline v, insertMember_outline,
      settleMembers_outline _ rest]

end

end AdmissionGate.Json
