import AdmissionGate.Json.Parser

/-!
Drafts of knowledge items, as clients send them: a JSON object with known members, or an array with
their values in order. The text is read from the left, and the first thing wrong with it decides
whether it is malformed or of another shape. Of members that are not known only the outline is read.
-/

namespace AdmissionGate

open Text (Bytes)

/-- What a client sends to have an item made. -/
structure Draft where
  title : String
  content : String
  category : Option String
  tags : List String
  deriving DecidableEq, Repr

/-- What is wrong with the text of a draft. -/
inductive DraftError where
  /-- The text is no JSON. -/
  | malformed
  /-- The text is JSON so far, but not of a draft. -/
  | mismatch
  deriving DecidableEq, Repr

namespace Draft

open Json (Token)

/-- Reading from the head of a text, with what follows. -/
abbrev Reader (α : Type) := Bytes → Except DraftError (α × Bytes)

def Reader.into {α β : Type} (read : Reader α) (f : α → β) : Reader β := fun bs =>
  (read bs).map fun (a, rest) => (f a, rest)

/-- The error of a token that does not begin the value that is due. -/
def unexpected : Token → DraftError
  | .closeArray => .malformed
  | .closeObject => .malformed
  | .comma => .malformed
  | .colon => .malformed
  | _ => .mismatch

def string : Reader String := fun bs =>
  match Token.next? .full bs with
  | none => .error .malformed
  | some (.string s, rest) => .ok (s, rest)
  | some (t, _) => .error (unexpected t)

def optionalString : Reader (Option String) := fun bs =>
  match Token.next? .full bs with
  | some (.null, rest) => .ok (none, rest)
  | _ => Reader.into string some bs

/-- What comes next inside of an array or object: the first item or the end, an item after a comma,
or a comma or the end. -/
inductive Due where
  | first
  | item
  | separator
  deriving DecidableEq, Repr

/-- The strings of an array that is open, given those so far, last first. -/
def stringsFrom (due : Due) (sofar : List String) (bs : Bytes) :
    Except DraftError (List String × Bytes) :=
  match _h : Token.next? .full bs with
  | none => .error .malformed
  | some (t, rest) =>
    match due, t with
    | .separator, .comma => stringsFrom .item sofar rest
    | .separator, .closeArray => .ok (sofar.reverse, rest)
    | .separator, _ => .error .malformed
    | .first, .closeArray => .ok (sofar.reverse, rest)
    | _, .string s => stringsFrom .separator (s :: sofar) rest
    | _, t => .error (unexpected t)
termination_by bs.length
decreasing_by all_goals exact Token.length_of_next? ‹_›

def strings : Reader (List String) := fun bs =>
  match Token.next? .full bs with
  | none => .error .malformed
  | some (.openArray, rest) => stringsFrom .first [] rest
  | some (t, _) => .error (unexpected t)

/-- Passes over a value of which only the outline matters, however deep it is. -/
def skipFrom (a : Json.Assembly) (bs : Bytes) : Except DraftError Bytes :=
  match a with
  | .finished _ [] => .ok bs
  | a =>
    match _h : Token.next? .skim bs with
    | none => .error .malformed
    | some (t, rest) =>
      match a.step? none t with
      | none => .error .malformed
      | some a => skipFrom a rest
termination_by bs.length
decreasing_by exact Token.length_of_next? ‹_›

def skip (bs : Bytes) : Except DraftError Bytes :=
  skipFrom (.value false []) bs

/-! ## Objects -/

/-- The members of a draft that have been read. -/
structure Fields where
  title : Option String
  content : Option String
  category : Option (Option String)
  tags : Option (List String)
  deriving DecidableEq, Repr

namespace Fields

def none : Fields := ⟨.none, .none, .none, .none⟩

/-- Whether a member has been read already. -/
def has (f : Fields) (name : String) : Bool :=
  if name = "title" then f.title.isSome
  else if name = "content" then f.content.isSome
  else if name = "category" then f.category.isSome
  else if name = "tags" then f.tags.isSome
  else false

def member (f : Fields) (name : String) : Reader Fields := fun bs =>
  if name = "title" then Reader.into string (fun s => { f with title := some s }) bs
  else if name = "content" then Reader.into string (fun s => { f with content := some s }) bs
  else if name = "category" then
    Reader.into optionalString (fun c => { f with category := some c }) bs
  else if name = "tags" then Reader.into strings (fun ts => { f with tags := some ts }) bs
  else (skip bs).map fun rest => (f, rest)

def draft (f : Fields) : Except DraftError Draft :=
  match f.title, f.content with
  | some title, some content => .ok ⟨title, content, f.category.getD .none, f.tags.getD []⟩
  | _, _ => .error .mismatch

end Fields

def colon : Reader Unit := fun bs =>
  match Token.next? .full bs with
  | some (.colon, rest) => .ok ((), rest)
  | _ => .error .malformed

/-- One member after its name. A known member must not come twice. -/
def memberAfter (f : Fields) (name : String) : Reader Fields := fun bs => do
  if f.has name then throw .mismatch
  let ((), bs) ← colon bs
  f.member name bs

/-! ### Readers go forward -/

theorem Reader.length_of_into {α β : Type} {read : Reader α} {f : α → β} {b : β} {bs rest : Bytes}
    (hr : ∀ {a tail}, read bs = .ok (a, tail) → tail.length < bs.length)
    (h : read.into f bs = .ok (b, rest)) : rest.length < bs.length := by
  unfold Reader.into at h
  cases hb : read bs with
  | error e => simp [hb, Except.map] at h
  | ok p =>
    obtain ⟨a, tail⟩ := p
    simp only [hb, Except.map, Except.ok.injEq, Prod.mk.injEq] at h
    exact h.2 ▸ hr hb

theorem length_of_string {bs rest : Bytes} {s : String} (h : string bs = .ok (s, rest)) :
    rest.length < bs.length := by
  unfold string at h
  split at h
  · simp at h
  · rename_i hn
    simp only [Except.ok.injEq, Prod.mk.injEq] at h
    exact h.2 ▸ Token.length_of_next? hn
  · simp at h

theorem length_of_optionalString {bs rest : Bytes} {s : Option String}
    (h : optionalString bs = .ok (s, rest)) : rest.length < bs.length := by
  unfold optionalString at h
  split at h
  · rename_i hn
    simp only [Except.ok.injEq, Prod.mk.injEq] at h
    exact h.2 ▸ Token.length_of_next? hn
  · exact Reader.length_of_into length_of_string h

theorem length_of_stringsFrom {due : Due} {sofar ts : List String} {bs rest : Bytes}
    (h : stringsFrom due sofar bs = .ok (ts, rest)) : rest.length < bs.length := by
  fun_induction stringsFrom due sofar bs generalizing ts rest with
  | case1 => simp at h
  | case2 sofar bs r _ hn ih => exact Nat.lt_trans (ih h) (Token.length_of_next? hn)
  | case3 sofar bs r hn =>
    simp only [Except.ok.injEq, Prod.mk.injEq] at h
    exact h.2 ▸ Token.length_of_next? hn
  | case4 => simp at h
  | case5 sofar bs r hn =>
    simp only [Except.ok.injEq, Prod.mk.injEq] at h
    exact h.2 ▸ Token.length_of_next? hn
  | case6 due sofar bs r s _ hd hn ih => exact Nat.lt_trans (ih h) (Token.length_of_next? hn)
  | case7 => simp at h

theorem length_of_strings {ts : List String} {bs rest : Bytes}
    (h : strings bs = .ok (ts, rest)) : rest.length < bs.length := by
  unfold strings at h
  split at h
  · simp at h
  · rename_i hn
    exact Nat.lt_trans (length_of_stringsFrom h) (Token.length_of_next? hn)
  · simp at h

theorem length_of_skipFrom {a : Json.Assembly} {bs rest : Bytes}
    (h : skipFrom a bs = .ok rest) : rest.length ≤ bs.length := by
  unfold skipFrom at h
  split at h
  · cases h
    exact Nat.le_refl _
  · split at h
    · cases h
    · next t tail hn =>
      split at h
      · cases h
      · exact Nat.le_trans (length_of_skipFrom h) (Nat.le_of_lt (Token.length_of_next? hn))
termination_by bs.length
decreasing_by exact Token.length_of_next? ‹_›

theorem length_of_member {f g : Fields} {name : String} {bs rest : Bytes}
    (h : f.member name bs = .ok (g, rest)) : rest.length ≤ bs.length := by
  unfold Fields.member at h
  split at h
  · exact Nat.le_of_lt (Reader.length_of_into length_of_string h)
  split at h
  · exact Nat.le_of_lt (Reader.length_of_into length_of_string h)
  split at h
  · exact Nat.le_of_lt (Reader.length_of_into length_of_optionalString h)
  split at h
  · exact Nat.le_of_lt (Reader.length_of_into length_of_strings h)
  · cases hb : skip bs with
    | error e => simp [hb, Except.map] at h
    | ok r =>
      simp only [hb, Except.map, Except.ok.injEq, Prod.mk.injEq] at h
      exact h.2 ▸ length_of_skipFrom hb

theorem length_of_memberAfter {f g : Fields} {name : String} {bs rest : Bytes}
    (h : memberAfter f name bs = .ok (g, rest)) : rest.length ≤ bs.length := by
  unfold memberAfter at h
  by_cases hf : f.has name
  · simp [hf, bind, Except.bind, throw, throwThe, MonadExceptOf.throw] at h
  · unfold colon at h
    split at h
    · rename_i hn
      simp only [hf] at h
      exact Nat.le_trans (length_of_member h) (Nat.le_of_lt (Token.length_of_next? hn))
    · simp [hf, bind, Except.bind] at h

/-- The members of an object that is open. -/
def membersFrom (due : Due) (f : Fields) (bs : Bytes) : Except DraftError (Draft × Bytes) :=
  match _h : Token.next? .full bs with
  | none => .error .malformed
  | some (t, rest) =>
    match due, t with
    | .separator, .comma => membersFrom .item f rest
    | .separator, .closeObject => f.draft.map (·, rest)
    | .separator, _ => .error .malformed
    | .first, .closeObject => f.draft.map (·, rest)
    | _, .string name =>
      match _m : memberAfter f name rest with
      | .error e => .error e
      | .ok (f, tail) => membersFrom .separator f tail
    | _, _ => .error .malformed
termination_by bs.length
decreasing_by
  · exact Token.length_of_next? ‹_›
  · exact Nat.lt_of_le_of_lt (length_of_memberAfter ‹_›) (Token.length_of_next? ‹_›)

/-! ## Arrays -/

/-- The next item of an array that is open: the text at which its value begins, unless the array
ends here. -/
def item? (first : Bool) (bs : Bytes) : Except DraftError (Option Bytes) :=
  match Token.next? .full bs with
  | some (.closeArray, _) => .ok none
  | some (.comma, rest) => if first then .error .malformed else .ok (some rest)
  | _ => if first then .ok (some bs) else .error .malformed

def required {α : Type} (first : Bool) (read : Reader α) : Reader α := fun bs => do
  match ← item? first bs with
  | none => throw .mismatch
  | some bs => read bs

def optional {α : Type} (default : α) (read : Reader α) : Reader α := fun bs => do
  match ← item? false bs with
  | none => return (default, bs)
  | some bs => read bs

/-- The items of an array that is open, and its end. -/
def items : Reader Draft := fun bs => do
  let (title, bs) ← required true string bs
  let (content, bs) ← required false string bs
  let (category, bs) ← optional none optionalString bs
  let (tags, bs) ← optional [] strings bs
  match Token.next? .full bs with
  | some (.closeArray, rest) => return (⟨title, content, category, tags⟩, rest)
  | _ => throw .malformed

def parse (bs : Bytes) : Except DraftError Draft := do
  let (d, rest) ←
    match Token.next? .full bs with
    | none => throw .malformed
    | some (.openObject, rest) => membersFrom .first .none rest
    | some (.openArray, rest) => items rest
    | some (t, _) => throw (unexpected t)
  if Json.isSpent rest then return d else throw .malformed

end Draft

end AdmissionGate
