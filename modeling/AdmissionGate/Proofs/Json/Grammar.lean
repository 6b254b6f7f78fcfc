import AdmissionGate.Proofs.Json.Scan
import AdmissionGate.Proofs.Text.Language
import AdmissionGate.Proofs.Text.Utf8

/-!
# The grammar of JSON text

JSON text by its grammar: words, which are languages of characters, and derivations over them
(`Document`). A derivation tells the text and, at every character of it, how many arrays and objects
are open there (`Value.marked`). The white space before a bracket that opens, and behind one that
closes, is outside; the brackets themselves are inside.

The scan for nesting is exact on every text of the grammar (`exceedsNesting_iff`), whether it can be
read or not: strings may spell halves of pairs, numerals may be out of range, and nothing bounds the
nesting. `Tracks` says what the scan makes of a part of a text, and there is one lemma for each way to
put parts together.
-/

namespace AdmissionGate.Json

open Text (Bytes spelled oneOf textsOf)
open scoped Computability

namespace Grammar

/-! ## Words -/

/-- The `ws` of the grammar. -/
def blanks : Language Char := (oneOf (" \t\n\r".toList.contains ·))∗

def digit : Language Char := oneOf Char.isDigit

/-- One digit or more. -/
def digits : Language Char := digit * digit∗

/-- A whole number without zeros before it. -/
def whole : Language Char := spelled "0" + oneOf (fun c => c.isDigit && c != '0') * digit∗

/-- The `frac` of the grammar. -/
def fraction : Language Char := spelled "." * digits

def exponent : Language Char :=
  (spelled "e" + spelled "E") * (1 + spelled "+" + spelled "-") * digits

/-- The `number` of the grammar. -/
def number : Language Char := (1 + spelled "-") * whole * (1 + fraction) * (1 + exponent)

def isHexMark (c : Char) : Bool := c.isDigit || "abcdefABCDEF".toList.contains c

/-- A character that stands for itself in a string. -/
def unescaped : Language Char := oneOf fun c => 0x20 ≤ c.toNat && c != '"' && c != '\\'

def escape : Language Char :=
  spelled "\\" * (oneOf ("\"\\/bfnrt".toList.contains ·) + spelled "u" * oneOf isHexMark ^ 4)

/-- The `string` of the grammar, with its quotation marks. -/
def string : Language Char := spelled "\"" * (unescaped + escape)∗ * spelled "\""

/-- The three names that stand for values. -/
def literal : Language Char := spelled "null" + spelled "true" + spelled "false"

/-! ## Derivations -/

/-- The two kinds of value that contain others. -/
inductive Container where
  | array
  | object

/-- The character that a container starts with. -/
def Container.opening : Container → Char
  | .array => '['
  | .object => '\x7b'

/-- The character that a container ends with. -/
def Container.closing : Container → Char
  | .array => ']'
  | .object => '\x7d'

/-- The white space on both sides of a bracket, a comma or a colon. -/
structure Gap where
  before : List Char
  behind : List Char
  before_mem : before ∈ blanks
  behind_mem : behind ∈ blanks

mutual

/-- A derivation of a value: a leaf, an empty container, or a container with parts in it. -/
inductive Value : Type where
  | literal (w : List Char) (h : w ∈ literal)
  | number (w : List Char) (h : w ∈ number)
  | string (w : List Char) (h : w ∈ string)
  | empty (c : Container) (opening closing : Gap)
  | filled (c : Container) (opening : Gap) (parts : Parts c) (closing : Gap)

/-- The parts of a container, with commas between them. -/
inductive Parts : Container → Type where
  | last {c : Container} (p : Part c) : Parts c
  | more {c : Container} (p : Part c) (comma : Gap) (rest : Parts c) : Parts c

/-- A part of a container: an item of an array, or a member of an object. -/
inductive Part : Container → Type where
  | item (v : Value) : Part .array
  | member (name : List Char) (h : name ∈ string) (colon : Gap) (v : Value) : Part .object

end

/-- A whole text. -/
structure Document where
  around : Gap
  value : Value

/-! ## What is open -/

/-- A text with the number of arrays and objects that are open at each character. -/
abbrev Marked := List (Char × Nat)

/-- A text that stays on one level. -/
def level (n : Nat) (w : List Char) : Marked := w.map (·, n)

/-- A comma or a colon. -/
def separator (n : Nat) (c : Char) (g : Gap) : Marked := level n (g.before ++ c :: g.behind)

/-- A container on a level, with what is inside of it one level up. -/
def enclosed (n : Nat) (c : Container) (opening : Gap) (inner : Marked) (closing : Gap) : Marked :=
  level n opening.before
    ++ ([(c.opening, n + 1)]
      ++ (level (n + 1) opening.behind ++ (inner ++ level (n + 1) closing.before))
      ++ [(c.closing, n + 1)])
    ++ level n closing.behind

mutual

/-- The text of a value, each character with the number of containers around it. -/
def Value.marked (n : Nat) : Value → Marked
  | .literal w _ => level n w
  | .number w _ => level n w
  | .string w _ => level n w
  | .empty c opening closing => enclosed n c opening [] closing
  | .filled c opening parts closing => enclosed n c opening (parts.marked (n + 1)) closing

def Parts.marked (n : Nat) {c : Container} : Parts c → Marked
  | .last p => p.marked n
  | .more p comma rest => p.marked n ++ (separator n ',' comma ++ rest.marked n)

def Part.marked (n : Nat) {c : Container} : Part c → Marked
  | .item v => v.marked n
  | .member name _ colon v => level n name ++ (separator n ':' colon ++ v.marked n)

end

namespace Document

def marked (d : Document) : Marked :=
  level 0 d.around.before ++ (d.value.marked 0 ++ level 0 d.around.behind)

/-- The text that is derived. -/
def text (d : Document) : String := String.ofList (d.marked.map Prod.fst)

/-- The numbers of arrays and objects that are open at once, at one character after the other. -/
def openCounts (d : Document) : List Nat := d.marked.map Prod.snd

end Document

/-! ## Words and the scan -/

/-- The octets that a text is sent as. -/
def octets (w : List Char) : Bytes := w.flatMap String.utf8EncodeChar

/-- The characters that the scan looks for outside of strings. -/
def scanned : List Char := ['"', '[', ']', '\x7b', '\x7d']

/-- The characters that the scan does not stop at outside of strings. -/
def isUnscanned (c : Char) : Bool := !scanned.contains c

theorem octets_append (v w : List Char) : octets (v ++ w) = octets v ++ octets w :=
  List.flatMap_append

theorem notMem_octets {w : List Char} {d : Char} (hd : d.toNat < 0x80) (h : d ∉ w) :
    UInt8.ofNat d.toNat ∉ octets w :=
  Text.notMem_encode hd h

/-- No octet of another character is taken for one that the scan looks for. -/
theorem all_isPlain {w : List Char} (h : w ∈ textsOf isUnscanned) :
    (octets w).all isPlain = true := by
  have hnone : ∀ d ∈ scanned, UInt8.ofNat d.toNat ∉ octets w := by
    intro d hd
    refine notMem_octets ?_ fun hmem => ?_
    · have hascii : scanned.all (·.toNat < 0x80) = true := by decide
      exact of_decide_eq_true (List.all_eq_true.mp hascii d hd)
    · have hunscanned := h d hmem
      rw [isUnscanned, List.contains_iff_mem.mpr hd] at hunscanned
      cases hunscanned
  refine List.all_eq_true.mpr fun b hb => ?_
  have hne : ∀ d ∈ scanned, b ≠ UInt8.ofNat d.toNat := fun d hd heq => hnone d hd (heq ▸ hb)
  simp only [isPlain, Bool.and_eq_true, bne_iff_ne]
  exact ⟨⟨⟨⟨hne '"' (by decide), hne '\x7b' (by decide)⟩, hne '[' (by decide)⟩,
    hne '\x7d' (by decide)⟩, hne ']' (by decide)⟩

/-- A class that has none of the characters the scan stops at is passed over. -/
theorem oneOf_le_unscanned {p : Char → Bool} (h : scanned.any p = false) :
    oneOf p ≤ textsOf isUnscanned := by
  refine Text.oneOf_le_textsOf fun c hc => ?_
  rw [isUnscanned, Bool.not_eq_true', ← Bool.not_eq_true, List.contains_iff_mem]
  exact fun hmem => List.any_eq_false.mp h c hmem hc

theorem spelled_le_unscanned {word : String} (h : word.toList.all isUnscanned = true) :
    spelled word ≤ textsOf isUnscanned :=
  Text.spelled_le_textsOf (List.all_eq_true.mp h)

theorem blanks_le_unscanned : blanks ≤ textsOf isUnscanned :=
  Text.kstar_le_textsOf (oneOf_le_unscanned (by decide))

theorem literal_le_unscanned : literal ≤ textsOf isUnscanned :=
  add_le (add_le (spelled_le_unscanned (by decide)) (spelled_le_unscanned (by decide)))
    (spelled_le_unscanned (by decide))

theorem digits_le_unscanned : digits ≤ textsOf isUnscanned := by
  have hdigit : digit ≤ textsOf isUnscanned := oneOf_le_unscanned (by decide)
  exact Text.mul_le_textsOf hdigit (Text.kstar_le_textsOf hdigit)

/-- Nothing in a number stops the scan. -/
theorem number_le_unscanned : number ≤ textsOf isUnscanned := by
  have hdigit : digit ≤ textsOf isUnscanned := oneOf_le_unscanned (by decide)
  have hwhole : whole ≤ textsOf isUnscanned :=
    add_le (spelled_le_unscanned (by decide))
      (Text.mul_le_textsOf (oneOf_le_unscanned (by decide)) (Text.kstar_le_textsOf hdigit))
  have hfraction : fraction ≤ textsOf isUnscanned :=
    Text.mul_le_textsOf (spelled_le_unscanned (by decide)) digits_le_unscanned
  have hsign : 1 + spelled "+" + spelled "-" ≤ textsOf isUnscanned :=
    add_le (add_le Text.one_le_textsOf (spelled_le_unscanned (by decide)))
      (spelled_le_unscanned (by decide))
  have hexponent : exponent ≤ textsOf isUnscanned :=
    Text.mul_le_textsOf (Text.mul_le_textsOf
      (add_le (spelled_le_unscanned (by decide)) (spelled_le_unscanned (by decide))) hsign)
      digits_le_unscanned
  exact Text.mul_le_textsOf (Text.mul_le_textsOf (Text.mul_le_textsOf
    (add_le Text.one_le_textsOf (spelled_le_unscanned (by decide))) hwhole)
    (add_le Text.one_le_textsOf hfraction)) (add_le Text.one_le_textsOf hexponent)

/-! ## Strings and the scan -/

/-- A part of a string that leaves the scan inside of the string. -/
def StaysInString (bs : Bytes) : Prop :=
  ∀ limit depth rest, exceedsNestingFrom limit .inString depth (bs ++ rest)
    = exceedsNestingFrom limit .inString depth rest

/-- Octets with no backslash and no quotation mark leave the scan inside of the string. -/
theorem staysInString_of_notMem {bs : Bytes} (hescape : 0x5C ∉ bs) (hquote : 0x22 ∉ bs) :
    StaysInString bs := by
  intro limit depth rest
  induction bs with
  | nil => rfl
  | cons b bs ih =>
    rw [List.mem_cons, not_or] at hescape hquote
    rw [List.cons_append, inString_cons (Ne.symm hescape.1) (Ne.symm hquote.1),
      ih hescape.2 hquote.2]

/-- Characters of a class without these two do so as well. -/
theorem staysInString_of_textsOf {p : Char → Bool} (hescape : p '\\' = false)
    (hquote : p '"' = false) {w : List Char} (h : w ∈ textsOf p) : StaysInString (octets w) := by
  have hnone : ∀ d, p d = false → d ∉ w := by
    intro d hd hmem
    rw [h d hmem] at hd
    cases hd
  exact staysInString_of_notMem (notMem_octets (d := '\\') (by decide) (hnone _ hescape))
    (notMem_octets (d := '"') (by decide) (hnone _ hquote))

/-- The letter behind a backslash is one octet, and behind it there are digits at most. -/
theorem exists_of_escape {w : List Char} (h : w ∈ escape) :
    ∃ e ds, w = '\\' :: e :: ds ∧ e.toNat < 0x80 ∧ ds ∈ textsOf isHexMark := by
  obtain ⟨_, rfl, _, hcode, rfl⟩ := Language.mem_mul.mp h
  rcases hcode with ⟨e, he, rfl⟩ | hunit
  · have hascii : "\"\\/bfnrt".toList.all (·.toNat < 0x80) = true := by decide
    have hlt := List.all_eq_true.mp hascii e (List.contains_iff_mem.mp he)
    exact ⟨e, [], rfl, of_decide_eq_true hlt, nofun⟩
  · obtain ⟨_, rfl, ds, hds, rfl⟩ := Language.mem_mul.mp hunit
    have hle : oneOf isHexMark ^ 4 ≤ textsOf isHexMark := Text.kstar_oneOf ▸ pow_le_kstar
    exact ⟨'u', ds, rfl, by decide, hle hds⟩

/-- An escape leaves the scan inside of the string, as it takes in what follows the backslash. -/
theorem staysInString_escape {w : List Char} (h : w ∈ escape) : StaysInString (octets w) := by
  obtain ⟨e, ds, rfl, he, hds⟩ := exists_of_escape h
  have hdigits : StaysInString (octets ds) := staysInString_of_textsOf (by decide) (by decide) hds
  intro limit depth rest
  have hoctets : octets ('\\' :: e :: ds) = 0x5C :: UInt8.ofNat e.toNat :: octets ds := by
    rw [octets, List.flatMap_cons, List.flatMap_cons, Text.utf8EncodeChar_ascii he]
    rfl
  -- after a backslash one octet is skipped, whichever it is
  rw [hoctets]
  exact hdigits limit depth rest

/-- Parts of a string follow one another. -/
theorem staysInString_append {bs cs : Bytes} (hb : StaysInString bs) (hc : StaysInString cs) :
    StaysInString (bs ++ cs) := by
  intro limit depth rest
  rw [List.append_assoc, hb, hc]

/-- What stands between the quotation marks leaves the scan inside of the string. -/
theorem staysInString_kstar {w : List Char} (h : w ∈ (unescaped + escape)∗) :
    StaysInString (octets w) := by
  obtain ⟨parts, rfl, hparts⟩ := Language.mem_kstar.mp h
  clear h
  induction parts with
  | nil => exact fun _ _ _ => rfl
  | cons part parts ih =>
    obtain ⟨hpart, hrest⟩ := List.forall_mem_cons.mp hparts
    rw [List.flatten_cons, octets_append]
    refine staysInString_append ?_ (ih hrest)
    rcases hpart with hpart | hpart
    · exact staysInString_of_textsOf (by decide) (by decide) (Text.oneOf_le_textsOf (fun _ => id) hpart)
    · exact staysInString_escape hpart

/-- The scan comes out of a string as it went in. -/
theorem passedOver_string {w : List Char} (h : w ∈ string) (rest : Bytes) :
    PassedOver (octets w ++ rest) rest := by
  obtain ⟨_, ⟨_, rfl, inner, hinner, rfl⟩, _, rfl, rfl⟩ := Language.mem_mul.mp h
  intro limit depth
  have hoctets : octets (['"'] ++ inner ++ ['"']) ++ rest
      = 0x22 :: (octets inner ++ 0x22 :: rest) := by
    rw [octets_append, octets_append, List.append_assoc, List.append_assoc]
    rfl
  calc exceedsNestingFrom limit .outside depth (octets (['"'] ++ inner ++ ['"']) ++ rest)
      = exceedsNestingFrom limit .inString depth (octets inner ++ 0x22 :: rest) := by
        rw [hoctets]
        rfl
    _ = exceedsNestingFrom limit .inString depth (0x22 :: rest) :=
        staysInString_kstar hinner limit depth _
    _ = exceedsNestingFrom limit .outside depth rest := rfl

/-- Text with none of the scanned characters is passed over. -/
theorem passedOver_unscanned {w : List Char} (h : w ∈ textsOf isUnscanned) (rest : Bytes) :
    PassedOver (octets w ++ rest) rest :=
  passedOver_append (all_isPlain h) rest

/-! ## What the scan makes of a text -/

/-- Of a text that begins with `depth` containers open, the scan tells whether more than `limit` are
open anywhere, and goes on behind it as it came. -/
def Tracks (limit depth : Nat) (s : Marked) : Prop :=
  ∀ rest, exceedsNestingFrom limit .outside depth (octets (s.map Prod.fst) ++ rest)
    = (s.any (limit < ·.2) || exceedsNestingFrom limit .outside depth rest)

section Tracks

variable {limit depth : Nat} {s t : Marked} {w : List Char}

/-- Texts that the scan keeps track of follow one another. -/
theorem Tracks.append (hs : Tracks limit depth s) (ht : Tracks limit depth t) :
    Tracks limit depth (s ++ t) := by
  intro rest
  rw [List.map_append, octets_append, List.append_assoc, hs, ht, List.any_append, Bool.or_assoc]

theorem map_fst_level (n : Nat) (w : List Char) : (level n w).map Prod.fst = w := by
  rw [level, List.map_map]
  exact List.map_id w

/-- What is passed over stays on its level, which is no deeper than the limit. -/
theorem tracks_level (hle : depth ≤ limit) (h : ∀ rest, PassedOver (octets w ++ rest) rest) :
    Tracks limit depth (level depth w) := by
  intro rest
  have hnone : (level depth w).any (limit < ·.2) = false := by
    refine List.any_eq_false.mpr fun p hp => ?_
    obtain ⟨c, -, rfl⟩ := List.mem_map.mp hp
    simpa using hle
  rw [map_fst_level, h rest limit depth, hnone, Bool.false_or]

/-- Text that is passed over adds nothing to the count. -/
theorem tracks_unscanned (hle : depth ≤ limit) (h : w ∈ textsOf isUnscanned) :
    Tracks limit depth (level depth w) :=
  tracks_level hle (passedOver_unscanned h)

theorem tracks_blanks (hle : depth ≤ limit) (h : w ∈ blanks) :
    Tracks limit depth (level depth w) :=
  tracks_unscanned hle (blanks_le_unscanned h)

/-- A comma or colon with the blanks around it adds nothing to the count. -/
theorem tracks_separator (hle : depth ≤ limit) {c : Char} (hc : isUnscanned c = true) (g : Gap) :
    Tracks limit depth (separator depth c g) := by
  refine tracks_unscanned hle fun d hd => ?_
  rcases List.mem_append.mp hd with hd | hd
  · exact blanks_le_unscanned g.before_mem d hd
  · rcases List.mem_cons.mp hd with rfl | hd
    · exact hc
    · exact blanks_le_unscanned g.behind_mem d hd

/-- An opening bracket adds one to the count, and is where a limit is found to be exceeded. -/
theorem scan_opening (c : Container) (limit depth : Nat) (bs : Bytes) :
    exceedsNestingFrom limit .outside depth (octets [c.opening] ++ bs)
      = (decide (limit < depth + 1) || exceedsNestingFrom limit .outside (depth + 1) bs) := by
  cases c <;> rfl

/-- A closing bracket takes one away again. -/
theorem scan_closing (c : Container) (limit depth : Nat) (bs : Bytes) :
    exceedsNestingFrom limit .outside (depth + 1) (octets [c.closing] ++ bs)
      = exceedsNestingFrom limit .outside depth bs := by
  cases c <;> rfl

/-- Two brackets, and a text one level up between them. -/
theorem tracks_brackets (c : Container)
    (h : depth + 1 ≤ limit → Tracks limit (depth + 1) s) :
    Tracks limit depth ([(c.opening, depth + 1)] ++ s ++ [(c.closing, depth + 1)]) := by
  intro rest
  simp only [List.map_append, List.map_cons, List.map_nil, octets_append, List.append_assoc,
    scan_opening, List.any_append, List.any_cons, List.any_nil, Bool.or_false]
  -- unless the opening bracket is one too many by itself, what is inside decides
  by_cases hroom : depth + 1 ≤ limit
  · rw [h hroom, scan_closing, decide_eq_false (Nat.not_lt.mpr hroom), Bool.false_or, Bool.or_false,
      Bool.false_or]
  · rw [decide_eq_true (Nat.lt_of_not_le hroom), Bool.true_or, Bool.true_or, Bool.true_or]

/-- A container is kept track of if what is in it is, one level further in. -/
theorem tracks_enclosed (hle : depth ≤ limit) (c : Container) (opening closing : Gap)
    (h : depth + 1 ≤ limit → Tracks limit (depth + 1) s) :
    Tracks limit depth (enclosed depth c opening s closing) := by
  have hbrackets : Tracks limit depth ([(c.opening, depth + 1)] ++ _ ++ [(c.closing, depth + 1)]) :=
    tracks_brackets c fun hroom => (tracks_blanks hroom opening.behind_mem).append
      ((h hroom).append (tracks_blanks hroom closing.before_mem))
  exact ((tracks_blanks hle opening.before_mem).append hbrackets).append
    (tracks_blanks hle closing.behind_mem)

theorem tracks_nil : Tracks limit depth [] := fun _ => rfl

end Tracks

mutual

/-- **The scan keeps track of every value**, by induction on its derivation. -/
theorem tracks_value {limit depth : Nat} (hle : depth ≤ limit) :
    ∀ v : Value, Tracks limit depth (v.marked depth)
  | .literal _ h => tracks_unscanned hle (literal_le_unscanned h)
  | .number _ h => tracks_unscanned hle (number_le_unscanned h)
  | .string _ h => tracks_level hle (passedOver_string h)
  | .empty c opening closing => tracks_enclosed hle c opening closing fun _ => tracks_nil
  | .filled c opening parts closing =>
    tracks_enclosed hle c opening closing fun hroom => tracks_parts hroom parts

/-- The scan keeps track of the parts of a container, one after the other. -/
theorem tracks_parts {limit depth : Nat} (hle : depth ≤ limit) :
    ∀ {c : Container} (parts : Parts c), Tracks limit depth (parts.marked depth)
  | _, .last p => tracks_part hle p
  | _, .more p comma rest =>
    (tracks_part hle p).append ((tracks_separator hle (by decide) comma).append
      (tracks_parts hle rest))

/-- The scan keeps track of an item, and of a member with its name. -/
theorem tracks_part {limit depth : Nat} (hle : depth ≤ limit) :
    ∀ {c : Container} (p : Part c), Tracks limit depth (p.marked depth)
  | _, .item v => tracks_value hle v
  | _, .member _ h colon v =>
    (tracks_level hle (passedOver_string h)).append
      ((tracks_separator hle (by decide) colon).append (tracks_value hle v))

end

end Grammar

open Grammar

/-- **The scan for nesting is exact on every text of the grammar.** It tells whether more than `limit`
arrays and objects are open at once at some point of the text. -/
theorem exceedsNesting_iff (d : Document) (limit : Nat) :
    exceedsNesting (Text.encode d.text) limit = true ↔ ∃ n ∈ d.openCounts, limit < n := by
  have htracks : Tracks limit 0 d.marked :=
    (tracks_blanks (Nat.zero_le _) d.around.before_mem).append
      ((tracks_value (Nat.zero_le _) d.value).append
        (tracks_blanks (Nat.zero_le _) d.around.behind_mem))
  have hscan : exceedsNesting (Text.encode d.text) limit = d.marked.any (limit < ·.2) := by
    have hwhole := htracks []
    rw [List.append_nil] at hwhole
    rw [Document.text, Text.encode_ofList]
    exact hwhole.trans (Bool.or_false _)
  rw [hscan, List.any_eq_true]
  simp only [Document.openCounts, List.mem_map, exists_exists_and_eq_and, decide_eq_true_eq]

/-- No white space. -/
def tight : Gap := ⟨[], [], Language.nil_mem_kstar _, Language.nil_mem_kstar _⟩

/-- A string with an escaped quote and a bracket behind it. -/
theorem bracketed_mem : "\"\\\"]\"".toList ∈ Grammar.string := by
  have hquote : ['\\', '"'] ∈ unescaped + escape :=
    .inr ⟨['\\'], rfl, ['"'], .inl ⟨'"', by decide, rfl⟩, rfl⟩
  have hbracket : [']'] ∈ unescaped + escape := .inl ⟨']', by decide, rfl⟩
  have hparts : ∀ part ∈ [['\\', '"'], [']']], part ∈ unescaped + escape :=
    List.forall_mem_cons.mpr ⟨hquote, List.forall_mem_singleton.mpr hbracket⟩
  have hinner : ['\\', '"', ']'] ∈ (unescaped + escape)∗ :=
    Language.mem_kstar.mpr ⟨_, rfl, hparts⟩
  exact ⟨_, ⟨['"'], rfl, _, hinner, rfl⟩, ['"'], rfl, rfl⟩

/-- An array of an empty object and that string. -/
def bracketed : Document :=
  ⟨tight, .filled .array tight (.more (.item (.empty .object tight tight)) tight
    (.last (.item (.string _ bracketed_mem)))) tight⟩

example : bracketed.text = "[\x7b\x7d,\"\\\"]\"]" ∧
    bracketed.openCounts = [1, 2, 2, 1, 1, 1, 1, 1, 1, 1] := by decide +kernel

end AdmissionGate.Json
