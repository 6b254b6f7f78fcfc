import AdmissionGate.Proofs.Decimal.Natural
import AdmissionGate.Proofs.Text.Trim
import AdmissionGate.Settings.Environment
import Mathlib.Data.List.Forall2

/-!
# What variables give

A variable gives the value that its text spells, or its default if it is not set (`Gives`), and what a
text spells is said here without reading it: a number, a truth value or a format with blanks on either
side (`SpellsNumber`, `SpellsFlag`, `SpellsFormat`), and the texts between commas (`Lists`). Each reader of
the environment returns exactly what its variable gives, and its error is about a text that spells nothing
of that kind. A text never spells two values.
-/

namespace AdmissionGate

/-! ## Texts of variables -/

/-- The text is a number in decimal, at most `max`, with blanks on either side. -/
def SpellsNumber (max : Nat) (text : String) (n : Nat) : Prop :=
  ∃ core, Text.Pads core text.toList ∧ Decimal.Spells core n ∧ n ≤ max

/-- The text is one of the words in small or capital ASCII letters, with blanks on either side. -/
def SpellsWord (words : List String) (text : String) : Prop :=
  ∃ core, Text.Pads core text.toList ∧ String.ofList (core.map Char.toLower) ∈ words

/-- The words for a truth value. -/
def flagWords : Bool → List String
  | true => ["true", "1", "yes", "on"]
  | false => ["false", "0", "no", "off"]

/-- The text is one of the words for a truth value. -/
def SpellsFlag (text : String) (value : Bool) : Prop := SpellsWord (flagWords value) text

/-- The words for a format of the log. -/
def formatWords : LogFormat → List String
  | .pretty => ["pretty", "text"]
  | .json => ["json"]

/-- The text is one of the words for a format. -/
def SpellsFormat (text : String) (format : LogFormat) : Prop := SpellsWord (formatWords format) text

/-- The texts between the commas of a text, without the blanks at their ends. -/
def Lists (text : String) (listed : List String) : Prop :=
  ∃ stretches : List (List Char), stretches ≠ [] ∧ (∀ stretch ∈ stretches, ',' ∉ stretch) ∧
    text.toList = [','].intercalate stretches ∧
    List.Forall₂ (fun stretch t => Text.Pads t.toList stretch ∧ Text.Tight t.toList) stretches listed

/-- The paths among the texts that a text lists. -/
def SpellsPaths (text : String) (paths : List String) : Prop :=
  ∃ listed, Lists text listed ∧ paths = listed.filter fun p => p.toList.head? == some '/'

/-- The texts that a text lists, but for the empty ones. -/
def SpellsOrigins (text : String) (origins : List String) : Prop :=
  ∃ listed, Lists text listed ∧ origins = listed.filter (!·.isEmpty)

section Texts

variable {text : String}

/-- **A number is read from the texts that spell it**, and from no others. -/
theorem spellsNumber_iff {max n : Nat} :
    SpellsNumber max text n ↔ Decimal.read max (Text.trim text) = .ok n := by
  rw [Decimal.read, Text.toList_trim, Decimal.readChars_eq_ok_iff]
  constructor
  · rintro ⟨core, hpads, hspells, hle⟩
    -- what is spelled has no blank in it, so it is all that trimming leaves
    have hblank : ∀ c ∈ core, Text.isBlank c = false := by
      intro c hc
      rcases hspells.forall_mem c hc with rfl | hdigit
      · decide
      · exact Text.isBlank_of_isDigit hdigit
    rw [hpads.trimChars_eq (.of_forall hblank)]
    exact ⟨hspells, hle⟩
  · rintro ⟨hspells, hle⟩
    exact ⟨_, Text.pads_trimChars _, hspells, hle⟩

/-- A word is recognised when the text is trimmed and in lower case. -/
theorem spellsWord_iff {words : List String}
    (h : ∀ w ∈ words, w.toList.all (!Text.isBlank ·) = true) :
    SpellsWord words text ↔ Text.lowerAscii (Text.trim text) ∈ words := by
  rw [Text.lowerAscii, Text.toList_trim]
  constructor
  · rintro ⟨core, hpads, hword⟩
    have hblank : ∀ c ∈ core, Text.isBlank c = false := by
      intro c hc
      have hall := List.all_eq_true.mp (h _ hword) c.toLower
        (by rw [String.toList_ofList]; exact List.mem_map_of_mem hc)
      rwa [Text.isBlank_toLower, Bool.not_eq_true'] at hall
    rw [hpads.trimChars_eq (.of_forall hblank)]
    exact hword
  · intro hword
    exact ⟨_, Text.pads_trimChars _, hword⟩

/-- **A truth value is read from the texts that spell it.** -/
theorem spellsFlag_iff {value : Bool} : SpellsFlag text value ↔ readFlag? text = some value := by
  have hwords : ∀ w ∈ flagWords value, w.toList.all (!Text.isBlank ·) = true := by
    cases value <;> decide
  rw [SpellsFlag, spellsWord_iff hwords]
  generalize hword : Text.lowerAscii (Text.trim text) = word
  have hread : readFlag? text = if word ∈ flagWords true then some true
      else if word ∈ flagWords false then some false else none := by
    rw [readFlag?, hword]
    simp only [List.contains_iff_mem]
    rfl
  -- the words for true are looked at first, and no word stands for both
  have hdisjoint : ∀ w ∈ flagWords false, w ∉ flagWords true := by decide
  rw [hread]
  cases value with
  | true =>
    by_cases htrue : word ∈ flagWords true
    · simp [htrue]
    · rw [if_neg htrue]
      refine iff_of_false htrue ?_
      split <;> nofun
  | false =>
    constructor
    · intro hfalse
      rw [if_neg (hdisjoint word hfalse), if_pos hfalse]
    · intro h
      split at h
      · cases h
      · split at h
        · assumption
        · cases h

/-- **A format is read from the texts that spell it.** -/
theorem spellsFormat_iff {format : LogFormat} :
    SpellsFormat text format ↔ LogFormat.read text = .ok format := by
  have hwords : ∀ w ∈ formatWords format, w.toList.all (!Text.isBlank ·) = true := by
    cases format <;> decide
  rw [SpellsFormat, spellsWord_iff hwords, LogFormat.read]
  generalize Text.lowerAscii (Text.trim text) = word
  have hne : ("json" : String) ≠ "pretty" ∧ ("json" : String) ≠ "text" := by decide
  split
  next hpretty =>
    cases format with
    | pretty => simpa [formatWords] using hpretty
    | json =>
      refine iff_of_false ?_ nofun
      intro hjson
      obtain rfl := List.mem_singleton.mp hjson
      exact hpretty.elim hne.1 hne.2
  next hpretty =>
    cases format with
    | pretty =>
      refine iff_of_false ?_ ?_
      · simpa [formatWords] using hpretty
      · split <;> nofun
    | json =>
      split
      next hjson => simpa [formatWords] using hjson
      next hjson => exact iff_of_false (fun hmem => hjson (List.mem_singleton.mp hmem)) nofun

/-- **The items of a text are what it lists.** -/
theorem lists_iff {listed : List String} : Lists text listed ↔ listed = Environment.items text := by
  have hitems : Environment.items text
      = (Text.splitAll ',' text.toList).map fun stretch => String.ofList (Text.trimChars stretch) := by
    simp [Environment.items, Text.pieces, Text.trim]
  rw [hitems]
  constructor
  · rintro ⟨stretches, hne, hsep, htext, hlisted⟩
    rw [Text.splitAll_eq_iff.mpr ⟨hne, hsep, htext⟩]
    -- a stretch that is padded around a text without blanks at its ends is trimmed to that text
    clear hne hsep htext
    induction hlisted with
    | nil => rfl
    | @cons stretch t _ _ hhead _ ih =>
      rw [List.map_cons, ← ih, hhead.1.trimChars_eq hhead.2, String.ofList_toList]
  · rintro rfl
    obtain ⟨hne, hsep, htext⟩ := Text.splitAll_eq_iff.mp (rfl : Text.splitAll ',' text.toList = _)
    refine ⟨_, hne, hsep, htext, ?_⟩
    rw [List.forall₂_map_right_iff, List.forall₂_same]
    intro stretch _
    rw [String.toList_ofList]
    exact ⟨Text.pads_trimChars stretch, Text.tight_trimChars stretch⟩

theorem SpellsNumber.unique {max m n : Nat} (hm : SpellsNumber max text m)
    (hn : SpellsNumber max text n) : m = n :=
  Except.ok.inj ((spellsNumber_iff.mp hm).symm.trans (spellsNumber_iff.mp hn))

theorem SpellsFlag.unique {a b : Bool} (ha : SpellsFlag text a) (hb : SpellsFlag text b) : a = b :=
  Option.some.inj ((spellsFlag_iff.mp ha).symm.trans (spellsFlag_iff.mp hb))

theorem SpellsFormat.unique {a b : LogFormat} (ha : SpellsFormat text a) (hb : SpellsFormat text b) :
    a = b :=
  Except.ok.inj ((spellsFormat_iff.mp ha).symm.trans (spellsFormat_iff.mp hb))

/-- The paths that a text spells are the items that start with a slash. -/
theorem spellsPaths_iff {paths : List String} : SpellsPaths text paths ↔
    paths = (Environment.items text).filter fun p => p.toList.head? == some '/' := by
  constructor
  · rintro ⟨listed, hlists, rfl⟩
    rw [lists_iff.mp hlists]
  · rintro rfl
    exact ⟨_, lists_iff.mpr rfl, rfl⟩

/-- The origins that a text spells are the items that are not empty. -/
theorem spellsOrigins_iff {origins : List String} : SpellsOrigins text origins ↔
    origins = (Environment.items text).filter (!·.isEmpty) := by
  constructor
  · rintro ⟨listed, hlists, rfl⟩
    rw [lists_iff.mp hlists]
  · rintro rfl
    exact ⟨_, lists_iff.mpr rfl, rfl⟩

end Texts

namespace Environment

/-- A value that is no text leaves its variable as it was. -/
theorem ofBytes_concat (values : List (String × Text.Bytes)) (v : String × Text.Bytes) :
    ofBytes (values ++ [v]) = match Text.decode? v.2 with
      | some text => (ofBytes values).put v.1 text
      | none => ofBytes values := by
  rw [ofBytes, List.foldl_append]
  rfl

/-- A variable is set if it has a value that is a text. -/
theorem get?_ofBytes {values : List (String × Text.Bytes)} (h : (values.map Prod.fst).Nodup)
    {name text : String} : (ofBytes values).get? name = some text ↔
      ∃ bytes, (name, bytes) ∈ values ∧ Text.decode? bytes = some text := by
  induction values using List.reverseRecOn with
  | nil => exact iff_of_false nofun (by simp)
  | append_singleton values v ih =>
    obtain ⟨n, b⟩ := v
    rw [List.map_append, List.nodup_append] at h
    obtain ⟨hnodup, -, hdisjoint⟩ := h
    have ih := ih hnodup
    have hsplit : (∃ bytes, (name, bytes) ∈ values ++ [(n, b)] ∧ Text.decode? bytes = some text) ↔
        (∃ bytes, (name, bytes) ∈ values ∧ Text.decode? bytes = some text) ∨
          (name = n ∧ Text.decode? b = some text) := by
      simp only [List.mem_append, List.mem_singleton, Prod.mk.injEq]
      constructor
      · rintro ⟨bytes, hmem | ⟨rfl, rfl⟩, hdecode⟩
        · exact .inl ⟨bytes, hmem, hdecode⟩
        · exact .inr ⟨rfl, hdecode⟩
      · rintro (⟨bytes, hmem, hdecode⟩ | ⟨rfl, hdecode⟩)
        · exact ⟨bytes, .inl hmem, hdecode⟩
        · exact ⟨b, .inr ⟨rfl, rfl⟩, hdecode⟩
    rw [hsplit, ← ih, ofBytes_concat]
    cases hdecode : Text.decode? b with
    | none => simp
    | some t =>
      show (Table.put _ n t).get? name = _ ↔ _
      rw [Table.get?_put]
      split
      next hname =>
        -- the names are distinct, so no value before this one is of the same variable
        subst hname
        have hfirst : (ofBytes values).get? n ≠ some text := by
          intro hget
          obtain ⟨bytes, hmem, -⟩ := ih.mp hget
          exact hdisjoint n (List.mem_map_of_mem hmem) n (List.mem_singleton_self n) rfl
        simp [hfirst]
      next hname =>
        have hother : ¬ name = n := fun heq => hname heq.symm
        simp [hother]

/-! ## Values of variables -/

section Values

variable {α : Type} {env : Environment} {name : String}

/-- The value of a variable: what its text spells, or a default if it is not set. -/
def Gives (env : Environment) (name : String) (default : α) (spells : String → α → Prop) (a : α) :
    Prop :=
  match env.get? name with
  | none => a = default
  | some text => spells text a

/-- The variable is not set, or its text spells something. -/
def Reads (env : Environment) (name : String) (spells : String → α → Prop) : Prop :=
  ∀ text, env.get? name = some text → ∃ a, spells text a

theorem gives_of_none {default a : α} {spells : String → α → Prop} (h : env.get? name = none) :
    env.Gives name default spells a ↔ a = default := by
  rw [Gives, h]

theorem gives_of_some {default a : α} {spells : String → α → Prop} {text : String}
    (h : env.get? name = some text) : env.Gives name default spells a ↔ spells text a := by
  rw [Gives, h]

/-- A variable that gives something can be read. -/
theorem Gives.reads {default a : α} {spells : String → α → Prop}
    (h : env.Gives name default spells a) : env.Reads name spells := by
  intro text htext
  exact ⟨a, (gives_of_some htext).mp h⟩

/-- A variable gives one value at most, if a text spells one at most. -/
theorem Gives.unique {default a b : α} {spells : String → α → Prop}
    (ha : env.Gives name default spells a) (hb : env.Gives name default spells b)
    (hspells : ∀ text a b, spells text a → spells text b → a = b) : a = b := by
  cases htext : env.get? name with
  | none =>
    rw [gives_of_none htext] at ha hb
    rw [ha, hb]
  | some text =>
    rw [gives_of_some htext] at ha hb
    exact hspells text a b ha hb

theorem gives_text {default : String} : env.Gives name default Eq (env.text name default) := by
  cases htext : env.get? name with
  | none => rw [gives_of_none htext, text, htext, Option.getD_none]
  | some t => rw [gives_of_some htext, text, htext, Option.getD_some]

/-- The reader of paths returns what the variable gives. -/
theorem gives_paths {default : List String} :
    env.Gives name default SpellsPaths (env.paths name default) := by
  cases htext : env.get? name with
  | none => rw [gives_of_none htext, paths, htext]
  | some t => rw [gives_of_some htext, paths, htext, spellsPaths_iff]

/-- The reader of origins returns what the variable gives, or that all are allowed. -/
theorem gives_origins : env.Gives name ["*"] SpellsOrigins (env.origins name) := by
  cases htext : env.get? name with
  | none =>
    rw [gives_of_none htext, origins, text, htext, Option.getD_none]
    decide +kernel
  | some t =>
    rw [gives_of_some htext, origins, text, htext, Option.getD_some, spellsOrigins_iff]

/-- A variable gives something exactly if it can be read. -/
theorem exists_gives_iff {default : α} {spells : String → α → Prop} :
    (∃ a, env.Gives name default spells a) ↔ env.Reads name spells := by
  constructor
  · rintro ⟨a, ha⟩
    exact ha.reads
  · intro h
    cases htext : env.get? name with
    | none => exact ⟨default, (gives_of_none htext).mpr rfl⟩
    | some text =>
      obtain ⟨a, ha⟩ := h text htext
      exact ⟨a, (gives_of_some htext).mpr ha⟩

/-- A reader that returns what its variable gives fails on a text alone that spells nothing. -/
theorem not_reads_of_error {ε : Type} {x : Except ε α} {e : ε} {default : α}
    {spells : String → α → Prop} (h : x = .error e)
    (hok : ∀ a, x = .ok a ↔ env.Gives name default spells a) : ¬ env.Reads name spells := by
  intro hreads
  obtain ⟨a, ha⟩ := exists_gives_iff.mpr hreads
  rw [← hok, h] at ha
  cases ha

theorem mapError_eq_ok_iff {ε ε' : Type} {x : Except ε α} {f : ε → ε'} {a : α} :
    x.mapError f = .ok a ↔ x = .ok a := by
  cases x <;> simp [Except.mapError]

/-- **The reader of numbers returns what the variable gives.** -/
theorem natural_eq_ok_iff {max default n : Nat} : env.natural name max default = .ok n ↔
    env.Gives name default (SpellsNumber max) n := by
  cases htext : env.get? name with
  | none =>
    rw [gives_of_none htext, natural, htext, Except.ok.injEq]
    exact eq_comm
  | some t =>
    rw [gives_of_some htext, natural, htext, spellsNumber_iff]
    exact mapError_eq_ok_iff

/-- Its error names the variable, whose text spells no number. -/
theorem natural_eq_error {max default : Nat} {e : SettingsError}
    (h : env.natural name max default = .error e) :
    (∃ cause, e = .number name cause) ∧ ¬ env.Reads name (SpellsNumber max) := by
  refine ⟨?_, not_reads_of_error h fun _ => natural_eq_ok_iff⟩
  unfold natural at h
  split at h
  · cases h
  · cases hread : Decimal.read max (Text.trim _) with
    | ok n => rw [hread] at h; cases h
    | error cause => rw [hread] at h; exact ⟨cause, (Except.error.inj h).symm⟩

/-- A number that a variable gives is within its bound. -/
theorem Gives.le {max default n : Nat} (h : env.Gives name default (SpellsNumber max) n)
    (hdefault : default ≤ max) : n ≤ max := by
  cases htext : env.get? name with
  | none => rwa [(gives_of_none htext).mp h]
  | some t =>
    obtain ⟨-, -, -, hle⟩ := (gives_of_some htext).mp h
    exact hle

/-- A number is read as it is, and then stored in a type that has room for it. -/
theorem map_eq_ok_iff {ε β : Type} {x : Except ε Nat} {store : Nat → β} {load : β → Nat}
    (hload : ∀ b, store (load b) = b) (hstore : ∀ n, x = .ok n → load (store n) = n) {b : β} :
    x.map store = .ok b ↔ x = .ok (load b) := by
  cases x with
  | error e => exact iff_of_false nofun nofun
  | ok n =>
    constructor
    · intro h
      rw [← Except.ok.inj h, hstore n rfl]
    · intro h
      rw [h]
      exact congrArg Except.ok (hload b)

theorem map_eq_error_iff {ε β : Type} {x : Except ε Nat} {store : Nat → β} {e : ε} :
    x.map store = .error e ↔ x = .error e := by
  cases x <;> simp [Except.map]

/-- **The reader of words returns what the variable gives**, as a number of 64 bits. -/
theorem word_eq_ok_iff {default w : UInt64} : env.word name default = .ok w ↔
    env.Gives name default.toNat (SpellsNumber Decimal.max64) w.toNat := by
  rw [word, map_eq_ok_iff (fun _ => UInt64.ofNat_toNat), natural_eq_ok_iff]
  intro n hread
  have hle := (natural_eq_ok_iff.mp hread).le (Nat.le_sub_one_of_lt default.toNat_lt)
  exact UInt64.toNat_ofNat_of_lt' (Nat.lt_of_le_sub_one (by decide) hle)

theorem word_eq_error {default : UInt64} {e : SettingsError} (h : env.word name default = .error e) :
    (∃ cause, e = .number name cause) ∧ ¬ env.Reads name (SpellsNumber Decimal.max64) :=
  natural_eq_error (map_eq_error_iff.mp h)

/-- The reader of ports returns what the variable gives, as a number of 16 bits. -/
theorem port_eq_ok_iff {default p : UInt16} : env.port name default = .ok p ↔
    env.Gives name default.toNat (SpellsNumber Decimal.max16) p.toNat := by
  rw [port, map_eq_ok_iff (fun _ => UInt16.ofNat_toNat), natural_eq_ok_iff]
  intro n hread
  have hle := (natural_eq_ok_iff.mp hread).le (Nat.le_sub_one_of_lt default.toNat_lt)
  exact UInt16.toNat_ofNat_of_lt' (Nat.lt_of_le_sub_one (by decide) hle)

theorem port_eq_error {default : UInt16} {e : SettingsError} (h : env.port name default = .error e) :
    (∃ cause, e = .number name cause) ∧ ¬ env.Reads name (SpellsNumber Decimal.max16) :=
  natural_eq_error (map_eq_error_iff.mp h)

/-- **The reader of truth values returns what the variable gives.** -/
theorem flag_eq_ok_iff {default value : Bool} : env.flag name default = .ok value ↔
    env.Gives name default SpellsFlag value := by
  cases htext : env.get? name with
  | none =>
    rw [gives_of_none htext, flag, htext, Except.ok.injEq]
    exact eq_comm
  | some t =>
    rw [gives_of_some htext, flag, htext, spellsFlag_iff]
    cases hread : readFlag? t with
    | none => simp [hread]
    | some b => simp [hread]

/-- Its error repeats the text of the variable, which spells no truth value. -/
theorem flag_eq_error {default : Bool} {e : SettingsError} (h : env.flag name default = .error e) :
    (∃ text, env.get? name = some text ∧ e = .flag name text) ∧ ¬ env.Reads name SpellsFlag := by
  refine ⟨?_, not_reads_of_error h fun _ => flag_eq_ok_iff⟩
  unfold flag at h
  split at h
  · cases h
  next t htext =>
    cases hread : readFlag? t with
    | some b => rw [hread] at h; cases h
    | none => rw [hread] at h; exact ⟨t, htext, (Except.error.inj h).symm⟩

/-- The reader of formats returns what the variable gives. -/
theorem format_eq_ok_iff {default f : LogFormat} : env.format name default = .ok f ↔
    env.Gives name default SpellsFormat f := by
  cases htext : env.get? name with
  | none =>
    rw [gives_of_none htext, format, htext, Except.ok.injEq]
    exact eq_comm
  | some t =>
    rw [gives_of_some htext, format, htext, spellsFormat_iff]
    exact mapError_eq_ok_iff

/-- Its error is about the variable, whose text spells no format. -/
theorem format_eq_error {default : LogFormat} {e : SettingsError}
    (h : env.format name default = .error e) :
    (∃ word, e = .format name word) ∧ ¬ env.Reads name SpellsFormat := by
  refine ⟨?_, not_reads_of_error h fun _ => format_eq_ok_iff⟩
  unfold format at h
  split at h
  · cases h
  next t htext =>
    cases hread : LogFormat.read t with
    | ok f => rw [hread] at h; cases h
    | error word => rw [hread] at h; exact ⟨word, (Except.error.inj h).symm⟩

end Values

end Environment

end AdmissionGate
