import AdmissionGate.Pattern.Catalogue

/-!
# The stretches of a text that a pattern matches

`Matches` says which stretches a pattern stands for, between two neighbours of which only one thing
counts: whether they are word characters. The search never looks at a stretch as a whole. It goes on
from character to character with what remains to be matched, and this is all there is to find:

* `isEmptyAt_iff`, `matches_cons_iff`: what a pattern makes of the empty stretch, and of a first
  character.
* `search_iff`: the search finds a pattern exactly if some stretch of the text is matched by it.
* `isInjection_iff`: the same for the catalogue of signatures.
-/

namespace AdmissionGate

namespace Pattern

/-! ## Neighbours -/

/-- Whether a word character stands before what follows `cs`, if `before` says so of `cs` itself. -/
def wordBefore : Bool → List Char → Bool
  | before, [] => before
  | _, c :: cs => wordBefore (Text.isWord c) cs

/-- Whether a word character stands behind what precedes `cs`, if `next` says so of `cs` itself. -/
def wordAfter : List Char → Bool → Bool
  | [], next => next
  | c :: _, _ => Text.isWord c

/-- What stands before the end of a text in two parts is told by the parts in turn. -/
theorem wordBefore_append (before : Bool) (cs ds : List Char) :
    wordBefore before (cs ++ ds) = wordBefore (wordBefore before cs) ds := by
  induction cs generalizing before with
  | nil => rfl
  | cons c cs ih => exact ih (Text.isWord c)

/-- What stands behind the start of a text in two parts is told by the parts in turn. -/
theorem wordAfter_append (cs ds : List Char) (next : Bool) :
    wordAfter (cs ++ ds) next = wordAfter cs (wordAfter ds next) := by
  cases cs <;> rfl

/-! ## Stretches -/

/-- The stretches of a pattern. `before` and `next` tell whether the neighbours of the stretch are word
characters. -/
inductive Matches : Pattern → (before : Bool) → List Char → (next : Bool) → Prop where
  | empty {before next : Bool} : Matches .empty before [] next
  | one {s : CharSet} {c : Char} {before next : Bool} (h : s.has c = true) :
      Matches (.one s) before [c] next
  | seq {p q : Pattern} {before next : Bool} {cs ds : List Char}
      (hp : Matches p before cs (wordAfter ds next)) (hq : Matches q (wordBefore before cs) ds next) :
      Matches (.seq p q) before (cs ++ ds) next
  | left {p q : Pattern} {before next : Bool} {cs : List Char} (h : Matches p before cs next) :
      Matches (.alt p q) before cs next
  | right {p q : Pattern} {before next : Bool} {cs : List Char} (h : Matches q before cs next) :
      Matches (.alt p q) before cs next
  | stop {r : Bool} {p : Pattern} {before next : Bool} : Matches (.many r p) before [] next
  | more {r : Bool} {p : Pattern} {before next : Bool} {cs ds : List Char}
      (hp : Matches p before cs (wordAfter ds next))
      (hq : Matches (.many r p) (wordBefore before cs) ds next) :
      Matches (.many r p) before (cs ++ ds) next
  | boundary {before next : Bool} (h : before ≠ next) : Matches .boundary before [] next

variable {p q : Pattern} {before next : Bool} {c : Char} {cs : List Char}

/-- A sequence matches a stretch that can be cut so that its parts match in turn. -/
theorem matches_seq_iff : (Pattern.seq p q).Matches before cs next ↔
    ∃ ds es, cs = ds ++ es ∧ p.Matches before ds (wordAfter es next) ∧
      q.Matches (wordBefore before ds) es next := by
  constructor
  · intro h
    cases h with
    | seq hp hq => exact ⟨_, _, rfl, hp, hq⟩
  · rintro ⟨ds, es, rfl, hp, hq⟩
    exact .seq hp hq

/-- A choice matches what either of its parts matches. -/
theorem matches_alt_iff : (Pattern.alt p q).Matches before cs next ↔
    p.Matches before cs next ∨ q.Matches before cs next := by
  constructor
  · intro h
    cases h with
    | left h => exact .inl h
    | right h => exact .inr h
  · rintro (h | h)
    · exact .left h
    · exact .right h

/-- Whether a pattern matches the empty stretch depends on its neighbours only. -/
theorem isEmptyAt_iff (p : Pattern) :
    p.isEmptyAt before next = true ↔ p.Matches before [] next := by
  induction p with
  | empty => exact ⟨fun _ => .empty, fun _ => rfl⟩
  | one s => exact ⟨nofun, nofun⟩
  | seq p q ihp ihq =>
    rw [isEmptyAt, Bool.and_eq_true, ihp, ihq, matches_seq_iff]
    constructor
    · rintro ⟨hp, hq⟩
      exact ⟨[], [], rfl, hp, hq⟩
    · rintro ⟨ds, es, hsplit, hp, hq⟩
      obtain ⟨rfl, rfl⟩ := List.append_eq_nil_iff.mp hsplit.symm
      exact ⟨hp, hq⟩
  | alt p q ihp ihq => rw [isEmptyAt, Bool.or_eq_true, ihp, ihq, matches_alt_iff]
  | many r p ih => exact ⟨fun _ => .stop, fun _ => rfl⟩
  | boundary =>
    rw [isEmptyAt, bne_iff_ne]
    constructor
    · exact .boundary
    · intro h
      cases h with
      | boundary hne => exact hne

/-- Repeating a pattern without reading anything comes to nothing, so that a first character belongs to
a stretch of the pattern that is repeated. -/
theorem matches_many_cons_iff {r : Bool} : (Pattern.many r p).Matches before (c :: cs) next ↔
    ∃ ds es, cs = ds ++ es ∧ p.Matches before (c :: ds) (wordAfter es next) ∧
      (Pattern.many r p).Matches (wordBefore before (c :: ds)) es next := by
  constructor
  · intro h
    generalize hmany : Pattern.many r p = m at h
    generalize htext : c :: cs = text at h
    induction h with
    | empty | one | seq | left | right | boundary => cases hmany
    | stop => cases htext
    | @more _ _ _ _ ds es hp hq _ ih =>
      cases hmany
      cases ds with
      | nil => exact ih rfl htext
      | cons d ds =>
        obtain ⟨rfl, rfl⟩ := List.cons_eq_cons.mp htext
        exact ⟨ds, es, rfl, hp, hq⟩
  · rintro ⟨ds, es, rfl, hp, hq⟩
    exact .more hp hq

/-- A sequence matches the same without a first part that is empty. -/
theorem matches_andThen (p q : Pattern) :
    (p.andThen q).Matches before cs next ↔ (Pattern.seq p q).Matches before cs next := by
  cases p with
  | empty =>
    show q.Matches before cs next ↔ _
    rw [matches_seq_iff]
    constructor
    · exact fun h => ⟨[], cs, rfl, .empty, h⟩
    · rintro ⟨ds, es, rfl, ⟨⟩, hq⟩
      exact hq
  | one | seq | alt | many | boundary => rfl

/-- A stretch with a first character is what remains to be matched after this character. -/
theorem matches_cons_iff (p : Pattern) : p.Matches before (c :: cs) next ↔
    ∃ q ∈ p.after before c, q.Matches (Text.isWord c) cs next := by
  induction p generalizing cs next with
  | empty => exact ⟨nofun, nofun⟩
  | one s =>
    rw [after]
    constructor
    · intro h
      cases h with
      | one hhas => exact ⟨.empty, by simp [hhas], .empty⟩
    · rintro ⟨q, hq, hmatch⟩
      split at hq
      · next hhas =>
        obtain rfl := List.mem_singleton.mp hq
        cases hmatch
        exact .one hhas
      · cases hq
  | seq p q ihp ihq =>
    rw [matches_seq_iff, after]
    simp only [List.mem_append, List.mem_map]
    constructor
    · rintro ⟨ds, es, hsplit, hp, hq⟩
      cases ds with
      | nil =>
        -- the first pattern reads nothing, and the second one begins with the character
        obtain rfl := hsplit
        obtain ⟨q', hq', hmatch⟩ := ihq.mp hq
        have hempty : p.isEmptyAt before (Text.isWord c) = true := (isEmptyAt_iff p).mpr hp
        exact ⟨q', .inr (by rwa [if_pos hempty]), hmatch⟩
      | cons d ds =>
        obtain ⟨rfl, rfl⟩ := List.cons_eq_cons.mp hsplit
        obtain ⟨p', hp', hmatch⟩ := ihp.mp hp
        exact ⟨p'.andThen q, .inl ⟨p', hp', rfl⟩, (matches_andThen p' q).mpr (.seq hmatch hq)⟩
    · rintro ⟨q', ⟨p', hp', rfl⟩ | hq', hmatch⟩
      · obtain ⟨ds, es, rfl, hp, hq⟩ := matches_seq_iff.mp ((matches_andThen p' q).mp hmatch)
        exact ⟨c :: ds, es, rfl, ihp.mpr ⟨p', hp', hp⟩, hq⟩
      · split at hq'
        · next hempty =>
          exact ⟨[], c :: cs, rfl, (isEmptyAt_iff p).mp hempty, ihq.mpr ⟨q', hq', hmatch⟩⟩
        · cases hq'
  | alt p q ihp ihq =>
    rw [matches_alt_iff, after, ihp, ihq]
    simp only [List.mem_append, or_and_right, exists_or]
  | many r p ih =>
    rw [matches_many_cons_iff, after]
    simp only [List.mem_map]
    constructor
    · rintro ⟨ds, es, rfl, hp, hq⟩
      obtain ⟨p', hp', hmatch⟩ := ih.mp hp
      exact ⟨_, ⟨p', hp', rfl⟩, (matches_andThen p' _).mpr (.seq hmatch hq)⟩
    · rintro ⟨q', ⟨p', hp', rfl⟩, hmatch⟩
      obtain ⟨ds, es, rfl, hp, hq⟩ := matches_seq_iff.mp ((matches_andThen p' _).mp hmatch)
      exact ⟨ds, es, rfl, ih.mpr ⟨p', hp', hp⟩, hq⟩
  | boundary => exact ⟨nofun, nofun⟩

/-! ## Searching -/

/-- Some stretch at the head of a text is matched. -/
def Begins (p : Pattern) (before : Bool) (cs : List Char) : Prop :=
  ∃ mid post, cs = mid ++ post ∧ p.Matches before mid (wordAfter post false)

/-- A stretch is matched where it stands in a text, between `pre` and `post`. -/
def MatchesAt (p : Pattern) (pre mid post : List Char) : Prop :=
  p.Matches (wordBefore false pre) mid (wordAfter post false)

/-- Some stretch of a text is matched. -/
def OccursIn (p : Pattern) (cs : List Char) : Prop :=
  ∃ pre mid post, cs = pre ++ mid ++ post ∧ p.MatchesAt pre mid post

/-- Beyond an edge of words it does not matter what else stands in the text. -/
theorem matchesAt_append {left right : List Char} (hleft : wordBefore false left = false)
    (hright : wordAfter right false = false) (p : Pattern) (pre mid post : List Char) :
    p.MatchesAt (left ++ pre) mid (post ++ right) ↔ p.MatchesAt pre mid post := by
  rw [MatchesAt, MatchesAt, wordBefore_append, hleft, wordAfter_append, hright]

theorem begins_nil (p : Pattern) : p.Begins before [] ↔ p.isEmptyAt before false = true := by
  rw [isEmptyAt_iff]
  constructor
  · rintro ⟨mid, post, hsplit, h⟩
    obtain ⟨rfl, rfl⟩ := List.append_eq_nil_iff.mp hsplit.symm
    exact h
  · exact fun h => ⟨[], [], rfl, h⟩

/-- A match begins with nothing, or with the next character and what is left of the pattern after
it. -/
theorem begins_cons (p : Pattern) : p.Begins before (c :: cs) ↔
    p.isEmptyAt before (Text.isWord c) = true ∨
      ∃ q ∈ p.after before c, q.Begins (Text.isWord c) cs := by
  constructor
  · rintro ⟨mid, post, hsplit, h⟩
    cases mid with
    | nil =>
      obtain rfl := hsplit
      exact .inl ((isEmptyAt_iff p).mpr h)
    | cons d mid =>
      obtain ⟨rfl, rfl⟩ := List.cons_eq_cons.mp hsplit
      obtain ⟨q, hq, hmatch⟩ := (matches_cons_iff p).mp h
      exact .inr ⟨q, hq, mid, post, rfl, hmatch⟩
  · rintro (h | ⟨q, hq, mid, post, rfl, h⟩)
    · exact ⟨[], c :: cs, rfl, (isEmptyAt_iff p).mp h⟩
    · exact ⟨c :: mid, post, rfl, (matches_cons_iff p).mpr ⟨q, hq, h⟩⟩

/-- Stretches that have been begun are completed, or the pattern begins at some later position. -/
theorem searchFrom_iff (p : Pattern) (live : List Pattern) :
    searchFrom p before live cs = true ↔ (∃ q ∈ live, q.Begins before cs) ∨
      ∃ pre rest, cs = pre ++ rest ∧ p.Begins (wordBefore before pre) rest := by
  induction cs generalizing before live with
  | nil =>
    simp only [searchFrom, List.any_cons, Bool.or_eq_true, List.any_eq_true, ← begins_nil]
    constructor
    · rintro (h | h)
      · exact .inr ⟨[], [], rfl, h⟩
      · exact .inl h
    · rintro (h | ⟨pre, rest, hsplit, h⟩)
      · exact .inr h
      · obtain ⟨rfl, rfl⟩ := List.append_eq_nil_iff.mp hsplit.symm
        exact .inl h
  | cons c cs ih =>
    rw [searchFrom, Bool.or_eq_true, ih]
    simp only [List.any_eq_true, List.mem_eraseDups, List.mem_flatMap]
    constructor
    · rintro (⟨q, hq, h⟩ | ⟨q', ⟨q, hq, hq'⟩, h⟩ | ⟨pre, rest, rfl, h⟩)
      · have hbegins : q.Begins before (c :: cs) := (begins_cons q).mpr (.inl h)
        rcases List.mem_cons.mp hq with rfl | hq
        · exact .inr ⟨[], c :: cs, rfl, hbegins⟩
        · exact .inl ⟨q, hq, hbegins⟩
      · have hbegins := (begins_cons q).mpr (.inr ⟨q', hq', h⟩)
        rcases List.mem_cons.mp hq with rfl | hq
        · exact .inr ⟨[], c :: cs, rfl, hbegins⟩
        · exact .inl ⟨q, hq, hbegins⟩
      · exact .inr ⟨c :: pre, rest, rfl, h⟩
    · -- a stretch that begins here is empty, or goes on with the character
      have here : ∀ q ∈ p :: live, q.Begins before (c :: cs) →
          (∃ q ∈ p :: live, q.isEmptyAt before (Text.isWord c) = true) ∨
            ∃ q', (∃ q ∈ p :: live, q' ∈ q.after before c) ∧ q'.Begins (Text.isWord c) cs := by
        intro q hq hbegins
        rcases (begins_cons q).mp hbegins with hempty | ⟨q', hq', h⟩
        · exact .inl ⟨q, hq, hempty⟩
        · exact .inr ⟨q', ⟨q, hq, hq'⟩, h⟩
      rintro (⟨q, hq, h⟩ | ⟨pre, rest, hsplit, h⟩)
      · exact (here q (List.mem_cons_of_mem _ hq) h).imp_right .inl
      · cases pre with
        | nil =>
          obtain rfl := hsplit
          exact (here p (List.mem_cons_self ..) h).imp_right .inl
        | cons d pre =>
          obtain ⟨rfl, rfl⟩ := List.cons_eq_cons.mp hsplit
          exact .inr (.inr ⟨pre, rest, rfl, h⟩)

/-- **The search is exact.** -/
theorem search_iff (p : Pattern) (cs : List Char) : p.search cs = true ↔ p.OccursIn cs := by
  rw [search, searchFrom_iff]
  constructor
  · rintro (⟨q, hq, -⟩ | ⟨pre, rest, rfl, mid, post, rfl, h⟩)
    · cases hq
    · exact ⟨pre, mid, post, (List.append_assoc ..).symm, h⟩
  · rintro ⟨pre, mid, post, rfl, h⟩
    exact .inr ⟨pre, mid ++ post, List.append_assoc .., mid, post, rfl, h⟩

end Pattern

/-! ## Signatures -/

/-- No signature matches the empty stretch, wherever it stands. -/
theorem isEmptyAt_catalogue : ∀ s ∈ catalogue, ∀ before next : Bool,
    s.pattern.isEmptyAt before next = false := by
  decide

/-- One of the signatures matches some stretch of a text. -/
def HoldsSignature (value : String) : Prop := ∃ s ∈ catalogue, s.pattern.OccursIn value.toList

theorem not_holdsSignature_empty : ¬ HoldsSignature "" := by
  rintro ⟨s, hs, h⟩
  have hsearch : s.pattern.search [] = true := (Pattern.search_iff _ _).mpr h
  rw [Pattern.search, Pattern.searchFrom, List.any_cons, isEmptyAt_catalogue s hs] at hsearch
  exact Bool.false_ne_true hsearch

/-- **A text is held for an injection if it holds a signature.** The empty text is not searched, and
nothing would be found in it. -/
theorem isInjection_iff (value : String) : isInjection value = true ↔ HoldsSignature value := by
  rw [isInjection, findInjection]
  split
  · next hempty =>
    obtain rfl : value = "" := by simpa using hempty
    exact ⟨nofun, fun h => absurd h not_holdsSignature_empty⟩
  · rw [Option.isSome_map, List.find?_isSome]
    simp only [Signature.isIn, Pattern.search_iff, Prod.exists]
    constructor
    · rintro ⟨s, i, hmem, h⟩
      exact ⟨s, List.fst_mem_of_mem_zipIdx hmem, h⟩
    · rintro ⟨s, hs, h⟩
      obtain ⟨i, hi⟩ := List.mem_iff_getElem?.mp hs
      exact ⟨s, i, List.mk_mem_zipIdx_iff_getElem?.mpr hi, h⟩

theorem injectionCategory_eq_none (value : String) :
    injectionCategory value = none ↔ ¬ HoldsSignature value := by
  rw [← isInjection_iff, injectionCategory, isInjection, Option.map_eq_none_iff,
    Bool.not_eq_true, Option.isSome_eq_false_iff, Option.isNone_iff_eq_none]

end AdmissionGate
