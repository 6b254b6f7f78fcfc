import AdmissionGate.Proofs.Text.Split
import Mathlib.Computability.Language
import Mathlib.Order.CompletePartialOrder

/-!
# Languages over classes of characters

The texts of one character from a class, and what they come to when they are repeated: texts of
characters of that class (`kstar_oneOf`), of at least one if the first is asked for
(`mem_oneOf_mul_kstar`). Words with a separator between them are what cutting at the separator gives
the words of (`mem_chain`).
-/

namespace AdmissionGate.Text

open scoped Computability

/-- The text that a word spells, and no other. -/
def spelled (word : String) : Language Char := {word.toList}

/-- The texts of one character of a class. -/
def oneOf (p : Char → Bool) : Language Char := {w | ∃ c, p c = true ∧ w = [c]}

/-- The texts of one character of a range. -/
def between (first last : Char) : Language Char := oneOf fun c => first ≤ c && c ≤ last

/-- The texts of characters of a class. -/
def textsOf (p : Char → Bool) : Language Char := {w | ∀ c ∈ w, p c = true}

variable {p q : Char → Bool} {w : List Char}

theorem mem_oneOf : w ∈ oneOf p ↔ ∃ c, p c = true ∧ w = [c] := Iff.rfl

/-- A single character of a class is a text of any larger class. -/
theorem oneOf_le_textsOf (h : ∀ c, p c = true → q c = true) : oneOf p ≤ textsOf q := by
  rintro w ⟨c, hc, rfl⟩ d hd
  rw [List.mem_singleton.mp hd]
  exact h c hc

/-- A fixed word is a text of every class that has all its characters. -/
theorem spelled_le_textsOf {word : String} (h : ∀ c ∈ word.toList, p c = true) :
    spelled word ≤ textsOf p := by
  rintro w rfl
  exact h

/-- A choice between two classes is their union. -/
theorem oneOf_add_oneOf : oneOf p + oneOf q = oneOf fun c => p c || q c := by
  ext w
  simp only [Language.mem_add, mem_oneOf, Bool.or_eq_true, or_and_right, exists_or]

/-! ## Putting texts together

Whatever is put together from characters of a class is made of them. -/

theorem one_le_textsOf : 1 ≤ textsOf p := by
  rintro w rfl c hc
  cases hc

/-- Texts of a class follow one another within the class. -/
theorem mul_le_textsOf {l m : Language Char} (hl : l ≤ textsOf p) (hm : m ≤ textsOf p) :
    l * m ≤ textsOf p := by
  rintro w ⟨u, hu, v, hv, rfl⟩ c hc
  rcases List.mem_append.mp hc with hc | hc
  · exact hl hu c hc
  · exact hm hv c hc

/-- Any number of texts of a class is a text of the class. -/
theorem kstar_le_textsOf {l : Language Char} (hl : l ≤ textsOf p) : l∗ ≤ textsOf p :=
  kstar_le_of_mul_le_left one_le_textsOf (mul_le_textsOf le_rfl hl)

/-- The texts of a class are its characters any number of times. -/
theorem kstar_oneOf : (oneOf p)∗ = textsOf p := by
  refine le_antisymm (kstar_le_textsOf (oneOf_le_textsOf fun _ => id)) fun w hw => ?_
  -- a text is made of its characters
  refine Language.mem_kstar.mpr ⟨w.map fun c => [c], ?_, fun u hu => ?_⟩
  · rw [← List.flatMap_def, List.flatMap_singleton']
  · obtain ⟨c, hc, rfl⟩ := List.mem_map.mp hu
    exact ⟨c, hw c hc, rfl⟩

/-- The texts of at least one character of a class. -/
theorem mem_oneOf_mul_kstar : w ∈ oneOf p * (oneOf p)∗ ↔ w ≠ [] ∧ ∀ c ∈ w, p c = true := by
  rw [kstar_oneOf, Language.mem_mul]
  constructor
  · rintro ⟨_, ⟨c, hc, rfl⟩, rest, hrest, rfl⟩
    refine ⟨List.cons_ne_nil _ _, fun d hd => ?_⟩
    rcases List.mem_cons.mp hd with rfl | hd
    · exact hc
    · exact hrest d hd
  · rintro ⟨hne, hall⟩
    cases w with
    | nil => exact absurd rfl hne
    | cons c rest =>
      exact ⟨[c], ⟨c, hall c (List.mem_cons_self ..), rfl⟩, rest,
        fun d hd => hall d (List.mem_cons_of_mem _ hd), rfl⟩

/-! ## Chains -/

/-- Words with a separator between each of them and the next. -/
def chain (sep : Char) (word : Language Char) : Language Char := word * ({[sep]} * word)∗

variable {sep : Char} {word : Language Char}

/-- A chain stays within a class that has the separator and the words. -/
theorem chain_le_textsOf (hsep : p sep = true) (hword : word ≤ textsOf p) :
    chain sep word ≤ textsOf p := by
  have hlink : ({[sep]} : Language Char) ≤ textsOf p := by
    rintro w rfl c hc
    rwa [List.mem_singleton.mp hc]
  exact mul_le_textsOf hword (kstar_le_textsOf (mul_le_textsOf hlink hword))

/-- Cutting a chain at its separators gives back words of the language. -/
theorem splitAll_of_mem_chain (hsep : ∀ u ∈ word, sep ∉ u) (h : w ∈ chain sep word) :
    ∀ piece ∈ splitAll sep w, piece ∈ word := by
  obtain ⟨first, hfirst, rest, hrest, rfl⟩ := h
  obtain ⟨links, rfl, hlinks⟩ := Language.mem_kstar.mp hrest
  clear hrest
  induction links generalizing first with
  | nil =>
    dsimp only
    rw [List.flatten_nil, List.append_nil, splitAll_of_notMem (hsep first hfirst)]
    exact List.forall_mem_singleton.mpr hfirst
  | cons link links ih =>
    obtain ⟨hlink, htail⟩ := List.forall_mem_cons.mp hlinks
    obtain ⟨_, rfl, next, hnext, rfl⟩ := hlink
    have hcut : first ++ (([sep] ++ next) :: links).flatten
        = first ++ sep :: (next ++ links.flatten) := by simp
    dsimp only at hcut ⊢
    rw [hcut, splitAll_append_cons, splitAll_of_notMem (hsep first hfirst)]
    exact List.forall_mem_cons.mpr ⟨hfirst, ih next hnext htail⟩

/-- A text whose pieces are words of the language is a chain of them. -/
theorem mem_chain_of_splitAll {w : List Char} (h : ∀ piece ∈ splitAll sep w, piece ∈ word) :
    w ∈ chain sep word := by
  by_cases hmem : sep ∈ w
  · obtain ⟨first, rest, hw, hfirst⟩ := List.eq_append_cons_of_mem hmem
    have hshorter : rest.length < w.length := by
      rw [hw, List.length_append, List.length_cons]
      omega
    rw [hw, splitAll_append_cons, splitAll_of_notMem hfirst] at h
    obtain ⟨hword, hpieces⟩ := List.forall_mem_cons.mp h
    obtain ⟨next, hnext, links, hlinks, hrest⟩ := mem_chain_of_splitAll hpieces
    have hlink : [sep] ++ next ∈ ({[sep]} * word : Language Char) := ⟨[sep], rfl, next, hnext, rfl⟩
    refine ⟨first, hword, sep :: rest, ?_, hw.symm⟩
    rw [← Language.one_add_self_mul_kstar_eq_kstar]
    exact .inr ⟨_, hlink, links, hlinks, congrArg (sep :: ·) hrest⟩
  · rw [splitAll_of_notMem hmem] at h
    exact ⟨w, h w (List.mem_singleton_self w), [], Language.nil_mem_kstar _, List.append_nil w⟩
termination_by w.length

/-- A text is a chain if its pieces are words, as long as no word holds the separator. -/
theorem mem_chain (hsep : ∀ u ∈ word, sep ∉ u) :
    w ∈ chain sep word ↔ ∀ piece ∈ splitAll sep w, piece ∈ word :=
  ⟨splitAll_of_mem_chain hsep, mem_chain_of_splitAll⟩

end AdmissionGate.Text
