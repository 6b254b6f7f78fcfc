/-!
Tables: finite maps that remember the order in which their keys came. `put` keeps the place of a
key that is there already and appends a new one. A table is seen through `get?`, its keys and its
size.
-/

namespace AdmissionGate

/-- A finite map as a list of entries with distinct keys, in the order in which the keys came. -/
structure Table (κ β : Type) where
  entries : List (κ × β)
  nodup : (entries.map Prod.fst).Nodup := by simp

namespace Table

variable {κ β : Type}

def empty : Table κ β := ⟨[], by simp⟩

instance : Inhabited (Table κ β) := ⟨empty⟩

/-- The keys, in the order in which they came. -/
def keys (t : Table κ β) : List κ := t.entries.map Prod.fst

def size (t : Table κ β) : Nat := t.entries.length

variable [DecidableEq κ]

/-- The value of a key in a list of entries. -/
def find? (k : κ) : List (κ × β) → Option β
  | [] => none
  | (k', v) :: rest => if k' = k then some v else find? k rest

def get? (t : Table κ β) (k : κ) : Option β := find? k t.entries

/-- The entries with a new value for one key. -/
def putEntry (k : κ) (v : β) : List (κ × β) → List (κ × β)
  | [] => [(k, v)]
  | (k', v') :: rest => if k' = k then (k, v) :: rest else (k', v') :: putEntry k v rest

theorem map_fst_putEntry (k : κ) (v : β) (es : List (κ × β)) :
    (putEntry k v es).map Prod.fst =
      if k ∈ es.map Prod.fst then es.map Prod.fst else es.map Prod.fst ++ [k] := by
  induction es with
  | nil => simp [putEntry]
  | cons e rest ih =>
    obtain ⟨k', v'⟩ := e
    by_cases h : k' = k
    · simp [putEntry, h]
    · have h' : ¬ k = k' := fun e => h e.symm
      simp only [putEntry, h, if_false, List.map_cons, ih, List.mem_cons, h', false_or]
      split <;> simp

/-- The table with a new value for one key. -/
def put (t : Table κ β) (k : κ) (v : β) : Table κ β where
  entries := putEntry k v t.entries
  nodup := by
    rw [map_fst_putEntry]
    split
    · exact t.nodup
    · rename_i h
      simp only [List.nodup_append, t.nodup, true_and]
      refine ⟨by simp, ?_⟩
      intro a ha b hb
      simp at hb
      subst hb
      exact fun e => h (e ▸ ha)

/-- The table with every value replaced by its image, and without the keys whose image is `none`. -/
def filterMap {γ : Type} (f : β → Option γ) (t : Table κ β) : Table κ γ where
  entries := t.entries.filterMap fun (k, v) => (f v).map (k, ·)
  nodup := by
    have key : (t.entries.filterMap fun (k, v) => (f v).map (k, ·)).map Prod.fst
        |>.Sublist (t.entries.map Prod.fst) := by
      generalize t.entries = es
      induction es with
      | nil => simp
      | cons e rest ih =>
        obtain ⟨k, v⟩ := e
        cases h : f v <;> simp [h, ih, List.Sublist.cons]
    exact key.nodup t.nodup

theorem find?_putEntry (k k' : κ) (v : β) (es : List (κ × β)) :
    find? k' (putEntry k v es) = if k = k' then some v else find? k' es := by
  induction es with
  | nil => simp [putEntry, find?]
  | cons e rest ih =>
    obtain ⟨k₁, v₁⟩ := e
    by_cases h : k₁ = k
    · by_cases h' : k = k' <;> simp [putEntry, find?, h, h']
    · by_cases h' : k₁ = k'
      · have : ¬ k = k' := fun e => h (h'.trans e.symm)
        have : ¬ k' = k := fun e => this e.symm
        simp_all [putEntry, find?]
      · simp [putEntry, find?, h, h', ih]

theorem get?_put (t : Table κ β) (k k' : κ) (v : β) :
    (t.put k v).get? k' = if k = k' then some v else t.get? k' :=
  find?_putEntry k k' v t.entries

theorem find?_eq_none {k : κ} {es : List (κ × β)} (h : k ∉ es.map Prod.fst) :
    find? k es = none := by
  induction es with
  | nil => rfl
  | cons e rest ih =>
    simp only [List.map_cons, List.mem_cons, not_or] at h
    rw [find?, if_neg (fun e => h.1 e.symm), ih h.2]

/-- A key that is kept has the image of its value. That keys are distinct matters here: an entry
behind the one that is looked up cannot take its place. -/
theorem get?_filterMap {γ : Type} (f : β → Option γ) (t : Table κ β) (k : κ) :
    (t.filterMap f).get? k = (t.get? k).bind f := by
  obtain ⟨es, hnodup⟩ := t
  simp only [get?, filterMap]
  induction es with
  | nil => rfl
  | cons e rest ih =>
    obtain ⟨k', v⟩ := e
    rw [List.map_cons, List.nodup_cons] at hnodup
    have ih := ih hnodup.2
    by_cases hk : k' = k
    · subst hk
      rw [find?_eq_none hnodup.1] at ih
      cases hv : f v with
      | none => simpa [find?, hv] using ih
      | some w => simp [find?, hv]
    · cases hv : f v with
      | none => simpa [find?, hv, hk] using ih
      | some w => simpa [find?, hv, hk] using ih

theorem keys_put (t : Table κ β) (k : κ) (v : β) :
    (t.put k v).keys = if k ∈ t.keys then t.keys else t.keys ++ [k] :=
  map_fst_putEntry k v t.entries

theorem mem_map_fst_iff {k : κ} {es : List (κ × β)} :
    k ∈ es.map Prod.fst ↔ ∃ v, find? k es = some v := by
  induction es with
  | nil => simp [find?]
  | cons e rest ih =>
    obtain ⟨k', v'⟩ := e
    rw [List.map_cons, List.mem_cons, ih, find?]
    by_cases h : k' = k
    · simp [h]
    · have h' : ¬ k = k' := fun e => h e.symm
      simp [h, h']

theorem mem_keys_iff {t : Table κ β} {k : κ} : k ∈ t.keys ↔ ∃ v, t.get? k = some v :=
  mem_map_fst_iff

theorem mem_keys_filterMap {γ : Type} {f : β → Option γ} {t : Table κ β} {k : κ} :
    k ∈ (t.filterMap f).keys ↔ ∃ v w, t.get? k = some v ∧ f v = some w := by
  simp only [mem_keys_iff, get?_filterMap, Option.bind_eq_some_iff]
  exact exists_comm

/-- What a table loses in size under a filter is the number of the keys that are dropped. -/
theorem size_sub_size_filterMap {γ : Type} (f : β → Option γ) (t : Table κ β) :
    t.size - (t.filterMap f).size
      = (t.keys.filter fun k => decide (k ∉ (t.filterMap f).keys)).length := by
  have hkept : (t.keys.filter fun k => decide (k ∈ (t.filterMap f).keys)).Perm
      (t.filterMap f).keys := by
    refine (List.perm_ext_iff_of_nodup (t.nodup.filter _) (t.filterMap f).nodup).mpr fun k => ?_
    rw [List.mem_filter, decide_eq_true_eq]
    constructor
    · exact And.right
    · intro hk
      obtain ⟨v, -, hv, -⟩ := mem_keys_filterMap.mp hk
      exact ⟨mem_keys_iff.mpr ⟨v, hv⟩, hk⟩
  have hsplit := List.length_eq_countP_add_countP (l := t.keys)
    fun k => decide (k ∈ (t.filterMap f).keys)
  rw [List.countP_eq_length_filter, List.countP_eq_length_filter, hkept.length_eq] at hsplit
  have hsize : t.keys.length = t.size := List.length_map ..
  have hsize' : (t.filterMap f).keys.length = (t.filterMap f).size := List.length_map ..
  simp only [decide_eq_true_eq] at hsplit
  omega

omit [DecidableEq κ] in
/-- A filter that leaves its own images as they are has nothing to do a second time. -/
theorem filterMap_filterMap_self {f : β → Option β} (hf : ∀ v w, f v = some w → f w = some w)
    (t : Table κ β) : (t.filterMap f).filterMap f = t.filterMap f := by
  have hentries : ((t.filterMap f).filterMap f).entries = (t.filterMap f).entries := by
    show (t.entries.filterMap _).filterMap _ = t.entries.filterMap _
    generalize t.entries = es
    induction es with
    | nil => rfl
    | cons e rest ih =>
      cases hv : f e.2 with
      | none => simpa [hv] using ih
      | some w => simpa [hv, hf _ _ hv] using ih
  generalize (t.filterMap f).filterMap f = left at hentries
  generalize t.filterMap f = right at hentries
  cases left
  cases right
  cases hentries
  rfl

end Table

end AdmissionGate
