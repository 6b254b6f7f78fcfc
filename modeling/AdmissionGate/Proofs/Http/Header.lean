import AdmissionGate.Http.Header

/-!
# Setting headers

A header that is set has one value, whatever it had before, and no other header notices. A name that
is new comes in at the end. This holds for one header (`Headers.values_set`,
`Headers.filter_fields_set`), and for several that are set one after the other (`Headers.setAll`).
-/

namespace AdmissionGate

namespace Table

variable {κ β : Type} [DecidableEq κ] {k : κ}

/-- The entries of other keys stay as they are, and in their order. -/
theorem filter_putEntry {p : κ → Bool} (hk : p k = false) (v : β) (es : List (κ × β)) :
    (putEntry k v es).filter (fun e => p e.1) = es.filter fun e => p e.1 := by
  induction es with
  | nil => simp [putEntry, hk]
  | cons e rest ih =>
    obtain ⟨k', v'⟩ := e
    rw [putEntry]
    split
    · next heq => simp [heq, hk]
    · rw [List.filter_cons, List.filter_cons, ih]

/-- A key that is new goes to the end. -/
theorem putEntry_of_notMem {es : List (κ × β)} (hk : k ∉ es.map Prod.fst) (v : β) :
    putEntry k v es = es ++ [(k, v)] := by
  induction es with
  | nil => rfl
  | cons e rest ih =>
    obtain ⟨k', v'⟩ := e
    rw [List.map_cons, List.mem_cons, not_or] at hk
    rw [putEntry, if_neg fun heq => hk.1 heq.symm, ih hk.2, List.cons_append]

end Table

namespace Headers

variable {h : Headers} {name : String}

/-- A name that is set has the one value. -/
theorem values_set (h : Headers) (name name' : String) (value : Text.Bytes) :
    (h.set name value).values name' = if name = name' then [value] else h.values name' := by
  rw [values, set, Table.get?_put]
  split <;> rfl

/-- The fields of some names, by their entries. -/
theorem filter_fields (h : Headers) (p : String → Bool) :
    h.fields.filter (fun f => p f.1)
      = (h.entries.filter fun e => p e.1).flatMap fun e => e.2.map (e.1, ·) := by
  show (h.entries.flatMap fun e => e.2.map (e.1, ·)).filter _ = _
  induction h.entries with
  | nil => rfl
  | cons e rest ih =>
    obtain ⟨name, values⟩ := e
    rw [List.flatMap_cons, List.filter_append, ih]
    cases hp : p name with
    | true =>
      have hall : ∀ f ∈ values.map (name, ·), p f.1 = true := by
        intro f hf
        obtain ⟨_, -, rfl⟩ := List.mem_map.mp hf
        exact hp
      rw [List.filter_eq_self.mpr hall, List.filter_cons_of_pos (by exact hp), List.flatMap_cons]
    | false =>
      have hnone : ∀ f ∈ values.map (name, ·), ¬ p f.1 = true := by
        intro f hf
        obtain ⟨_, -, rfl⟩ := List.mem_map.mp hf
        rw [hp]
        exact Bool.false_ne_true
      rw [List.filter_eq_nil_iff.mpr hnone, List.filter_cons_of_neg (by simp [hp]), List.nil_append]

/-- The fields of other names stay as they are, and in their order. -/
theorem filter_fields_set {p : String → Bool} (hname : p name = false) (h : Headers)
    (value : Text.Bytes) :
    (h.set name value).fields.filter (fun f => p f.1) = h.fields.filter fun f => p f.1 := by
  rw [filter_fields, filter_fields]
  show ((Table.putEntry name [value] h.entries).filter _).flatMap _ = _
  rw [Table.filter_putEntry hname]

/-- A field that was not there is added after the others. -/
theorem fields_set_of_notMem (hname : name ∉ h.keys) (value : Text.Bytes) :
    (h.set name value).fields = h.fields ++ [(name, value)] := by
  show (Table.putEntry name [value] h.entries).flatMap _ = _
  rw [Table.putEntry_of_notMem hname, List.flatMap_append]
  rfl

/-! ## Several headers -/

/-- Gives some names one text each, in the place of all values that they had. -/
def setAll (h : Headers) (marks : List (String × String)) : Headers :=
  marks.foldl (fun h (name, value) => h.setText name value) h

variable {marks : List (String × String)}

/-- Setting other fields leaves the values of a field alone. -/
theorem values_setAll_of_notMem (hname : name ∉ marks.map Prod.fst) :
    (h.setAll marks).values name = h.values name := by
  induction marks generalizing h with
  | nil => rfl
  | cons m rest ih =>
    rw [List.map_cons, List.mem_cons, not_or] at hname
    show ((h.setText m.1 m.2).setAll rest).values name = _
    rw [ih hname.2, setText, values_set, if_neg fun heq => hname.1 heq.symm]

/-- Of several headers with different names, each has its one value in the end. -/
theorem values_setAll (hnodup : (marks.map Prod.fst).Nodup) {m : String × String} (hm : m ∈ marks) :
    (h.setAll marks).values m.1 = [Text.encode m.2] := by
  induction marks generalizing h with
  | nil => cases hm
  | cons first rest ih =>
    rw [List.map_cons, List.nodup_cons] at hnodup
    show ((h.setText first.1 first.2).setAll rest).values m.1 = _
    rcases List.mem_cons.mp hm with rfl | hm
    · rw [values_setAll_of_notMem hnodup.1, setText, values_set, if_pos rfl]
    · exact ih hnodup.2 hm

/-- Setting fields leaves all others as they are, and in their order. -/
theorem filter_fields_setAll {p : String → Bool} (hmarks : ∀ m ∈ marks, p m.1 = false) :
    (h.setAll marks).fields.filter (fun f => p f.1) = h.fields.filter fun f => p f.1 := by
  induction marks generalizing h with
  | nil => rfl
  | cons m rest ih =>
    show ((h.setText m.1 m.2).setAll rest).fields.filter _ = _
    rw [ih fun m' hm' => hmarks m' (List.mem_cons_of_mem _ hm'), setText,
      filter_fields_set (hmarks m (List.mem_cons_self ..))]

/-- Headers that are new come in at the end, in their order. -/
theorem fields_setAll_of_new (hnodup : (marks.map Prod.fst).Nodup)
    (hnew : ∀ m ∈ marks, m.1 ∉ h.keys) :
    (h.setAll marks).fields = h.fields ++ marks.map fun m => (m.1, Text.encode m.2) := by
  induction marks generalizing h with
  | nil => exact (List.append_nil _).symm
  | cons m rest ih =>
    rw [List.map_cons, List.nodup_cons] at hnodup
    have hm := hnew m (List.mem_cons_self ..)
    have hrest : ∀ m' ∈ rest, m'.1 ∉ (h.setText m.1 m.2).keys := by
      intro m' hm' hmem
      rw [setText, set, Table.keys_put, if_neg hm, List.mem_append, List.mem_singleton] at hmem
      rcases hmem with hmem | heq
      · exact hnew m' (List.mem_cons_of_mem _ hm') hmem
      · exact hnodup.1 (heq ▸ List.mem_map_of_mem hm')
    show ((h.setText m.1 m.2).setAll rest).fields = _
    rw [ih hnodup.2 hrest, setText, fields_set_of_notMem hm, List.map_cons, List.append_assoc,
      List.singleton_append]

end Headers

end AdmissionGate
