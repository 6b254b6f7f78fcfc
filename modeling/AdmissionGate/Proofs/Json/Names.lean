import AdmissionGate.Proofs.Json.Depth
import Mathlib.Data.String.Basic

/-!
# Member names

Settling gives up what stands under a name if the name is repeated later in the same object. The name
itself stays, with the last of its values. So the names in a settled value are those that do not stand
under a name that is repeated (`names_settle_iff`), and these are all names if no object repeats one
(`Names.keptNames`).
-/

namespace AdmissionGate.Json

/-- A member name anywhere in a value. -/
inductive Names : Json → String → Prop where
  | here {members : List (String × Json)} {name : String} {v : Json} (h : (name, v) ∈ members) :
      Names (.object members) name
  | item {items : List Json} {v : Json} {name : String} (hv : v ∈ items) (h : Names v name) :
      Names (.array items) name
  | member {members : List (String × Json)} {n name : String} {v : Json} (hv : (n, v) ∈ members)
      (h : Names v name) : Names (.object members) name

/-- A member whose name is not repeated later in the same object. -/
def IsLast (members : List (String × Json)) (name : String) (v : Json) : Prop :=
  ∃ before after, members = before ++ (name, v) :: after ∧ name ∉ after.map Prod.fst

/-- A member name that does not stand under a name that is repeated later in the same object. -/
inductive KeptNames : Json → String → Prop where
  | here {members : List (String × Json)} {name : String} {v : Json} (h : (name, v) ∈ members) :
      KeptNames (.object members) name
  | item {items : List Json} {v : Json} {name : String} (hv : v ∈ items) (h : KeptNames v name) :
      KeptNames (.array items) name
  | member {members : List (String × Json)} {n name : String} {v : Json} (hv : IsLast members n v)
      (h : KeptNames v name) : KeptNames (.object members) name

/-- No object anywhere in a value repeats a name. -/
def RepeatsNoName (v : Json) : Prop :=
  ∀ depth members, v.Occurs depth (.object members) → (members.map Prod.fst).Nodup

/-! ## The last member of a name -/

theorem IsLast.mem {members : List (String × Json)} {name : String} {v : Json}
    (h : IsLast members name v) : (name, v) ∈ members := by
  obtain ⟨before, after, rfl, -⟩ := h
  simp

/-- A member in front of others does not change which is the last of a name. -/
theorem IsLast.cons {members : List (String × Json)} {name : String} {v : Json}
    (h : IsLast members name v) (m : String × Json) : IsLast (m :: members) name v := by
  obtain ⟨before, after, rfl, hafter⟩ := h
  exact ⟨m :: before, after, rfl, hafter⟩

/-- The first of the members is the last of its name if the name does not come again. -/
theorem isLast_cons_iff {members : List (String × Json)} {name n : String} {v u : Json} :
    IsLast ((n, u) :: members) name v ↔
      IsLast members name v ∨ name ∉ members.map Prod.fst ∧ name = n ∧ v = u := by
  constructor
  · rintro ⟨before, after, hsplit, hafter⟩
    cases before with
    | nil =>
      obtain ⟨heq, rfl⟩ := List.cons_eq_cons.mp hsplit
      obtain ⟨rfl, rfl⟩ := Prod.mk.inj heq
      exact .inr ⟨hafter, rfl, rfl⟩
    | cons m before =>
      obtain ⟨-, rfl⟩ := List.cons_eq_cons.mp hsplit
      exact .inl ⟨before, after, rfl, hafter⟩
  · rintro (h | ⟨hname, rfl, rfl⟩)
    · exact h.cons _
    · exact ⟨[], members, rfl, hname⟩

/-- Every name that occurs has a last member. -/
theorem exists_isLast {members : List (String × Json)} {name : String}
    (h : name ∈ members.map Prod.fst) : ∃ v, IsLast members name v := by
  induction members with
  | nil => cases h
  | cons m rest ih =>
    obtain ⟨n, v⟩ := m
    by_cases hrest : name ∈ rest.map Prod.fst
    · obtain ⟨w, hw⟩ := ih hrest
      exact ⟨w, hw.cons _⟩
    · obtain rfl : name = n := by simpa [hrest] using h
      exact ⟨v, [], rest, rfl, hrest⟩

/-- Where no name is repeated, every member is the last of its name. -/
theorem isLast_of_nodup {members : List (String × Json)} {name : String} {v : Json}
    (hmem : (name, v) ∈ members) (hnodup : (members.map Prod.fst).Nodup) :
    IsLast members name v := by
  obtain ⟨before, after, rfl⟩ := List.append_of_mem hmem
  refine ⟨before, after, rfl, ?_⟩
  simp only [List.map_append, List.map_cons, List.nodup_append, List.nodup_cons] at hnodup
  exact hnodup.2.1.1

/-- Without repeated names, every name of a value is kept. -/
theorem Names.keptNames {v : Json} {name : String} (h : v.Names name) (hv : v.RepeatsNoName) :
    v.KeptNames name := by
  induction h with
  | here h => exact .here h
  | item hv' _ ih => exact .item hv' (ih fun _ _ hocc => hv _ _ (.item hv' hocc))
  | @member members n name w hv' _ ih =>
    have hnodup := hv 0 members (.root _)
    exact .member (isLast_of_nodup hv' hnodup) (ih fun _ _ hocc => hv _ _ (.member hv' hocc))

/-! ## Settled members -/

/-- Members in the order of their names, each of which stands once. -/
def Ascends (members : List (String × Json)) : Prop :=
  members.Pairwise fun m m' => m.1 < m'.1

/-- A member at the head whose name does not stand behind it. -/
theorem mem_cons_of_ne {name n : String} {v w : Json} {rest : List (String × Json)}
    (h : ∀ m ∈ rest, m.1 ≠ name) :
    (n, w) ∈ (name, v) :: rest ↔ n = name ∧ w = v ∨ n ≠ name ∧ (n, w) ∈ rest := by
  rw [List.mem_cons, Prod.mk.injEq]
  refine or_congr_right ⟨fun hmem => ⟨h _ hmem, hmem⟩, fun hmem => hmem.2⟩

/-- Of the members of one name, the one that is put in is there and no other. -/
theorem mem_insertMember {name n : String} {v w : Json} {members : List (String × Json)}
    (h : Ascends members) : (n, w) ∈ insertMember name v members ↔
      n = name ∧ w = v ∨ n ≠ name ∧ (n, w) ∈ members := by
  induction members with
  | nil => simp [insertMember]
  | cons m rest ih =>
    obtain ⟨n', u⟩ := m
    obtain ⟨hfirst, hrest⟩ := List.pairwise_cons.mp h
    rw [insertMember]
    split
    · next hlt =>
      -- all names that follow are greater
      have hbelow : ∀ m ∈ (n', u) :: rest, name < m.1 := by
        intro m hm
        rcases List.mem_cons.mp hm with rfl | hm
        · exact hlt
        · exact String.lt_trans hlt (hfirst m hm)
      exact mem_cons_of_ne fun m hm => (hbelow m hm).ne'
    · split
      · next heq =>
        subst heq
        rw [mem_cons_of_ne fun m hm => (hfirst m hm).ne']
        refine or_congr_right (and_congr_right fun hne => ?_)
        simp [hne]
      · next hne =>
        rw [List.mem_cons, ih hrest, List.mem_cons]
        constructor
        · rintro (heq | ⟨rfl, rfl⟩ | ⟨hn, hmem⟩)
          · obtain ⟨rfl, rfl⟩ := Prod.mk.inj heq
            exact .inr ⟨Ne.symm hne, .inl rfl⟩
          · exact .inl ⟨rfl, rfl⟩
          · exact .inr ⟨hn, .inr hmem⟩
        · rintro (hnew | ⟨hn, heq | hmem⟩)
          · exact .inr (.inl hnew)
          · exact .inl heq
          · exact .inr (.inr ⟨hn, hmem⟩)

/-- Putting a member among members in the order of their names keeps the order. -/
theorem ascends_insertMember {name : String} {v : Json} {members : List (String × Json)}
    (h : Ascends members) : Ascends (insertMember name v members) := by
  induction members with
  | nil => exact List.pairwise_singleton _ _
  | cons m rest ih =>
    obtain ⟨n, u⟩ := m
    obtain ⟨hfirst, hrest⟩ := List.pairwise_cons.mp h
    rw [insertMember]
    split
    · next hlt =>
      refine List.pairwise_cons.mpr ⟨fun m hm => ?_, h⟩
      rcases List.mem_cons.mp hm with rfl | hm
      · exact hlt
      · exact String.lt_trans hlt (hfirst m hm)
    · next hle =>
      split
      · next heq =>
        subst heq
        exact List.pairwise_cons.mpr ⟨hfirst, hrest⟩
      · next hne =>
        refine List.pairwise_cons.mpr ⟨fun m hm => ?_, ih hrest⟩
        rcases (mem_insertMember hrest).mp hm with ⟨hm, -⟩ | ⟨-, hm⟩
        · rw [hm]
          exact lt_of_le_of_ne (not_lt.mp hle) (Ne.symm hne)
        · exact hfirst m hm

/-- Settled members are in the order of their names. -/
theorem ascends_settleMembers {settled members : List (String × Json)} (h : Ascends settled) :
    Ascends (settleMembers settled members) := by
  induction members generalizing settled with
  | nil => exact h
  | cons m rest ih => exact ih (ascends_insertMember h)

/-- A settled member is the last one of its name, or was there before under a name that does not
come again. -/
theorem mem_settleMembers {settled members : List (String × Json)} (h : Ascends settled)
    {name : String} {w : Json} : (name, w) ∈ settleMembers settled members ↔
      (∃ v, IsLast members name v ∧ w = v.settle) ∨
        name ∉ members.map Prod.fst ∧ (name, w) ∈ settled := by
  induction members generalizing settled with
  | nil =>
    have hnone : ∀ v, ¬ IsLast [] name v := fun v hv => List.not_mem_nil hv.mem
    simp [settleMembers, hnone]
  | cons m rest ih =>
    obtain ⟨n, u⟩ := m
    rw [settleMembers, ih (ascends_insertMember h), mem_insertMember h]
    constructor
    · rintro (⟨v, hv, rfl⟩ | ⟨hname, ⟨rfl, rfl⟩ | ⟨hne, hmem⟩⟩)
      · exact .inl ⟨v, hv.cons _, rfl⟩
      · exact .inl ⟨u, isLast_cons_iff.mpr (.inr ⟨hname, rfl, rfl⟩), rfl⟩
      · exact .inr ⟨by simp [hne, hname], hmem⟩
    · rintro (⟨v, hv, rfl⟩ | ⟨hname, hmem⟩)
      · rcases isLast_cons_iff.mp hv with hv | ⟨hname, rfl, rfl⟩
        · exact .inl ⟨v, hv, rfl⟩
        · exact .inr ⟨hname, .inl ⟨rfl, rfl⟩⟩
      · rw [List.map_cons, List.mem_cons, not_or] at hname
        exact .inr ⟨hname.2, .inr ⟨hname.1, hmem⟩⟩

/-! ## Settled values -/

theorem mem_settleItems {items : List Json} {w : Json} :
    w ∈ settleItems items ↔ ∃ v ∈ items, w = v.settle := by
  induction items with
  | nil => simp [settleItems]
  | cons v rest ih => simp [settleItems, ih]

/-- **The settled members of an object** are the last ones of each name, settled themselves. -/
theorem mem_settled {members : List (String × Json)} {name : String} {w : Json} :
    (name, w) ∈ settleMembers [] members ↔ ∃ v, IsLast members name v ∧ w = v.settle := by
  rw [mem_settleMembers List.Pairwise.nil]
  simp

/-- A name that is kept is a name of the settled value. -/
theorem KeptNames.names_settle {v : Json} {name : String} (h : v.KeptNames name) :
    v.settle.Names name := by
  induction h with
  | here h =>
    obtain ⟨w, hw⟩ := exists_isLast (List.mem_map_of_mem (f := Prod.fst) h)
    exact .here (mem_settled.mpr ⟨w, hw, rfl⟩)
  | item hv _ ih => exact .item (mem_settleItems.mpr ⟨_, hv, rfl⟩) ih
  | member hv _ ih => exact .member (mem_settled.mpr ⟨_, hv, rfl⟩) ih

/-- A settled value has no other names. -/
theorem Names.keptNames_of_settle {v : Json} {name : String} (h : v.settle.Names name) :
    v.KeptNames name := by
  generalize hsettle : v.settle = u at h
  induction h generalizing v with
  | here h =>
    cases v with
    | object members =>
      cases hsettle
      obtain ⟨w, hw, -⟩ := mem_settled.mp h
      exact .here hw.mem
    | null | bool | number | string | array => cases hsettle
  | item hv _ ih =>
    cases v with
    | array items =>
      cases hsettle
      obtain ⟨w, hw, rfl⟩ := mem_settleItems.mp hv
      exact .item hw (ih rfl)
    | null | bool | number | string | object => cases hsettle
  | member hv _ ih =>
    cases v with
    | object members =>
      cases hsettle
      obtain ⟨w, hw, rfl⟩ := mem_settled.mp hv
      exact .member hw (ih rfl)
    | null | bool | number | string | array => cases hsettle

/-- In a settled value every object has its members in the order of their names. -/
theorem Occurs.ascends_of_settle {v : Json} {depth : ℕ} {members : List (String × Json)}
    (h : v.settle.Occurs depth (.object members)) : Ascends members := by
  generalize hsettle : v.settle = w at h
  generalize hobject : Json.object members = u at h
  induction h generalizing v with
  | root w =>
    subst hsettle
    cases v with
    | object ms =>
      cases hobject
      exact ascends_settleMembers .nil
    | null | bool | number | string | array => cases hobject
  | item hv _ ih =>
    cases v with
    | array items =>
      cases hsettle
      obtain ⟨w, -, rfl⟩ := mem_settleItems.mp hv
      exact ih rfl hobject
    | null | bool | number | string | object => cases hsettle
  | member hv _ ih =>
    cases v with
    | object members =>
      cases hsettle
      obtain ⟨w, -, rfl⟩ := mem_settled.mp hv
      exact ih rfl hobject
    | null | bool | number | string | array => cases hsettle

/-- **The names that settling leaves.** -/
theorem names_settle_iff {v : Json} {name : String} : v.settle.Names name ↔ v.KeptNames name :=
  ⟨Names.keptNames_of_settle, KeptNames.names_settle⟩

end AdmissionGate.Json
