import AdmissionGate.Time.Instant

/-!
# Laws of instants

Windows compare instants and step back from them, and all that proofs about them need is said by
`LawfulInstant`: instants that can be compared at all are totally preordered, and going back by a
fixed length keeps their order. How far back an instant lies is left open, so that rounded
differences are as good as exact ones.

The events of a window are `Ascending`. In such a list the instants up to a bound come first, which
is why dropping from the front (`Ascending.dropWhile_eq_filter`) and coming in at a place found by
bisection (`Ascending.place`) are enough to keep a window exact and in order.
-/

namespace AdmissionGate

namespace Instant

variable {τ : Type} [Instant τ]

/-- One instant can be compared with another, and is not after it. -/
def NotAfter (a b : τ) : Prop := notAfter a b = true

instance (a b : τ) : Decidable (NotAfter a b) :=
  inferInstanceAs (Decidable (notAfter a b = true))

/-- An instant that can be compared with itself, and hence with others. A double is one unless it is
no number. -/
def IsTime (a : τ) : Prop := NotAfter a a

instance (a : τ) : Decidable (IsTime a) := inferInstanceAs (Decidable (NotAfter a a))

/-- The earliest of some instants; of several that are equally early, the first. -/
def earliest : List τ → Option τ
  | [] => none
  | t :: ts =>
    match earliest ts with
    | none => some t
    | some u => if NotAfter t u then some t else some u

/-- Some instants with one more, behind those that are not after it. -/
def place (now : τ) (ts : List τ) : List τ :=
  ts.filter (notAfter · now) ++ now :: ts.filter (!notAfter · now)

end Instant

open Instant

/-- A kind of instants whose comparison is a total preorder on those that can be compared, and whose
steps back keep it. -/
class LawfulInstant (τ : Type) [Instant τ] : Prop where
  isTime_of_notAfter : ∀ {a b : τ}, NotAfter a b → IsTime a ∧ IsTime b
  trans : ∀ {a b c : τ}, NotAfter a b → NotAfter b c → NotAfter a c
  total : ∀ {a b : τ}, IsTime a → IsTime b → NotAfter a b ∨ NotAfter b a
  back_mono : ∀ {a b : τ} (secs : UInt64), NotAfter a b → NotAfter (back a secs) (back b secs)

/-! ## Ascending instants -/

/-- Instants that can be compared and come in order. -/
structure Ascending {τ : Type} [Instant τ] (ts : List τ) : Prop where
  isTime : ∀ t ∈ ts, IsTime t
  pairwise : ts.Pairwise NotAfter

namespace Ascending

variable {τ : Type} [Instant τ] {ts us : List τ} {now : τ}

theorem nil : Ascending ([] : List τ) := ⟨by simp, .nil⟩

theorem sublist (h : Ascending ts) (hu : us.Sublist ts) : Ascending us :=
  ⟨fun t ht => h.isTime t (hu.subset ht), h.pairwise.sublist hu⟩

theorem filter (h : Ascending ts) (p : τ → Bool) : Ascending (ts.filter p) :=
  h.sublist List.filter_sublist

/-- Instants that come after others follow them in order. -/
theorem append (ht : Ascending ts) (hu : Ascending us)
    (h : ∀ t ∈ ts, ∀ u ∈ us, NotAfter t u) : Ascending (ts ++ us) := by
  refine ⟨fun t hmem => ?_, List.pairwise_append.mpr ⟨ht.pairwise, hu.pairwise, h⟩⟩
  rcases List.mem_append.mp hmem with hmem | hmem
  · exact ht.isTime t hmem
  · exact hu.isTime t hmem

theorem singleton (h : IsTime now) : Ascending [now] :=
  ⟨fun _ ht => List.mem_singleton.mp ht ▸ h, List.pairwise_singleton ..⟩

theorem concat (h : Ascending ts) (hnow : IsTime now) (hle : ∀ t ∈ ts, NotAfter t now) :
    Ascending (ts ++ [now]) := by
  refine h.append (singleton hnow) fun t ht u hu => ?_
  rw [List.mem_singleton.mp hu]
  exact hle t ht

/-- The first of ascending instants is the earliest. -/
theorem earliest_eq_head? (h : Ascending ts) : earliest ts = ts.head? := by
  induction ts with
  | nil => rfl
  | cons t ts ih =>
    rw [earliest, ih (h.sublist (List.sublist_cons_self t ts))]
    cases ts with
    | nil => rfl
    | cons u us => simp [List.rel_of_pairwise_cons h.pairwise (List.mem_cons_self ..)]

/-- Ascending instants have one that none of them is before. The instant is asked for even if there
are none of them. -/
theorem exists_since (h : Ascending ts) : ∃ since : τ, ∀ t ∈ ts, NotAfter since t := by
  cases ts with
  | nil => exact ⟨ofMicros 0, by simp⟩
  | cons t rest =>
    refine ⟨t, fun u hu => ?_⟩
    rcases List.mem_cons.mp hu with rfl | hu
    · exact h.isTime u (List.mem_cons_self ..)
    · exact List.rel_of_pairwise_cons h.pairwise hu

variable [LawfulInstant τ]

/-- In ascending instants, those up to a bound come first. -/
theorem eq_filter_append (h : Ascending ts) (bound : τ) :
    ts = ts.filter (notAfter · bound) ++ ts.filter (!notAfter · bound) := by
  induction ts with
  | nil => rfl
  | cons t ts ih =>
    have ih := ih (h.sublist (List.sublist_cons_self t ts))
    cases ht : notAfter t bound with
    | true => simpa [ht] using ih
    | false =>
      -- behind an instant beyond the bound there is none up to it
      have hnone : ts.filter (notAfter · bound) = [] := by
        refine List.filter_eq_nil_iff.mpr fun u hu hub => ?_
        have htu : NotAfter t u := List.rel_of_pairwise_cons h.pairwise hu
        exact absurd (LawfulInstant.trans htu hub) (by simp [NotAfter, ht])
      rw [hnone, List.nil_append] at ih
      rw [List.filter_cons_of_neg (by simp [ht]), hnone, List.nil_append,
        List.filter_cons_of_pos (by simp [ht]), ← ih]

/-- Dropping the instants up to a bound from the front drops all of them. -/
theorem dropWhile_eq_filter (h : Ascending ts) (bound : τ) :
    ts.dropWhile (notAfter · bound) = ts.filter (!notAfter · bound) := by
  have hall : ∀ t ∈ ts.filter (notAfter · bound), notAfter t bound = true :=
    fun t ht => (List.mem_filter.mp ht).2
  calc ts.dropWhile (notAfter · bound)
      = (ts.filter (notAfter · bound) ++ ts.filter (!notAfter · bound)).dropWhile
          (notAfter · bound) := by rw [← h.eq_filter_append bound]
    _ = (ts.filter (!notAfter · bound)).dropWhile (notAfter · bound) :=
        List.dropWhile_append_of_pos hall
    _ = ts.filter (!notAfter · bound) := by
        cases hrest : ts.filter (!notAfter · bound) with
        | nil => rfl
        | cons t rest =>
          have ht : t ∈ ts.filter (!notAfter · bound) := by rw [hrest]; exact List.mem_cons_self ..
          exact List.dropWhile_cons_of_neg (by simpa using (List.mem_filter.mp ht).2)

/-- Placing an instant among ascending ones leaves them ascending. -/
theorem place (h : Ascending ts) (hnow : IsTime now) : Ascending (Instant.place now ts) := by
  -- those that are not up to `now` come after it, since all of them can be compared
  have hafter : ∀ t ∈ ts.filter (!notAfter · now), NotAfter now t := by
    intro t ht
    obtain ⟨hmem, hnot⟩ := List.mem_filter.mp ht
    rcases LawfulInstant.total (h.isTime t hmem) hnow with hle | hle
    · simp [show notAfter t now = true from hle] at hnot
    · exact hle
  have hbehind : Ascending (now :: ts.filter (!notAfter · now)) :=
    (singleton hnow).append (h.filter _) fun t ht u hu => by
      rw [List.mem_singleton.mp ht]
      exact hafter u hu
  refine (h.filter _).append hbehind fun t ht u hu => ?_
  have htnow : NotAfter t now := (List.mem_filter.mp ht).2
  rcases List.mem_cons.mp hu with rfl | hu
  · exact htnow
  · exact LawfulInstant.trans htnow (hafter u hu)

end Ascending

namespace Instant

variable {τ : Type} [Instant τ] {now : τ} {ts : List τ}

/-- Some of several instants is always the earliest. -/
theorem earliest_eq_none : earliest ts = none ↔ ts = [] := by
  cases ts with
  | nil => exact ⟨fun _ => rfl, fun _ => rfl⟩
  | cons t rest =>
    refine ⟨fun h => ?_, fun h => by cases h⟩
    rw [earliest] at h
    split at h
    · cases h
    · split at h <;> cases h

/-- The earliest of some instants is one of them that is not after any. -/
theorem earliest_spec [LawfulInstant τ] (htimes : ∀ t ∈ ts, IsTime t) {first : τ}
    (h : earliest ts = some first) : first ∈ ts ∧ ∀ t ∈ ts, NotAfter first t := by
  induction ts generalizing first with
  | nil => cases h
  | cons t rest ih =>
    have ht : IsTime t := htimes t (List.mem_cons_self ..)
    have hrest : ∀ u ∈ rest, IsTime u := fun u hu => htimes u (List.mem_cons_of_mem _ hu)
    rw [earliest] at h
    cases hfirst : earliest rest with
    | none =>
      rw [hfirst] at h
      obtain rfl : t = first := Option.some.inj h
      rw [earliest_eq_none.mp hfirst]
      refine ⟨List.mem_singleton_self t, fun u hu => ?_⟩
      rw [List.mem_singleton.mp hu]
      exact ht
    | some u =>
      obtain ⟨hmem, hle⟩ := ih hrest hfirst
      simp only [hfirst] at h
      split at h
      · next htu =>
        obtain rfl : t = first := Option.some.inj h
        refine ⟨List.mem_cons_self .., fun v hv => ?_⟩
        rcases List.mem_cons.mp hv with rfl | hv
        · exact ht
        · exact LawfulInstant.trans htu (hle v hv)
      · next htu =>
        obtain rfl : u = first := Option.some.inj h
        refine ⟨List.mem_cons_of_mem _ hmem, fun v hv => ?_⟩
        rcases List.mem_cons.mp hv with rfl | hv
        -- what is not before another one is after it, since both can be compared
        · exact (LawfulInstant.total ht (hrest u hmem)).resolve_left htu
        · exact hle v hv

/-- Nothing gets lost by placing an instant among others. -/
theorem place_perm (now : τ) (ts : List τ) : (place now ts).Perm (now :: ts) :=
  List.perm_middle.trans ((List.filter_append_perm _ ts).cons now)

/-- An instant that none is after comes in at the end. -/
theorem place_eq_concat (h : ∀ t ∈ ts, NotAfter t now) : place now ts = ts ++ [now] := by
  have hall : ts.filter (notAfter · now) = ts := List.filter_eq_self.mpr h
  have hnone : ts.filter (!notAfter · now) = [] :=
    List.filter_eq_nil_iff.mpr fun t ht => by simp [show notAfter t now = true from h t ht]
  rw [place, hall, hnone]

end Instant

end AdmissionGate
