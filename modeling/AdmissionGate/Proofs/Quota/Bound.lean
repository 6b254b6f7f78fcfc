import AdmissionGate.Proofs.Quota.Run
import AdmissionGate.Proofs.Shared.Contract
import AdmissionGate.Proofs.Time.Exact

/-!
# The quota over whole runs

However requests, sweeps and the clock go, no interval of the length of a window sees more requests
admitted than its limit; with a shared store in front that may fail any of its calls, no more than
twice the limit.

* `Sparse`: events of which no such interval holds more than the limit. An event that is recorded
  where a window has room leaves them sparse (`Sparse.cons`), for all intervals at once.
* `MemoryGrants`, `SharedGrants`: the events that one window was granted by either store, which are
  sparse and still in its log.
* `Tally`: the grants of both stores account for some admissions. Every call keeps the tally, however
  it is answered, and a request that is admitted is granted each of its windows by one of the stores.
* `admissions_le`: the bound.
-/

namespace AdmissionGate

open Instant

variable {K : Type} [Field K] [LinearOrder K] [IsStrictOrderedRing K] [FloorRing K]

/-! ## Sparse events -/

/-- The number of events in the half-open interval of a window's length that ends at `t`. -/
def countUpTo (window : UInt64) (t : K) (events : List K) : ℕ :=
  events.countP fun u => t - window.toNat < u ∧ u ≤ t

/-- No interval of the length of the window holds more than the limit. -/
def Sparse (limit : TierLimit) (events : List K) : Prop :=
  ∀ t, countUpTo limit.window t events ≤ limit.limit.toNat

omit [IsStrictOrderedRing K] [FloorRing K] in
theorem sparse_nil (limit : TierLimit) : Sparse limit ([] : List K) := fun _ => Nat.zero_le _

/-- **An event that is recorded where the window has room leaves the events sparse**, since no
interval that holds it holds more of the others than are live. -/
theorem Sparse.cons {limit : TierLimit} {events : List K} {now : K} (h : Sparse limit events)
    (hroom : events.countP (Bucket.isLive limit.window now) < limit.limit.toNat) :
    Sparse limit (now :: events) := by
  intro t
  have hbefore := h t
  rw [countUpTo] at hbefore ⊢
  rw [List.countP_cons]
  split
  · next hin =>
    -- an interval that holds `now` ends there or later, so what else it holds is live at `now`
    have hle : events.countP (fun u => t - limit.window.toNat < u ∧ u ≤ t)
        ≤ events.countP (Bucket.isLive limit.window now) := by
      refine List.countP_mono_left fun u _ hu => ?_
      rw [decide_eq_true_eq] at hin hu
      rw [isLive_iff_lt]
      linarith [hin.2, hu.1]
    omega
  · omega

/-- Events that were granted to a limiter, among those in a log. -/
structure Granted (limit : TierLimit) (granted log : List K) : Prop where
  subperm : granted.Subperm log
  sparse : Sparse limit granted

namespace Granted

variable {limit : TierLimit} {granted : List K} {L : EventLog K} {key : String}

omit [IsStrictOrderedRing K] in
/-- Whatever else is recorded, what has been granted stays. -/
theorem consume (h : Granted limit granted (L key)) (key' : String) (limit' window : UInt64)
    (now : K) : Granted limit granted ((L.consume key' limit' window now).1 key) := by
  refine ⟨?_, h.sparse⟩
  rw [EventLog.consume_fst]
  split
  · rw [EventLog.add_apply]
    split
    · next heq =>
      rw [heq]
      exact h.subperm.trans (List.sublist_append_left _ _).subperm
    · exact h.subperm
  · exact h.subperm

/-- An event that the log has room for is granted as well. -/
theorem consume_allowed (h : Granted limit granted (L key)) {now : K}
    (hallowed : (L.consume key limit.limit limit.window now).2.allowed = true) :
    Granted limit (now :: granted) ((L.consume key limit.limit limit.window now).1 key) := by
  have hroom : (L.live key limit.window now).length < limit.limit.toNat := by
    rw [EventLog.consume] at hallowed
    by_contra hfull
    simp [hfull] at hallowed
  constructor
  · rw [EventLog.consume_fst, if_pos hroom, EventLog.add_apply, if_pos rfl]
    exact ((List.subperm_cons now).mpr h.subperm).trans
      (List.perm_append_singleton now _).symm.subperm
  · refine h.sparse.cons (lt_of_le_of_lt (h.subperm.countP_le _) ?_)
    rwa [List.countP_eq_length_filter]

end Granted

/-! ## What either store has granted -/

variable {limits : Limits} {tier : Tier} {i : Identifier} {since now : K}

/-- Events that the windows in memory have granted an identifier in a tier. -/
def MemoryGrants (limits : Limits) (tier : Tier) (i : Identifier) (since : K) (w : WindowStore K)
    (granted : List K) : Prop :=
  ∃ L, Mirrors (windowOf limits) since w L ∧
    Granted (limits.tier tier) granted (L (windowKey tier i))

namespace MemoryGrants

variable {w : WindowStore K} {granted : List K}

/-- A call on any window keeps what was granted, and if this window says yes, it grants the new
event. -/
theorem consume (h : MemoryGrants limits tier i since w granted) (hnow : NotAfter since now)
    (tier' : Tier) (i' : Identifier) :
    MemoryGrants limits tier i now
        (w.consume (windowKey tier' i') (limits.tier tier').limit (limits.tier tier').window now).1
        granted ∧
      ((i', tier') = (i, tier) →
        (w.consume (windowKey tier' i') (limits.tier tier').limit (limits.tier tier').window
          now).2.allowed = true →
        MemoryGrants limits tier i now
          (w.consume (windowKey tier' i') (limits.tier tier').limit (limits.tier tier').window now).1
          (now :: granted)) := by
  obtain ⟨L, hmirrors, hgranted⟩ := h
  obtain ⟨hanswer, hafter⟩ :=
    hmirrors.consume hnow (windowKey tier' i') (limits.tier tier').limit
  rw [windowOf_windowKey] at hanswer hafter
  refine ⟨⟨_, hafter, hgranted.consume _ _ _ now⟩, fun heq hallowed => ?_⟩
  obtain ⟨rfl, rfl⟩ := Prod.mk.inj heq
  rw [hanswer] at hallowed
  exact ⟨_, hafter, hgranted.consume_allowed hallowed⟩

/-- Counting grants nothing and takes nothing away. -/
theorem current (h : MemoryGrants limits tier i since w granted) (hnow : NotAfter since now)
    (i' : Identifier) :
    MemoryGrants limits tier i now
      (w.current (windowKey .sustained i') limits.sustained.window now).1 granted := by
  obtain ⟨L, hmirrors, hgranted⟩ := h
  obtain ⟨-, hafter⟩ := hmirrors.current hnow (windowKey .sustained i')
  rw [windowOf_windowKey] at hafter
  exact ⟨L, hafter, hgranted⟩

/-- What was granted up to a time was granted up to any later one. -/
theorem later (h : MemoryGrants limits tier i since w granted) (hnow : NotAfter since now) :
    MemoryGrants limits tier i now w granted := by
  obtain ⟨L, hmirrors, hgranted⟩ := h
  exact ⟨L, hmirrors.later hnow, hgranted⟩

/-- A sweep takes away nothing that was granted. -/
theorem sweep (h : MemoryGrants limits tier i since w granted) (hnow : NotAfter since now) :
    MemoryGrants limits tier i now (w.sweep now).1 granted := by
  obtain ⟨L, hmirrors, hgranted⟩ := h
  exact ⟨L, hmirrors.sweep hnow, hgranted⟩

end MemoryGrants

variable {σ : Type} [SharedStore σ K] {C : SharedLog (windowOf limits) σ K}

/-- Events that the shared store, if there is one, has granted an identifier in a tier. -/
def SharedGrants (C : SharedLog (windowOf limits) σ K) (tier : Tier) (i : Identifier) (since : K)
    (shared : Option σ) (granted : List K) : Prop :=
  match shared with
  | none => granted = []
  | some store => ∃ before L, NotAfter before since ∧ C.Holds before store L ∧
      Granted (limits.tier tier) granted (L (windowKey tier i))

namespace SharedGrants

variable {shared : Option σ} {store : σ} {granted : List K}

/-- What was granted up to a time was granted up to any later one. -/
theorem later (h : SharedGrants C tier i since shared granted) (hnow : NotAfter since now) :
    SharedGrants C tier i now shared granted := by
  cases shared with
  | none => exact h
  | some store =>
    obtain ⟨before, L, hbefore, hholds, hgranted⟩ := h
    exact ⟨before, L, LawfulInstant.trans hbefore hnow, hholds, hgranted⟩

/-- A call that is answered keeps what was granted, and an answer of yes grants the new event. -/
theorem consume_answer (h : SharedGrants C tier i since (some store) granted)
    (hnow : NotAfter since now) {tier' : Tier} {i' : Identifier} {o : WindowOutcome K}
    (hanswer : (SharedStore.consume store (windowKey tier' i') (limits.tier tier').limit
      (limits.tier tier').window now).2 = .answer o) :
    SharedGrants C tier i now (some (SharedStore.consume store (windowKey tier' i')
        (limits.tier tier').limit (limits.tier tier').window now).1) granted ∧
      ((i', tier') = (i, tier) → o.allowed = true →
        SharedGrants C tier i now (some (SharedStore.consume store (windowKey tier' i')
          (limits.tier tier').limit (limits.tier tier').window now).1) (now :: granted)) := by
  obtain ⟨before, L, hbefore, hholds, hgranted⟩ := h
  -- the contract speaks of the window of the key, which is that of the tier
  rw [← windowOf_windowKey limits tier' i'] at hanswer
  obtain ⟨hlog, hafter⟩ := C.consume_answer _ _ hholds (LawfulInstant.trans hbefore hnow) hanswer
  rw [windowOf_windowKey] at hlog hafter
  have htime : NotAfter now now := isTime_exact now
  refine ⟨⟨now, _, htime, hafter, hgranted.consume _ _ _ now⟩, fun heq hallowed => ?_⟩
  obtain ⟨rfl, rfl⟩ := Prod.mk.inj heq
  rw [hlog] at hallowed
  exact ⟨now, _, htime, hafter, hgranted.consume_allowed hallowed⟩

/-- A call that fails grants nothing, even if it was carried out. -/
theorem consume_failure (h : SharedGrants C tier i since (some store) granted)
    (hnow : NotAfter since now) {tier' : Tier} {i' : Identifier}
    (hno : ∀ o, (SharedStore.consume store (windowKey tier' i') (limits.tier tier').limit
      (limits.tier tier').window now).2 ≠ .answer o) :
    SharedGrants C tier i now (some (SharedStore.consume store (windowKey tier' i')
      (limits.tier tier').limit (limits.tier tier').window now).1) granted := by
  obtain ⟨before, L, hbefore, hholds, hgranted⟩ := h
  rw [← windowOf_windowKey limits tier' i'] at hno
  have hreply := C.consume_failure _ _ hholds (LawfulInstant.trans hbefore hnow) hno
  rw [windowOf_windowKey] at hreply
  have htime : NotAfter now now := isTime_exact now
  -- whether the call got lost or only its answer, the log holds all that was granted before
  rcases hreply with hafter | hafter
  · exact ⟨now, L, htime, hafter, hgranted⟩
  · exact ⟨now, _, htime, hafter, hgranted.consume _ _ _ now⟩

/-- Counting keeps what was granted. -/
theorem count (h : SharedGrants C tier i since (some store) granted) (hnow : NotAfter since now)
    (i' : Identifier) :
    SharedGrants C tier i now (some (SharedStore.count store (windowKey .sustained i')
      limits.sustained.window now).1) granted := by
  obtain ⟨before, L, hbefore, hholds, hgranted⟩ := h
  have hafter := C.count (windowKey .sustained i') hholds (LawfulInstant.trans hbefore hnow)
  rw [windowOf_windowKey] at hafter
  exact ⟨now, L, isTime_exact now, hafter, hgranted⟩

end SharedGrants

/-! ## The tally of a limiter -/

namespace Limiter

/-- Both stores together have granted at least the events `admitted`. -/
def Tally (C : SharedLog (windowOf limits) σ K) (tier : Tier) (i : Identifier) (since : K)
    (l : Limiter K σ) (admitted : List K) : Prop :=
  ∃ own other, MemoryGrants limits tier i since l.fallback own ∧
    SharedGrants C tier i since l.shared other ∧ admitted.Subperm (own ++ other)

variable {admitted : List K}

omit [IsStrictOrderedRing K] in
/-- A tally that accounts for some admissions accounts for fewer. -/
theorem Tally.mono {l : Limiter K σ} {fewer : List K} (h : Tally C tier i since l admitted)
    (hfewer : fewer.Subperm admitted) : Tally C tier i since l fewer := by
  obtain ⟨own, other, hown, hother, hadmitted⟩ := h
  exact ⟨own, other, hown, hother, hfewer.trans hadmitted⟩

namespace Session

variable {s : Session K σ}

/-- The windows in memory keep the tally, and count one more event if the window that is asked is the
one that is looked at and has room. -/
theorem tally_inMemory (h : Tally C tier i since s.limiter admitted) (hnow : NotAfter since now)
    (tier' : Tier) (i' : Identifier) {r : Session K σ × WindowOutcome K}
    (hr : s.inMemory
      (·.consume (windowKey tier' i') (limits.tier tier').limit (limits.tier tier').window now) = r) :
    Tally C tier i now r.1.limiter admitted ∧
      ((i', tier') = (i, tier) → r.2.allowed = true →
        Tally C tier i now r.1.limiter (now :: admitted)) := by
  subst hr
  obtain ⟨own, other, hown, hother, hadmitted⟩ := h
  obtain ⟨hkept, hmore⟩ := hown.consume hnow tier' i'
  refine ⟨⟨own, other, hkept, hother.later hnow, hadmitted⟩, fun heq hallowed => ?_⟩
  exact ⟨now :: own, other, hmore heq hallowed, hother.later hnow,
    (List.subperm_cons now).mpr hadmitted⟩

/-- A call for a window keeps the tally in the same way, whichever store answers it. -/
theorem tally_consume (h : Tally C tier i since s.limiter admitted) (hidle : s.meanwhile = unchanged)
    (hnow : NotAfter since now) (tier' : Tier) (i' : Identifier) {r : Session K σ × WindowOutcome K}
    (hr : s.call .consume
      (SharedStore.consume · (windowKey tier' i') (limits.tier tier').limit
        (limits.tier tier').window now)
      (·.consume (windowKey tier' i') (limits.tier tier').limit (limits.tier tier').window now) = r) :
    r.1.meanwhile = unchanged ∧ Tally C tier i now r.1.limiter admitted ∧
      ((i', tier') = (i, tier) → r.2.allowed = true →
        Tally C tier i now r.1.limiter (now :: admitted)) := by
  have hcall := answered_call hidle .consume
    (SharedStore.consume · (windowKey tier' i') (limits.tier tier').limit
      (limits.tier tier').window now)
    (·.consume (windowKey tier' i') (limits.tier tier').limit (limits.tier tier').window now)
  rw [hr] at hcall
  cases hcall with
  | alone halone => exact ⟨hidle, tally_inMemory h hnow tier' i' rfl⟩
  | @shared store o s' hs ha hasked =>
    obtain ⟨own, other, hown, hother, hadmitted⟩ := h
    rw [hs] at hother
    obtain ⟨hkept, hmore⟩ := hother.consume_answer hnow ha
    have hown' := hown.later hnow
    rw [← hasked.fallback] at hown'
    rw [← hasked.shared] at hkept hmore
    refine ⟨hasked.idle, ⟨own, other, hown', hkept, hadmitted⟩, fun heq hallowed => ?_⟩
    refine ⟨own, now :: other, hown', hmore heq hallowed, ?_⟩
    exact ((List.subperm_cons now).mpr hadmitted).trans List.perm_middle.symm.subperm
  | @failed store s' hs hno hasked =>
    -- nothing is granted by the shared store, and the windows in memory take over
    obtain ⟨own, other, hown, hother, hadmitted⟩ := h
    rw [hs] at hother
    have hkept := hother.consume_failure hnow hno
    have hown' := hown.later hnow
    rw [← hasked.fallback] at hown'
    rw [← hasked.shared] at hkept
    exact ⟨hasked.idle,
      tally_inMemory ⟨own, other, hown', hkept, hadmitted⟩ (isTime_exact now) tier' i' rfl⟩

/-- Counting a window keeps the tally. -/
theorem tally_count (h : Tally C tier i since s.limiter admitted) (hidle : s.meanwhile = unchanged)
    (hnow : NotAfter since now) (i' : Identifier) {r : Session K σ × ℕ}
    (hr : s.call .count (SharedStore.count · (windowKey .sustained i') limits.sustained.window now)
      (·.current (windowKey .sustained i') limits.sustained.window now) = r) :
    r.1.meanwhile = unchanged ∧ Tally C tier i now r.1.limiter admitted := by
  have hcall := answered_call hidle .count
    (SharedStore.count · (windowKey .sustained i') limits.sustained.window now)
    (·.current (windowKey .sustained i') limits.sustained.window now)
  rw [hr] at hcall
  obtain ⟨own, other, hown, hother, hadmitted⟩ := h
  cases hcall with
  | alone halone =>
    exact ⟨hidle, own, other, hown.current hnow i', hother.later hnow, hadmitted⟩
  | @shared store n s' hs ha hasked =>
    rw [hs] at hother
    have hkept := hother.count hnow i'
    have hown' := hown.later hnow
    rw [← hasked.fallback] at hown'
    rw [← hasked.shared] at hkept
    exact ⟨hasked.idle, own, other, hown', hkept, hadmitted⟩
  | @failed store s' hs hno hasked =>
    rw [hs] at hother
    have hkept := hother.count hnow i'
    have hown' := hown.current hnow i'
    rw [← hasked.fallback] at hown'
    rw [← hasked.shared] at hkept
    exact ⟨hasked.idle, own, other, hown', hkept, hadmitted⟩

/-- Counting what is left admits nothing, and keeps the tally. -/
theorem tally_run_countAll {ids : List Identifier} {remaining : UInt64}
    (h : Tally C tier i since s.limiter admitted) (hidle : s.meanwhile = unchanged)
    (hnow : NotAfter since now) :
    Tally C tier i now (run now s (.countAll limits now remaining ids)).1.limiter admitted := by
  induction ids generalizing s since remaining with
  | nil =>
    obtain ⟨own, other, hown, hother, hadmitted⟩ := h
    exact ⟨own, other, hown.later hnow, hother.later hnow, hadmitted⟩
  | cons i' rest ih =>
    obtain ⟨hidle', hkept⟩ := tally_count h hidle hnow i' rfl
    exact ih hkept hidle' (isTime_exact now)

/-- **A request that is admitted is granted every window that it asks for**, and no request loses a
grant. -/
theorem tally_run_consumeAll (next : Plan K)
    (hnext : ∀ {s : Session K σ} {admitted : List K}, Tally C tier i now s.limiter admitted →
      s.meanwhile = unchanged → Tally C tier i now (run now s next).1.limiter admitted)
    (ws : List (Identifier × Tier)) (h : Tally C tier i now s.limiter admitted)
    (hidle : s.meanwhile = unchanged) :
    Tally C tier i now (run now s (.consumeAll limits now next ws)).1.limiter admitted ∧
      ((i, tier) ∈ ws → (run now s (.consumeAll limits now next ws)).2.allowed = true →
        Tally C tier i now (run now s (.consumeAll limits now next ws)).1.limiter
          (now :: admitted)) := by
  induction ws generalizing s admitted with
  | nil => exact ⟨hnext h hidle, fun hmem => absurd hmem List.not_mem_nil⟩
  | cons w rest ih =>
    obtain ⟨i', tier'⟩ := w
    obtain ⟨r, hr⟩ : ∃ r, s.call .consume
      (SharedStore.consume · (windowKey tier' i') (limits.tier tier').limit
        (limits.tier tier').window now)
      (·.consume (windowKey tier' i') (limits.tier tier').limit (limits.tier tier').window now) = r :=
      ⟨_, rfl⟩
    obtain ⟨hidle', hkept, hmore⟩ := tally_consume h hidle (isTime_exact now) tier' i' hr
    have hrun : run now s (.consumeAll limits now next ((i', tier') :: rest))
        = run now r.1 (if r.2.allowed then .consumeAll limits now next rest
          else .denial limits now tier' i' r.2) := by
      rw [← hr]
      rfl
    rw [hrun]
    -- a denial ends the request; what was granted before it stays in the tally
    cases hallowed : r.2.allowed with
    | false => exact ⟨hkept, fun _ hdenied => by cases hdenied⟩
    | true =>
      refine ⟨(ih hkept hidle').1, fun hmem hadmit => ?_⟩
      rcases List.mem_cons.mp hmem with heq | hmem
      · exact (ih (hmore heq.symm hallowed) hidle').1
      · exact (ih hkept hidle').2 hmem hadmit

end Session

/-- **A request keeps the tally**, and one that is admitted is in it, for each of its identifiers. -/
theorem Tally.requestQuota {l : Limiter K σ} (h : Tally C tier i since l admitted)
    (hlimits : l.limits = limits) (hnow : NotAfter since now) (ids : List Identifier) :
    Tally C tier i now (l.requestQuota now ids).1 admitted ∧
      (i ∈ ids → (l.requestQuota now ids).2.1.allowed = true →
        Tally C tier i now (l.requestQuota now ids).1 (now :: admitted)) := by
  subst hlimits
  have h' : Tally C tier i now l admitted := by
    obtain ⟨own, other, hown, hother, hadmitted⟩ := h
    exact ⟨own, other, hown.later hnow, hother.later hnow, hadmitted⟩
  obtain ⟨hkept, hmore⟩ := Session.tally_run_consumeAll (s := ⟨l, unchanged, l.shared.isSome, []⟩)
    (.countAll l.limits now l.limits.sustained.limit ids)
    (fun h hidle => Session.tally_run_countAll h hidle (isTime_exact now)) (Plan.windows ids) h' rfl
  exact ⟨hkept, fun hmem => hmore (Plan.mem_windows.mpr hmem)⟩

/-- Whether a request was admitted that counts against an identifier. -/
def Verdict.admits (i : Identifier) (v : Verdict K) : Bool :=
  v.decision.allowed && decide (i ∈ v.ids)

/-- The instants at which requests that count against an identifier are admitted. -/
def admissions (l : Limiter K σ) (i : Identifier) (steps : List (Step K)) : List K :=
  ((l.verdicts steps).filter (Verdict.admits i)).map Verdict.now

/-- A run keeps the tally of all its admissions. -/
theorem Tally.after {l : Limiter K σ} (h : Tally C tier i since l admitted)
    (hlimits : l.limits = limits) {steps : List (Step K)} (hopen : Step.close ∉ steps)
    (hsince : ∀ t ∈ times steps, since ≤ t) (horder : (times steps).Pairwise (· ≤ ·)) :
    ∃ last, Tally C tier i last (l.after steps) (l.admissions i steps ++ admitted) := by
  induction steps generalizing l since admitted with
  | nil => exact ⟨since, h⟩
  | cons step rest ih =>
    have hopen' : Step.close ∉ rest := fun hmem => hopen (List.mem_cons_of_mem _ hmem)
    cases step with
    | request now ids =>
      rw [times_request] at hsince horder
      have hnow := notAfter_iff_le.mpr (hsince now (List.mem_cons_self ..))
      obtain ⟨hkept, hmore⟩ := h.requestQuota hlimits hnow ids
      have hlimits' := (limits_after l [.request now ids]).trans hlimits
      have hlater : ∀ t ∈ times rest, now ≤ t := fun t ht => List.rel_of_pairwise_cons horder ht
      have horder' := (List.pairwise_cons.mp horder).2
      -- the admission counts for `i` only if `i` was among the identifiers of the request
      by_cases hadmits : (Verdict.mk now ids (l.requestQuota now ids).2.1).admits i = true
      · obtain ⟨hallowed, hmem⟩ := Bool.and_eq_true_iff.mp hadmits
        obtain ⟨last, hlast⟩ :=
          ih (hmore (of_decide_eq_true hmem) hallowed) hlimits' hopen' hlater horder'
        refine ⟨last, hlast.mono ?_⟩
        rw [admissions, verdicts, List.filter_cons_of_pos hadmits]
        exact List.perm_middle.symm.subperm
      · obtain ⟨last, hlast⟩ := ih hkept hlimits' hopen' hlater horder'
        refine ⟨last, ?_⟩
        rw [admissions, verdicts, List.filter_cons_of_neg hadmits]
        exact hlast
    | sweep now =>
      rw [times_sweep] at hsince horder
      have hnow := notAfter_iff_le.mpr (hsince now (List.mem_cons_self ..))
      obtain ⟨own, other, hown, hother, hadmitted⟩ := h
      exact ih (l := (l.sweep now).1) ⟨own, other, hown.sweep hnow, hother.later hnow, hadmitted⟩
        hlimits hopen' (fun t ht => List.rel_of_pairwise_cons horder ht)
        (List.pairwise_cons.mp horder).2
    | close => exact absurd (List.mem_cons_self ..) hopen

omit [IsStrictOrderedRing K] in
/-- A limiter starts with nothing admitted. -/
theorem tally_start {shared : Option σ} (hshared : SharedGrants C tier i since shared []) :
    Tally C tier i since (start limits shared) [] :=
  ⟨[], [], ⟨EventLog.empty, Mirrors.empty _ since, List.nil_subperm, sparse_nil _⟩, hshared,
    List.nil_subperm⟩

omit [IsStrictOrderedRing K] in
/-- What a tally accounts for is bounded by what both stores can have granted. -/
theorem Tally.countUpTo_le {l : Limiter K σ} (h : Tally C tier i since l admitted) (t : K) :
    countUpTo (limits.tier tier).window t admitted ≤ 2 * (limits.tier tier).limit.toNat ∧
      (l.shared = none →
        countUpTo (limits.tier tier).window t admitted ≤ (limits.tier tier).limit.toNat) := by
  obtain ⟨own, other, ⟨L, -, hown⟩, hother, hadmitted⟩ := h
  have hsum : countUpTo (limits.tier tier).window t admitted
      ≤ countUpTo (limits.tier tier).window t own
        + countUpTo (limits.tier tier).window t other := by
    rw [countUpTo, countUpTo, countUpTo, ← List.countP_append]
    exact hadmitted.countP_le _
  -- each store bounds what it has granted, and without a shared store the second share is empty
  have hown_le := hown.sparse t
  cases hshared : l.shared with
  | none =>
    rw [hshared] at hother
    have hnone : countUpTo (limits.tier tier).window t other = 0 := by
      rw [show other = [] from hother]
      rfl
    exact ⟨by omega, fun _ => by omega⟩
  | some store =>
    rw [hshared] at hother
    obtain ⟨_, _, _, _, hgranted⟩ := hother
    have hother_le := hgranted.sparse t
    exact ⟨by omega, nofun⟩

/-- **The quota holds over whole runs.** Take any run of a limiter in the order of time that does not
close it, and any interval of the length of a window. The requests admitted in it for an identifier
are no more than the limit if there is no shared store. With a shared store that keeps a log but may
fail any call, they are no more than twice the limit. -/
theorem admissions_le (limits : Limits) (steps : List (Step K)) (hopen : Step.close ∉ steps)
    (horder : (times steps).Pairwise (· ≤ ·)) (i : Identifier) (tier : Tier) (t : K) :
    countUpTo (limits.tier tier).window t
        ((start limits (none : Option σ)).admissions i steps) ≤ (limits.tier tier).limit.toNat ∧
      ∀ (C : SharedLog (windowOf limits) σ K) (since : K) (store : σ) (L : EventLog K),
        C.Holds since store L → (∀ t ∈ times steps, since ≤ t) →
        countUpTo (limits.tier tier).window t
            ((start limits (some store)).admissions i steps)
          ≤ 2 * (limits.tier tier).limit.toNat := by
  constructor
  · have htimes : Ascending (times steps) :=
      ⟨fun t _ => isTime_exact t, horder.imp notAfter_iff_le.mpr⟩
    obtain ⟨since, hsince⟩ := htimes.exists_since
    have hstart : Tally (.unknown (windowOf limits) σ) tier i since (start limits none) [] :=
      tally_start rfl
    obtain ⟨last, hlast⟩ :=
      hstart.after rfl hopen (fun t ht => notAfter_iff_le.mp (hsince t ht)) horder
    rw [List.append_nil] at hlast
    exact (hlast.countUpTo_le t).2 (shared_after rfl steps)
  · intro C since store L hholds hsince
    have hstart : Tally C tier i since (start limits (some store)) [] :=
      tally_start ⟨since, L, isTime_exact since, hholds, List.nil_subperm, sparse_nil _⟩
    obtain ⟨last, hlast⟩ := hstart.after rfl hopen hsince horder
    rw [List.append_nil] at hlast
    exact (hlast.countUpTo_le t).1

/-- Three requests of one client, a sweep among them. -/
def oneClient : List (Step ℚ) :=
  [.request 0 [.ip "a"], .request 1 [.ip "a"], .sweep 1, .request 2 [.ip "a"]]

/-- A store that is gone for a while, in the middle of a request. -/
def shaky : ScriptedStore ℚ := .start .ok [.ok, .silent, .closed]

/-- One client, by itself and with a shared store that fails some of its calls. -/
theorem admissions_le_oneClient :
    countUpTo 60 (2 : ℚ) ((start ⟨⟨2, 60⟩, ⟨1, 1⟩, .ofMillis 250⟩
        (none : Option (ScriptedStore ℚ))).admissions (.ip "a") oneClient) ≤ 2 ∧
      countUpTo 60 (2 : ℚ) ((start ⟨⟨2, 60⟩, ⟨1, 1⟩, .ofMillis 250⟩
        (some shaky)).admissions (.ip "a") oneClient) ≤ 2 * 2 :=
  have h := admissions_le (σ := ScriptedStore ℚ) ⟨⟨2, 60⟩, ⟨1, 1⟩, .ofMillis 250⟩ oneClient
    (by simp [oneClient]) (by decide +kernel) (.ip "a") .sustained 2
  ⟨h.1, h.2 (ScriptedStore.log _) 0 shaky EventLog.empty
    ⟨⟨rfl, by decide⟩, Mirrors.empty _ 0⟩ (by decide +kernel)⟩

end Limiter

end AdmissionGate
