import AdmissionGate.Proofs.Quota.Run
import AdmissionGate.Proofs.Shared.Replies

/-!
# Where the calls of a request go

A request begins with the shared store and turns to the windows in memory at the first call that
fails. Which calls it makes depends on the answers, and these may come from both. A way through a plan
(`Plan.Path`) is some calls with their answers and the decision that they lead to, wherever the answers
come from; `Routed` says which of the calls went where.

* `Session.routed_run`: a session goes some way through its plan, and its calls are routed.
* `Plan.Path.calls_eq`, `Plan.Path.denied_iff`: the ways through the plan of a request.
* `Limiter.requestQuota_routed`: both together. The shared store is of any kind, one that keeps a record
  of its calls among them, so the state that it is left in tells which calls it got.
-/

namespace AdmissionGate

variable {τ : Type}

/-! ## Calls one after the other -/

/-- The state after some calls. -/
def Counter.after {S : Type} (C : Counter S τ) (s : S) (calls : List (StoreCall τ)) : S :=
  calls.foldl (fun s c => (C.answer s c).1) s

/-- The state after some calls, whatever came of them. -/
def SharedStore.after {σ : Type} [SharedStore σ τ] (s : σ) (calls : List (StoreCall τ)) : σ :=
  calls.foldl (fun s c => (serve s c).1) s

theorem SharedStore.after_append {σ : Type} [SharedStore σ τ] (s : σ)
    (calls more : List (StoreCall τ)) : after s (calls ++ more) = after (after s calls) more :=
  List.foldl_append

/-- Whether a window says that it has no room. -/
def StoreAnswer.isDenial : StoreAnswer τ → Bool
  | .outcome o => !o.allowed
  | .count _ => false

/-! ## Ways through a plan -/

namespace Plan

/-- A way through a plan: the calls, the answers to them, and the decision that these lead to. -/
inductive Path (now : τ) : Plan τ → List (StoreCall τ) → List (StoreAnswer τ) → Decision → Prop where
  | done (d : Decision) (events : List Event) : Path now (.done d events) [] [] d
  | consume {key : String} {limit : TierLimit} {next : WindowOutcome τ → Plan τ} {o : WindowOutcome τ}
      {calls : List (StoreCall τ)} {answers : List (StoreAnswer τ)} {d : Decision}
      (h : Path now (next o) calls answers d) :
      Path now (.consume key limit next) (.consume key limit.limit limit.window now :: calls)
        (.outcome o :: answers) d
  | count {key : String} {window : UInt64} {next : ℕ → Plan τ} {n : ℕ} {calls : List (StoreCall τ)}
      {answers : List (StoreAnswer τ)} {d : Decision} (h : Path now (next n) calls answers d) :
      Path now (.count key window next) (.count key window now :: calls) (.count n :: answers) d

/-- The calls that ask windows for room. -/
def asks (limits : Limits) (now : τ) (ws : List (Identifier × Tier)) : List (StoreCall τ) :=
  ws.map fun x => .consume (windowKey x.2 x.1) (limits.tier x.2).limit (limits.tier x.2).window now

/-- The calls that count the sustained windows of identifiers. -/
def counts (limits : Limits) (now : τ) (ids : List Identifier) : List (StoreCall τ) :=
  ids.map fun i => .count (windowKey .sustained i) limits.sustained.window now

/-- The calls of a request, if the answers are these: some windows are asked, up to the first that has
no room, and if there is none, the sustained windows are counted. -/
def callsGiven (limits : Limits) (now : τ) (ids : List Identifier) (ws : List (Identifier × Tier))
    (answers : List (StoreAnswer τ)) : List (StoreCall τ) :=
  match answers.findIdx? StoreAnswer.isDenial with
  | some n => (asks limits now ws).take (n + 1)
  | none => asks limits now ws ++ counts limits now ids

variable [Instant τ] {limits : Limits} {now : τ} {ids : List Identifier} {calls : List (StoreCall τ)}
  {answers : List (StoreAnswer τ)} {d : Decision}

/-- Counting goes through all windows, whatever it finds. -/
theorem path_countAll {remaining : UInt64}
    (h : Path now (countAll limits now remaining ids) calls answers d) :
    calls = counts limits now ids ∧ (∀ a ∈ answers, a.isDenial = false) ∧ d.allowed = true := by
  induction ids generalizing remaining calls answers with
  | nil =>
    rw [countAll] at h
    cases h
    exact ⟨rfl, by simp, rfl⟩
  | cons i rest ih =>
    rw [countAll] at h
    cases h with
    | count h =>
      obtain ⟨rfl, hanswers, hallowed⟩ := ih h
      exact ⟨rfl, List.forall_mem_cons.mpr ⟨rfl, hanswers⟩, hallowed⟩

/-- The calls of a request are those that its answers ask for, and only an answer denies it. -/
theorem path_consumeAll {remaining : UInt64} {ws : List (Identifier × Tier)}
    (h : Path now (consumeAll limits now (countAll limits now remaining ids) ws) calls answers d) :
    calls = callsGiven limits now ids ws answers ∧
      (d.allowed = false ↔ ∃ a ∈ answers, a.isDenial = true) := by
  induction ws generalizing calls answers with
  | nil =>
    obtain ⟨rfl, hanswers, hallowed⟩ := path_countAll h
    rw [callsGiven, List.findIdx?_eq_none_iff.mpr hanswers, hallowed]
    refine ⟨rfl, by simp, fun ⟨a, ha, hdenial⟩ => ?_⟩
    rw [hanswers a ha] at hdenial
    cases hdenial
  | cons x rest ih =>
    rw [consumeAll] at h
    cases h with
    | @consume _ _ _ o calls answers _ h =>
      beta_reduce at h
      rw [callsGiven, List.findIdx?_cons]
      cases hallowed : o.allowed with
      | true =>
        have hroom : (StoreAnswer.outcome o).isDenial = false := by simp [StoreAnswer.isDenial, hallowed]
        rw [hallowed, if_pos rfl] at h
        obtain ⟨rfl, hdenied⟩ := ih h
        rw [hroom, if_neg (by decide), hdenied, callsGiven]
        refine ⟨?_, by simp [hroom]⟩
        cases answers.findIdx? StoreAnswer.isDenial <;> rfl
      | false =>
        have hfull : (StoreAnswer.outcome o).isDenial = true := by simp [StoreAnswer.isDenial, hallowed]
        rw [hallowed, if_neg (by decide), denial] at h
        cases h
        rw [hfull, if_pos rfl]
        exact ⟨rfl, fun _ => ⟨_, List.mem_cons_self .., hfull⟩, fun _ => rfl⟩

omit [Instant τ] in
/-- Whatever the answers, a request begins with its first window. -/
theorem exists_callsGiven_cons (limits : Limits) (now : τ) (ids : List Identifier)
    (x : Identifier × Tier) (ws : List (Identifier × Tier)) (answers : List (StoreAnswer τ)) :
    ∃ calls, callsGiven limits now ids (x :: ws) answers
      = .consume (windowKey x.2 x.1) (limits.tier x.2).limit (limits.tier x.2).window now :: calls := by
  unfold callsGiven
  cases answers.findIdx? StoreAnswer.isDenial with
  | some n => exact ⟨_, rfl⟩
  | none => exact ⟨_, rfl⟩

/-- One store answers all the calls of a way through a plan. -/
theorem path_run (now : τ) (w : WindowStore τ) (plan : Plan τ) :
    ∃ calls : List (StoreCall τ),
      Path now plan calls (w.answers (calls.map .call)) (plan.run WindowStore.counter now w).2 ∧
        (plan.run WindowStore.counter now w).1 = WindowStore.counter.after w calls := by
  induction plan generalizing w with
  | done d events => exact ⟨[], .done d events, rfl⟩
  | consume key limit next ih =>
    obtain ⟨calls, hpath, hafter⟩ := ih (w.consume key limit.limit limit.window now).2
      (w.consume key limit.limit limit.window now).1
    exact ⟨_ :: calls, .consume hpath, hafter⟩
  | count key window next ih =>
    obtain ⟨calls, hpath, hafter⟩ := ih (w.current key window now).2 (w.current key window now).1
    exact ⟨_ :: calls, .count hpath, hafter⟩

end Plan

/-! ## Routing -/

open SharedStore

variable [Instant τ] {σ : Type} [SharedStore σ τ]

/-- Calls that go to a shared store, which answers `early` and fails the first of `late`, and from
there on to windows in memory, which are given all of `late`. -/
structure Routed (store : σ) (w : WindowStore τ) (early : List (StoreCall τ))
    (answers : List (StoreAnswer τ)) (late : List (StoreCall τ)) (l : Limiter τ σ) : Prop where
  answered : replies store early = answers.map .answer
  failed : ∀ c ∈ late.head?, ∀ a, (serve (after store early) c).2 ≠ .answer a
  shared : l.shared = some (after store (early ++ late.head?.toList))
  fallback : l.fallback = WindowStore.counter.after w late

namespace Routed

variable {store : σ} {w : WindowStore τ} {l : Limiter τ σ} {c : StoreCall τ}
  {early late : List (StoreCall τ)} {answers : List (StoreAnswer τ)}

/-- One more call that the shared store answers. -/
theorem answer {a : StoreAnswer τ} (ha : (serve store c).2 = .answer a)
    (h : Routed (serve store c).1 w early answers late l) :
    Routed store w (c :: early) (a :: answers) late l where
  answered := by rw [replies, ha, h.answered]; rfl
  failed := h.failed
  shared := h.shared
  fallback := h.fallback

/-- A call that the shared store fails, and what comes after it. -/
theorem fail (hno : ∀ a, (serve store c).2 ≠ .answer a) (hshared : l.shared = some (serve store c).1)
    (hfallback : l.fallback
      = WindowStore.counter.after (WindowStore.counter.answer w c).1 late) :
    Routed store w [] [] (c :: late) l where
  answered := rfl
  failed c' hc' a := by
    obtain rfl : c = c' := Option.some.inj hc'
    exact hno a
  shared := hshared
  fallback := hfallback

end Routed

namespace Limiter

namespace Session

/-- A session that is alone goes some way through its plan with the windows in memory. -/
theorem path_alone {s : Session τ σ} (halone : s.Alone) (now : τ) (plan : Plan τ) :
    ∃ calls : List (StoreCall τ),
      plan.Path now calls (s.limiter.fallback.answers (calls.map .call)) (run now s plan).2 ∧
        (run now s plan).1.limiter.shared = s.limiter.shared ∧
        (run now s plan).1.limiter.fallback
          = WindowStore.counter.after s.limiter.fallback calls := by
  obtain ⟨hdecision, hlimiter⟩ := run_alone halone now plan
  obtain ⟨calls, hpath, hafter⟩ := Plan.path_run now s.limiter.fallback plan
  rw [hdecision, hlimiter]
  exact ⟨calls, hpath, rfl, hafter⟩

/-- A session whose shared store has failed a call goes on with the windows in memory, which are given
that call as well. -/
theorem routed_inMemory {α : Type} {s : Session τ σ} {store : σ} {c : StoreCall τ}
    (hno : ∀ a, (serve store c).2 ≠ .answer a) (huse : s.useShared = false)
    (hs : s.limiter.shared = some (serve store c).1) (own : WindowStore τ → WindowStore τ × α)
    (hown : ∀ w, (own w).1 = (WindowStore.counter.answer w c).1) (now : τ) (plan : Plan τ) :
    ∃ late : List (StoreCall τ),
      Routed store s.limiter.fallback [] [] (c :: late)
          (run now (s.inMemory own).1 plan).1.limiter ∧
        plan.Path now late
          ((WindowStore.counter.answer s.limiter.fallback c).1.answers (late.map .call))
          (run now (s.inMemory own).1 plan).2 := by
  obtain ⟨late, hpath, hshared, hfallback⟩ :=
    path_alone (s := (s.inMemory own).1) (.inl huse) now plan
  have hstart : (s.inMemory own).1.limiter.fallback
      = (WindowStore.counter.answer s.limiter.fallback c).1 := hown _
  rw [hstart] at hpath hfallback
  exact ⟨late, .fail hno (hshared.trans hs) hfallback, hpath⟩

/-- A session that asks its shared store goes some way through its plan, and its calls are routed. -/
theorem routed_run {s : Session τ σ} {store : σ} (hidle : s.meanwhile = unchanged)
    (huse : s.useShared = true) (hs : s.limiter.shared = some store) (now : τ) (plan : Plan τ) :
    ∃ early answers late,
      Routed store s.limiter.fallback early answers late (run now s plan).1.limiter ∧
        plan.Path now (early ++ late)
          (answers ++ s.limiter.fallback.answers (late.map .call)) (run now s plan).2 := by
  -- induction on the plan; from the first call that fails on, the session is alone
  induction plan generalizing s store with
  | done d events => exact ⟨[], [], [], ⟨rfl, nofun, hs, rfl⟩, .done d events⟩
  | consume key limit next ih =>
    rcases (answered_call hidle .consume
      (SharedStore.consume · key limit.limit limit.window now)
      (·.consume key limit.limit limit.window now)).of_shared huse hs with
      ⟨ha, hasked⟩ | ⟨s', hno, hasked, hcall⟩
    · obtain ⟨early, answers, late, hrouted, hpath⟩ :=
        ih _ hasked.idle hasked.useShared hasked.shared
      rw [hasked.fallback] at hrouted hpath
      have ha : (serve store (.consume key limit.limit limit.window now)).2 = .answer (.outcome _) :=
        Reply.map_eq_answer ha
      exact ⟨_ :: early, _ :: answers, late, hrouted.answer ha, .consume hpath⟩
    · obtain ⟨late, hrouted, hpath⟩ := routed_inMemory
        (c := .consume key limit.limit limit.window now) (Reply.map_ne_answer hno)
        hasked.useShared hasked.shared (·.consume key limit.limit limit.window now)
        (fun _ => rfl) now (next _)
      rw [run, hcall, ← hasked.fallback]
      exact ⟨[], [], _ :: late, hrouted, .consume hpath⟩
  | count key window next ih =>
    rcases (answered_call hidle .count (SharedStore.count · key window now)
      (·.current key window now)).of_shared huse hs with ⟨ha, hasked⟩ | ⟨s', hno, hasked, hcall⟩
    · obtain ⟨early, answers, late, hrouted, hpath⟩ :=
        ih _ hasked.idle hasked.useShared hasked.shared
      rw [hasked.fallback] at hrouted hpath
      have ha : (serve store (.count key window now)).2 = .answer (.count _) :=
        Reply.map_eq_answer ha
      exact ⟨_ :: early, _ :: answers, late, hrouted.answer ha, .count hpath⟩
    · obtain ⟨late, hrouted, hpath⟩ := routed_inMemory (c := .count key window now)
        (Reply.map_ne_answer hno) hasked.useShared hasked.shared (·.current key window now)
        (fun _ => rfl) now (next _)
      rw [run, hcall, ← hasked.fallback]
      exact ⟨[], [], _ :: late, hrouted, .count hpath⟩

end Session

variable {l : Limiter τ σ} {store : σ}

/-- The calls of a request are those that its answers ask for, wherever these come from. -/
theorem routed_requestQuota (hshared : l.shared = some store) (now : τ) (ids : List Identifier) :
    ∃ early answers late,
      early ++ late = Plan.callsGiven l.limits now ids (Plan.windows ids)
          (answers ++ l.fallback.answers (late.map .call)) ∧
        Routed store l.fallback early answers late (l.requestQuota now ids).1 ∧
        ((l.requestQuota now ids).2.1.allowed = false ↔
          ∃ a ∈ answers ++ l.fallback.answers (late.map .call), a.isDenial = true) := by
  obtain ⟨early, answers, late, hrouted, hpath⟩ :=
    Session.routed_run (s := ⟨l, unchanged, l.shared.isSome, []⟩) rfl (by rw [hshared]; rfl) hshared
      now (Plan.ofIdentifiers l.limits now ids)
  obtain ⟨hcalls, hdenied⟩ := Plan.path_consumeAll hpath
  exact ⟨early, answers, late, hcalls, hrouted, hdenied⟩

/-- A request for some identifier begins with its burst window, and with the shared store. -/
theorem exists_shared_requestQuota (hshared : l.shared = some store) (now : τ) (i : Identifier)
    (ids : List Identifier) :
    ∃ calls, (l.requestQuota now (i :: ids)).1.shared = some (SharedStore.after store
      (.consume (windowKey .burst i) l.limits.burst.limit l.limits.burst.window now :: calls)) := by
  obtain ⟨early, answers, late, hcalls, hrouted, -⟩ := routed_requestQuota hshared now (i :: ids)
  obtain ⟨calls, hfirst⟩ := Plan.exists_callsGiven_cons l.limits now (i :: ids) (i, .burst)
    ((i, .sustained) :: Plan.windows ids) (answers ++ l.fallback.answers (late.map .call))
  rw [hrouted.shared]
  -- the first call is answered, or it is the one that fails
  cases early with
  | nil =>
    have hlate : late = _ := hcalls.trans hfirst
    rw [hlate]
    exact ⟨[], rfl⟩
  | cons c early =>
    obtain ⟨rfl, -⟩ := List.cons.inj (hcalls.trans hfirst)
    exact ⟨early ++ late.head?.toList, rfl⟩

/-- **Where the calls of a request go.** Take a limiter with a shared store of any kind, whatever comes
of the calls to it, and any request. Some windows are asked for room, the burst window of an
identifier before its sustained one, up to the first that has none; and if there is none without room,
each sustained window is counted once. All of these calls tell the same time. The first of them
go to the shared store, as long as it answers, and so does the first that it fails. That one and all
that follow go to the windows in memory, as they are, and no others do. The request is denied by an
answer that there is no room, and by nothing else. The next request begins with the shared store
again. -/
theorem requestQuota_routed (limits : Limits) (store : σ) (fallback : WindowStore τ)
    (degraded : Bool) (now : τ) (ids : List Identifier) :
    let l : Limiter τ σ := ⟨limits, some store, fallback, degraded⟩
    let windows := ids.flatMap fun i => [(i, Tier.burst), (i, Tier.sustained)]
    let r := l.requestQuota now ids
    ∃ (early : List (StoreCall τ)) (answers : List (StoreAnswer τ)) (late : List (StoreCall τ)),
      let given := answers ++ fallback.answers (late.map .call)
      early ++ late = Plan.callsGiven limits now ids windows given ∧
      Routed store fallback early answers late r.1 ∧
      (r.2.1.allowed = false ↔ ∃ a ∈ given, a.isDenial = true) ∧
      ∀ (now' : τ) (i : Identifier) (ids' : List Identifier), ∃ calls,
        (r.1.requestQuota now' (i :: ids')).1.shared
          = some (SharedStore.after store (early ++ late.head?.toList ++
              .consume (windowKey .burst i) limits.burst.limit limits.burst.window now' :: calls)) := by
  intro l windows r
  obtain ⟨early, answers, late, hcalls, hrouted, hdenied⟩ :=
    routed_requestQuota (l := l) rfl now ids
  refine ⟨early, answers, late, hcalls, hrouted, hdenied, fun now' i ids' => ?_⟩
  have hlimits : r.1.limits = limits := limits_after l [.request now ids]
  obtain ⟨calls, hnext⟩ := exists_shared_requestQuota hrouted.shared now' i ids'
  rw [hlimits, ← SharedStore.after_append] at hnext
  exact ⟨calls, hnext⟩

end Limiter

end AdmissionGate
