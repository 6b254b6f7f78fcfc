import AdmissionGate.Proofs.Quota.Run
import AdmissionGate.Proofs.Time.Exact
import AdmissionGate.Shared.Scripted

/-!
# Clients are isolated

Clients share one store of windows, but a call only ever looks at the bucket of its own key. So what a
request is told depends on the windows of its own identifiers, whoever else is asking.

* `AgreeOn keys`: two stores have the same buckets for `keys`. Calls for these keys are answered alike
  by both (`Plan.run_agreeOn`), calls for others leave them as they are (`Plan.agreeOn_run`), and a
  sweep goes through all buckets one by one.
* `verdicts_isolated`: the verdicts on the requests of some identifiers are those of the run in which
  nobody else asked for anything. Nothing is assumed of the clock, which may go back or not even be a
  number.
-/

namespace AdmissionGate

variable {τ : Type} [Instant τ]

/-! ## Stores that agree on some keys -/

/-- Two stores have the same buckets for some keys. -/
def AgreeOn (keys : Set String) (s s' : WindowStore τ) : Prop :=
  ∀ key ∈ keys, s.buckets.get? key = s'.buckets.get? key

namespace AgreeOn

variable {keys : Set String} {s s' s'' : WindowStore τ} {key : String}

omit [Instant τ] in
theorem refl (s : WindowStore τ) : AgreeOn keys s s := fun _ _ => rfl

omit [Instant τ] in
theorem trans (h : AgreeOn keys s s') (h' : AgreeOn keys s' s'') : AgreeOn keys s s'' :=
  fun key hkey => (h key hkey).trans (h' key hkey)

omit [Instant τ] in
/-- Stores that agree hold the same events. -/
theorem held (h : AgreeOn keys s s') (hkey : key ∈ keys) : s.held key = s'.held key := by
  rw [WindowStore.held, WindowStore.held, h key hkey]

omit [Instant τ] in
/-- The same bucket can be put into both. -/
theorem put (h : AgreeOn keys s s') (key : String) (b : Bucket τ) :
    AgreeOn keys ⟨s.buckets.put key b⟩ ⟨s'.buckets.put key b⟩ := by
  intro key' hkey'
  simp only [Table.get?_put, h key' hkey']

omit [Instant τ] in
/-- A bucket of another key makes no difference. -/
theorem put_other (s : WindowStore τ) (hkey : key ∉ keys) (b : Bucket τ) :
    AgreeOn keys ⟨s.buckets.put key b⟩ s := by
  intro key' hkey'
  have hne : key ≠ key' := fun heq => hkey (heq ▸ hkey')
  simp only [Table.get?_put, if_neg hne]

/-- A call for one of the keys is answered alike by both stores, which agree after it. -/
theorem consume (h : AgreeOn keys s s') (hkey : key ∈ keys) (limit window : UInt64) (now : τ) :
    (s.consume key limit window now).2 = (s'.consume key limit window now).2 ∧
      AgreeOn keys (s.consume key limit window now).1 (s'.consume key limit window now).1 := by
  have hbucket : s.bucket key window = s'.bucket key window := by
    rw [WindowStore.bucket, WindowStore.bucket, h key hkey]
  simp only [WindowStore.consume, hbucket]
  split
  · exact ⟨rfl, h.put key _⟩
  · exact ⟨rfl, h.put key _⟩

/-- A call for another key makes no difference. -/
theorem consume_other (s : WindowStore τ) (hkey : key ∉ keys) (limit window : UInt64) (now : τ) :
    AgreeOn keys (s.consume key limit window now).1 s := by
  simp only [WindowStore.consume]
  split <;> exact put_other s hkey _

/-- One of the keys is counted alike in both stores, which agree after it. -/
theorem current (h : AgreeOn keys s s') (hkey : key ∈ keys) (window : UInt64) (now : τ) :
    (s.current key window now).2 = (s'.current key window now).2 ∧
      AgreeOn keys (s.current key window now).1 (s'.current key window now).1 := by
  simp only [WindowStore.current, h key hkey]
  cases s'.buckets.get? key with
  | none => exact ⟨rfl, h⟩
  | some b => exact ⟨rfl, h.put key _⟩

/-- Counting another key makes no difference. -/
theorem current_other (s : WindowStore τ) (hkey : key ∉ keys) (window : UInt64) (now : τ) :
    AgreeOn keys (s.current key window now).1 s := by
  simp only [WindowStore.current]
  cases s.buckets.get? key with
  | none => exact refl s
  | some b => exact put_other s hkey _

/-- Stores that agree do so after a sweep, which goes bucket by bucket. -/
theorem sweep (h : AgreeOn keys s s') (now : τ) : AgreeOn keys (s.sweep now).1 (s'.sweep now).1 := by
  intro key hkey
  simp only [WindowStore.sweep, Table.get?_filterMap, h key hkey]

end AgreeOn

/-! ## Plans -/

namespace Plan

/-- Every call of a plan is for one of some keys. -/
def StaysIn (keys : Set String) : Plan τ → Prop
  | .done _ _ => True
  | .consume key _ next => key ∈ keys ∧ ∀ o, (next o).StaysIn keys
  | .count key _ next => key ∈ keys ∧ ∀ n, (next n).StaysIn keys

variable {keys : Set String}

/-- A request asks for the windows of its own identifiers only. -/
theorem staysIn_ofIdentifiers (limits : Limits) (now : τ) {ids : List Identifier}
    (hids : ∀ i ∈ ids, ∀ tier, windowKey tier i ∈ keys) :
    (ofIdentifiers limits now ids).StaysIn keys :=
  ofIdentifiers_induction (fun _ _ _ => trivial) (fun _ _ _ => trivial)
    (fun i hi tier _ hnext => ⟨hids i hi tier, hnext⟩)
    fun i hi _ hnext => ⟨hids i hi .sustained, hnext⟩

/-- **A plan that stays within the keys** is decided alike by stores that agree. -/
theorem run_agreeOn {s s' : WindowStore τ} (h : AgreeOn keys s s') (now : τ) {plan : Plan τ}
    (hplan : plan.StaysIn keys) :
    (plan.run WindowStore.counter now s).2 = (plan.run WindowStore.counter now s').2 ∧
      AgreeOn keys (plan.run WindowStore.counter now s).1
        (plan.run WindowStore.counter now s').1 := by
  -- the same answers lead on to the same calls
  induction plan generalizing s s' with
  | done decision events => exact ⟨rfl, h⟩
  | consume key limit next ih =>
    obtain ⟨hkey, hnext⟩ := hplan
    obtain ⟨hanswer, hafter⟩ := h.consume hkey limit.limit limit.window now
    rw [run, run, show (WindowStore.counter.consume s' key limit.limit limit.window now).2
      = (WindowStore.counter.consume s key limit.limit limit.window now).2 from hanswer.symm]
    exact ih _ hafter (hnext _)
  | count key window next ih =>
    obtain ⟨hkey, hnext⟩ := hplan
    obtain ⟨hanswer, hafter⟩ := h.current hkey window now
    rw [run, run, show (WindowStore.counter.count s' key window now).2
      = (WindowStore.counter.count s key window now).2 from hanswer.symm]
    exact ih _ hafter (hnext _)

/-- **A plan that stays outside of them** makes no difference. -/
theorem agreeOn_run (s : WindowStore τ) (now : τ) {plan : Plan τ} (hplan : plan.StaysIn keysᶜ) :
    AgreeOn keys (plan.run WindowStore.counter now s).1 s := by
  induction plan generalizing s with
  | done decision events => exact .refl s
  | consume key limit next ih =>
    obtain ⟨hkey, hnext⟩ := hplan
    exact (ih _ _ (hnext _)).trans (.consume_other s hkey _ _ now)
  | count key window next ih =>
    obtain ⟨hkey, hnext⟩ := hplan
    exact (ih _ _ (hnext _)).trans (.current_other s hkey _ now)

end Plan

/-! ## Runs -/

/-- The keys of the windows of some identifiers. -/
def keysOf (ids : Set Identifier) : Set String := {key | ∃ i ∈ ids, ∃ tier, windowKey tier i = key}

/-- Identifiers that are told apart have no window in common. -/
theorem windowKey_notMem_keysOf {I J : Set Identifier} (hdisjoint : Disjoint I J)
    (hplain : ∀ i ∈ I ∪ J, i.HasPlainMethod) {j : Identifier} (hj : j ∈ J) (tier : Tier) :
    windowKey tier j ∉ keysOf I := by
  rintro ⟨i, hi, tier', heq⟩
  obtain ⟨-, rfl⟩ := windowKey_inj (hplain i (.inl hi)) (hplain j (.inr hj)) heq
  exact Set.disjoint_left.mp hdisjoint hi hj

namespace Limiter

variable {σ : Type} [SharedStore σ τ] {l l' : Limiter τ σ}

/-- Whether a step is something else than a request of the other clients. -/
def Step.keeps (mine : List Identifier → Bool) : Step τ → Bool
  | .request _ ids => mine ids
  | _ => true

/-- A request finds in its windows what it would have found without the requests of others. -/
theorem requestQuota_agreeOn {I : Set Identifier} (hshared : l.shared = none)
    (hshared' : l'.shared = none) (hlimits : l.limits = l'.limits)
    (h : AgreeOn (keysOf I) l.fallback l'.fallback) (now : τ) {ids : List Identifier}
    (hids : ∀ i ∈ ids, i ∈ I) :
    (l.requestQuota now ids).2.1 = (l'.requestQuota now ids).2.1 ∧
      AgreeOn (keysOf I) (l.requestQuota now ids).1.fallback (l'.requestQuota now ids).1.fallback := by
  obtain ⟨hdecision, hafter⟩ := requestQuota_alone hshared now ids
  obtain ⟨hdecision', hafter'⟩ := requestQuota_alone hshared' now ids
  have hplan : (Plan.ofIdentifiers l.limits now ids).StaysIn (keysOf I) :=
    Plan.staysIn_ofIdentifiers _ now fun i hi tier => ⟨i, hids i hi, tier, rfl⟩
  rw [hdecision, hdecision', hafter, hafter', ← hlimits]
  exact Plan.run_agreeOn h now hplan

/-- A request of others does not touch the windows. -/
theorem agreeOn_requestQuota {keys : Set String} (hshared : l.shared = none) (now : τ)
    {ids : List Identifier} (hids : ∀ j ∈ ids, ∀ tier, windowKey tier j ∉ keys) :
    AgreeOn keys (l.requestQuota now ids).1.fallback l.fallback := by
  rw [(requestQuota_alone hshared now ids).2]
  exact Plan.agreeOn_run _ now (Plan.staysIn_ofIdentifiers _ now hids)

/-- The verdicts on the requests of `I`, in a run and in the run without the requests of `J`. -/
theorem verdicts_agreeOn {I J : Set Identifier} (hdisjoint : Disjoint I J)
    (hplain : ∀ i ∈ I ∪ J, i.HasPlainMethod) {mine : List Identifier → Bool}
    (hshared : l.shared = none) (hshared' : l'.shared = none) (hlimits : l.limits = l'.limits)
    (h : AgreeOn (keysOf I) l.fallback l'.fallback) {steps : List (Step τ)}
    (hsides : ∀ now ids, Step.request now ids ∈ steps →
      mine ids = true ∧ (∀ i ∈ ids, i ∈ I) ∨ mine ids = false ∧ ∀ j ∈ ids, j ∈ J) :
    (l.verdicts steps).filter (fun v => mine v.ids)
      = l'.verdicts (steps.filter (Step.keeps mine)) := by
  induction steps generalizing l l' with
  | nil => rfl
  | cons step rest ih =>
    have hsides' := fun now ids hmem => hsides now ids (List.mem_cons_of_mem _ hmem)
    cases step with
    | request now ids =>
      have hshared₁ := shared_after hshared [.request now ids]
      have hlimits₁ := (limits_after l [.request now ids]).trans hlimits
      rcases hsides now ids (by simp) with ⟨hmine, hids⟩ | ⟨hmine, hids⟩
      · obtain ⟨hdecision, hafter⟩ :=
          requestQuota_agreeOn hshared hshared' hlimits h now hids
        have hlimits₁' := limits_after l' [.request now ids]
        simp only [verdicts, List.filter_cons, Step.keeps, hmine, if_true, hdecision]
        congr 1
        exact ih hshared₁ (shared_after hshared' [.request now ids])
          (hlimits₁.trans hlimits₁'.symm) hafter hsides'
      · -- the run without the others stands still
        have hother : AgreeOn (keysOf I) (l.requestQuota now ids).1.fallback l.fallback :=
          agreeOn_requestQuota hshared now fun j hj tier =>
            windowKey_notMem_keysOf hdisjoint hplain (hids j hj) tier
        simp only [verdicts, List.filter_cons, Step.keeps, hmine, Bool.false_eq_true, if_false]
        exact ih hshared₁ hshared' hlimits₁ (hother.trans h) hsides'
    | sweep now =>
      rw [verdicts, List.filter_cons_of_pos rfl, verdicts]
      exact ih hshared hshared' hlimits (h.sweep now) hsides'
    | close =>
      rw [verdicts, List.filter_cons_of_pos rfl, verdicts]
      exact ih (shared_after hshared [.close]) (shared_after hshared' [.close]) hlimits (.refl _)
        hsides'

/-- **Clients are isolated.** Take two sets of identifiers that have none in common, without colons in
the methods of endpoints, and a run of a limiter without a shared store in which every request is for
identifiers of one of the sets. The requests of the first set are decided as in the same run with the
requests of the second left out, whatever the clock does. -/
theorem verdicts_isolated (limits : Limits) (I J : Set Identifier) (hdisjoint : Disjoint I J)
    (hplain : ∀ i ∈ I ∪ J, i.HasPlainMethod) (mine : List Identifier → Bool) (steps : List (Step τ))
    (hsides : ∀ now ids, Step.request now ids ∈ steps →
      mine ids = true ∧ (∀ i ∈ ids, i ∈ I) ∨ mine ids = false ∧ ∀ j ∈ ids, j ∈ J) :
    ((start limits (none : Option σ)).verdicts steps).filter (fun v => mine v.ids)
      = (start limits (none : Option σ)).verdicts (steps.filter (Step.keeps mine)) :=
  verdicts_agreeOn hdisjoint hplain rfl rfl rfl (.refl _) hsides

/-- A client, and others that do their best to look like it; the clock goes back meanwhile. -/
def lookalikes : List (Step ℚ) :=
  [.request 5 [.ip "a"], .request 5 [.ip "a:", .user "ip:a"], .sweep 6, .request 3 [.ip "a"],
    .request 3 [.endpoint "GET" "/:sustained:ip:a"], .request 4 []]

/-- A client whose identifiers look like those of the others, with a clock that goes back. -/
theorem verdicts_isolated_lookalikes :
    ((start ⟨⟨2, 60⟩, ⟨1, 1⟩, .ofMillis 250⟩ (none : Option (ScriptedStore ℚ))).verdicts
        lookalikes).filter (fun v => v.ids.all (· = .ip "a"))
      = (start ⟨⟨2, 60⟩, ⟨1, 1⟩, .ofMillis 250⟩ (none : Option (ScriptedStore ℚ))).verdicts
        [.request 5 [.ip "a"], .sweep 6, .request 3 [.ip "a"], .request 4 []] :=
  verdicts_isolated _ {.ip "a"} {.ip "a:", .user "ip:a", .endpoint "GET" "/:sustained:ip:a"}
    (by simp) (by simp [Identifier.HasPlainMethod]) (·.all (· = .ip "a")) lookalikes (by
      intro now ids hmem
      simp only [lookalikes, List.mem_cons, Step.request.injEq, reduceCtorEq, List.not_mem_nil,
        or_false, false_or] at hmem
      rcases hmem with ⟨-, rfl⟩ | ⟨-, rfl⟩ | ⟨-, rfl⟩ | ⟨-, rfl⟩ | ⟨-, rfl⟩ <;> simp)

end Limiter

end AdmissionGate
