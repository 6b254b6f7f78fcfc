import AdmissionGate.Report.Metric

/-!
# Counters

A counter starts from nothing and grows by one with each event that increments it, so its value after
some events is the number of those (`Metrics.counter_ofEvents`). Which events these are is settled by
the written form of the metric, whose first letters tell its name from all others
(`Event.metric?_eq_of_update?`). For the counters of outcomes, of findings and of the calls to the
shared store there is one event each (`Event.update?_eq_outcome`, `Event.update?_eq_finding`,
`Event.update?_eq_fallback`, `Event.update?_eq_duration`).
-/

namespace AdmissionGate

namespace Metrics

/-- The value of a counter; one that was never touched stands at zero. -/
def counter (m : Metrics) (key : String) : Nat := (m.get? key).getD 0

/-- Whether an event makes a counter grow. -/
def counts (key : String) (e : Event) : Bool := decide (e.update? = some (key, .increment))

/-- An update changes its own counter by one, and no other. -/
theorem counter_apply (m : Metrics) (key key' : String) (u : MetricUpdate)
    (hset : ∀ v, (key', u) ≠ (key, .set v)) :
    (m.apply (key', u)).counter key
      = m.counter key + if (key', u) = (key, .increment) then 1 else 0 := by
  cases u with
  | increment =>
    simp only [apply, counter, Table.get?_put]
    by_cases hkey : key' = key
    · simp [hkey]
    · simp [hkey]
  | set v =>
    have hkey : key' ≠ key := fun heq => hset v (by rw [heq])
    simp [apply, counter, Table.get?_put, hkey]

/-- A counter that is not set to a value grows by the events that count for it. -/
theorem counter_foldl (m : Metrics) (key : String) (events : List Event)
    (hset : ∀ e ∈ events, ∀ v, e.update? ≠ some (key, .set v)) :
    ((events.filterMap Event.update?).foldl apply m).counter key
      = m.counter key + events.countP (counts key) := by
  induction events generalizing m with
  | nil => rfl
  | cons e rest ih =>
    have hrest : ∀ e' ∈ rest, ∀ v, e'.update? ≠ some (key, .set v) :=
      fun e' he' => hset e' (List.mem_cons_of_mem _ he')
    have he := hset e (List.mem_cons_self ..)
    rw [List.countP_cons]
    cases hupdate : e.update? with
    | none =>
      rw [List.filterMap_cons_none hupdate, ih m hrest]
      simp [counts, hupdate]
    | some update =>
      obtain ⟨key', u⟩ := update
      rw [hupdate] at he
      rw [List.filterMap_cons_some hupdate, List.foldl_cons, ih _ hrest,
        counter_apply m key key' u fun v heq => he v (congrArg some heq)]
      simp only [counts, hupdate, Option.some.injEq, decide_eq_true_eq]
      omega

/-- From nothing, a counter shows how many events have counted for it. -/
theorem counter_ofEvents {key : String} {events : List Event}
    (hset : ∀ e ∈ events, ∀ v, e.update? ≠ some (key, .set v)) :
    (ofEvents events).counter key = events.countP (counts key) := by
  rw [ofEvents, counter_foldl _ _ _ hset]
  exact Nat.zero_add _

/-- A counter that one event only touches is the number of times that this has happened. -/
theorem counter_eq_count {key : String} {counted : Event}
    (hkey : ∀ {e : Event} {u : MetricUpdate},
      e.update? = some (key, u) ↔ e = counted ∧ u = .increment) (events : List Event) :
    (ofEvents events).counter key = events.count counted := by
  have hset : ∀ e ∈ events, ∀ v, e.update? ≠ some (key, .set v) := by
    intro e _ v h
    cases (hkey.mp h).2
  rw [counter_ofEvents hset, List.count]
  refine List.countP_congr fun e _ => ?_
  rw [counts, decide_eq_true_eq, hkey, beq_iff_eq]
  simp

end Metrics

/-! ## Written forms -/

/-- The key of a metric starts with its name, whatever its labels. -/
theorem take_metricKey {name : String} {n : Nat} (h : n ≤ name.toList.length)
    (labels : List (String × String)) :
    (metricKey name labels).toList.take n = name.toList.take n := by
  unfold metricKey
  split
  · rfl
  · simp only [String.toList_append, List.append_assoc]
    exact List.take_append_of_le_length h

namespace Event

/-- The name of the metric that an event updates. -/
def metric? : Event → Option String
  | .outcomeCounted _ => some "admission_requests_total"
  | .denialCounted .. => some "admission_rate_limited_total"
  | .rejectionCounted _ => some "admission_validation_rejections_total"
  | .findingCounted _ => some "admission_validation_warnings_total"
  | .fallbackCounted _ => some "admission_store_fallbacks_total"
  | .callTimed _ => some "admission_store_duration_seconds"
  | .availabilitySet _ => some "admission_store_available"
  | _ => none

/-- The names of all metrics. -/
def metricNames : List String :=
  ["admission_requests_total", "admission_rate_limited_total",
    "admission_validation_rejections_total", "admission_validation_warnings_total",
    "admission_store_fallbacks_total", "admission_store_duration_seconds",
    "admission_store_available"]

/-- The written form of a metric tells its name: no two names begin with the same 22 letters. -/
theorem metric?_eq_of_update? {e : Event} {name : String} {labels : List (String × String)}
    {u : MetricUpdate} (hname : name ∈ metricNames)
    (h : e.update? = some (metricKey name labels, u)) : e.metric? = some name := by
  have hlength : ∀ n ∈ metricNames, 22 ≤ n.toList.length := by decide
  have hstems : ∀ m ∈ metricNames, ∀ n ∈ metricNames,
      m.toList.take 22 = n.toList.take 22 → m = n := by decide
  have hsame : ∀ n ∈ metricNames, ∀ labels', metricKey n labels' = metricKey name labels →
      n = name := by
    intro n hn labels' heq
    have htake := congrArg (fun key : String => key.toList.take 22) heq
    simp only [take_metricKey (hlength n hn), take_metricKey (hlength name hname)] at htake
    exact hstems n hn name hname htake
  cases e with
  | outcomeCounted | denialCounted | rejectionCounted | findingCounted | fallbackCounted | callTimed =>
    simp only [update?, Option.some.injEq, Prod.mk.injEq] at h
    exact congrArg some (hsame _ (by decide) _ h.1)
  | availabilitySet =>
    simp only [update?, Option.some.injEq, Prod.mk.injEq] at h
    exact congrArg some (hsame _ (by decide) [] h.1)
  | _ => cases h

end Event

/-! ## Counters of events -/

/-- The counter of an outcome. -/
def Outcome.counterKey (o : Outcome) : String :=
  metricKey "admission_requests_total" [("outcome", o.name)]

/-- Every outcome has a counter of its own. -/
theorem Outcome.counterKey_inj {o o' : Outcome} (h : o.counterKey = o'.counterKey) : o = o' := by
  revert h
  cases o <;> cases o' <;> decide

/-- Only the count of an outcome touches the counter of the outcome. -/
theorem Event.update?_eq_outcome {e : Event} {o : Outcome} {u : MetricUpdate} :
    e.update? = some (o.counterKey, u) ↔ e = .outcomeCounted o ∧ u = .increment := by
  constructor
  · intro h
    have hmetric := metric?_eq_of_update? (by decide) h
    cases e with
    | outcomeCounted o' =>
      simp only [Event.update?, Option.some.injEq, Prod.mk.injEq] at h
      exact ⟨by rw [Outcome.counterKey_inj h.1], h.2.symm⟩
    | _ => simp [metric?] at hmetric
  · rintro ⟨rfl, rfl⟩
    rfl

/-- The value of an outcome's counter after some events. -/
def outcomeCount (o : Outcome) (events : List Event) : Nat :=
  (Metrics.ofEvents events).counter o.counterKey

theorem outcomeCount_eq (o : Outcome) (events : List Event) :
    outcomeCount o events = events.count (.outcomeCounted o) :=
  Metrics.counter_eq_count Event.update?_eq_outcome events

/-- The counter of findings, by their category. -/
def Category.counterKey (c : Category) : String :=
  metricKey "admission_validation_warnings_total" [("category", c.label)]

theorem Category.counterKey_inj {c c' : Category} (h : c.counterKey = c'.counterKey) : c = c' := by
  revert h
  cases c <;> cases c' <;> decide

/-- Only the count of a finding touches the counter of its category. -/
theorem Event.update?_eq_finding {e : Event} {c : Category} {u : MetricUpdate} :
    e.update? = some (c.counterKey, u) ↔ e = .findingCounted c ∧ u = .increment := by
  constructor
  · intro h
    have hmetric := metric?_eq_of_update? (by decide) h
    cases e with
    | findingCounted c' =>
      simp only [Event.update?, Option.some.injEq, Prod.mk.injEq] at h
      exact ⟨by rw [Category.counterKey_inj h.1], h.2.symm⟩
    | _ => simp [metric?] at hmetric
  · rintro ⟨rfl, rfl⟩
    rfl

/-! ## Calls to the shared store -/

/-- The counter of failed calls, by the reason. -/
def fallbackKey (reason : String) : String :=
  metricKey "admission_store_fallbacks_total" [("reason", reason)]

/-- The number of calls whose time was taken, by the operation. -/
def durationKey (op : StoreOperation) : String :=
  metricKey "admission_store_duration_seconds" [("op", op.name)]

theorem fallbackKey_inj {reason reason' : String} (h : fallbackKey reason = fallbackKey reason') :
    reason = reason' := by
  have hlist := congrArg String.toList h
  simp [fallbackKey, metricKey] at hlist
  exact String.toList_inj.mp hlist

theorem durationKey_inj {op op' : StoreOperation} (h : durationKey op = durationKey op') :
    op = op' := by
  revert h
  cases op <;> cases op' <;> decide

/-- Only the count of a failed call touches the counter of its reason. -/
theorem Event.update?_eq_fallback {e : Event} {reason : String} {u : MetricUpdate} :
    e.update? = some (fallbackKey reason, u) ↔ e = .fallbackCounted reason ∧ u = .increment := by
  constructor
  · intro h
    have hmetric := metric?_eq_of_update? (by decide) h
    cases e with
    | fallbackCounted reason' =>
      simp only [Event.update?, Option.some.injEq, Prod.mk.injEq] at h
      exact ⟨by rw [fallbackKey_inj h.1], h.2.symm⟩
    | _ => simp [metric?] at hmetric
  · rintro ⟨rfl, rfl⟩
    rfl

/-- Only the time of a call touches the number of samples of its operation. -/
theorem Event.update?_eq_duration {e : Event} {op : StoreOperation} {u : MetricUpdate} :
    e.update? = some (durationKey op, u) ↔ e = .callTimed op ∧ u = .increment := by
  constructor
  · intro h
    have hmetric := metric?_eq_of_update? (by decide) h
    cases e with
    | callTimed op' =>
      simp only [Event.update?, Option.some.injEq, Prod.mk.injEq] at h
      exact ⟨by rw [durationKey_inj h.1], h.2.symm⟩
    | _ => simp [metric?] at hmetric
  · rintro ⟨rfl, rfl⟩
    rfl

end AdmissionGate
