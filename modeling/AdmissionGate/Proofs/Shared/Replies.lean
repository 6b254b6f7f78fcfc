import AdmissionGate.Proofs.Window.Log
import AdmissionGate.Shared.Scripted

/-!
# Shared stores, told by their replies

What a shared store is like is told by its replies to any sequence of calls: it fails every call
(`FailsEvery`), with the fault of a closed store (`FailsClosed`), or answers every call from windows
(`AnswersFrom`). A scripted store can be each of them.
-/

namespace AdmissionGate

def Reply.map {α β : Type} (f : α → β) : Reply α → Reply β
  | .answer a => .answer (f a)
  | .fault why => .fault why
  | .silence => .silence

theorem Reply.map_eq_answer {α β : Type} {f : α → β} {r : Reply α} {a : α} (h : r = .answer a) :
    r.map f = .answer (f a) := by
  rw [h, Reply.map]

/-- An answer made by a map that is one-to-one tells what it was made of. -/
theorem Reply.answer_of_map {α β : Type} {f : α → β} (hf : ∀ x y, f x = f y → x = y)
    {r : Reply α} {a : α} (h : r.map f = .answer (f a)) : r = .answer a := by
  cases r with
  | answer b =>
    rw [Reply.map] at h
    rw [hf b a (Reply.answer.inj h)]
  | fault why => cases h
  | silence => cases h

theorem Reply.map_ne_answer {α β : Type} {f : α → β} {r : Reply α} (h : ∀ a, r ≠ .answer a) (b : β) :
    r.map f ≠ .answer b := by
  cases r with
  | answer a => exact absurd rfl (h a)
  | fault why => simp [Reply.map]
  | silence => simp [Reply.map]

namespace SharedStore

variable {σ τ : Type} [SharedStore σ τ]

/-- The store after a call, and what comes of the call. -/
def serve (s : σ) : StoreCall τ → σ × Reply (StoreAnswer τ)
  | .consume key limit window now =>
    ((consume s key limit window now).1, (consume s key limit window now).2.map .outcome)
  | .count key window now => ((count s key window now).1, (count s key window now).2.map .count)

/-- The replies to calls that are made in turn. -/
def replies (s : σ) : List (StoreCall τ) → List (Reply (StoreAnswer τ))
  | [] => []
  | c :: rest => (serve s c).2 :: replies (serve s c).1 rest

/-- Every reply has a property, whatever the calls. -/
def Always (P : Reply (StoreAnswer τ) → Prop) (s : σ) : Prop :=
  ∀ calls : List (StoreCall τ), ∀ r ∈ replies s calls, P r

/-- A store that has an answer for no call, at any time. -/
def FailsEvery (s : σ) : Prop := Always (fun r : Reply (StoreAnswer τ) => ∀ a, r ≠ .answer a) s

/-- Every call is refused since the store is closed. -/
def FailsClosed (s : σ) : Prop := Always (fun r : Reply (StoreAnswer τ) => r = .fault .closed) s

/-- Every call is answered, as by windows in memory. -/
def AnswersFrom [Instant τ] (s : σ) (w : WindowStore τ) : Prop :=
  ∀ calls : List (StoreCall τ), replies s calls = (w.answers (calls.map .call)).map .answer

/-- A property of replies that an invariant of the store guarantees. -/
theorem Always.of_invariant {P : Reply (StoreAnswer τ) → Prop} {I : σ → Prop}
    (hstep : ∀ s, I s → ∀ c, P (serve s c).2 ∧ I (serve s c).1) {s : σ} (h : I s) : Always P s := by
  intro calls
  induction calls generalizing s with
  | nil =>
    intro r hr
    cases hr
  | cons c rest ih =>
    intro r hr
    rcases List.mem_cons.mp hr with rfl | hr
    · exact (hstep s h c).1
    · exact ih (hstep s h c).2 r hr

/-- A store that turns down every call as closed fails on every call. -/
theorem FailsClosed.failsEvery {s : σ} (h : FailsClosed s) : FailsEvery s := by
  intro calls r hr a ha
  have hclosed := h calls r hr
  rw [ha] at hclosed
  cases hclosed

theorem FailsEvery.reply {s : σ} (h : FailsEvery s) (c : StoreCall τ) (a : StoreAnswer τ) :
    (serve s c).2 ≠ .answer a :=
  h [c] _ (List.mem_cons_self ..) a

/-- A store that fails on every call goes on to do so. -/
theorem FailsEvery.serve {s : σ} (h : FailsEvery s) (c : StoreCall τ) :
    FailsEvery (serve s c).1 :=
  fun calls r hr => h (c :: calls) r (List.mem_cons_of_mem _ hr)

/-- Asked to record an event, a store that fails on every call fails, and goes on failing. -/
theorem FailsEvery.consume {s : σ} (h : FailsEvery s) (key : String) (limit window : UInt64)
    (now : τ) :
    (∀ a, (consume s key limit window now).2 ≠ .answer a) ∧
      FailsEvery (SharedStore.consume s key limit window now).1 :=
  ⟨fun _ ha => h.reply (.consume key limit window now) _ (Reply.map_eq_answer ha),
    h.serve (.consume key limit window now)⟩

/-- Asked for a count, it fails as well. -/
theorem FailsEvery.count {s : σ} (h : FailsEvery s) (key : String) (window : UInt64) (now : τ) :
    (∀ a, (count s key window now).2 ≠ .answer a) ∧
      FailsEvery (SharedStore.count s key window now).1 :=
  ⟨fun _ ha => h.reply (.count key window now) _ (Reply.map_eq_answer ha),
    h.serve (.count key window now)⟩

theorem AnswersFrom.reply [Instant τ] {s : σ} {w : WindowStore τ} (h : AnswersFrom s w)
    (c : StoreCall τ) : (serve s c).2 = .answer (WindowStore.counter.answer w c).2 :=
  (List.cons.inj (h [c])).1

/-- A store that answers from a window store goes on to do so, from what the call leaves of it. -/
theorem AnswersFrom.serve [Instant τ] {s : σ} {w : WindowStore τ} (h : AnswersFrom s w)
    (c : StoreCall τ) : AnswersFrom (serve s c).1 (WindowStore.counter.answer w c).1 :=
  fun calls => (List.cons.inj (h (c :: calls))).2

/-- A store that answers from a window store records an event as that would. -/
theorem AnswersFrom.consume [Instant τ] {s : σ} {w : WindowStore τ} (h : AnswersFrom s w)
    (key : String) (limit window : UInt64) (now : τ) :
    (consume s key limit window now).2 = .answer (w.consume key limit window now).2 ∧
      AnswersFrom (SharedStore.consume s key limit window now).1
        (w.consume key limit window now).1 :=
  ⟨Reply.answer_of_map (fun _ _ => StoreAnswer.outcome.inj)
      (h.reply (.consume key limit window now)),
    h.serve (.consume key limit window now)⟩

theorem AnswersFrom.count [Instant τ] {s : σ} {w : WindowStore τ} (h : AnswersFrom s w)
    (key : String) (window : UInt64) (now : τ) :
    (count s key window now).2 = .answer (w.current key window now).2 ∧
      AnswersFrom (SharedStore.count s key window now).1 (w.current key window now).1 :=
  ⟨Reply.answer_of_map (fun _ _ => StoreAnswer.count.inj) (h.reply (.count key window now)),
    h.serve (.count key window now)⟩

end SharedStore

open SharedStore

/-! ## Scripted stores -/

namespace ScriptedStore

variable {τ : Type} [Instant τ]

/-- A call is met with the next behaviour. -/
theorem serve_eq (s : ScriptedStore τ) (c : StoreCall τ) :
    serve s c =
      match s.next.1 with
      | .ok =>
        ({ s.next.2 with windows := (WindowStore.counter.answer s.next.2.windows c).1 },
          .answer (WindowStore.counter.answer s.next.2.windows c).2)
      | .silent => (s.next.2, .silence)
      | .closed => (s.next.2, .fault .closed)
      | .unavailable text => (s.next.2, .fault (.unavailable text))
      | .given o =>
        (s.next.2,
          .answer (match c with | .consume .. => .outcome o | .count .. => .count o.count)) := by
  cases c with
  | consume key limit window now =>
    show ((s.call (fun w => w.consume key limit window now) id).1,
      (s.call (fun w => w.consume key limit window now) id).2.map StoreAnswer.outcome) = _
    rw [call]
    rcases s.next with ⟨b, s'⟩
    cases b <;> rfl
  | count key window now =>
    show ((s.call (fun w => w.current key window now) (·.count)).1,
      (s.call (fun w => w.current key window now) (·.count)).2.map StoreAnswer.count) = _
    rw [call]
    rcases s.next with ⟨b, s'⟩
    cases b <;> rfl

/-- Whether a store that follows such a behaviour does not answer. -/
def fails : Behaviour τ → Bool
  | .ok => false
  | .given _ => false
  | _ => true

/-- A store that has only failures ahead. -/
def Fails (s : ScriptedStore τ) : Prop := fails s.standing = true ∧ ∀ b ∈ s.script, fails b = true

omit [Instant τ] in
/-- A script of failures only fails at the next call, and after it. -/
theorem Fails.next {s : ScriptedStore τ} (h : s.Fails) :
    fails s.next.1 = true ∧ s.next.2.Fails := by
  obtain ⟨standing, script, windows⟩ := s
  cases script with
  | nil => exact ⟨h.1, h⟩
  | cons b rest =>
    exact ⟨h.2 b (List.mem_cons_self ..), h.1, fun b' hb' => h.2 b' (List.mem_cons_of_mem _ hb')⟩

/-- A store with a script of failures fails on every call. -/
theorem Fails.failsEvery {s : ScriptedStore τ} (h : s.Fails) : FailsEvery s := by
  refine Always.of_invariant (I := Fails) (fun s h c => ?_) h
  obtain ⟨hfails, hnext⟩ := h.next
  rw [serve_eq]
  cases hb : s.next.1 with
  | ok =>
    rw [hb] at hfails
    cases hfails
  | silent => exact ⟨nofun, hnext⟩
  | closed => exact ⟨nofun, hnext⟩
  | unavailable text => exact ⟨nofun, hnext⟩
  | given o =>
    rw [hb] at hfails
    cases hfails

/-- Once closed, it turns down every call. -/
theorem failsClosed_close (s : ScriptedStore τ) : FailsClosed (SharedStore.close s) := by
  refine Always.of_invariant (I := fun s => s.standing = .closed ∧ s.script = [])
    (fun s h c => ?_) ⟨rfl, rfl⟩
  have hnext : s.next = (.closed, s) := by
    rw [next, h.2, h.1]
  rw [serve_eq, hnext]
  exact ⟨rfl, h⟩

/-- With nothing in its script, it answers from its windows. -/
theorem answersFrom {s : ScriptedStore τ} (hstanding : s.standing = .ok) (hscript : s.script = []) :
    AnswersFrom s s.windows := by
  intro calls
  induction calls generalizing s with
  | nil => rfl
  | cons c rest ih =>
    have hnext : s.next = (.ok, s) := by
      rw [next, hscript, hstanding]
    have hserve : serve s c = ({ s with windows := (WindowStore.counter.answer s.windows c).1 },
        .answer (WindowStore.counter.answer s.windows c).2) := by
      rw [serve_eq, hnext]
    rw [replies, hserve]
    exact congrArg _ (ih (s := { s with windows := _ }) hstanding hscript)

end ScriptedStore

end AdmissionGate
