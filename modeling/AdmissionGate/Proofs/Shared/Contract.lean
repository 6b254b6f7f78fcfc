import AdmissionGate.Proofs.Window.Log
import AdmissionGate.Shared.Scripted

/-!
# Shared stores that keep a log

What can be expected of a shared store that is correct but cannot always be reached? Whatever it
answers is what a log of its events says, and a call that fails was either lost on its way, or was
carried out and only its answer was lost (`SharedLog`). A scripted store that is given no answers in
advance is of this kind (`ScriptedStore.log`).
-/

namespace AdmissionGate

open Instant

/-- A kind of shared stores that keep a log of events, where each key is asked for its own window.
`Holds since s L` says that a store `s`, last called at `since`, holds the log `L`. -/
structure SharedLog (window : String → UInt64) (σ τ : Type) [Instant τ] [SharedStore σ τ] where
  Holds : τ → σ → EventLog τ → Prop
  consume_answer : ∀ {since now : τ} {s : σ} {L : EventLog τ} (key : String) (limit : UInt64)
    {o : WindowOutcome τ}, Holds since s L → NotAfter since now →
    (SharedStore.consume s key limit (window key) now).2 = .answer o →
    o.allowed = (L.consume key limit (window key) now).2.allowed ∧
      Holds now (SharedStore.consume s key limit (window key) now).1
        (L.consume key limit (window key) now).1
  consume_failure : ∀ {since now : τ} {s : σ} {L : EventLog τ} (key : String) (limit : UInt64),
    Holds since s L → NotAfter since now →
    (∀ o, (SharedStore.consume s key limit (window key) now).2 ≠ .answer o) →
    Holds now (SharedStore.consume s key limit (window key) now).1 L ∨
      Holds now (SharedStore.consume s key limit (window key) now).1
        (L.consume key limit (window key) now).1
  count : ∀ {since now : τ} {s : σ} {L : EventLog τ} (key : String), Holds since s L →
    NotAfter since now → Holds now (SharedStore.count s key (window key) now).1 L

/-- A store of which nothing is known holds no log. -/
def SharedLog.unknown {τ : Type} [Instant τ] (window : String → UInt64) (σ : Type)
    [SharedStore σ τ] : SharedLog window σ τ where
  Holds _ _ _ := False
  consume_answer _ _ _ h := h.elim
  consume_failure _ _ h := h.elim
  count _ h := h.elim

namespace ScriptedStore

variable {τ : Type} [Instant τ]

/-- A behaviour in which the store does not keep to its windows. -/
def invents : Behaviour τ → Bool
  | .given _ => true
  | _ => false

/-- A store that will not invent an answer. -/
def Honest (s : ScriptedStore τ) : Prop :=
  invents s.standing = false ∧ ∀ b ∈ s.script, invents b = false

omit [Instant τ] in
/-- An honest store stays honest from one call to the next. -/
theorem Honest.next {s : ScriptedStore τ} (h : s.Honest) :
    invents s.next.1 = false ∧ s.next.2.Honest ∧ s.next.2.windows = s.windows := by
  obtain ⟨standing, script, windows⟩ := s
  cases script with
  | nil => exact ⟨h.1, h, rfl⟩
  | cons b rest =>
    exact ⟨h.2 b (List.mem_cons_self ..),
      ⟨h.1, fun b' hb' => h.2 b' (List.mem_cons_of_mem _ hb')⟩, rfl⟩

omit [Instant τ] in
/-- An honest store either answers a call from its windows, or fails and leaves them as they are. -/
theorem Honest.call {α : Type} {s : ScriptedStore τ} (h : s.Honest)
    (own : WindowStore τ → WindowStore τ × α) (given : WindowOutcome τ → α) :
    (s.call own given).1.Honest ∧
      ((s.call own given).2 = .answer (own s.windows).2 ∧
          (s.call own given).1.windows = (own s.windows).1 ∨
        (∀ a, (s.call own given).2 ≠ .answer a) ∧ (s.call own given).1.windows = s.windows) := by
  obtain ⟨hhonest, hnext, hwindows⟩ := h.next
  rw [ScriptedStore.call, ← hwindows]
  generalize s.next = n at hhonest hnext ⊢
  obtain ⟨b, s'⟩ := n
  cases b with
  | ok => exact ⟨hnext, Or.inl ⟨rfl, rfl⟩⟩
  | silent => exact ⟨hnext, Or.inr ⟨nofun, rfl⟩⟩
  | closed => exact ⟨hnext, Or.inr ⟨nofun, rfl⟩⟩
  | unavailable text => exact ⟨hnext, Or.inr ⟨nofun, rfl⟩⟩
  | given o => cases hhonest

/-- Honest scripted stores keep the log that their windows mirror. -/
def log [LawfulInstant τ] (window : String → UInt64) :
    SharedLog window (ScriptedStore τ) τ where
  Holds since s L := s.Honest ∧ Mirrors window since s.windows L
  consume_answer {since now s L} key limit o h hnow hanswer := by
    obtain ⟨hhonest, hcases⟩ := h.1.call (fun w => w.consume key limit (window key) now) id
    obtain ⟨hsame, hmirrors⟩ := h.2.consume hnow key limit
    rcases hcases with ⟨hreply, hwindows⟩ | ⟨hno, -⟩
    · have ho := Reply.answer.inj (hreply.symm.trans hanswer)
      rw [← ho, ← hsame]
      refine ⟨rfl, hhonest, ?_⟩
      show Mirrors window now (ScriptedStore.call _ _ _).1.windows _
      rw [hwindows]
      exact hmirrors
    · exact absurd hanswer (hno o)
  consume_failure {since now s L} key limit h hnow hno := by
    obtain ⟨hhonest, hcases⟩ := h.1.call (fun w => w.consume key limit (window key) now) id
    rcases hcases with ⟨hreply, -⟩ | ⟨-, hwindows⟩
    · exact absurd hreply (hno _)
    · refine Or.inl ⟨hhonest, ?_⟩
      show Mirrors window now (ScriptedStore.call _ _ _).1.windows _
      rw [hwindows]
      exact h.2.later hnow
  count {since now s L} key h hnow := by
    obtain ⟨hhonest, hcases⟩ :=
      h.1.call (fun w => w.current key (window key) now) WindowOutcome.count
    refine ⟨hhonest, ?_⟩
    show Mirrors window now (ScriptedStore.call _ _ _).1.windows _
    rcases hcases with ⟨-, hwindows⟩ | ⟨-, hwindows⟩
    · rw [hwindows]
      exact (h.2.current hnow key).2
    · rw [hwindows]
      exact h.2.later hnow

end ScriptedStore

end AdmissionGate
