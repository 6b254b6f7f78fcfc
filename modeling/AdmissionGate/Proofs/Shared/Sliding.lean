import AdmissionGate.Proofs.Shared.Contract

/-!
# Shared stores of sliding windows

A log never forgets, so that a store that drops what has left a window can be told from it once the
clock is set back. What is expected of a shared store here holds for readings of the clock in any
order: a call sees the events that the store still holds inside of its window, may drop those of its
key that lie outside, and adds one at most (`SharedWindows`). A call that fails was either lost on its
way, or was carried out and only its answer was lost. Scripted stores that are given no answers in
advance are of this kind (`ScriptedStore.sliding`).
-/

namespace AdmissionGate

open Instant

namespace EventLog

variable {τ : Type} [Instant τ] {key : String} {window : UInt64} {now : τ} {L L' : EventLog τ}

/-- Of two logs, the second is what a call for a window can leave of the first: the events outside of
this window may be gone, and nothing else is. -/
structure Trims (key : String) (window : UInt64) (now : τ) (L L' : EventLog τ) : Prop where
  sublist : (L' key).Sublist (L key)
  live : L'.live key window now = L.live key window now
  other : ∀ key', key ≠ key' → L' key' = L key'

theorem Trims.refl (key : String) (window : UInt64) (now : τ) (L : EventLog τ) :
    Trims key window now L L := ⟨List.Sublist.refl _, rfl, fun _ _ => rfl⟩

/-- The log without the events of a key that lie outside of a window. -/
def trim (L : EventLog τ) (key : String) (window : UInt64) (now : τ) : EventLog τ :=
  fun key' => if key = key' then L.live key window now else L key'

/-- Trimming a log drops only what has left the window. -/
theorem trims_trim (L : EventLog τ) (key : String) (window : UInt64) (now : τ) :
    Trims key window now L (L.trim key window now) where
  sublist := by
    rw [trim, if_pos rfl]
    exact List.filter_sublist
  live := by
    rw [EventLog.live, trim, if_pos rfl, EventLog.live, List.filter_filter]
    simp only [Bool.and_self]
  other key' hne := if_neg hne

/-- An event stays as long as it is inside of the window that is asked for. -/
theorem Trims.mem (h : Trims key window now L L') {key' : String} {e : τ} (he : e ∈ L key')
    (hlive : key = key' → Bucket.isLive window now e = true) : e ∈ L' key' := by
  by_cases hkey : key = key'
  · subst hkey
    have hmem : e ∈ L.live key window now := List.mem_filter.mpr ⟨he, hlive rfl⟩
    rw [← h.live] at hmem
    exact (List.mem_filter.mp hmem).1
  · rw [h.other key' hkey]
    exact he

omit [Instant τ] in
theorem mem_add_self (L : EventLog τ) (key : String) (now : τ) : now ∈ L.add key now key := by
  rw [add_apply, if_pos rfl]
  exact List.mem_append_right _ (List.mem_singleton_self now)

omit [Instant τ] in
theorem mem_add_of_mem {key' : String} {e : τ} (he : e ∈ L key') : e ∈ L.add key now key' := by
  rw [add_apply]
  split
  · next heq => exact List.mem_append_left _ (heq ▸ he)
  · exact he

end EventLog

/-- A kind of shared stores of sliding windows. `Holds s L` says that a store `s` holds the events
`L`. -/
structure SharedWindows (σ τ : Type) [Instant τ] [SharedStore σ τ] where
  Holds : σ → EventLog τ → Prop
  consume_answer : ∀ {s : σ} {L : EventLog τ} {now : τ} (key : String) (limit window : UInt64)
    {o : WindowOutcome τ}, Holds s L → IsTime now →
    (SharedStore.consume s key limit window now).2 = .answer o →
    o.allowed = decide ((L.live key window now).length < limit.toNat) ∧
      ∃ L', L.Trims key window now L' ∧
        Holds (SharedStore.consume s key limit window now).1
          (if o.allowed then L'.add key now else L')
  consume_failure : ∀ {s : σ} {L : EventLog τ} {now : τ} (key : String) (limit window : UInt64),
    Holds s L → IsTime now → (∀ o, (SharedStore.consume s key limit window now).2 ≠ .answer o) →
    ∃ L', L.Trims key window now L' ∧
      (Holds (SharedStore.consume s key limit window now).1 L' ∨
        (L.live key window now).length < limit.toNat ∧
          Holds (SharedStore.consume s key limit window now).1 (L'.add key now))
  count : ∀ {s : σ} {L : EventLog τ} {now : τ} (key : String) (window : UInt64), Holds s L →
    IsTime now →
    (∃ L', L.Trims key window now L' ∧ Holds (SharedStore.count s key window now).1 L') ∧
      ∀ n, (SharedStore.count s key window now).2 = .answer n →
        n = (L.live key window now).length
  close : ∀ {s : σ} {L : EventLog τ}, Holds s L → ∃ L', Holds (SharedStore.close s) L'

/-- Whatever comes of it, a store that was asked for room holds some events. -/
theorem SharedWindows.holds_consume {σ τ : Type} [Instant τ] [SharedStore σ τ]
    (C : SharedWindows σ τ) {s : σ} {L : EventLog τ} {now : τ} (h : C.Holds s L) (hnow : IsTime now)
    (key : String) (limit window : UInt64) :
    ∃ L', C.Holds (SharedStore.consume s key limit window now).1 L' := by
  by_cases hanswer : ∃ o, (SharedStore.consume s key limit window now).2 = .answer o
  · obtain ⟨o, ho⟩ := hanswer
    obtain ⟨-, L', -, hafter⟩ := C.consume_answer key limit window h hnow ho
    exact ⟨_, hafter⟩
  · obtain ⟨L', -, hafter⟩ :=
      C.consume_failure key limit window h hnow fun o ho => hanswer ⟨o, ho⟩
    rcases hafter with hafter | ⟨-, hafter⟩
    · exact ⟨_, hafter⟩
    · exact ⟨_, hafter⟩

namespace WindowStore

variable {τ : Type} [Instant τ]

/-- Windows in memory that are in order hold the events of a log. -/
structure Keeps (w : WindowStore τ) (L : EventLog τ) : Prop where
  ordered : w.Ordered
  held : ∀ key, (w.held key).Perm (L key)

namespace Keeps

variable {w : WindowStore τ} {L : EventLog τ} {now : τ}

/-- A store that keeps a log finds in a window what is live in the log. -/
theorem live (h : Keeps w L) (key : String) (window : UInt64) (now : τ) :
    (w.live key window now).Perm (L.live key window now) := (h.held key).filter _

variable [LawfulInstant τ]

/-- **Recording an event**: it has room by the log, and the log goes on by trimming and adding. -/
theorem consume (h : Keeps w L) (hnow : IsTime now) (key : String) (limit window : UInt64) :
    (w.consume key limit window now).2.allowed
        = decide ((L.live key window now).length < limit.toNat) ∧
      Keeps (w.consume key limit window now).1
        (if (w.consume key limit window now).2.allowed then (L.trim key window now).add key now
          else L.trim key window now) := by
  have hlive := h.live key window now
  have hallowed : (w.consume key limit window now).2.allowed
      = decide ((L.live key window now).length < limit.toNat) := by
    rw [allowed_eq h.ordered hnow, ← hlive.length_eq]
  refine ⟨hallowed, h.ordered.consume hnow key limit window, fun key' => ?_⟩
  rw [held_consume h.ordered, hallowed, recorded, ← hlive.length_eq]
  by_cases hroom : (w.live key window now).length < limit.toNat
  · rw [if_pos hroom, decide_eq_true hroom, if_pos rfl, EventLog.add_apply]
    split
    · rw [EventLog.trim, if_pos rfl]
      refine (place_perm now _).trans ((hlive.cons now).trans ?_)
      exact (List.perm_append_singleton now _).symm
    · next hne =>
      rw [EventLog.trim, if_neg hne]
      exact h.held key'
  · rw [if_neg hroom, decide_eq_false hroom, if_neg Bool.false_ne_true, EventLog.trim]
    split
    · exact hlive
    · exact h.held key'

/-- **Counting**: the count is that of the log, which goes on by trimming. -/
theorem current (h : Keeps w L) (key : String) (window : UInt64) (now : τ) :
    (w.current key window now).2 = (L.live key window now).length ∧
      Keeps (w.current key window now).1 (L.trim key window now) := by
  have hlive := h.live key window now
  refine ⟨?_, h.ordered.current now key window, fun key' => ?_⟩
  · rw [current_snd h.ordered, hlive.length_eq]
  · rw [held_current h.ordered, EventLog.trim]
    split
    · exact hlive
    · exact h.held key'

end Keeps

end WindowStore

namespace ScriptedStore

/-- Honest scripted stores hold the events of their windows. -/
def sliding {τ : Type} [Instant τ] [LawfulInstant τ] : SharedWindows (ScriptedStore τ) τ where
  Holds s L := s.Honest ∧ s.windows.Keeps L
  consume_answer {s L now} key limit window o h hnow hanswer := by
    obtain ⟨hhonest, hcases⟩ := h.1.call (fun w => w.consume key limit window now) id
    obtain ⟨hallowed, hkeeps⟩ := h.2.consume hnow key limit window
    rcases hcases with ⟨hreply, hwindows⟩ | ⟨hno, -⟩
    · have ho := Reply.answer.inj (hreply.symm.trans hanswer)
      rw [← ho]
      refine ⟨hallowed, _, L.trims_trim key window now, hhonest, ?_⟩
      show (ScriptedStore.call _ _ _).1.windows.Keeps _
      rw [hwindows]
      exact hkeeps
    · exact absurd hanswer (hno o)
  consume_failure {s L now} key limit window h hnow hno := by
    obtain ⟨hhonest, hcases⟩ := h.1.call (fun w => w.consume key limit window now) id
    rcases hcases with ⟨hreply, -⟩ | ⟨-, hwindows⟩
    · exact absurd hreply (hno _)
    · refine ⟨L, .refl key window now L, .inl ⟨hhonest, ?_⟩⟩
      show (ScriptedStore.call _ _ _).1.windows.Keeps _
      rw [hwindows]
      exact h.2
  count {s L now} key window h hnow := by
    obtain ⟨hhonest, hcases⟩ := h.1.call (fun w => w.current key window now) WindowOutcome.count
    obtain ⟨hcount, hkeeps⟩ := h.2.current key window now
    rcases hcases with ⟨hreply, hwindows⟩ | ⟨hno, hwindows⟩
    · refine ⟨⟨_, L.trims_trim key window now, hhonest, ?_⟩, fun n hn => ?_⟩
      · show (ScriptedStore.call _ _ _).1.windows.Keeps _
        rw [hwindows]
        exact hkeeps
      · rw [← hcount]
        exact (Reply.answer.inj (hreply.symm.trans hn)).symm
    · refine ⟨⟨L, .refl key window now L, hhonest, ?_⟩, fun n hn => absurd hn (hno n)⟩
      show (ScriptedStore.call _ _ _).1.windows.Keeps _
      rw [hwindows]
      exact h.2
  close {s L} h := ⟨L, ⟨rfl, nofun⟩, h.2⟩

end ScriptedStore

end AdmissionGate
