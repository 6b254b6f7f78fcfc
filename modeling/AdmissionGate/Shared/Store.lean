import AdmissionGate.Shared.Fault
import AdmissionGate.Window.Store

/-!
Counter stores that several processes share. A call is answered, fails, or is not answered at all;
whoever calls has to put up with all three.
-/

namespace AdmissionGate

/-- What comes of a call to a shared store. -/
inductive Reply (α : Type) where
  | answer (a : α)
  | fault (f : StoreFault)
  /-- No answer, however long one waits. -/
  | silence
  deriving DecidableEq, Repr

/-- Stores of sliding windows over instants of `τ` with states in `σ`. Each operation is one step
that nothing comes in between. -/
class SharedStore (σ : Type) (τ : outParam Type) where
  /-- The name of this kind of store. -/
  backend : σ → String
  /-- Records an event if the window holds fewer than `limit`. -/
  consume : σ → (key : String) → (limit window : UInt64) → (now : τ) → σ × Reply (WindowOutcome τ)
  /-- The number of events in a window. -/
  count : σ → (key : String) → (window : UInt64) → (now : τ) → σ × Reply Nat
  /-- Whether the store believes that it can be reached. -/
  isAvailable : σ → Bool
  /-- Gives up the store. -/
  close : σ → σ

/-- Windows in memory, seen as a shared store that never fails. -/
instance {τ : Type} [Instant τ] : SharedStore (WindowStore τ) τ where
  backend _ := WindowStore.backendName
  consume s key limit window now :=
    let (s, o) := s.consume key limit window now
    (s, .answer o)
  count s key window now :=
    let (s, n) := s.current key window now
    (s, .answer n)
  isAvailable _ := true
  close s := s.close

end AdmissionGate
