import AdmissionGate.Shared.Store

/-!
A shared store that follows a script: each call takes the next behaviour of the script, or the
standing one once the script is at its end. Calls that are to succeed are answered from windows of
the store's own.
-/

namespace AdmissionGate

/-- How a scripted store meets a call. -/
inductive Behaviour (τ : Type) where
  /-- Answered from the store's own windows. -/
  | ok
  /-- Never answered. -/
  | silent
  /-- Refused because the store is closed. -/
  | closed
  /-- Refused with a text. -/
  | unavailable (text : String)
  /-- Answered as given. -/
  | given (outcome : WindowOutcome τ)
  deriving DecidableEq, Repr

structure ScriptedStore (τ : Type) where
  standing : Behaviour τ
  script : List (Behaviour τ)
  windows : WindowStore τ

namespace ScriptedStore

variable {τ : Type} [Instant τ]

def start (standing : Behaviour τ) (script : List (Behaviour τ)) : ScriptedStore τ :=
  ⟨standing, script, WindowStore.empty⟩

/-- The behaviour towards the next call, and the store after it is used up. -/
def next (s : ScriptedStore τ) : Behaviour τ × ScriptedStore τ :=
  match s.script with
  | [] => (s.standing, s)
  | b :: rest => (b, { s with script := rest })

/-- A call that the store's own windows, or a given outcome, can answer. -/
def call {α : Type} (s : ScriptedStore τ) (own : WindowStore τ → WindowStore τ × α)
    (given : WindowOutcome τ → α) : ScriptedStore τ × Reply α :=
  let (b, s) := s.next
  match b with
  | .ok =>
    let (windows, a) := own s.windows
    ({ s with windows }, .answer a)
  | .silent => (s, .silence)
  | .closed => (s, .fault .closed)
  | .unavailable text => (s, .fault (.unavailable text))
  | .given outcome => (s, .answer (given outcome))

/-- Puts another standing behaviour and another script in the place of the present ones. -/
def follow (s : ScriptedStore τ) (standing : Behaviour τ) (script : List (Behaviour τ)) :
    ScriptedStore τ :=
  { s with standing, script }

instance : SharedStore (ScriptedStore τ) τ where
  backend _ := "scripted"
  consume s key limit window now :=
    s.call (fun w => w.consume key limit window now) id
  count s key window now :=
    s.call (fun w => w.current key window now) (·.count)
  isAvailable s :=
    match s.standing with
    | .ok => true
    | .silent => true
    | _ => false
  close s := s.follow .closed []

end ScriptedStore

end AdmissionGate
