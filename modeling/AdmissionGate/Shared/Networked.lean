import AdmissionGate.Decimal.Double
import AdmissionGate.Report.Event
import AdmissionGate.Shared.Store
import AdmissionGate.Shared.Value

/-!
A counter store on a server, reached over a network. Each window is a sorted set of entries whose
scores are instants. An event is recorded by a script, so that the server drops old entries, counts
and records in one step; counting is a transaction. A connection is made at the first call that needs
one. A store believes that its server can be reached if the last call that ended succeeded.

How the server meets a call is an argument of the call, and what is sent to the server is a result.
-/

namespace AdmissionGate

inductive ServerCommand where
  | ping
  /-- Runs the script by the name that the server knows it by. -/
  | runScript (key now cutoff : String) (limit : UInt64) (entry : String) (expiry : UInt64)
  /-- Makes the script known. -/
  | loadScript
  /-- Begins a transaction. -/
  | begin
  /-- Drops the entries up to a score. -/
  | dropThrough (key cutoff : String)
  | countEntries (key : String)
  /-- Ends a transaction. -/
  | commit
  deriving DecidableEq, Repr

namespace ServerCommand

/-- The words of a command, given the name and the text of the script. -/
def words (scriptName scriptText : String) : ServerCommand → List String
  | .ping => ["PING"]
  | .runScript key now cutoff limit entry expiry =>
    ["EVALSHA", scriptName, "1", key, now, cutoff, toString limit.toNat, entry,
      toString expiry.toNat]
  | .loadScript => ["SCRIPT", "LOAD", scriptText]
  | .begin => ["MULTI"]
  | .dropThrough key cutoff => ["ZREMRANGEBYSCORE", key, "-inf", cutoff]
  | .countEntries key => ["ZCARD", key]
  | .commit => ["EXEC"]

end ServerCommand

inductive Contact where
  /-- No connection comes about before the caller gives up. -/
  | absent
  /-- No connection comes about, for a reason. -/
  | refused (reason : String)
  /-- The server takes the commands and does not answer. -/
  | silent
  /-- The server answers the commands that have an answer of their own, one after the other. -/
  | answers (values : List ServerValue)
  deriving Repr

structure NetworkedStore where
  /-- What precedes every key. -/
  keyStart : String
  connected : Bool
  available : Bool
  closed : Bool
  deriving DecidableEq, Repr

/-- What comes of a call: the store after it, the reply to the caller, what was sent to the server, and
what is reported. -/
structure Exchange (α : Type) where
  store : NetworkedStore
  reply : Reply α
  sent : List ServerCommand
  events : List Event

/-- What a call sends in view of the answers to it, and the answer that counts. -/
abbrev Talk := List ServerValue → List ServerCommand × ServerValue

namespace Talk

/-- The next answer; the server has none beyond those it is given. -/
def next (values : List ServerValue) : ServerValue :=
  values.headD (.error "ERR no answer")

def ping : Talk := fun values => ([.ping], next values)

/-- Sends a command that needs the script, and once more after making the script known if the server
does not know it. -/
def withScript (command : ServerCommand) : Talk := fun values =>
  match next values with
  | .error message =>
    if isMissingScript message then ([command, .loadScript, command], next values.tail)
    else ([command], .error message)
  | v => ([command], v)

def transaction (commands : List ServerCommand) : Talk := fun values =>
  (.begin :: commands ++ [.commit], next values)

end Talk

namespace NetworkedStore

/-- A store that has not been connected yet. -/
def fresh (keyStart : String) : NetworkedStore := ⟨keyStart, false, false, false⟩

/-- The name of this kind of store. -/
def backendName : String := "redis"

/-- Whether the store believes that it can be reached. -/
def isAvailable (s : NetworkedStore) : Bool := !s.closed && s.available

/-- The key of a window on the server. -/
def serverKey (s : NetworkedStore) (key : String) : String := s.keyStart ++ key

/-! ## Calls -/

/-- What is reported when a call finds a server. -/
def greeting (s : NetworkedStore) : List Event :=
  if s.connected then [] else [.storeConnected]

def interpret {α : Type} (read : ServerValue → Option α) (v : ServerValue) : Except StoreFault α :=
  match v.error?, read v with
  | some message, _ => .error (.server (describeServerError message))
  | none, some a => .ok a
  | none, none => .error (.server "The answer has an unexpected form")

def call {α : Type} (s : NetworkedStore) (c : Contact) (talk : Talk)
    (read : ServerValue → Option α) : Exchange α :=
  if s.closed then ⟨s, .fault .closed, [], []⟩
  else
    match c with
    | .absent => ⟨s, .silence, [], []⟩
    | .refused reason => ⟨{ s with available := false }, .fault (.server reason), [], []⟩
    | .silent => ⟨{ s with connected := true }, .silence, (talk []).1, s.greeting⟩
    | .answers values =>
      let (sent, v) := talk values
      match interpret read v with
      | .ok a => ⟨{ s with connected := true, available := true }, .answer a, sent, s.greeting⟩
      | .error fault =>
        ⟨{ s with connected := true, available := false }, .fault fault, sent, s.greeting⟩

def ping (s : NetworkedStore) (c : Contact) : Exchange Unit :=
  s.call c .ping fun v => v.text?.map fun _ => ()

/-- The number of decimal places of scores. -/
def scorePlaces : Nat := 6

def score (x : Double) : String := Decimal.fixed scorePlaces x

/-- The outcome that the script tells: whether the event was recorded, the number of entries, and
the score of the oldest. -/
def outcome? : ServerValue → Option (WindowOutcome Double)
  | .list [allowed, count, oldest] => do
    let allowed ← allowed.signed?
    let count ← count.word?
    let oldest ← oldest.text?
    return ⟨allowed == 1, count.toNat, Decimal.readDouble? oldest⟩
  | _ => none

/-- Records an event if the window holds fewer than `limit`. The entry is told from others of the
same instant by `id`, and the window expires a second after its last event has left it. -/
def consume (s : NetworkedStore) (c : Contact) (key : String) (limit window : UInt64) (now : Double)
    (id : String) : Exchange (WindowOutcome Double) :=
  let command : ServerCommand :=
    .runScript (s.serverKey key) (score now) (score (Bucket.cutoff now window)) limit
      (score now ++ "-" ++ id) (window + 1)
  s.call c (.withScript command) outcome?

/-- The number of entries that a transaction tells, after what came of dropping old ones. -/
def entryCount? : ServerValue → Option Nat
  | .list [_, count] => count.word?.map (·.toNat)
  | _ => none

/-- The number of events in a window. -/
def count (s : NetworkedStore) (c : Contact) (key : String) (window : UInt64) (now : Double) :
    Exchange Nat :=
  let key := s.serverKey key
  s.call c (.transaction [.dropThrough key (score (Bucket.cutoff now window)), .countEntries key])
    entryCount?

/-! ## Beginning and end -/

/-- Begins a store and tries its server for a time. That the server cannot be reached is only
reported. -/
def begin (keyStart : String) (timeout : Duration) (c : Contact) : Exchange Unit :=
  let x := (fresh keyStart).ping c
  let event : Event :=
    match x.reply with
    | .answer () => .storeOpened
    | .fault fault => .storeUnreachable fault
    | .silence => .storeOpenTimedOut timeout
  { x with events := x.events ++ [event] }

def close (s : NetworkedStore) : NetworkedStore × List Event :=
  ({ s with connected := false, available := false, closed := true }, [.storeClosed])

/-! ## Inspection -/

/-- A character as it is shown between quotes. -/
def showChar (c : Char) : String :=
  if c == '"' then "\\\""
  else if c == '\\' then "\\\\"
  else if c == '\n' then "\\n"
  else if c == '\r' then "\\r"
  else if c == '\t' then "\\t"
  else if c.toNat = 0 then "\\0"
  else if c.toNat < 0x20 ∨ (0x7F ≤ c.toNat ∧ c.toNat < 0xA0) then
    "\\u\x7b" ++ String.ofList (Nat.toDigits 16 c.toNat) ++ "\x7d"
  else c.toString

def showText (s : String) : String :=
  "\"" ++ String.join (s.toList.map showChar) ++ "\""

/-- A truth value as it is shown. -/
def showBool (b : Bool) : String := if b then "true" else "false"

/-- A store as it is shown for inspection. -/
def describe (s : NetworkedStore) : String :=
  "RedisCounterStore \x7b key_prefix: " ++ showText s.keyStart
    ++ ", available: " ++ showBool s.available ++ ", closed: " ++ showBool s.closed
    ++ ", .. \x7d"

end NetworkedStore

end AdmissionGate
