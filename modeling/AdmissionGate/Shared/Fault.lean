import AdmissionGate.Time.Duration

/-!
What can go wrong in a call to a counter store.
-/

namespace AdmissionGate

inductive StoreFault where
  /-- The server refused the call or gave an answer that makes no sense. -/
  | server (text : String)
  /-- No answer came in time. -/
  | timeout (after : Duration)
  /-- The store has been closed. -/
  | closed
  /-- The store cannot be reached. -/
  | unavailable (text : String)
  deriving DecidableEq, Repr

namespace StoreFault

def message : StoreFault → String
  | .server text => "redis error: " ++ text
  | .timeout after => "store call timed out after " ++ after.render
  | .closed => "store has been closed"
  | .unavailable text => "store unavailable: " ++ text

/-- The kind of a failure, for counting. -/
def reason : StoreFault → String
  | .timeout _ => "timeout"
  | .closed => "closed"
  | .server _ => "error"
  | .unavailable _ => "error"

end StoreFault

end AdmissionGate
