import AdmissionGate.Data.Table
import AdmissionGate.Decimal.Natural
import AdmissionGate.Settings.Basic
import AdmissionGate.Settings.VariableFile

/-!
Variables of an environment, and how their texts are read. A variable whose value is no text counts
as not set. A file of variables adds those that are not set yet.
-/

namespace AdmissionGate

abbrev Environment := Table String String

namespace Environment

def ofBytes (values : List (String × Text.Bytes)) : Environment :=
  values.foldl
    (fun env (name, value) =>
      match Text.decode? value with
      | some text => env.put name text
      | none => env)
    Table.empty

/-! ## Files of variables -/

/-- Sets a variable unless it is set. -/
def putNew (env : Environment) (name value : String) : Environment :=
  match env.get? name with
  | some _ => env
  | none => env.put name value

/-- The environment with the variables of lines that it does not have yet, up to the first line that
is malformed or open. A line may name the variables that are set when its turn comes. -/
def withLines (env : Environment) : List (Option (List Char)) → Environment
  | [] => env
  | none :: _ => env
  | some cs :: rest =>
    match VariableFile.readLine (fun n => ((env.get? (String.ofList n)).getD "").toList) cs with
    | .nothing => env.withLines rest
    | .entry name value => (env.putNew name value).withLines rest
    | .malformed => env

/-- The environment with the variables of a file that it does not have yet. -/
def withFile (env : Environment) (file : Text.Bytes) : Environment :=
  env.withLines (VariableFile.lines file)

end Environment

/-- Why settings cannot be had from an environment. -/
inductive SettingsError where
  | number (name : String) (error : Decimal.NaturalError)
  | flag (name value : String)
  | format (name value : String)
  | notPositive (name : String)
  | burstTooLong (burst sustained : UInt64)
  deriving DecidableEq, Repr

/-- What is said of a text that names no format. -/
def LogFormat.expectation (value : String) : String :=
  "expected 'pretty' or 'json', got '" ++ value ++ "'"

def SettingsError.message : SettingsError → String
  | .number name error => "Invalid " ++ name ++ ": " ++ error.message
  | .flag name value => "Invalid " ++ name ++ ": '" ++ value ++ "'"
  | .format name value => "Invalid " ++ name ++ ": " ++ LogFormat.expectation value
  | .notPositive name => name ++ " must be greater than 0"
  | .burstTooLong burst sustained =>
    "RATE_LIMIT_BURST_PERIOD_SECS (" ++ toString burst.toNat
      ++ ") must be <= RATE_LIMIT_PERIOD_SECS (" ++ toString sustained.toNat ++ ")"

/-- The format that a text names; otherwise the text as it was compared. -/
def LogFormat.read (s : String) : Except String LogFormat :=
  let word := Text.lowerAscii (Text.trim s)
  if word = "pretty" ∨ word = "text" then .ok .pretty
  else if word = "json" then .ok .json
  else .error word

/-- The truth value that a text names. -/
def readFlag? (s : String) : Option Bool :=
  let word := Text.lowerAscii (Text.trim s)
  if ["true", "1", "yes", "on"].contains word then some true
  else if ["false", "0", "no", "off"].contains word then some false
  else none

namespace Environment

/-- The text of a variable, or a default. -/
def text (env : Environment) (name default : String) : String :=
  (env.get? name).getD default

/-- The number that a variable spells, or a default. -/
def natural (env : Environment) (name : String) (max default : Nat) : Except SettingsError Nat :=
  match env.get? name with
  | none => .ok default
  | some value => (Decimal.read max (Text.trim value)).mapError (.number name)

/-- The word that a variable spells, or a default. -/
def word (env : Environment) (name : String) (default : UInt64) : Except SettingsError UInt64 :=
  (env.natural name Decimal.max64 default.toNat).map UInt64.ofNat

/-- The port that a variable spells, or a default. -/
def port (env : Environment) (name : String) (default : UInt16) : Except SettingsError UInt16 :=
  (env.natural name Decimal.max16 default.toNat).map UInt16.ofNat

/-- The truth value that a variable names, or a default. -/
def flag (env : Environment) (name : String) (default : Bool) : Except SettingsError Bool :=
  match env.get? name with
  | none => .ok default
  | some value => (readFlag? value).elim (.error (.flag name value)) .ok

/-- The format that a variable names, or a default. -/
def format (env : Environment) (name : String) (default : LogFormat) :
    Except SettingsError LogFormat :=
  match env.get? name with
  | none => .ok default
  | some value => (LogFormat.read value).mapError (.format name)

/-- The items of a list with commas between them, without the blanks around them. -/
def items (value : String) : List String :=
  (Text.pieces ',' value).map Text.trim

/-- The paths that a variable lists, or a default; what does not begin with a slash is left out. -/
def paths (env : Environment) (name : String) (default : List String) : List String :=
  match env.get? name with
  | none => default
  | some value => (items value).filter fun p => p.toList.head? == some '/'

/-- The origins that a variable lists, or all of them. -/
def origins (env : Environment) (name : String) : List String :=
  (items (env.text name "*")).filter (!·.isEmpty)

end Environment

end AdmissionGate
