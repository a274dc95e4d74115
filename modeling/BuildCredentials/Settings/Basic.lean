import BuildCredentials.Helper.Environment
import BuildCredentials.Text.Blank
import BuildCredentials.Toml.Value

/-!
# Settings

Nine settings in four sections, each with a value that holds when nothing is said. A setting is read from a
value of a settings file or from a text that a user types; only the latter is checked for sense.
-/

set_option autoImplicit false

namespace BuildCredentials

open Toml (Value)

/-- What can be set. -/
structure Settings where
  verbose : Bool := false
  logFormat : String := "text"
  auditLog : Bool := true
  socketPath : String := Helper.defaultSocket
  /-- The permission bits of the socket. -/
  socketMode : UInt32 := 0o600
  /-- How long a peer may take to send the head of a request. -/
  headerSeconds : UInt64 := 10
  /-- How long the helper waits for the daemon. -/
  dialSeconds : UInt64 := 5
  engine : String := "nerdctl"
  /-- Arguments of the engine before those of a build. -/
  engineArgs : List String := ["build"]
  deriving DecidableEq, Repr

/-- The settings by name. -/
inductive Setting where
  | verbose
  | logFormat
  | auditLog
  | socketPath
  | socketMode
  | headerSeconds
  | dialSeconds
  | engine
  | engineArgs
  deriving DecidableEq, Repr

namespace Setting

/-- All settings in the order in which they are written. -/
def all : List Setting :=
  [verbose, logFormat, auditLog, socketPath, socketMode, headerSeconds, dialSeconds, engine, engineArgs]

/-- The sections in the order in which they are written. -/
def sections : List String := ["general", "credential", "helper", "build"]

/-- The section of a setting. -/
def sectionName : Setting → String
  | verbose | logFormat | auditLog => "general"
  | socketPath | socketMode | headerSeconds => "credential"
  | dialSeconds => "helper"
  | engine | engineArgs => "build"

/-- The name of a setting within its section. -/
def name : Setting → String
  | verbose => "verbose"
  | logFormat => "log_format"
  | auditLog => "audit_log"
  | socketPath => "socket_path"
  | socketMode => "socket_mode"
  | headerSeconds => "header_read_timeout_secs"
  | dialSeconds => "dial_timeout_secs"
  | engine => "engine"
  | engineArgs => "engine_args"

/-- The settings of a section in order. -/
def ofSection (title : String) : List Setting := all.filter (·.sectionName = title)

/-- How many settings come before this one in its section. -/
def place (setting : Setting) : Nat := (ofSection setting.sectionName).idxOf setting

/-- The key of a setting: its section and its name. -/
def key (setting : Setting) : String := setting.sectionName ++ "." ++ setting.name

/-- The setting with this key. -/
def ofKey? (key : String) : Option Setting := all.find? (·.key = key)

/-! ## Values -/

/-- The greatest whole number that a settings file holds. -/
def greatestInteger : Nat := 0x7fffffffffffffff

/-- A number of seconds as a value, if a settings file can hold it. -/
def ofSeconds? (n : UInt64) : Option Value := if n.toNat ≤ greatestInteger then some (.integer n.toNat) else none

/-- The value of a setting. -/
def toValue? (s : Settings) : Setting → Option Value
  | verbose => some (.boolean s.verbose)
  | logFormat => some (.text s.logFormat)
  | auditLog => some (.boolean s.auditLog)
  | socketPath => some (.text s.socketPath)
  | socketMode => some (.integer s.socketMode.toNat)
  | headerSeconds => ofSeconds? s.headerSeconds
  | dialSeconds => ofSeconds? s.dialSeconds
  | engine => some (.text s.engine)
  | engineArgs => some (.array (s.engineArgs.map .text))

/-- A text value. -/
def text? : Value → Option String
  | .text s => some s
  | _ => none

/-- A truth value. -/
def boolean? : Value → Option Bool
  | .boolean b => some b
  | _ => none

/-- A whole number from zero up to below a bound. -/
def natural? (bound : Nat) : Value → Option Nat
  | .integer n => if 0 ≤ n ∧ n < bound then some n.toNat else none
  | _ => none

/-- A list of texts. -/
def texts? : Value → Option (List String)
  | .array items => items.mapM text?
  | _ => none

/-- Gives a setting the value that a settings file has for it. -/
def ofValue? (s : Settings) (v : Value) : Setting → Option Settings
  | verbose => (boolean? v).map fun b => { s with verbose := b }
  | logFormat => (text? v).map fun t => { s with logFormat := t }
  | auditLog => (boolean? v).map fun b => { s with auditLog := b }
  | socketPath => (text? v).map fun t => { s with socketPath := t }
  | socketMode => (natural? UInt32.size v).map fun n => { s with socketMode := UInt32.ofNat n }
  | headerSeconds => (natural? UInt64.size v).map fun n => { s with headerSeconds := UInt64.ofNat n }
  | dialSeconds => (natural? UInt64.size v).map fun n => { s with dialSeconds := UInt64.ofNat n }
  | engine => (text? v).map fun t => { s with engine := t }
  | engineArgs => (texts? v).map fun ts => { s with engineArgs := ts }

/-! ## Texts that a user types -/

/-- What is wrong with a text that a user types for a setting. -/
inductive Refusal where
  | notBoolean
  | notLogFormat
  | notMode
  | notSeconds
  deriving DecidableEq, Repr

/-- The text of a refusal of `typed`. -/
def Refusal.message (typed : String) : Refusal → String
  | notBoolean => "Invalid boolean value: " ++ typed ++ ". Use true/false"
  | notLogFormat => "Invalid log format: " ++ typed ++ ". Use text or json"
  | notMode => "Invalid socket mode: " ++ typed
  | notSeconds => "Invalid number of seconds: " ++ typed

/-- A truth value, in letters of either case. -/
def readBoolean (typed : String) : Except Refusal Bool :=
  let word := typed.toLower
  if word ∈ ["true", "1", "yes"] then .ok true
  else if word ∈ ["false", "0", "no"] then .ok false
  else .error .notBoolean

/-- The format of the log. -/
def readLogFormat (typed : String) : Except Refusal String :=
  if typed ∈ ["text", "json"] then .ok typed else .error .notLogFormat

/-- The number that digits to a base up to ten write, perhaps after a plus. -/
def readDigits? (base : Nat) (cs : List Char) : Option Nat :=
  let digits := match cs with
    | '+' :: rest => rest
    | _ => cs
  let isDigit (c : Char) : Bool := c.isDigit && c.toNat - 48 < base
  if digits ≠ [] ∧ digits.all isDigit then some (digits.foldl (fun n c => base * n + (c.toNat - 48)) 0) else none

/-- Drops the marks of octal numbers, of which there may be several. -/
def dropOctalMarks : List Char → List Char
  | '0' :: 'o' :: rest => dropOctalMarks rest
  | cs => cs

/-- The greatest permission bits. -/
def greatestMode : Nat := 0o777

/-- Permission bits in octal digits. -/
def readMode (typed : String) : Except Refusal UInt32 :=
  match readDigits? 8 (dropOctalMarks typed.toList) with
  | some n => if n ≤ greatestMode then .ok (UInt32.ofNat n) else .error .notMode
  | none => .error .notMode

/-- A number of seconds, which is not zero. -/
def readSeconds (typed : String) : Except Refusal UInt64 :=
  match readDigits? 10 typed.toList with
  | some n => if 0 < n ∧ n < UInt64.size then .ok (UInt64.ofNat n) else .error .notSeconds
  | none => .error .notSeconds

/-- The items of a list with commas between them, without blanks around them; empty ones are left out. -/
def readItems (typed : String) : List String :=
  ((typed.toList.splitOn ',').map fun item => String.ofList (Text.trimChars item)).filter (· ≠ "")

/-- Gives a setting the value that a user types for it. -/
def ofText (s : Settings) (typed : String) : Setting → Except Refusal Settings
  | verbose => (readBoolean typed).map fun b => { s with verbose := b }
  | logFormat => (readLogFormat typed).map fun t => { s with logFormat := t }
  | auditLog => (readBoolean typed).map fun b => { s with auditLog := b }
  | socketPath => .ok { s with socketPath := typed }
  | socketMode => (readMode typed).map fun n => { s with socketMode := n }
  | headerSeconds => (readSeconds typed).map fun n => { s with headerSeconds := n }
  | dialSeconds => (readSeconds typed).map fun n => { s with dialSeconds := n }
  | engine => .ok { s with engine := typed }
  | engineArgs => .ok { s with engineArgs := readItems typed }

end Setting

end BuildCredentials
