import BuildCredentials.Bytes.Base64
import BuildCredentials.Bytes.Utf8
import BuildCredentials.Registry.Record
import BuildCredentials.Text.Blank
import Std.Data.ExtTreeMap

/-!
# The credentials of a build

A build supplies a table from registry addresses, kept as they are written, to records. It arrives as JSON,
or as JSON in base64 of any alphabet and padding. An empty text and null stand for no credentials.
-/

set_option autoImplicit false

namespace BuildCredentials.Registry

/-- Records by the address they were declared for. -/
abbrev Auths := Std.ExtTreeMap String Record

/-- Why a table of credentials is refused. -/
inductive ConfigFault where
  | notBase64
  /-- The JSON text is at fault, with the message that says where. -/
  | json (message : String)
  deriving DecidableEq, Repr

/-- The text of a fault. -/
def ConfigFault.message : ConfigFault → String
  | .notBase64 => "value is not valid base64"
  | .json message => "invalid JSON: " ++ message

namespace Auths

/-- The table with the given records; the last record of an address stands. -/
def ofRecords (rows : List (String × Record)) : Auths := Std.ExtTreeMap.ofList rows

/-- The blanks of a text of bytes, form feeds included. -/
def isBlankByte (b : UInt8) : Bool := b = 32 || b = 9 || b = 10 || b = 12 || b = 13

/-- Reads a table from its JSON text; blank text is an empty table. -/
def ofJson (bytes : List UInt8) : Except ConfigFault Auths :=
  if bytes.all isBlankByte then .ok ∅
  else match Json.parseTable Record.shape bytes with
    | .ok rows => .ok (ofRecords (rows.map fun (address, values) => (address, .ofValues values)))
    | .error f => .error (.json (f.message bytes))

/-- Reads a table from the base64 of its JSON text, blanks around it aside. -/
def ofHeader (header : String) : Except ConfigFault Auths :=
  match Text.trimChars header.toList with
  | [] => .ok ∅
  | digits =>
    match Base64.decodeAny? digits with
    | some bytes => ofJson bytes
    | none => .error .notBase64

end Auths

end BuildCredentials.Registry
