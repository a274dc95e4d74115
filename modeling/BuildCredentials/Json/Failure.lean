/-!
# Why a JSON text is refused

A failure is a cause and the number of bytes that are left unread at the place it is reported for.
`Failure.message` turns that into the line and column in the text.
-/

set_option autoImplicit false

namespace BuildCredentials.Json

/-- What is wrong with a text. -/
inductive Cause where
  | endInArray
  | endInObject
  | endInString
  | endInValue
  | expectedColon
  | expectedArrayComma
  | expectedObjectComma
  | expectedLiteral
  | expectedValue
  | invalidEscape
  | invalidNumber
  | numberOutOfRange
  | invalidCodePoint
  | controlCharacter
  | keyNotString
  | loneSurrogate
  | trailingComma
  | trailingCharacters
  | unpairedSurrogate
  | tooDeep
  /-- A value of another kind than the one that is asked for. -/
  | wrongType (found expected : String)
  /-- An array that is too short for the fields it stands for. -/
  | wrongLength (found : Nat) (expected : String)
  | missingField (name : String)
  | repeatedField (name : String)
  deriving DecidableEq, Repr

/-- The text of a cause. -/
def Cause.message : Cause → String
  | .endInArray => "EOF while parsing a list"
  | .endInObject => "EOF while parsing an object"
  | .endInString => "EOF while parsing a string"
  | .endInValue => "EOF while parsing a value"
  | .expectedColon => "expected `:`"
  | .expectedArrayComma => "expected `,` or `]`"
  | .expectedObjectComma => "expected `,` or `\x7d`"
  | .expectedLiteral => "expected ident"
  | .expectedValue => "expected value"
  | .invalidEscape => "invalid escape"
  | .invalidNumber => "invalid number"
  | .numberOutOfRange => "number out of range"
  | .invalidCodePoint => "invalid unicode code point"
  | .controlCharacter => "control character (\\u0000-\\u001F) found while parsing a string"
  | .keyNotString => "key must be a string"
  | .loneSurrogate => "lone leading surrogate in hex escape"
  | .trailingComma => "trailing comma"
  | .trailingCharacters => "trailing characters"
  | .unpairedSurrogate => "unexpected end of hex escape"
  | .tooDeep => "recursion limit exceeded"
  | .wrongType found expected => "invalid type: " ++ found ++ ", expected " ++ expected
  | .wrongLength found expected => "invalid length " ++ toString found ++ ", expected " ++ expected
  | .missingField name => "missing field `" ++ name ++ "`"
  | .repeatedField name => "duplicate field `" ++ name ++ "`"

/-- A cause and the bytes that are unread where it is reported. -/
structure Failure where
  cause : Cause
  unread : Nat
  deriving DecidableEq, Repr

/-- A place in a text; lines count from one, and a column counts the bytes since the line began. -/
structure Position where
  line : Nat
  column : Nat
  deriving DecidableEq, Repr

/-- The place after some bytes. -/
def Position.after (bytes : List UInt8) : Position :=
  bytes.foldl (fun p b => if b = 10 then ⟨p.line + 1, 0⟩ else ⟨p.line, p.column + 1⟩) ⟨1, 0⟩

/-- The text of a failure to read `input`. -/
def Failure.message (f : Failure) (input : List UInt8) : String :=
  let p := Position.after (input.take (input.length - f.unread))
  f.cause.message ++ " at line " ++ toString p.line ++ " column " ++ toString p.column

/-- What a reader answers: a value and the bytes that follow it. -/
abbrev Reading (α : Type) := Except Failure (α × List UInt8)

/-- A failure after the bytes read so far. -/
def failHere {α : Type} (cause : Cause) (rest : List UInt8) : Except Failure α := .error ⟨cause, rest.length⟩

/-- A failure at the next byte, which counts as read. -/
def failNext {α : Type} (cause : Cause) (rest : List UInt8) : Except Failure α :=
  .error ⟨cause, rest.length - 1⟩

end BuildCredentials.Json
