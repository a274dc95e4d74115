/-!
# Heads of messages

A message on the wire begins with a line of its own form and header fields, one on a line, up to an empty line.
A line ends with a line feed, perhaps after a carriage return.
-/

set_option autoImplicit false

namespace BuildCredentials.Http

/-- Why the head of a message cannot be read. -/
inductive HeadFault where
  | malformed
  /-- The bytes end before the head does. -/
  | incomplete
  /-- There are too many fields, or a body is announced that is too long to be counted. -/
  | tooLarge
  | targetTooLong
  deriving DecidableEq, Repr

/-- A header field; names are kept in lower case. -/
structure Field where
  name : String
  value : List UInt8
  deriving DecidableEq, Repr

/-- The versions of the protocol. -/
inductive Version where
  | v10
  | v11
  deriving DecidableEq, Repr

/-- The name of a version. -/
def Version.name : Version → String
  | v10 => "HTTP/1.0"
  | v11 => "HTTP/1.1"

/-- The bytes of an ASCII text. -/
def ascii (s : String) : List UInt8 := s.toList.map fun c => UInt8.ofNat c.toNat

/-- The text of ASCII bytes. -/
def text (bytes : List UInt8) : String := String.ofList (bytes.map fun b => Char.ofNat b.toNat)

/-- The version of this name. -/
def Version.ofName? (bytes : List UInt8) : Option Version := [v10, v11].find? fun v => ascii v.name = bytes

/-- A decimal digit. -/
def isDigitByte (b : UInt8) : Bool := 48 ≤ b && b ≤ 57

/-- A byte of a method or of a field's name. -/
def isTokenByte (b : UInt8) : Bool :=
  isDigitByte b || (65 ≤ b && b ≤ 90) || (97 ≤ b && b ≤ 122) || b ∈ ascii "!#$%&'*+-.^_\x60|~"

/-- A byte of a field's value: no control other than a tab. -/
def isValueByte (b : UInt8) : Bool := b = 9 || (32 ≤ b && b ≠ 127)

/-- A blank byte. -/
def isBlankByte (b : UInt8) : Bool := b = 9 || b = 32

/-- Drops blanks at both ends. -/
def trimBytes (bytes : List UInt8) : List UInt8 :=
  ((bytes.dropWhile isBlankByte).reverse.dropWhile isBlankByte).reverse

/-- The bytes in lower case. -/
def lowerBytes (bytes : List UInt8) : List UInt8 := bytes.map fun b => if 65 ≤ b ∧ b ≤ 90 then b + 32 else b

/-- A line without its end, and what follows it. -/
def takeLine? (bytes : List UInt8) : Option (List UInt8 × List UInt8) :=
  match bytes.dropWhile (· ≠ 10) with
  | [] => none
  | _ :: rest =>
    let line := bytes.takeWhile (· ≠ 10)
    some (if line.getLast? = some 13 then line.dropLast else line, rest)

/-- Reads the line of one field. -/
def Field.ofLine? (line : List UInt8) : Option Field :=
  let name := line.takeWhile isTokenByte
  match name, line.dropWhile isTokenByte with
  | _ :: _, b :: value =>
    if b = 58 ∧ value.all isValueByte then some ⟨text (lowerBytes name), trimBytes value⟩ else none
  | _, _ => none

/-- The most fields of a head. -/
def fieldLimit : Nat := 100

/-- Reads fields up to an empty line. -/
def readFields : Nat → List UInt8 → Except HeadFault (List Field × List UInt8)
  | 0, bytes =>
    match takeLine? bytes with
    | some ([], rest) => .ok ([], rest)
    | some _ => .error .tooLarge
    | none => .error .incomplete
  | limit + 1, bytes =>
    match takeLine? bytes with
    | none => .error .incomplete
    | some ([], rest) => .ok ([], rest)
    | some (line, rest) =>
      match Field.ofLine? line with
      | none => .error .malformed
      | some field => (readFields limit rest).map fun (fields, after) => (field :: fields, after)

/-- Drops empty lines in front of a message. -/
def skipEmptyLines : List UInt8 → List UInt8
  | 10 :: rest => skipEmptyLines rest
  | 13 :: 10 :: rest => skipEmptyLines rest
  | bytes => bytes

/-- Reads a head whose first line is read by `first`. -/
def readHead {α : Type} (first : List UInt8 → Option α) (bytes : List UInt8) :
    Except HeadFault (α × List Field × List UInt8) :=
  match takeLine? (skipEmptyLines bytes) with
  | none => .error .incomplete
  | some (line, rest) =>
    match first line with
    | none => .error .malformed
    | some a => (readFields fieldLimit rest).map fun (fields, after) => (a, fields, after)

/-- The values of the fields of a name. -/
def valuesOf (fields : List Field) (name : String) : List (List UInt8) :=
  (fields.filter (·.name = name)).map (·.value)

end BuildCredentials.Http
