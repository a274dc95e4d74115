import BuildCredentials.Decimal.Shortest

/-!
# JSON values and their compact text

Members of an object are kept in the order in which they are written. `Json.sorted` puts them in the order of
their names, which is how records of a log are written; names of one object are then distinct, and the last
of two members of one name stands.
-/

set_option autoImplicit false

namespace BuildCredentials

/-- A JSON value. A number that is not whole is given by the bits of its double. -/
inductive Json where
  | null
  | bool (b : Bool)
  | integer (n : Int)
  | float (bits : UInt64)
  | text (s : String)
  | array (items : List Json)
  | object (members : List (String × Json))
  deriving Repr

namespace Json

/-- Floating-point numbers are written positionally from 1e-5 up to 1e16, and with a signed exponent of two
digits or more beyond. -/
def floatLayout : Decimal.Layout := ⟨-5, 15, 2⟩

/-- The four digits of an escape by number. -/
def fourDigits (n : Nat) : List Char :=
  let digits := Nat.toDigits 16 n
  List.replicate (4 - digits.length) '0' ++ digits

/-- How one character stands inside a JSON string: quotes, backslashes and controls are escaped. -/
def escapeChar (c : Char) : List Char :=
  if c = '"' then ['\\', '"']
  else if c = '\\' then ['\\', '\\']
  else if c.toNat = 8 then ['\\', 'b']
  else if c = '\t' then ['\\', 't']
  else if c = '\n' then ['\\', 'n']
  else if c.toNat = 12 then ['\\', 'f']
  else if c = '\r' then ['\\', 'r']
  else if c.toNat < 32 then ['\\', 'u'] ++ fourDigits c.toNat
  else [c]

/-- The characters of a JSON string, quotes included. -/
def quoteChars (s : String) : List Char := '"' :: (s.toList.flatMap escapeChar ++ ['"'])

mutual

/-- The compact text of a value. -/
def chars : Json → List Char
  | .null => ['n', 'u', 'l', 'l']
  | .bool true => ['t', 'r', 'u', 'e']
  | .bool false => ['f', 'a', 'l', 's', 'e']
  | .integer n => (toString n).toList
  | .float bits => (floatLayout.writeBits bits).toList
  | .text s => quoteChars s
  | .array items => '[' :: (itemChars items ++ [']'])
  | .object members => '\x7b' :: (memberChars members ++ ['\x7d'])

/-- Items with commas between them. -/
def itemChars : List Json → List Char
  | [] => []
  | [v] => v.chars
  | v :: w :: rest => v.chars ++ ',' :: itemChars (w :: rest)

/-- Members with commas between them. -/
def memberChars : List (String × Json) → List Char
  | [] => []
  | [(name, v)] => quoteChars name ++ ':' :: v.chars
  | (name, v) :: m :: rest => quoteChars name ++ ':' :: (v.chars ++ ',' :: memberChars (m :: rest))

end

/-- The compact text of a value. -/
def render (v : Json) : String := String.ofList v.chars

/-- Puts a member into members in the order of their names, in place of one of the same name. -/
def insertMember (name : String) (v : Json) : List (String × Json) → List (String × Json)
  | [] => [(name, v)]
  | (other, w) :: rest =>
    match compare name other with
    | .lt => (name, v) :: (other, w) :: rest
    | .eq => (name, v) :: rest
    | .gt => (other, w) :: insertMember name v rest

mutual

/-- A value with the members of each object in the order of their names. -/
def sorted : Json → Json
  | .array items => .array (sortedItems items)
  | .object members => .object (sortedMembers [] members)
  | v => v

/-- Each item with its members in order. -/
def sortedItems : List Json → List Json
  | [] => []
  | v :: rest => v.sorted :: sortedItems rest

/-- Puts the members that are left into those that are already in order. -/
def sortedMembers (done : List (String × Json)) : List (String × Json) → List (String × Json)
  | [] => done
  | (name, v) :: rest => sortedMembers (insertMember name v.sorted done) rest

end

end Json

end BuildCredentials
