import BuildCredentials.Json.Skip

/-!
# The grammar of JSON texts

Which bytes are a JSON value is said here apart from the readers. A string is quoted `Piece`s, and `chars?`
tells which characters these stand for, if each surrogate is half of a pair. `Derives` builds up the bytes of
values, in which surrogates may stand alone. An `ObjectText` is the text of an object by its members; the name
of a member is a text, in any spelling, and its value is any value.
-/

set_option autoImplicit false

namespace BuildCredentials.Json

/-- Spaces, tabs and the ends of lines. -/
def Blanks (s : List UInt8) : Prop := ∀ b ∈ s, b ∈ [(32 : UInt8), 9, 10, 13]

instance (s : List UInt8) : Decidable (Blanks s) :=
  inferInstanceAs (Decidable (∀ b ∈ s, b ∈ [(32 : UInt8), 9, 10, 13]))

/-! ## Strings -/

/-- A hexadecimal digit, as a small or as a capital letter where it is one. -/
structure HexDigit where
  value : Fin 16
  capital : Bool

def HexDigit.byte (d : HexDigit) : UInt8 :=
  let c := Nat.digitChar d.value
  (if d.capital then c.toUpper else c).toNat.toUInt8

/-- The four digits of an escape by number. -/
structure CodeUnit where
  first : HexDigit
  second : HexDigit
  third : HexDigit
  fourth : HexDigit

namespace CodeUnit

def value (u : CodeUnit) : Nat :=
  4096 * u.first.value + 256 * u.second.value + 16 * u.third.value + u.fourth.value

def bytes (u : CodeUnit) : List UInt8 := [u.first.byte, u.second.byte, u.third.byte, u.fourth.byte]

/-- The first half of a pair. -/
def isHigh (u : CodeUnit) : Bool := 0xD800 ≤ u.value && u.value ≤ 0xDBFF

/-- The second half of a pair. -/
def isLow (u : CodeUnit) : Bool := 0xDC00 ≤ u.value && u.value ≤ 0xDFFF

/-- The character of a pair. -/
def pair (high low : CodeUnit) : Char := .ofNat (0x10000 + (high.value - 0xD800) * 0x400 + (low.value - 0xDC00))

end CodeUnit

/-- An escape by one letter. -/
inductive Letter where
  | quote
  | backslash
  | slash
  | backspace
  | formFeed
  | lineFeed
  | carriageReturn
  | tab

/-- The byte behind the backslash. -/
def Letter.byte : Letter → UInt8
  | quote => 34
  | backslash => 92
  | slash => 47
  | backspace => 98
  | formFeed => 102
  | lineFeed => 110
  | carriageReturn => 114
  | tab => 116

/-- The character that an escape stands for. -/
def Letter.char : Letter → Char
  | quote => '"'
  | backslash => '\\'
  | slash => '/'
  | backspace => '\x08'
  | formFeed => '\x0c'
  | lineFeed => '\n'
  | carriageReturn => '\r'
  | tab => '\t'

/-- A character that may stand for itself. -/
def Unescaped (c : Char) : Prop := c ≠ '"' ∧ c ≠ '\\' ∧ 32 ≤ c.toNat

instance (c : Char) : Decidable (Unescaped c) :=
  inferInstanceAs (Decidable (c ≠ '"' ∧ c ≠ '\\' ∧ 32 ≤ c.toNat))

/-- What strings are made of. -/
inductive Piece where
  | plain (c : Char) (unescaped : Unescaped c)
  | letter (l : Letter)
  | number (u : CodeUnit)

namespace Piece

def bytes : Piece → List UInt8
  | plain c _ => String.utf8EncodeChar c
  | letter l => [92, l.byte]
  | number u => 92 :: 117 :: u.bytes

def spell (ps : List Piece) : List UInt8 := ps.flatMap bytes

/-- The characters that pieces stand for; none if a surrogate is not half of a pair. -/
def chars? : List Piece → Option (List Char)
  | [] => some []
  | plain c _ :: ps => (chars? ps).map (c :: ·)
  | letter l :: ps => (chars? ps).map (l.char :: ·)
  | number u :: ps =>
    if u.isLow then none
    else if u.isHigh then
      match ps with
      | number v :: rest => if v.isLow then (chars? rest).map (u.pair v :: ·) else none
      | _ => none
    else (chars? ps).map (Char.ofNat u.value :: ·)

end Piece

/-- A string as it stands in a text. -/
def quoted (ps : List Piece) : List UInt8 := 34 :: (Piece.spell ps ++ [34])

/-- Bytes are a string that stands for a text. -/
def Spells (s : String) (bytes : List UInt8) : Prop :=
  ∃ ps, bytes = quoted ps ∧ Piece.chars? ps = some s.toList

/-! ## Numbers -/

/-- One digit or more. -/
def Digits (s : List UInt8) : Prop := s ≠ [] ∧ ∀ b ∈ s, 48 ≤ b ∧ b ≤ 57

/-- The whole part of a number, without needless zeros. -/
inductive Whole : List UInt8 → Prop
  | zero : Whole [48]
  | digits {s : List UInt8} : Digits s → s.head? ≠ some 48 → Whole s

/-- The part of a number behind its point, if there is one. -/
inductive Fraction : List UInt8 → Prop
  | none : Fraction []
  | digits {s : List UInt8} : Digits s → Fraction (46 :: s)

/-- The exponent of a number, if there is one. -/
inductive Exponent : List UInt8 → Prop
  | none : Exponent []
  | digits {e : UInt8} {sign s : List UInt8} : e ∈ [(101 : UInt8), 69] → sign ∈ [[], [(43 : UInt8)], [45]] →
      Digits s → Exponent (e :: (sign ++ s))

/-- A number of any size. -/
inductive IsNumber : List UInt8 → Prop
  | parts {sign w f e : List UInt8} : sign ∈ [[], [(45 : UInt8)]] → Whole w → Fraction f → Exponent e →
      IsNumber (sign ++ (w ++ (f ++ e)))

/-! ## Values -/

/-- The byte that opens an array or an object. -/
def Frame.opening : Frame → UInt8
  | .array => 91
  | .object => 123

/-- What is derived. -/
inductive Part where
  | value
  /-- A value with blanks around it. -/
  | spaced
  /-- An item of an array or a member of an object. -/
  | element (frame : Frame)
  /-- Elements with commas between them. -/
  | elements (frame : Frame)

/-- The texts of JSON, of any depth. -/
inductive Derives : Part → List UInt8 → Prop
  | null : Derives .value [110, 117, 108, 108]
  | true : Derives .value [116, 114, 117, 101]
  | false : Derives .value [102, 97, 108, 115, 101]
  | number {s : List UInt8} : IsNumber s → Derives .value s
  | string (ps : List Piece) : Derives .value (quoted ps)
  | empty (frame : Frame) {s : List UInt8} : Blanks s → Derives .value (frame.opening :: (s ++ [frame.closing]))
  | nested (frame : Frame) {s : List UInt8} : Derives (.elements frame) s →
      Derives .value (frame.opening :: (s ++ [frame.closing]))
  | spaced {left v right : List UInt8} : Blanks left → Derives .value v → Blanks right →
      Derives .spaced (left ++ (v ++ right))
  | item {s : List UInt8} : Derives .spaced s → Derives (.element .array) s
  | member {left between s : List UInt8} (name : List Piece) : Blanks left → Blanks between →
      Derives .spaced s → Derives (.element .object) (left ++ (quoted name ++ (between ++ 58 :: s)))
  | last {frame : Frame} {s : List UInt8} : Derives (.element frame) s → Derives (.elements frame) s
  | more {frame : Frame} {s t : List UInt8} : Derives (.element frame) s → Derives (.elements frame) t →
      Derives (.elements frame) (s ++ 44 :: t)

/-! ## Objects by their members -/

/-- A member of an object: its name, and how name and value are written. -/
structure Member where
  name : String
  spelling : List UInt8
  value : List UInt8
  /-- The blanks before the name, before the colon, before the value and behind it. -/
  left : List UInt8
  between : List UInt8
  before : List UInt8
  right : List UInt8
  spells : Spells name spelling
  derives : Derives .value value
  blanks : Blanks left ∧ Blanks between ∧ Blanks before ∧ Blanks right

def Member.bytes (m : Member) : List UInt8 :=
  m.left ++ (m.spelling ++ (m.between ++ 58 :: (m.before ++ (m.value ++ m.right))))

/-- The text of an object. -/
structure ObjectText where
  members : List Member
  /-- The blanks before the object, before its end and behind it. -/
  left : List UInt8
  inner : List UInt8
  right : List UInt8
  blanks : Blanks left ∧ Blanks inner ∧ Blanks right

namespace ObjectText

def bytes (o : ObjectText) : List UInt8 :=
  o.left ++ 123 :: ([44].intercalate (o.members.map Member.bytes) ++ (o.inner ++ 125 :: o.right))

/-- The names of the members, in the order of the text. -/
def names (o : ObjectText) : List String := o.members.map Member.name

end ObjectText

end BuildCredentials.Json
