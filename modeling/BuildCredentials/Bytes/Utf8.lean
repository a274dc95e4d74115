/-!
# UTF-8 text and its faults

`decode?` reads a byte string as text. `fault?` says where and how a byte string stops being UTF-8: after how
many bytes, and whether a faulty sequence stands there or the text ends inside a character. `decodeLossy`
puts the replacement character for each faulty sequence.
-/

set_option autoImplicit false

namespace BuildCredentials.Utf8

/-- What the bytes at one place are. -/
inductive Step where
  /-- A whole character of `width` bytes. -/
  | char (width : Nat)
  /-- A faulty sequence of `width` bytes. -/
  | faulty (width : Nat)
  /-- The first bytes of a character whose rest is missing. -/
  | incomplete
  deriving DecidableEq, Repr

/-- What a lead byte announces: the width of the character and the range of its second byte. -/
structure Lead where
  width : Nat
  low : UInt8
  high : UInt8
  deriving DecidableEq, Repr

/-- The multi-byte characters that a byte can begin; overlong forms and surrogates are ruled out by the range. -/
def lead? (b : UInt8) : Option Lead :=
  if 0xC2 ≤ b ∧ b ≤ 0xDF then some ⟨2, 0x80, 0xBF⟩
  else if b = 0xE0 then some ⟨3, 0xA0, 0xBF⟩
  else if b = 0xED then some ⟨3, 0x80, 0x9F⟩
  else if 0xE1 ≤ b ∧ b ≤ 0xEF then some ⟨3, 0x80, 0xBF⟩
  else if b = 0xF0 then some ⟨4, 0x90, 0xBF⟩
  else if 0xF1 ≤ b ∧ b ≤ 0xF3 then some ⟨4, 0x80, 0xBF⟩
  else if b = 0xF4 then some ⟨4, 0x80, 0x8F⟩
  else none

/-- A byte that continues a character. -/
def isContinuation (b : UInt8) : Bool := 0x80 ≤ b && b ≤ 0xBF

/-- The `missing` further bytes of a character of which `seen` bytes are read. -/
def continuations (seen : Nat) : Nat → List UInt8 → Step
  | 0, _ => .char seen
  | _ + 1, [] => .incomplete
  | missing + 1, b :: rest =>
    if isContinuation b then continuations (seen + 1) missing rest else .faulty seen

/-- The character or fault that begins with `b`. -/
def step (b : UInt8) (rest : List UInt8) : Step :=
  if b < 0x80 then .char 1
  else match lead? b, rest with
    | none, _ => .faulty 1
    | some _, [] => .incomplete
    | some l, c :: more => if l.low ≤ c ∧ c ≤ l.high then continuations 2 (l.width - 2) more else .faulty 1

/-- The first place at which a byte string is not UTF-8. -/
structure Fault where
  /-- Bytes before it. -/
  validBytes : Nat
  /-- Bytes of the faulty sequence; none when the text ends inside a character. -/
  width? : Option Nat
  deriving DecidableEq, Repr

/-- How the fault is reported. -/
def Fault.message (f : Fault) : String :=
  match f.width? with
  | some n => "invalid utf-8 sequence of " ++ toString n ++ " bytes from index " ++ toString f.validBytes
  | none => "incomplete utf-8 byte sequence from index " ++ toString f.validBytes

/-- The first fault of `bytes`, of which `before` bytes went before. -/
def faultFrom (before : Nat) : List UInt8 → Option Fault
  | [] => none
  | b :: rest =>
    match step b rest with
    | .char w => faultFrom (before + w) (rest.drop (w - 1))
    | .faulty w => some ⟨before, some w⟩
    | .incomplete => some ⟨before, none⟩
termination_by bytes => bytes.length
decreasing_by simp only [List.length_drop, List.length_cons]; omega

/-- The first fault of a byte string, if it is not UTF-8. -/
def fault? (bytes : List UInt8) : Option Fault := faultFrom 0 bytes

/-- The text that a byte string encodes. -/
def decode? (bytes : List UInt8) : Option String := String.fromUTF8? ⟨bytes.toArray⟩

/-- The bytes of a text. -/
def encode (s : String) : List UInt8 := s.toUTF8.data.toList

/-- The character of a whole sequence of one to four bytes. -/
def charOfBytes : List UInt8 → Char
  | [a] => Char.ofNat a.toNat
  | [a, b] => Char.ofNat ((a.toNat % 32) * 64 + b.toNat % 64)
  | [a, b, c] => Char.ofNat ((a.toNat % 16) * 4096 + (b.toNat % 64) * 64 + c.toNat % 64)
  | [a, b, c, d] =>
    Char.ofNat ((a.toNat % 8) * 262144 + (b.toNat % 64) * 4096 + (c.toNat % 64) * 64 + d.toNat % 64)
  | _ => '\uFFFD'

/-- Collects the characters in reverse, one replacement character for each faulty sequence. -/
def lossyInto (acc : List Char) : List UInt8 → List Char
  | [] => acc
  | b :: rest =>
    match step b rest with
    | .char w => lossyInto (charOfBytes (b :: rest.take (w - 1)) :: acc) (rest.drop (w - 1))
    | .faulty w => lossyInto ('\uFFFD' :: acc) (rest.drop (w - 1))
    | .incomplete => '\uFFFD' :: acc
termination_by bytes => bytes.length
decreasing_by all_goals simp only [List.length_drop, List.length_cons]; omega

/-- The text of a byte string, with the replacement character for what is not UTF-8. -/
def decodeLossy (bytes : List UInt8) : String := String.ofList (lossyInto [] bytes).reverse

end BuildCredentials.Utf8
