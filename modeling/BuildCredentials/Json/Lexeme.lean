import BuildCredentials.Bytes.Utf8
import BuildCredentials.Json.Failure
import BuildCredentials.Json.Value

/-!
# Blanks, words, strings and numbers of a JSON text

Readers work on the bytes that are left and answer the bytes that follow. Every reader that succeeds leaves
fewer bytes than it was given, except for the blanks.
-/

set_option autoImplicit false

namespace BuildCredentials.Json

/-- The white space of JSON. -/
def isBlank (b : UInt8) : Bool := b = 32 || b = 10 || b = 9 || b = 13

/-- Drops leading white space. -/
def skipBlanks (bytes : List UInt8) : List UInt8 := bytes.dropWhile isBlank

theorem length_skipBlanks (bytes : List UInt8) : (skipBlanks bytes).length ≤ bytes.length :=
  (List.dropWhile_sublist _).length_le

/-- Reads the rest of a word such as null. -/
def readWord : List UInt8 → List UInt8 → Except Failure (List UInt8)
  | [], rest => .ok rest
  | _ :: _, [] => failHere .endInValue []
  | e :: es, b :: rest => if b = e then readWord es rest else failHere .expectedLiteral rest

/-- The bytes of the words after their first letter. -/
def wordNull : List UInt8 := [117, 108, 108]

/-- The bytes of true after its first letter. -/
def wordTrue : List UInt8 := [114, 117, 101]

/-- The bytes of false after its first letter. -/
def wordFalse : List UInt8 := [97, 108, 115, 101]

/-! ## Strings -/

/-- The value of a hexadecimal digit. -/
def hexValue? (b : UInt8) : Option Nat :=
  if 48 ≤ b ∧ b ≤ 57 then some (b.toNat - 48)
  else if 97 ≤ b ∧ b ≤ 102 then some (b.toNat - 87)
  else if 65 ≤ b ∧ b ≤ 70 then some (b.toNat - 55)
  else none

/-- Reads four hexadecimal digits. -/
def readFourHex : List UInt8 → Reading Nat
  | a :: b :: c :: d :: rest =>
    match hexValue? a, hexValue? b, hexValue? c, hexValue? d with
    | some w, some x, some y, some z => .ok (4096 * w + 256 * x + 16 * y + z, rest)
    | _, _, _, _ => failHere .invalidEscape rest
  | _ => failHere .endInString []

/-- The bytes of a code point that is no surrogate. -/
def bytesOfCodePoint (n : Nat) : List UInt8 := String.utf8EncodeChar (Char.ofNat n)

/-- Reads the second half of a surrogate pair whose first half is `high`. -/
def readLowSurrogate (high : Nat) : List UInt8 → Reading (List UInt8)
  | [] => failHere .endInString []
  | [b] => if b = 92 then failHere .endInString [] else failHere .unpairedSurrogate []
  | b :: u :: rest =>
    if b ≠ 92 then failHere .unpairedSurrogate (u :: rest)
    else if u ≠ 117 then failHere .unpairedSurrogate rest
    else match readFourHex rest with
      | .error f => .error f
      | .ok (low, after) =>
        if low < 0xDC00 ∨ 0xDFFF < low then failHere .loneSurrogate after
        else .ok (bytesOfCodePoint (0x10000 + (high - 0xD800) * 1024 + (low - 0xDC00)), after)

/-- Reads an escape by number, after the letter u. -/
def readUnicodeEscape (bytes : List UInt8) : Reading (List UInt8) :=
  match readFourHex bytes with
  | .error f => .error f
  | .ok (n, rest) =>
    if 0xDC00 ≤ n ∧ n ≤ 0xDFFF then failHere .loneSurrogate rest
    else if n < 0xD800 ∨ 0xDBFF < n then .ok (bytesOfCodePoint n, rest)
    else readLowSurrogate n rest

/-- The byte that an escape of one letter stands for. -/
def simpleEscape? (b : UInt8) : Option UInt8 :=
  if b = 34 ∨ b = 92 ∨ b = 47 then some b
  else if b = 98 then some 8
  else if b = 102 then some 12
  else if b = 110 then some 10
  else if b = 114 then some 13
  else if b = 116 then some 9
  else none

/-- Reads what follows a backslash, and answers the bytes it stands for. -/
def readEscape : List UInt8 → Reading (List UInt8)
  | [] => failHere .endInString []
  | b :: rest =>
    match simpleEscape? b with
    | some byte => .ok ([byte], rest)
    | none => if b = 117 then readUnicodeEscape rest else failHere .invalidEscape rest

theorem length_of_readFourHex {s r : List UInt8} {n : Nat} (h : readFourHex s = .ok (n, r)) :
    r.length ≤ s.length := by
  unfold readFourHex at h
  split at h
  · split at h
    · simp only [Except.ok.injEq, Prod.mk.injEq] at h
      simp only [← h.2, List.length_cons]; omega
    · simp [failHere] at h
  · simp [failHere] at h

theorem length_of_readLowSurrogate {n : Nat} {s r t : List UInt8} (h : readLowSurrogate n s = .ok (t, r)) :
    r.length ≤ s.length := by
  unfold readLowSurrogate at h
  split at h
  · simp [failHere] at h
  · split at h <;> simp [failHere] at h
  · split at h
    · simp [failHere] at h
    · split at h
      · simp [failHere] at h
      · split at h
        · simp at h
        · next heq =>
          have := length_of_readFourHex heq
          split at h
          · simp [failHere] at h
          · simp only [Except.ok.injEq, Prod.mk.injEq] at h
            simp only [← h.2, List.length_cons]; omega

theorem length_of_readUnicodeEscape {s r t : List UInt8} (h : readUnicodeEscape s = .ok (t, r)) :
    r.length ≤ s.length := by
  unfold readUnicodeEscape at h
  split at h
  · simp at h
  · next heq =>
    have := length_of_readFourHex heq
    split at h
    · simp [failHere] at h
    · split at h
      · simp only [Except.ok.injEq, Prod.mk.injEq] at h
        simp only [← h.2]; omega
      · have := length_of_readLowSurrogate h; omega

theorem length_of_readEscape {s r t : List UInt8} (h : readEscape s = .ok (t, r)) : r.length ≤ s.length := by
  unfold readEscape at h
  split at h
  · simp [failHere] at h
  · split at h
    · simp only [Except.ok.injEq, Prod.mk.injEq] at h
      simp only [← h.2, List.length_cons]; omega
    · split at h
      · have := length_of_readUnicodeEscape h
        simp only [List.length_cons]; omega
      · simp [failHere] at h

/-- Reads a string after its opening quote; `acc` holds its bytes so far, in reverse. -/
def readStringBytes (acc : List UInt8) : List UInt8 → Reading (List UInt8)
  | [] => failHere .endInString []
  | b :: rest =>
    if b = 34 then .ok (acc.reverse, rest)
    else if b = 92 then
      match h : readEscape rest with
      | .error f => .error f
      | .ok (bytes, after) =>
        have := length_of_readEscape h
        readStringBytes (bytes.reverse ++ acc) after
    else if b < 32 then failHere .controlCharacter rest
    else readStringBytes (b :: acc) rest
termination_by s => s.length

/-- Reads a string after its opening quote. Bytes that are no text are reported at the first of them. -/
def readString (bytes : List UInt8) : Reading String :=
  match readStringBytes [] bytes with
  | .error f => .error f
  | .ok (content, rest) =>
    match Utf8.decode? content with
    | some s => .ok (s, rest)
    | none =>
      let valid := match Utf8.fault? bytes with
        | some fault => fault.validBytes
        | none => 0
      .error ⟨.invalidCodePoint, bytes.length - valid - 1⟩

/-- Passes over an escape without asking what it stands for. -/
def skipEscape : List UInt8 → Except Failure (List UInt8)
  | [] => failHere .endInString []
  | b :: rest =>
    match simpleEscape? b with
    | some _ => .ok rest
    | none =>
      if b = 117 then
        match readFourHex rest with
        | .error f => .error f
        | .ok (_, after) => .ok after
      else failHere .invalidEscape rest

theorem length_of_skipEscape {s r : List UInt8} (h : skipEscape s = .ok r) : r.length ≤ s.length := by
  unfold skipEscape at h
  split at h
  · simp [failHere] at h
  · split at h
    · simp only [Except.ok.injEq] at h
      simp only [← h, List.length_cons]; omega
    · split at h
      · split at h
        · simp at h
        · next heq =>
          have := length_of_readFourHex heq
          simp only [Except.ok.injEq] at h
          simp only [← h, List.length_cons]; omega
      · simp [failHere] at h

/-- Passes over a string after its opening quote, whatever its bytes. -/
def skipString : List UInt8 → Except Failure (List UInt8)
  | [] => failHere .endInString []
  | b :: rest =>
    if b = 34 then .ok rest
    else if b = 92 then
      match h : skipEscape rest with
      | .error f => .error f
      | .ok after =>
        have := length_of_skipEscape h
        skipString after
    else if b < 32 then failHere .controlCharacter (b :: rest)
    else skipString rest
termination_by s => s.length

/-! ## Numbers -/

/-- Decimal digits. -/
def isDigit (b : UInt8) : Bool := 48 ≤ b && b ≤ 57

/-- The digits at the front, as numbers, and the bytes after them. -/
def takeDigits (bytes : List UInt8) : List Nat × List UInt8 :=
  ((bytes.takeWhile isDigit).map fun b => b.toNat - 48, bytes.dropWhile isDigit)

/-- A number as it is read: a whole number of 64 bits, or the bits of a double. -/
inductive Number where
  | integer (n : Int)
  | float (bits : UInt64)
  deriving DecidableEq, Repr

/-- The greatest number that digits are collected into. -/
def significandLimit : Nat := UInt64.size

/-- Adds digits to a significand as long as it stays below the limit, and answers the digits left over. -/
def addDigits (n : Nat) : List Nat → Nat × List Nat
  | [] => (n, [])
  | d :: ds => if 10 * n + d < significandLimit then addDigits (10 * n + d) ds else (n, d :: ds)

/-- The double nearest to a power of ten. -/
def powerOfTen (e : Nat) : Float := Float.ofScientific 1 false e

/-- Divides by a power of ten, in steps that a double can hold. -/
def divideByPower (x : Float) (e : Nat) : Float :=
  if e ≤ 308 then x / powerOfTen e
  else if x == 0.0 then x
  else divideByPower (x / powerOfTen 308) (e - 308)
termination_by e

/-- The double `significand * 10 ^ exponent`, by one multiplication or division where a double can hold the
power, or none when it is too large. -/
def double? (negative : Bool) (significand : Nat) (exponent : Int) : Option UInt64 :=
  let x := significand.toUInt64.toFloat
  let y := if exponent < 0 then divideByPower x exponent.natAbs
    else if exponent ≤ 308 then x * powerOfTen exponent.toNat
    else if significand = 0 then x else 1.0 / 0.0
  if y.isInf then none else some (if negative then -y else y).toBits

/-- The greatest exponent that is collected from digits. -/
def exponentLimit : Nat := 0x80000000

/-- Reads the digits of an exponent up to the limit; none when they pass it, with the bytes after the digit
that does. -/
def readExponentDigits (e : Nat) : List UInt8 → Option Nat × List UInt8
  | [] => (some e, [])
  | b :: rest =>
    if isDigit b then
      let next := 10 * e + (b.toNat - 48)
      if next < exponentLimit then readExponentDigits next rest else (none, rest)
    else (some e, b :: rest)

/-- Makes a double, or refuses it at the bytes after it. -/
def finishDouble (negative : Bool) (significand : Nat) (exponent : Int) (rest : List UInt8) : Reading Number :=
  match double? negative significand exponent with
  | some bits => .ok (.float bits, rest)
  | none => failHere .numberOutOfRange rest

/-- Reads an exponent after its letter and ends the number. -/
def readExponent (negative : Bool) (significand : Nat) (exponent : Int) (bytes : List UInt8) : Reading Number :=
  let (down, digits) := match bytes with
    | b :: rest => if b = 43 then (false, rest) else if b = 45 then (true, rest) else (false, bytes)
    | [] => (false, [])
  match digits with
  | [] => failHere .endInValue []
  | b :: rest =>
    if isDigit b then
      match readExponentDigits 0 (b :: rest) with
      | (some e, after) => finishDouble negative significand (if down then exponent - e else exponent + e) after
      | (none, after) =>
        if significand ≠ 0 ∧ !down then failHere .numberOutOfRange after
        else finishDouble negative 0 0 (after.dropWhile isDigit)
    else failHere .invalidNumber rest

/-- Ends a number after its digits, or goes on with its exponent. -/
def afterDigits (negative : Bool) (significand : Nat) (exponent : Int) (bytes : List UInt8) : Reading Number :=
  match bytes with
  | b :: rest =>
    if b = 101 ∨ b = 69 then readExponent negative significand exponent rest
    else finishDouble negative significand exponent bytes
  | [] => finishDouble negative significand exponent bytes

/-- Reads a fraction after its point; `exponent` counts the whole digits that were left out. -/
def readFraction (negative : Bool) (significand : Nat) (exponent : Nat) (bytes : List UInt8) : Reading Number :=
  match takeDigits bytes with
  | ([], []) => failHere .endInValue []
  | ([], b :: rest) => failNext .invalidNumber (b :: rest)
  | (d :: ds, rest) =>
    let (n, left) := addDigits significand (d :: ds)
    afterDigits negative n (exponent - ((d :: ds).length - left.length : Nat)) rest

/-- Ends a number whose digits all fit. -/
def wholeNumber (negative : Bool) (significand : Nat) : Number :=
  if !negative then .integer significand
  else if significand = 0 ∨ significand > 0x8000000000000000 then .float (-(significand.toUInt64.toFloat)).toBits
  else .integer (-significand)

/-- Goes on after the whole digits of a number. -/
def afterWhole (negative : Bool) (significand left : Nat) (bytes : List UInt8) : Reading Number :=
  match bytes with
  | b :: rest =>
    if b = 46 then readFraction negative significand left rest
    else if b = 101 ∨ b = 69 then readExponent negative significand left rest
    else if left = 0 then .ok (wholeNumber negative significand, bytes)
    else finishDouble negative significand left bytes
  | [] =>
    if left = 0 then .ok (wholeNumber negative significand, bytes)
    else finishDouble negative significand left bytes

/-- Reads a number after its sign. -/
def readNumber (negative : Bool) : List UInt8 → Reading Number
  | [] => failHere .endInValue []
  | b :: rest =>
    if b = 48 then
      match rest with
      | c :: _ => if isDigit c then failNext .invalidNumber rest else afterWhole negative 0 0 rest
      | [] => afterWhole negative 0 0 rest
    else if isDigit b then
      let (digits, after) := takeDigits (b :: rest)
      let (n, left) := addDigits 0 digits
      afterWhole negative n left.length after
    else failHere .invalidNumber rest

/-- Passes over a sign if one follows. -/
def skipSign : List UInt8 → List UInt8
  | [] => []
  | b :: rest => if b = 43 ∨ b = 45 then rest else b :: rest

/-- Passes over one digit or more. -/
def skipDigits : List UInt8 → Except Failure (List UInt8)
  | [] => failHere .invalidNumber []
  | b :: rest => if isDigit b then .ok (rest.dropWhile isDigit) else failHere .invalidNumber rest

/-- Passes over an exponent after its letter. -/
def skipExponent (bytes : List UInt8) : Except Failure (List UInt8) := skipDigits (skipSign bytes)

/-- Passes over an exponent if one follows. -/
def skipOptionalExponent (bytes : List UInt8) : Except Failure (List UInt8) :=
  match bytes with
  | b :: rest => if b = 101 ∨ b = 69 then skipExponent rest else .ok bytes
  | [] => .ok []

/-- Passes over a fraction after its point. -/
def skipFraction (bytes : List UInt8) : Except Failure (List UInt8) :=
  match bytes with
  | b :: _ =>
    if isDigit b then skipOptionalExponent (bytes.dropWhile isDigit) else failNext .invalidNumber bytes
  | [] => failNext .invalidNumber bytes

/-- Passes over what follows the whole digits of a number. -/
def skipAfterWhole (bytes : List UInt8) : Except Failure (List UInt8) :=
  match bytes with
  | b :: rest => if b = 46 then skipFraction rest else skipOptionalExponent bytes
  | [] => .ok []

/-- Passes over a number after its sign, whatever its size. -/
def skipNumber : List UInt8 → Except Failure (List UInt8)
  | [] => failHere .invalidNumber []
  | b :: rest =>
    if b = 48 then
      match rest with
      | c :: _ => if isDigit c then failNext .invalidNumber rest else skipAfterWhole rest
      | [] => .ok []
    else if isDigit b then skipAfterWhole (rest.dropWhile isDigit)
    else failHere .invalidNumber rest

end BuildCredentials.Json
