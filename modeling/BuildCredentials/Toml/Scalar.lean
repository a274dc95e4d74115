import BuildCredentials.Decimal.Range
import BuildCredentials.Toml.Value

/-!
# Words, numbers and dates

A value that stands in no quotes or brackets is one word, up to the first character that no such value
contains; only a date and a time may have a blank between them.
-/

set_option autoImplicit false

namespace BuildCredentials.Toml.Scalar

/-! ## Digits -/

/-- The value of a digit, letters of either case being the digits from ten on. -/
def digitValue (c : Char) : Nat :=
  if c.isDigit then c.toNat - 48 else if c.isLower then c.toNat - 87 else c.toNat - 55

/-- A digit to the base, of two, eight, ten or sixteen. -/
def isDigitOf (base : Nat) (c : Char) : Bool := c.isAlphanum && digitValue c < base

/-- Digits without the underscores between them; an underscore stands between two digits only. -/
def ungroup? (base : Nat) : List Char → Option (List Char)
  | [] => none
  | c :: rest =>
    if !isDigitOf base c then none
    else match rest with
      | [] => some [c]
      | d :: after => (if d = '_' then ungroup? base after else ungroup? base (d :: after)).map (c :: ·)

/-- The number that digits write. -/
def valueOf (base : Nat) (digits : List Char) : Nat := digits.foldl (fun n c => base * n + digitValue c) 0

/-- A sign and what follows it; none counts as plus. -/
def takeSign : List Char → Bool × List Char
  | '-' :: rest => (true, rest)
  | '+' :: rest => (false, rest)
  | cs => (false, cs)

/-- The digits of a whole number to the base ten, which does not begin with a zero unless it is one. -/
def wholeDigits? (cs : List Char) : Option (List Char) := do
  let digits ← ungroup? 10 cs
  if digits.length ≠ 1 ∧ digits.head? = some '0' then none else some digits

/-! ## Numbers -/

/-- A whole number, if 64 bits with a sign hold it. -/
def inRange? (n : Int) : Option Int := 
  if Int64.minValue.toInt ≤ n ∧ n ≤ Int64.maxValue.toInt then some n else none

/-- A whole number to the base that its first two characters name, or to the base ten. -/
def integer? : List Char → Option Int
  | '0' :: 'x' :: digits => do inRange? (valueOf 16 (← ungroup? 16 digits))
  | '0' :: 'o' :: digits => do inRange? (valueOf 8 (← ungroup? 8 digits))
  | '0' :: 'b' :: digits => do inRange? (valueOf 2 (← ungroup? 2 digits))
  | cs => do
    let (negative, cs) := takeSign cs
    let n := valueOf 10 (← wholeDigits? cs)
    inRange? (if negative then -n else n)

/-- Text before the first character of a kind, and the text after it, if there is one. -/
def cut (p : Char → Bool) (cs : List Char) : List Char × Option (List Char) :=
  (cs.takeWhile (!p ·), (cs.dropWhile (!p ·)).tail?)

/-- The exponent of a number, zero if none is written. -/
def exponent? : Option (List Char) → Option Int
  | none => some 0
  | some cs => do
    let (negative, cs) := takeSign cs
    let n := valueOf 10 (← ungroup? 10 cs)
    some (if negative then -n else n)

/-- The digits of a fraction, none if no point is written. -/
def fraction? : Option (List Char) → Option (List Char)
  | none => some []
  | some cs => ungroup? 10 cs

/-- Whether a word is a number with a fraction or an exponent, and not too large above zero. -/
def isFloat (word : List Char) : Bool :=
  let (negative, cs) := takeSign word
  let (mantissa, power) := cut (fun c => c = 'e' || c = 'E') cs
  let (whole, part) := cut (· = '.') mantissa
  let special := [['i', 'n', 'f'], ['n', 'a', 'n']].contains cs
  special || ((part.isSome || power.isSome) &&
    match wholeDigits? whole, fraction? part, exponent? power with
    | some w, some f, some e => negative || !Decimal.overflows (valueOf 10 (w ++ f)) (e - f.length)
    | _, _, _ => false)

/-! ## Dates and times -/

/-- A number of two digits. -/
def twoDigits? (a b : Char) : Option Nat := if a.isDigit && b.isDigit then some (valueOf 10 [a, b]) else none

/-- The days of a month. -/
def daysOf (year month : Nat) : Nat :=
  if month = 2 then if year % 4 = 0 ∧ (year % 100 ≠ 0 ∨ year % 400 = 0) then 29 else 28
  else if month ∈ [4, 6, 9, 11] then 30
  else 31

/-- What follows a date. -/
def afterDate? : List Char → Option (List Char)
  | y₁ :: y₂ :: y₃ :: y₄ :: '-' :: m₁ :: m₂ :: '-' :: d₁ :: d₂ :: rest => do
    let century ← twoDigits? y₁ y₂
    let year ← twoDigits? y₃ y₄
    let month ← twoDigits? m₁ m₂
    let day ← twoDigits? d₁ d₂
    if 1 ≤ month ∧ month ≤ 12 ∧ 1 ≤ day ∧ day ≤ daysOf (100 * century + year) month then some rest else none
  | _ => none

/-- What follows hours and minutes. -/
def afterMinutes? : List Char → Option (List Char)
  | h₁ :: h₂ :: ':' :: m₁ :: m₂ :: rest => do
    let hour ← twoDigits? h₁ h₂
    let minute ← twoDigits? m₁ m₂
    if hour ≤ 23 ∧ minute ≤ 59 then some rest else none
  | _ => none

/-- What follows a time; a minute may have a leap second. -/
def afterTime? (s : List Char) : Option (List Char) := do
  match ← afterMinutes? s with
  | ':' :: s₁ :: s₂ :: rest =>
    if 60 < (← twoDigits? s₁ s₂) then none
    else match rest with
      | '.' :: d :: more => if d.isDigit then some (more.dropWhile Char.isDigit) else none
      | _ => some rest
  | _ => none

/-- Whether a word is the distance from universal time, or nothing. -/
def isOffset : List Char → Bool
  | [] => true
  | [c] => c = 'Z' || c = 'z'
  | c :: rest => (c = '+' || c = '-') && afterMinutes? rest = some []

/-- Whether a word is a time that may have an offset. -/
def isFullTime (word : List Char) : Bool := ((afterTime? word).map isOffset).getD false

/-- Whether a word is a date. -/
def isDate (word : List Char) : Bool := afterDate? word = some []

/-- Whether a word is a date, a date and a time, or a time. -/
def isDatetime (word : List Char) : Bool :=
  afterTime? word = some [] ||
    match afterDate? word with
    | some [] => true
    | some (c :: rest) => (c = 'T' || c = 't') && isFullTime rest
    | none => false

/-! ## Words -/

/-- The characters of words. -/
def isWordChar (c : Char) : Bool := c.isAlphanum || c = '_' || c = '+' || c = '-' || c = '.' || c = ':'

/-- The value of a word. -/
def ofWord? (word : List Char) : Option Value :=
  if word = ['t', 'r', 'u', 'e'] then some (.boolean true)
  else if word = ['f', 'a', 'l', 's', 'e'] then some (.boolean false)
  else match integer? word with
    | some n => some (.integer n)
    | none => if isFloat word then some .float else if isDatetime word then some .datetime else none

/-- Reads a word, or a date and a time with a blank between them. -/
def read (s : List Char) : Reading Value :=
  let word := s.takeWhile isWordChar
  let rest := s.dropWhile isWordChar
  match rest with
  | ' ' :: d :: more =>
    if isDate word && d.isDigit then
      if isFullTime ((d :: more).takeWhile isWordChar) then some (.datetime, (d :: more).dropWhile isWordChar) else none
    else (ofWord? word).map (·, rest)
  | _ => (ofWord? word).map (·, rest)

end BuildCredentials.Toml.Scalar
