import BuildCredentials.Bytes.Utf8
import BuildCredentials.Shell.Arithmetic

/-!
# Formatted output

A format is a text with escapes and with directives that each take an argument. The format is used again as
long as arguments are left, and an argument that is missing is empty.

It is there for engines that are scripts, like all of `Shell`.
-/

set_option autoImplicit false

namespace BuildCredentials.Shell.Format

/-- The bytes of characters. -/
def bytesOf (cs : List Char) : List UInt8 := Utf8.encode (String.ofList cs)

/-- An octal digit. -/
def isOctal (c : Char) : Bool := '0' ≤ c && c ≤ '7'

/-- The byte of an escape of one letter. -/
def letterEscape? (c : Char) : Option UInt8 :=
  match c with
  | '\\' => some 92
  | 'a' => some 7
  | 'b' => some 8
  | 'f' => some 12
  | 'n' => some 10
  | 'r' => some 13
  | 't' => some 9
  | 'v' => some 11
  | _ => none

/-- The bytes of an escape after its backslash, and what follows it. What is no escape keeps its backslash. -/
def escape (cs : List Char) : List UInt8 × List Char :=
  match cs with
  | [] => ([92], [])
  | c :: rest =>
    match letterEscape? c with
    | some b => ([b], rest)
    | none =>
      let digits := (cs.take 3).takeWhile isOctal
      if digits = [] then ([92], cs)
      else ([UInt8.ofNat (digits.foldl (fun n d => 8 * n + (d.toNat - 48)) 0)], cs.drop digits.length)

theorem length_escape (cs : List Char) : (escape cs).2.length ≤ cs.length := by
  unfold escape
  split
  · exact Nat.le_refl _
  · split
    · exact Nat.le_succ _
    · dsimp only
      split
      · exact Nat.le_refl _
      · simp

/-- The bytes of a text with its escapes; an escape may end all output, which the second part tells. -/
def unescape : List Char → List UInt8 × Bool
  | [] => ([], false)
  | c :: rest =>
    if c ≠ '\\' then
      let (bytes, ended) := unescape rest
      (bytesOf [c] ++ bytes, ended)
    else if rest.head? = some 'c' then ([], true)
    else
      let digits := match rest with
        | '0' :: d :: more => if isOctal d then d :: more else rest
        | _ => rest
      let (bytes, ended) := unescape (escape digits).2
      ((escape digits).1 ++ bytes, ended)
termination_by s => s.length
decreasing_by
  · simp
  · refine Nat.lt_succ_of_le (Nat.le_trans (length_escape _) ?_)
    split
    · split
      · simp
      · exact Nat.le_refl _
    · exact Nat.le_refl _

/-! ## Directives -/

/-- A directive: flags, the least width, the precision and the letter. -/
structure Directive where
  left : Bool := false
  zeros : Bool := false
  plus : Bool := false
  alternate : Bool := false
  width : Nat := 0
  precision? : Option Nat := none
  letter : Char
  deriving Repr

/-- The number at the front, zero if there is none, and what follows it. -/
def takeNumber (cs : List Char) : Nat × List Char :=
  ((cs.takeWhile Char.isDigit).foldl (fun n c => 10 * n + (c.toNat - 48)) 0, cs.dropWhile Char.isDigit)

/-- A flag of a directive. -/
def isFlag (c : Char) : Bool := ['-', '0', '+', ' ', '#'].contains c

/-- Reads a directive after its percent sign. -/
def readDirective (cs : List Char) : Option (Directive × List Char) :=
  let flags := cs.takeWhile isFlag
  let (width, rest) := takeNumber (cs.dropWhile isFlag)
  let (precision?, rest) := match rest with
    | '.' :: more =>
      let (n, after) := takeNumber more
      (some n, after)
    | _ => (none, rest)
  match rest with
  | [] => none
  | letter :: after =>
    some ({ left := flags.contains '-', zeros := flags.contains '0', plus := flags.contains '+'
            alternate := flags.contains '#', width, precision?, letter }, after)

/-- Bytes filled up to the width of a directive. -/
def Directive.fill (d : Directive) (bytes : List UInt8) : List UInt8 :=
  let missing := List.replicate (d.width - bytes.length) 32
  if d.left then bytes ++ missing else missing ++ bytes

/-- The digits of a number, at least as many as the precision tells. -/
def Directive.digits (d : Directive) (base : Nat) (n : Nat) : List Char :=
  let digits := Nat.toDigits base n
  List.replicate (d.precision?.getD 1 - digits.length) '0' ++ digits

/-- A number filled up to the width of a directive, with zeros after the sign if it says so. -/
def Directive.number (d : Directive) (sign digits : List Char) : List UInt8 :=
  if d.zeros && !d.left && d.precision?.isNone then
    bytesOf (sign ++ List.replicate (d.width - sign.length - digits.length) '0' ++ digits)
  else d.fill (bytesOf (sign ++ digits))

/-- The number that an argument writes; after a quote, the number of a character. -/
def numberOf? (arg : String) : Option Int :=
  match arg.toList with
  | [] => some 0
  | '\'' :: c :: _ => some c.toNat
  | '"' :: c :: _ => some c.toNat
  | _ => Arithmetic.ofText? arg

/-- What a directive writes for an argument, whether it ends all output, and whether the argument is fit. -/
def Directive.write (d : Directive) (arg : String) : List UInt8 × Bool × Bool :=
  let cut (bytes : List UInt8) : List UInt8 := match d.precision? with
    | some n => bytes.take n
    | none => bytes
  let number? := numberOf? arg
  let n := number?.getD 0
  match d.letter with
  | 's' => (d.fill (cut (Utf8.encode arg)), false, true)
  | 'b' =>
    let (bytes, ended) := unescape arg.toList
    (d.fill (cut bytes), ended, true)
  | 'c' => (d.fill ((Utf8.encode arg).take 1), false, true)
  | 'd' | 'i' =>
    let sign := if n < 0 then ['-'] else if d.plus then ['+'] else []
    (d.number sign (d.digits 10 n.natAbs), false, number?.isSome)
  | 'u' => (d.number [] (d.digits 10 (n % UInt64.size).toNat), false, number?.isSome)
  | 'o' => (d.number (if d.alternate then ['0'] else []) (d.digits 8 (n % UInt64.size).toNat), false, number?.isSome)
  | 'x' =>
    (d.number (if d.alternate then ['0', 'x'] else []) (d.digits 16 (n % UInt64.size).toNat), false, number?.isSome)
  | 'X' =>
    (d.number (if d.alternate then ['0', 'X'] else []) ((d.digits 16 (n % UInt64.size).toNat).map Char.toUpper), false,
      number?.isSome)
  | _ => ([], true, false)

/-! ## Formats -/

/-- What a format wrote. -/
structure Written where
  bytes : List UInt8 := []
  /-- The arguments that are left. -/
  args : List String
  /-- Whether output ended for good. -/
  ended : Bool := false
  /-- The arguments that were no numbers where numbers were needed. -/
  unfit : List String := []

/-- Uses a format once. -/
def once : Nat → List Char → List String → Written
  | 0, _, args => { args }
  | _, [], args => { args }
  | fuel + 1, c :: rest, args =>
    if c = '\\' then
      let (bytes, after) := escape rest
      let more := once fuel after args
      { more with bytes := bytes ++ more.bytes }
    else if c = '%' then
      match rest with
      | '%' :: after =>
        let more := once fuel after args
        { more with bytes := 37 :: more.bytes }
      | _ =>
        match readDirective rest with
        | none => { args, ended := true, unfit := ["%"] }
        | some (d, after) =>
          let (bytes, ended, fits) := d.write (args.headD "")
          let unfit := if fits then [] else args.take 1
          if ended then { bytes, args := args.drop 1, ended, unfit }
          else
            let more := once fuel after (args.drop 1)
            { more with bytes := bytes ++ more.bytes, unfit := unfit ++ more.unfit }
    else
      let plain := (c :: rest).takeWhile fun c => c ≠ '\\' && c ≠ '%'
      let more := once fuel ((c :: rest).dropWhile fun c => c ≠ '\\' && c ≠ '%') args
      { more with bytes := bytesOf plain ++ more.bytes }

/-- Uses a format until no argument is left, or for good if it takes none. -/
def all (format : List Char) : Nat → List String → Written
  | 0, args => { args }
  | fuel + 1, args =>
    let first := once (format.length + 1) format args
    if first.ended ∨ first.args = [] ∨ first.args.length = args.length then first
    else
      let more := all format fuel first.args
      { more with bytes := first.bytes ++ more.bytes, unfit := first.unfit ++ more.unfit }

/-- Whether a format has a place for an argument. -/
def takesArguments (format : String) : Bool :=
  (once (format.length + 1) format.toList [""]).args.isEmpty

/-- What a format writes for arguments, and those of them that are unfit. -/
def print (format : String) (args : List String) : List UInt8 × List String :=
  let written := all format.toList (args.length + 1) args
  (written.bytes, written.unfit)

/-- The words of an echo with a blank between them, and a line end unless the first word forbids it. -/
def echo (escapes : Bool) (words : List String) : List UInt8 :=
  let (silent, words) := match words with
    | "-n" :: rest => (true, rest)
    | _ => (false, words)
  let text := " ".intercalate words
  let (bytes, ended) := if escapes then unescape text.toList else (Utf8.encode text, false)
  if silent || ended then bytes else bytes ++ [10]

end BuildCredentials.Shell.Format
