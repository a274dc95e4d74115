/-!
# Arithmetic

Expressions over whole numbers and variables, by precedence. A variable that is not set, or not a number,
counts as zero, and an assignment is an expression that has the value assigned.

It is there for engines that are scripts, like all of `Shell`.
-/

set_option autoImplicit false

namespace BuildCredentials.Shell.Arithmetic

/-- Why an expression has no value. -/
inductive Fault where
  | noOperand
  | unclosed
  | leftOver
  | byZero
  deriving DecidableEq, Repr

/-- The text of a fault. -/
def Fault.message : Fault → String
  | .noOperand => "expecting primary"
  | .unclosed => "expecting ')'"
  | .leftOver => "expecting EOF"
  | .byZero => "division by zero"

/-- The values of variables. -/
abbrev Values := List (String × Int)

/-- What an evaluation reads and changes. -/
structure State where
  rest : List Char
  values : Values

/-- Operators by precedence, the loosest first. -/
def levels : List (List String) := [
  ["||"], ["&&"], ["|"], ["^"], ["&"], ["==", "!="], ["<=", ">=", "<", ">"], ["<<", ">>"], ["+", "-"],
  ["*", "/", "%"]]

/-- One for true and zero for false. -/
def truth (b : Bool) : Int := if b then 1 else 0

/-- Bits of a number. -/
def width : Nat := 64

/-- The number that is left when all but the lowest bits are dropped. -/
def wrap (n : Int) : Int := (BitVec.ofInt width n).toInt

/-- The number whose bits are put together from those of two numbers. -/
def bitwise (f : BitVec width → BitVec width → BitVec width) (a b : Int) : Int :=
  (f (BitVec.ofInt width a) (BitVec.ofInt width b)).toInt

/-- The value of an operator. Division goes towards zero, and has no value by zero. -/
def apply (op : String) (a b : Int) : Except Fault Int :=
  match op with
  | "||" => .ok (truth (a ≠ 0 || b ≠ 0))
  | "&&" => .ok (truth (a ≠ 0 && b ≠ 0))
  | "|" => .ok (bitwise (· ||| ·) a b)
  | "^" => .ok (bitwise (· ^^^ ·) a b)
  | "&" => .ok (bitwise (· &&& ·) a b)
  | "==" => .ok (truth (a = b))
  | "!=" => .ok (truth (a ≠ b))
  | "<=" => .ok (truth (a ≤ b))
  | ">=" => .ok (truth (a ≥ b))
  | "<" => .ok (truth (a < b))
  | ">" => .ok (truth (a > b))
  | "<<" => .ok (wrap (a * Nat.pow 2 (b % width).toNat))
  | ">>" => .ok (a / Nat.pow 2 (b % width).toNat)
  | "+" => .ok (wrap (a + b))
  | "-" => .ok (wrap (a - b))
  | "*" => .ok (wrap (a * b))
  | "/" => if b = 0 then .error .byZero else .ok (wrap (a.tdiv b))
  | "%" => if b = 0 then .error .byZero else .ok (a.tmod b)
  | _ => .error .noOperand

/-- Drops blanks. -/
def skip (cs : List Char) : List Char := cs.dropWhile fun c => c = ' ' || c = '\t' || c = '\n'

/-- The operator of a level that stands at the front, and what follows it. -/
def operatorAt? (cs : List Char) (ops : List String) : Option (String × List Char) :=
  ops.findSome? fun op =>
    let rest := cs.drop op.length
    let doubled := (op = "|" && rest.head? = some '|') || (op = "&" && rest.head? = some '&')
      || ((op = "<" || op = ">") && rest.head?.any fun c => c = '<' || c = '>' || c = '=')
    if op.toList.isPrefixOf cs && !doubled && rest.head? ≠ some '=' then some (op, rest) else none

/-- The number of a digit of either case. -/
def digitValue (c : Char) : Nat :=
  if c.isDigit then c.toNat - 48 else if c.isLower then c.toNat - 87 else c.toNat - 55

/-- The number that digits to a base write. -/
def ofDigits (base : Nat) (cs : List Char) : Option Nat :=
  if cs = [] ∨ cs.any (fun c => !c.isAlphanum || base ≤ digitValue c) then none
  else some (cs.foldl (fun n c => base * n + digitValue c) 0)

/-- The number that a constant writes, to the base that its front tells. -/
def ofConstant : List Char → Option Nat
  | '0' :: 'x' :: rest => ofDigits 16 rest
  | '0' :: 'X' :: rest => ofDigits 16 rest
  | ['0'] => some 0
  | '0' :: rest => ofDigits 8 rest
  | cs => ofDigits 10 cs

/-- The number that a text writes, perhaps with a sign and blanks around it. -/
def signed? (digits : List Char → Option Nat) (s : String) : Option Int :=
  let cs := (skip (skip s.toList).reverse).reverse
  match cs with
  | '-' :: rest => (digits rest).map fun n => -(n : Int)
  | '+' :: rest => (digits rest).map fun n => (n : Int)
  | _ => (digits cs).map fun n => (n : Int)

/-- The number that a text writes as a constant. -/
def ofText? : String → Option Int := signed? ofConstant

/-- The number that a text writes in decimal digits. -/
def ofDecimal? : String → Option Int := signed? (ofDigits 10)

/-- The value of a variable. -/
def State.value (s : State) (name : String) : Int := (s.values.lookup name).getD 0

/-- The operators that may stand before the equals sign of an assignment. -/
def assigning : List String := ["+", "-", "*", "/", "%"]

/-- The operator of an assignment at the front, empty for a plain one, and what follows its equals sign. -/
def assignmentAt? (cs : List Char) : Option (String × List Char) :=
  match cs with
  | '=' :: '=' :: _ => none
  | '=' :: rest => some ("", rest)
  | c :: '=' :: rest => if assigning.contains (String.singleton c) then some (String.singleton c, rest) else none
  | _ => none

mutual

/-- Evaluates an operand. -/
def operand : Nat → State → Except Fault (Int × State)
  | 0, _ => .error .noOperand
  | fuel + 1, s =>
    match skip s.rest with
    | '(' :: rest =>
      match expression fuel { s with rest } with
      | .ok (n, after) =>
        match skip after.rest with
        | ')' :: rest => .ok (n, { after with rest })
        | _ => .error .unclosed
      | .error f => .error f
    | '-' :: rest => (operand fuel { s with rest }).map fun (n, after) => (-n, after)
    | '+' :: rest => operand fuel { s with rest }
    | '!' :: rest => (operand fuel { s with rest }).map fun (n, after) => (truth (n = 0), after)
    | '~' :: rest => (operand fuel { s with rest }).map fun (n, after) => (-n - 1, after)
    | cs =>
      let word := cs.takeWhile fun c => c.isAlphanum || c = '_'
      let rest := cs.drop word.length
      match word with
      | [] => .error .noOperand
      | c :: _ =>
        if c.isDigit then
          match ofConstant word with
          | some n => .ok ((n : Int), { s with rest })
          | none => .error .leftOver
        else
          let name := String.ofList word
          match assignmentAt? (skip rest) with
          | none => .ok (s.value name, { s with rest })
          | some (op, rest) =>
            match expression fuel { s with rest } with
            | .error f => .error f
            | .ok (n, after) =>
              (if op = "" then .ok n else apply op (s.value name) n).map fun m =>
                (m, { after with values := (name, m) :: after.values })

/-- Evaluates operands with operators from a level on. -/
def operation : Nat → List (List String) → State → Except Fault (Int × State)
  | 0, _, _ => .error .noOperand
  | fuel + 1, [], s => operand fuel s
  | fuel + 1, ops :: tighter, s =>
    match operation fuel tighter s with
    | .error f => .error f
    | .ok (n, after) => continued fuel ops tighter n after

/-- Goes on with the operators of a level after a first value. -/
def continued : Nat → List String → List (List String) → Int → State → Except Fault (Int × State)
  | 0, _, _, _, _ => .error .noOperand
  | fuel + 1, ops, tighter, n, s =>
    match operatorAt? (skip s.rest) ops with
    | none => .ok (n, s)
    | some (op, rest) =>
      match operation fuel tighter { s with rest } with
      | .error f => .error f
      | .ok (m, after) =>
        match apply op n m with
        | .ok k => continued fuel ops tighter k after
        | .error f => .error f

/-- Evaluates an expression, perhaps with a choice of two. -/
def expression : Nat → State → Except Fault (Int × State)
  | 0, _ => .error .noOperand
  | fuel + 1, s =>
    match operation fuel levels s with
    | .error f => .error f
    | .ok (n, after) =>
      match skip after.rest with
      | '?' :: rest =>
        match expression fuel { after with rest } with
        | .error f => .error f
        | .ok (yes, after) =>
          match skip after.rest with
          | ':' :: rest =>
            (expression fuel { after with rest }).map fun (no, after) => (if n ≠ 0 then yes else no, after)
          | _ => .error .noOperand
      | _ => .ok (n, after)

end

/-- The value of a text as an expression, and the values of variables after it; no text at all is zero. -/
def evaluate (text : List Char) (values : Values) : Except Fault (Int × Values) :=
  if skip text = [] then .ok (0, values)
  else match expression (32 * (text.length + 1)) ⟨text, values⟩ with
    | .ok (n, after) => if skip after.rest = [] then .ok (n, after.values) else .error .leftOver
    | .error f => .error f

end BuildCredentials.Shell.Arithmetic
