import BuildCredentials.FileTree
import BuildCredentials.Shell.Arithmetic

/-!
# Conditions

What scripts test: texts, whole numbers and files. Up to four words are understood by their number, as the
standard says; longer conditions are read by precedence.

It is there for engines that are scripts, like all of `Shell`.
-/

set_option autoImplicit false

namespace BuildCredentials.Shell.Test

/-- Whether a file has content. -/
def hasContent (files : FileTree) (path : String) : Bool :=
  match files.lookup path with
  | .ok (.file content) => content ≠ []
  | .ok .directory => true
  | _ => false

/-- The value of a condition on one word; none if the operator is unknown. -/
def unary? (files : FileTree) (op word : String) : Option Bool :=
  let node? := (files.lookup word).toOption
  match op with
  | "-n" => some (word ≠ "")
  | "-z" => some (word = "")
  | "-e" | "-r" | "-w" => some node?.isSome
  | "-f" => some (match node? with
    | some (.file _) => true
    | _ => false)
  | "-d" | "-x" => some (node? = some .directory)
  | "-S" => some (match node? with
    | some (.socket _) => true
    | _ => false)
  | "-s" => some (hasContent files word)
  | "-L" | "-h" | "-p" | "-b" | "-c" | "-t" => some false
  | _ => none

/-- Why words are no condition. -/
inductive Fault where
  | illegalNumber (word : String)
  | noOperand (op : String)
  /-- A word does not belong to the condition that ends with this one. -/
  | unexpected (last : String)
  | tooDeep
  deriving DecidableEq, Repr

/-- The text of a fault. -/
def Fault.message : Fault → String
  | .illegalNumber word => "Illegal number: " ++ word
  | .noOperand op => op ++ ": argument expected"
  | .unexpected last => if last = "" then "unexpected operator" else last ++ ": unexpected operator"
  | .tooDeep => "closing paren expected"

/-- The number that a word writes. -/
def number (word : String) : Except Fault Int :=
  match Arithmetic.ofDecimal? word with
  | some n => .ok n
  | none => .error (.illegalNumber word)

/-- The value of a condition on two words. -/
def binary (op left right : String) : Except Fault Bool :=
  let compare (holds : Int → Int → Bool) : Except Fault Bool := do
    return holds (← number left) (← number right)
  match op with
  | "=" | "==" => .ok (left = right)
  | "!=" => .ok (left ≠ right)
  | "<" => .ok (left < right)
  | ">" => .ok (right < left)
  | "-eq" => compare (· = ·)
  | "-ne" => compare (· ≠ ·)
  | "-lt" => compare (· < ·)
  | "-le" => compare (· ≤ ·)
  | "-gt" => compare (· > ·)
  | "-ge" => compare (· ≥ ·)
  | _ => .error (.unexpected left)

/-- Operators on two words. -/
def isBinary (op : String) : Bool :=
  ["=", "==", "!=", "<", ">", "-eq", "-ne", "-lt", "-le", "-gt", "-ge"].contains op

mutual

/-- Reads conditions with "or" between them. -/
def disjunction (files : FileTree) : Nat → List String → Except Fault (Bool × List String)
  | 0, _ => .error .tooDeep
  | fuel + 1, words =>
    match conjunction files fuel words with
    | .ok (b, "-o" :: rest) => (disjunction files fuel rest).map fun (c, after) => (b || c, after)
    | other => other

/-- Reads conditions with "and" between them. -/
def conjunction (files : FileTree) : Nat → List String → Except Fault (Bool × List String)
  | 0, _ => .error .tooDeep
  | fuel + 1, words =>
    match condition files fuel words with
    | .ok (b, "-a" :: rest) => (conjunction files fuel rest).map fun (c, after) => (b && c, after)
    | other => other

/-- Reads one condition. -/
def condition (files : FileTree) : Nat → List String → Except Fault (Bool × List String)
  | 0, _ => .error .tooDeep
  | _, [] => .ok (false, [])
  | fuel + 1, word :: rest =>
    match rest with
    | op :: right :: after =>
      if isBinary op then (binary op word right).map (·, after) else single fuel word rest
    | [op] => if isBinary op then .error (.noOperand op) else single fuel word rest
    | [] => single fuel word rest
where
  /-- Reads a condition that begins with its operator, or that is a word alone. -/
  single (fuel : Nat) (word : String) (rest : List String) : Except Fault (Bool × List String) :=
    match word, rest with
    | "!", _ :: _ => (condition files fuel rest).map fun (b, after) => (!b, after)
    | "(", _ :: _ =>
      match disjunction files fuel rest with
      | .ok (b, ")" :: after) => .ok (b, after)
      | .ok _ => .error .tooDeep
      | .error fault => .error fault
    | _, operand :: after =>
      match unary? files word operand with
      | some b => .ok (b, after)
      | none => .ok (word ≠ "", rest)
    | _, [] => .ok (word ≠ "", [])

end

/-- Whether a condition holds. -/
def run (files : FileTree) (words : List String) : Except Fault Bool :=
  match words with
  | [] => .ok false
  | [word] => .ok (word ≠ "")
  | ["!", word] => .ok (word = "")
  | _ =>
    match disjunction files (4 * words.length + 4) words with
    | .ok (b, []) => .ok b
    | .ok (_, rest) => .error (.unexpected ((words[words.length - rest.length - 1]?).getD ""))
    | .error fault => .error fault

end BuildCredentials.Shell.Test
