/-!
# Patterns

Patterns match whole texts: a star stands for any text, a question mark for any character, and brackets for one
of the characters between them.

It is there for engines that are scripts, like all of `Shell`.
-/

set_option autoImplicit false

namespace BuildCredentials.Shell

/-- An item of a pattern. -/
inductive PatternItem where
  | char (c : Char)
  | anyChar
  | anyText
  /-- One of the ranges of characters, or none of them. -/
  | oneOf (negated : Bool) (ranges : List (Char × Char))
  deriving DecidableEq, Repr

/-- A pattern. -/
abbrev Pattern := List PatternItem

/-- The ranges between brackets. -/
def rangesOf : List Char → List (Char × Char)
  | a :: '-' :: b :: rest => (a, b) :: rangesOf rest
  | a :: rest => (a, a) :: rangesOf rest
  | [] => []

/-- Whether a character is in one of the ranges. -/
def inRanges (ranges : List (Char × Char)) (c : Char) : Bool := ranges.any fun (a, b) => a ≤ c && c ≤ b

/-- The items of a text whose characters are each quoted or not. -/
def Pattern.ofChars : List (Char × Bool) → Pattern
  | [] => []
  | (c, quoted) :: rest =>
    if quoted then .char c :: Pattern.ofChars rest
    else if c = '*' then .anyText :: Pattern.ofChars rest
    else if c = '?' then .anyChar :: Pattern.ofChars rest
    else if c = '[' then
      let (negated, inner) := match rest with
        | ('!', false) :: more => (true, more)
        | _ => (false, rest)
      let body := (inner.take 1 ++ (inner.drop 1).takeWhile (·.1 ≠ ']')).map (·.1)
      let after := (inner.drop body.length).drop 1
      if inner.length ≤ body.length ∨ rest.length < after.length then .char c :: Pattern.ofChars rest
      else if _h : after.length < rest.length + 1 then .oneOf negated (rangesOf body) :: Pattern.ofChars after
      else .char c :: Pattern.ofChars rest
    else .char c :: Pattern.ofChars rest
termination_by s => s.length
decreasing_by
  all_goals simp only [List.length_cons] at *
  all_goals omega

/-- Whether a pattern matches a whole text. -/
def Pattern.accepts : Pattern → List Char → Bool
  | [], cs => cs.isEmpty
  | .anyText :: rest, cs => acceptsAfter rest cs
  | .char c :: rest, d :: cs => c = d && Pattern.accepts rest cs
  | .anyChar :: rest, _ :: cs => Pattern.accepts rest cs
  | .oneOf negated ranges :: rest, d :: cs => (inRanges ranges d != negated) && Pattern.accepts rest cs
  | _ :: _, [] => false
where
  /-- Whether what is left of a pattern matches the text from some place on. -/
  acceptsAfter (rest : Pattern) : List Char → Bool
    | [] => Pattern.accepts rest []
    | c :: cs => Pattern.accepts rest (c :: cs) || acceptsAfter rest cs

/-- Whether a pattern is more than one text. -/
def Pattern.isWild (p : Pattern) : Bool :=
  p.any fun
    | .char _ => false
    | _ => true

/-- What is left of a text when a pattern is cut off at its front. -/
def Pattern.cutFront (p : Pattern) (longest : Bool) (cs : List Char) : List Char :=
  let lengths := (List.range (cs.length + 1)).filter fun n => p.accepts (cs.take n)
  match (if longest then lengths.getLast? else lengths.head?) with
  | some n => cs.drop n
  | none => cs

/-- What is left of a text when a pattern is cut off at its end. -/
def Pattern.cutEnd (p : Pattern) (longest : Bool) (cs : List Char) : List Char :=
  let lengths := (List.range (cs.length + 1)).filter fun n => p.accepts (cs.drop n)
  match (if longest then lengths.head? else lengths.getLast?) with
  | some n => cs.take n
  | none => cs

end BuildCredentials.Shell
