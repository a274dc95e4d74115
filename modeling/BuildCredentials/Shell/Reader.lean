import BuildCredentials.Shell.Syntax

/-!
# Reading scripts

Readers take the characters that are left and answer those that follow, or none if what stands there is no
script. Every reader recurses on a bound for how deep scripts are nested and how many parts they have, which
the length of the script provides.

Only engines that are scripts are read so (`Program.engine`); no statement is about what is read.
-/

set_option autoImplicit false

namespace BuildCredentials.Shell

/-! ## Characters and blanks -/

/-- A character that ends a word. -/
def endsWord (c : Char) : Bool := [' ', '\t', '\n', ';', '&', '|', '<', '>', '(', ')'].contains c

/-- A character that is special between double quotes. -/
def isSpecial (c : Char) : Bool := c = '$' || c = '\x60' || c = '"' || c = '\\'

/-- A character that means itself outside of quotes. -/
def isOrdinary (c : Char) : Bool := !endsWord c && !isSpecial c && c ≠ '\''

/-- The first character of a name. -/
def beginsName (c : Char) : Bool := c.isAlpha || c = '_'

/-- A character of a name. -/
def isNameChar (c : Char) : Bool := c.isAlphanum || c = '_'

/-- The parameters that are no names. -/
def isSpecialParameter (c : Char) : Bool := ['@', '*', '#', '?', '-', '$', '!'].contains c

/-- Drops blanks, joined lines and a comment. -/
def skipBlanks : List Char → List Char
  | ' ' :: rest => skipBlanks rest
  | '\t' :: rest => skipBlanks rest
  | '\\' :: '\n' :: rest => skipBlanks rest
  | '#' :: rest => rest.dropWhile (· ≠ '\n')
  | cs => cs

/-- Drops blanks, comments and empty lines. -/
def skipLines : Nat → List Char → List Char
  | 0, cs => cs
  | fuel + 1, cs =>
    match skipBlanks cs with
    | '\n' :: rest => skipLines fuel rest
    | cs => cs

/-- The name at the front, and what follows it. -/
def takeName (cs : List Char) : String × List Char :=
  (String.ofList (cs.takeWhile isNameChar), cs.dropWhile isNameChar)

/-- The plain word at the front. -/
def peekWord (cs : List Char) : String := String.ofList (cs.takeWhile isOrdinary)

/-- Drops a plain word that stands at the front. -/
def skipWord (word : String) (cs : List Char) : Option (List Char) :=
  if peekWord cs = word then some (cs.drop word.length) else none

/-- The words that end a list of commands. -/
def closers : List String := ["then", "else", "elif", "fi", "do", "done", "esac", "\x7d"]

/-- Whether a list of commands ends here. -/
def atEnd (cs : List Char) : Bool :=
  match cs with
  | [] => true
  | ')' :: _ => true
  | ';' :: ';' :: _ => true
  | _ => closers.contains (peekWord cs)

/-- The text up to the two brackets that close an expression, and what follows them. -/
def takeExpression : Nat → List Char → Option (List Char × List Char)
  | _, [] => none
  | 0, ')' :: ')' :: rest => some ([], rest)
  | n, c :: rest =>
    let inner := if c = '(' then n + 1 else if c = ')' then n - 1 else n
    (takeExpression inner rest).map fun (cs, after) => (c :: cs, after)

/-- The text up to a closing backquote, with its escapes undone, and what follows it. -/
def takeBackquoted : List Char → Option (List Char × List Char)
  | [] => none
  | '\x60' :: rest => some ([], rest)
  | '\\' :: c :: rest =>
    (takeBackquoted rest).map fun (cs, after) => (if isSpecial c && c ≠ '"' then c :: cs else '\\' :: c :: cs, after)
  | c :: rest => (takeBackquoted rest).map fun (cs, after) => (c :: cs, after)

/-- The change that an operator in braces names, and whether an empty value counts as missing. -/
def changeOf : List Char → Option (Change × Bool × List Char)
  | ':' :: '-' :: rest => some (.standIn, true, rest)
  | ':' :: '=' :: rest => some (.assign, true, rest)
  | ':' :: '?' :: rest => some (.demand, true, rest)
  | ':' :: '+' :: rest => some (.whenSet, true, rest)
  | '-' :: rest => some (.standIn, false, rest)
  | '=' :: rest => some (.assign, false, rest)
  | '?' :: rest => some (.demand, false, rest)
  | '+' :: rest => some (.whenSet, false, rest)
  | '%' :: '%' :: rest => some (.cut true true, false, rest)
  | '%' :: rest => some (.cut true false, false, rest)
  | '#' :: '#' :: rest => some (.cut false true, false, rest)
  | '#' :: rest => some (.cut false false, false, rest)
  | _ => none

/-- The name of a parameter in braces, and what follows it. -/
def takeParameter : List Char → Option (String × List Char)
  | [] => none
  | c :: rest =>
    if beginsName c then some (takeName (c :: rest))
    else if c.isDigit then
      some (String.ofList ((c :: rest).takeWhile Char.isDigit), (c :: rest).dropWhile Char.isDigit)
    else if isSpecialParameter c then some (String.singleton c, rest)
    else none

/-- The descriptor at the front of a redirection, if one stands there, and the sign after it. -/
def takeDescriptor (cs : List Char) : Option (Option Nat × List Char) :=
  let digits := cs.takeWhile Char.isDigit
  match cs.dropWhile Char.isDigit with
  | '<' :: rest => some ((String.ofList digits).toNat?, '<' :: rest)
  | '>' :: rest => some ((String.ofList digits).toNat?, '>' :: rest)
  | _ => none

/-- The direction that a sign stands for, with the descriptor that it changes if none is named. -/
def directionOf : List Char → Option (Nat × Direction × List Char)
  | '>' :: '>' :: rest => some (1, .append, rest)
  | '>' :: '&' :: rest => some (1, .copy, rest)
  | '>' :: '|' :: rest => some (1, .write, rest)
  | '>' :: rest => some (1, .write, rest)
  | '<' :: '&' :: rest => some (0, .copy, rest)
  | '<' :: '<' :: _ => none
  | '<' :: rest => some (0, .read, rest)
  | _ => none

/-- The name of an assignment, and the text after its equals sign. -/
def takeAssignment (cs : List Char) : Option (String × List Char) :=
  match takeName cs with
  | (name, '=' :: rest) => if cs.head?.any beginsName then some (name, rest) else none
  | _ => none

/-- The name of a function that is defined here, and the text after its brackets. -/
def takeDefinition (cs : List Char) : Option (String × List Char) :=
  if !cs.head?.any beginsName then none
  else
    let (name, rest) := takeName cs
    match skipBlanks rest with
    | '(' :: rest =>
      match skipBlanks rest with
      | ')' :: rest => some (name, rest)
      | _ => none
    | _ => none

/-! ## Words and commands -/

mutual

/-- Reads the parts of a word. -/
def readParts : Nat → List Char → Option (List Part × List Char)
  | 0, _ => none
  | _, [] => some ([], [])
  | fuel + 1, c :: rest =>
    let follow (part : Part) (after : List Char) : Option (List Part × List Char) :=
      (readParts fuel after).map fun (parts, left) => (part :: parts, left)
    if endsWord c then some ([], c :: rest)
    else if c = '\'' then
      match rest.dropWhile (· ≠ '\'') with
      | [] => none
      | _ :: after => follow (.literal (rest.takeWhile (· ≠ '\'')) true) after
    else if c = '"' then
      match readQuoted fuel rest with
      | some (parts, '"' :: after) =>
        (readParts fuel after).map fun (more, left) => (.literal [] true :: parts ++ more, left)
      | _ => none
    else if c = '\\' then
      match rest with
      | '\n' :: after => readParts fuel after
      | d :: after => follow (.literal [d] true) after
      | [] => some ([.literal ['\\'] true], [])
    else if c = '$' then
      match readDollar fuel false rest with
      | some (part, after) => follow part after
      | none => none
    else if c = '\x60' then
      match readBackquote fuel false rest with
      | some (part, after) => follow part after
      | none => none
    else follow (.literal ((c :: rest).takeWhile isOrdinary) false) ((c :: rest).dropWhile isOrdinary)

/-- Reads parts between double quotes, up to the closing one or the end. -/
def readQuoted : Nat → List Char → Option (List Part × List Char)
  | 0, _ => none
  | _, [] => some ([], [])
  | fuel + 1, c :: rest =>
    let follow (part : Part) (after : List Char) : Option (List Part × List Char) :=
      (readQuoted fuel after).map fun (parts, left) => (part :: parts, left)
    if c = '"' then some ([], '"' :: rest)
    else if c = '\\' then
      match rest with
      | [] => none
      | d :: after =>
        if d = '\n' then readQuoted fuel after
        else follow (.literal (if isSpecial d then [d] else ['\\', d]) true) after
    else if c = '$' then
      match readDollar fuel true rest with
      | some (part, after) => follow part after
      | none => none
    else if c = '\x60' then
      match readBackquote fuel true rest with
      | some (part, after) => follow part after
      | none => none
    else follow (.literal ((c :: rest).takeWhile (!isSpecial ·)) true) ((c :: rest).dropWhile (!isSpecial ·))

/-- Reads what follows a dollar sign. -/
def readDollar : Nat → Bool → List Char → Option (Part × List Char)
  | 0, _, _ => none
  | fuel + 1, quoted, cs =>
    match cs with
    | '(' :: '(' :: rest =>
      match takeExpression 0 rest with
      | some (expression, after) =>
        match readQuoted fuel expression with
        | some (parts, []) => some (.arithmetic parts quoted, after)
        | _ => none
      | none => none
    | '(' :: rest =>
      match readList fuel rest with
      | some (script, ')' :: after) => some (.output script quoted, after)
      | _ => none
    | '\x7b' :: rest => readBraces fuel quoted rest
    | c :: rest =>
      if beginsName c then
        let (name, after) := takeName (c :: rest)
        some (.parameter name .asIs false [] quoted, after)
      else if c.isDigit ∨ isSpecialParameter c then
        some (.parameter (String.singleton c) .asIs false [] quoted, rest)
      else some (.literal ['$'] quoted, c :: rest)
    | [] => some (.literal ['$'] quoted, [])

/-- Reads a parameter in braces. -/
def readBraces : Nat → Bool → List Char → Option (Part × List Char)
  | 0, _, _ => none
  | fuel + 1, quoted, cs =>
    let plain : Option (Part × List Char) :=
      match takeParameter cs with
      | none => none
      | some (name, '\x7d' :: after) => some (.parameter name .asIs false [] quoted, after)
      | some (name, rest) =>
        match changeOf rest with
        | none => none
        | some (change, orEmpty, rest) =>
          match readBraceWord fuel quoted rest with
          | some (word, after) => some (.parameter name change orEmpty word quoted, after)
          | none => none
    match cs with
    | '#' :: rest =>
      match takeParameter rest with
      | some (name, '\x7d' :: after) => some (.parameter name .length false [] quoted, after)
      | _ => plain
    | _ => plain

/-- Reads the word of a parameter in braces, up to the closing brace. -/
def readBraceWord : Nat → Bool → List Char → Option (List Part × List Char)
  | 0, _, _ => none
  | _, _, [] => none
  | fuel + 1, quoted, c :: rest =>
    let follow (part : Part) (after : List Char) : Option (List Part × List Char) :=
      (readBraceWord fuel quoted after).map fun (parts, left) => (part :: parts, left)
    if c = '\x7d' then some ([], rest)
    else if c = '\'' ∧ !quoted then
      match rest.dropWhile (· ≠ '\'') with
      | [] => none
      | _ :: after => follow (.literal (rest.takeWhile (· ≠ '\'')) true) after
    else if c = '"' then
      match readQuoted fuel rest with
      | some (parts, '"' :: after) =>
        (readBraceWord fuel quoted after).map fun (more, left) => (.literal [] true :: parts ++ more, left)
      | _ => none
    else if c = '\\' then
      match rest with
      | [] => none
      | d :: after => follow (.literal (if quoted && !isSpecial d && d ≠ '\x7d' then ['\\', d] else [d]) true) after
    else if c = '$' then
      match readDollar fuel quoted rest with
      | some (part, after) => follow part after
      | none => none
    else if c = '\x60' then
      match readBackquote fuel quoted rest with
      | some (part, after) => follow part after
      | none => none
    else follow (.literal [c] quoted) rest

/-- Reads a script between backquotes. -/
def readBackquote : Nat → Bool → List Char → Option (Part × List Char)
  | 0, _, _ => none
  | fuel + 1, quoted, cs =>
    match takeBackquoted cs with
    | some (inner, after) =>
      match readList fuel inner with
      | some (script, []) => some (.output script quoted, after)
      | _ => none
    | none => none

/-- Reads a word, which has to have a part. -/
def readWord : Nat → List Char → Option (Word × List Char)
  | 0, _ => none
  | fuel + 1, cs =>
    match readParts fuel cs with
    | some (part :: parts, rest) => some (part :: parts, rest)
    | _ => none

/-- Reads words up to the end of a command. -/
def readWords : Nat → List Char → Option (List Word × List Char)
  | 0, _ => none
  | fuel + 1, cs =>
    match skipBlanks cs with
    | [] => some ([], [])
    | c :: rest =>
      if endsWord c then some ([], c :: rest)
      else match readWord fuel (c :: rest) with
        | some (word, after) => (readWords fuel after).map fun (words, left) => (word :: words, left)
        | none => none

/-- Reads a redirection, if one stands here. -/
def readRedirection : Nat → List Char → Option (Option (Redirection × List Char))
  | 0, _ => none
  | fuel + 1, cs =>
    match takeDescriptor cs with
    | none => some none
    | some (named?, sign) =>
      match directionOf sign with
      | none => none
      | some (usual, direction, rest) =>
        match readWord fuel (skipBlanks rest) with
        | some (target, after) => some (some (.mk (named?.getD usual) direction target, after))
        | none => none

/-- Reads the redirections after a command. -/
def readRedirections : Nat → List Char → Option (List Redirection × List Char)
  | 0, _ => none
  | fuel + 1, cs =>
    let cs := skipBlanks cs
    match readRedirection fuel cs with
    | none => none
    | some none => some ([], cs)
    | some (some (redirection, rest)) =>
      (readRedirections fuel rest).map fun (more, after) => (redirection :: more, after)

/-- Reads the assignments, words and redirections of a simple command. -/
def readSimple : Nat → Bool → List Char →
    Option (List (String × Word) × List Word × List Redirection × List Char)
  | 0, _, _ => none
  | fuel + 1, named, cs =>
    let cs := skipBlanks cs
    match readRedirection fuel cs with
    | none => none
    | some (some (redirection, rest)) =>
      (readSimple fuel named rest).map fun (assignments, words, redirections, after) =>
        (assignments, words, redirection :: redirections, after)
    | some none =>
      match (if named then none else takeAssignment cs) with
      | some (name, rest) =>
        match readParts fuel rest with
        | some (value, rest) =>
          (readSimple fuel named rest).map fun (assignments, words, redirections, after) =>
            ((name, value) :: assignments, words, redirections, after)
        | none => none
      | none =>
        if cs.head?.all endsWord then some ([], [], [], cs)
        else match readWord fuel cs with
          | some (word, rest) =>
            (readSimple fuel true rest).map fun (assignments, words, redirections, after) =>
              (assignments, word :: words, redirections, after)
          | none => none

/-- Reads a list of commands up to a word that closes it, and that word. -/
def readUntil : Nat → String → List Char → Option (Command × List Char)
  | 0, _, _ => none
  | fuel + 1, closer, cs =>
    match readList fuel cs with
    | some (list, rest) => (skipWord closer rest).map (list, ·)
    | none => none

/-- Reads what follows the condition of a conditional. -/
def readBranches : Nat → List Char → Option ((Command × Command) × List Char)
  | 0, _ => none
  | fuel + 1, cs =>
    match readList fuel cs with
    | none => none
    | some (body, rest) =>
      match skipWord "fi" rest, skipWord "else" rest, skipWord "elif" rest with
      | some after, _, _ => some ((body, .nothing), after)
      | _, some after, _ => (readUntil fuel "fi" after).map fun (otherwise, left) => ((body, otherwise), left)
      | _, _, some after =>
        match readUntil fuel "then" after with
        | some (test, rest) =>
          (readBranches fuel rest).map fun ((inner, otherwise), left) =>
            ((body, .conditional test inner otherwise []), left)
        | none => none
      | _, _, _ => none

/-- Reads the patterns of a branch, with bars between them, and the bracket after them. -/
def readPatterns : Nat → List Char → Option (List Word × List Char)
  | 0, _ => none
  | fuel + 1, cs =>
    match readWord fuel (skipBlanks cs) with
    | none => none
    | some (word, rest) =>
      match skipBlanks rest with
      | '|' :: rest => (readPatterns fuel rest).map fun (words, after) => (word :: words, after)
      | ')' :: rest => some ([word], rest)
      | _ => none

/-- Reads the branches of a choice, and the word that closes it. -/
def readChoices : Nat → List Char → Option (List (List Word × Command) × List Char)
  | 0, _ => none
  | fuel + 1, cs =>
    let cs := skipLines (cs.length + 1) cs
    match skipWord "esac" cs with
    | some rest => some ([], rest)
    | none =>
      let cs := match cs with
        | '(' :: rest => rest
        | _ => cs
      match readPatterns fuel cs with
      | none => none
      | some (patterns, rest) =>
        match readList fuel rest with
        | none => none
        | some (body, rest) =>
          let rest := match rest with
            | ';' :: ';' :: after => after
            | _ => rest
          (readChoices fuel rest).map fun (choices, after) => ((patterns, body) :: choices, after)

/-- Reads the body of a loop, and its redirections. -/
def readBody : Nat → List Char → Option (Command × List Redirection × List Char)
  | 0, _ => none
  | fuel + 1, cs =>
    match skipWord "do" (skipLines (cs.length + 1) cs) with
    | none => none
    | some rest =>
      match readUntil fuel "done" rest with
      | none => none
      | some (body, rest) => (readRedirections fuel rest).map fun (redirections, after) => (body, redirections, after)

/-- Reads a command that a word or a bracket begins. -/
def readCompound : Nat → String → List Char → Option (Command × List Char)
  | 0, _, _ => none
  | fuel + 1, word, cs =>
    if word = "if" then
      match readUntil fuel "then" cs with
      | none => none
      | some (test, rest) =>
        match readBranches fuel rest with
        | none => none
        | some ((body, otherwise), rest) =>
          (readRedirections fuel rest).map fun (redirections, after) =>
            (.conditional test body otherwise redirections, after)
    else if word = "while" ∨ word = "until" then
      match readList fuel cs with
      | none => none
      | some (test, rest) =>
        (readBody fuel rest).map fun (body, redirections, after) =>
          (.loop (word = "until") test body redirections, after)
    else if word = "for" then
      let (name, rest) := takeName (skipBlanks cs)
      match skipWord "in" (skipLines (rest.length + 1) rest) with
      | some rest =>
        match readWords fuel rest with
        | none => none
        | some (words, rest) =>
          (readBody fuel (match rest with
            | ';' :: after => after
            | _ => rest)).map fun (body, redirections, after) => (.each name (some words) body redirections, after)
      | none =>
        (readBody fuel (match skipBlanks rest with
          | ';' :: after => after
          | other => other)).map fun (body, redirections, after) => (.each name none body redirections, after)
    else if word = "case" then
      match readWord fuel (skipBlanks cs) with
      | none => none
      | some (subject, rest) =>
        match skipWord "in" (skipLines (rest.length + 1) rest) with
        | none => none
        | some rest =>
          match readChoices fuel rest with
          | none => none
          | some (choices, rest) =>
            (readRedirections fuel rest).map fun (redirections, after) =>
              (.choose subject choices redirections, after)
    else if word = "\x7b" then
      match readUntil fuel "\x7d" cs with
      | none => none
      | some (body, rest) =>
        (readRedirections fuel rest).map fun (redirections, after) => (.group body redirections, after)
    else none

/-- Reads one command. -/
def readCommand : Nat → List Char → Option (Command × List Char)
  | 0, _ => none
  | fuel + 1, cs =>
    let word := peekWord cs
    if ["if", "while", "until", "for", "case", "\x7b"].contains word then
      readCompound fuel word (cs.drop word.length)
    else match cs with
      | '(' :: rest =>
        match readList fuel rest with
        | some (body, ')' :: rest) =>
          (readRedirections fuel rest).map fun (redirections, after) => (.subshell body redirections, after)
        | _ => none
      | _ =>
        match takeDefinition cs with
        | some (name, rest) =>
          (readCommand fuel (skipLines (rest.length + 1) rest)).map fun (body, after) => (.define name body, after)
        | none =>
          match readSimple fuel false cs with
          | some (assignments, words, redirections, after) =>
            if assignments.isEmpty ∧ words.isEmpty ∧ redirections.isEmpty then none
            else some (.simple assignments words redirections, after)
          | none => none

/-- Reads commands with bars between them. -/
def readPipes : Nat → List Char → Option (List Command × List Char)
  | 0, _ => none
  | fuel + 1, cs =>
    match readCommand fuel cs with
    | none => none
    | some (command, rest) =>
      match skipBlanks rest with
      | '|' :: '|' :: after => some ([command], '|' :: '|' :: after)
      | '|' :: after =>
        (readPipes fuel (skipLines (after.length + 1) after)).map fun (commands, left) => (command :: commands, left)
      | rest => some ([command], rest)

/-- Reads a pipeline, perhaps after a word that negates it. -/
def readPipeline : Nat → List Char → Option (Command × List Char)
  | 0, _ => none
  | fuel + 1, cs =>
    match skipWord "!" cs with
    | some rest => (readPipes fuel (skipBlanks rest)).map fun (commands, after) => (.pipeline true commands, after)
    | none =>
      (readPipes fuel cs).map fun (commands, after) =>
        (match commands with
          | [command] => command
          | _ => .pipeline false commands, after)

/-- Reads the pipelines that follow `first`, each under a condition. -/
def readConditions : Nat → Command → List Char → Option (Command × List Char)
  | 0, _, _ => none
  | fuel + 1, first, cs =>
    match skipBlanks cs with
    | '&' :: '&' :: rest =>
      match readPipeline fuel (skipLines (rest.length + 1) rest) with
      | some (second, after) => readConditions fuel (.both first second) after
      | none => none
    | '|' :: '|' :: rest =>
      match readPipeline fuel (skipLines (rest.length + 1) rest) with
      | some (second, after) => readConditions fuel (.either first second) after
      | none => none
    | rest => some (first, rest)

/-- Reads a list of commands up to its end. -/
def readList : Nat → List Char → Option (Command × List Char)
  | 0, _ => none
  | fuel + 1, cs =>
    let cs := skipLines (cs.length + 1) cs
    if atEnd cs then some (.nothing, cs)
    else match readPipeline fuel cs with
      | none => none
      | some (first, rest) =>
        match readConditions fuel first rest with
        | none => none
        | some (first, rest) =>
          let follow (first : Command) (after : List Char) : Option (Command × List Char) :=
            (readList fuel after).map fun (more, left) =>
              (match more with
                | .nothing => first
                | _ => .sequence first more, left)
          match rest with
          | ';' :: ';' :: _ => some (first, rest)
          | ';' :: after => follow first after
          | '&' :: after => follow (.apart first) after
          | '\n' :: after => follow first after
          | _ => some (first, rest)

end

/-- The steps that each character of a script may take to read. -/
def stepsPerChar : Nat := 16

/-- Reads a whole script. -/
def readScript (script : String) : Option Command :=
  let cs := script.toList
  match readList (stepsPerChar * (cs.length + 1)) cs with
  | some (command, []) => some command
  | _ => none

end BuildCredentials.Shell
