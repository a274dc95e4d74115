import BuildCredentials.Shell.Tool.Basic

/-!
# Tools for text

These tools read the files that they are given, or else their input, and write what they make of it.

Engines that are scripts start them.
-/

set_option autoImplicit false

namespace BuildCredentials.Shell.Tool

/-- Copies files to the output. -/
def cat : Tool := fun args => filter "cat" (splitOptions args).2 (·, 0)

/-- The count of an option such as "-n 5", "-n5" or "-5", and the paths that are left. -/
def countOption (letters : List Char) (usual : Nat) : List String → (Char × Nat) × List String
  | [] => (('n', usual), [])
  | arg :: rest =>
    match arg.toList with
    | ['-', letter] =>
      if letters.contains letter then
        match rest with
        | count :: paths => ((letter, (count.toNat?).getD usual), paths)
        | [] => ((letter, usual), [])
      else (('n', usual), arg :: rest)
    | '-' :: letter :: digits =>
      if letters.contains letter then ((letter, ((String.ofList digits).toNat?).getD usual), rest)
      else (('n', ((String.ofList (letter :: digits)).toNat?).getD usual), rest)
    | _ => (('n', usual), arg :: rest)

/-- The first lines or bytes. -/
def head : Tool := fun args =>
  let ((letter, n), paths) := countOption ['n', 'c'] 10 args
  filter "head" paths fun content =>
    (if letter = 'c' then content.take n
     else
       let taken := joinLines ((linesOf content).take n)
       if content.length < taken.length then content else taken, 0)

/-- The last lines or bytes. -/
def tail : Tool := fun args =>
  let ((letter, n), paths) := countOption ['n', 'c'] 10 args
  filter "tail" paths fun content =>
    if letter = 'c' then (content.drop (content.length - n), 0)
    else
      let lines := linesOf content
      let skipped := joinLines (lines.take (lines.length - n))
      (content.drop skipped.length, 0)

/-- Counts lines, words or bytes. -/
def wc : Tool := fun args =>
  let (options, paths) := splitOptions args
  filter "wc" paths fun content =>
    let counts := [
      ("-l", (content.filter (· = 10)).length),
      ("-w", ((content.map fun b => if b ≤ 32 then 32 else b).splitOn 32 |>.filter (· ≠ [])).length),
      ("-c", content.length), ("-m", content.length)]
    let shown := if options = [] then counts.take 3 else counts.filter fun (o, _) => options.contains o
    let width := if shown.length = 1 then 0 else 7
    let texts := shown.map fun (_, n) =>
      let digits := toString n
      String.ofList (List.replicate (width - digits.length) ' ') ++ digits
    (Utf8.encode (" ".intercalate texts ++ "\n"), 0)

/-- The whole numbers from one to another. -/
def seq : Tool := fun args _ files =>
  match args.map String.toInt? with
  | [some last] => done files 1 1 last
  | [some first, some last] => done files first 1 last
  | [some first, some step, some last] => done files first step last
  | _ => { files, errors := message "seq" "missing operand", status := 1 }
where
  /-- Numbers with a step between them. -/
  done (files : FileTree) (first step last : Int) : Done :=
    let count := if step = 0 then 0 else ((last - first).fdiv step + 1).toNat
    let numbers := (List.range count).map fun i => toString (first + step * (i : Nat))
    { files, output := Utf8.encode (String.join (numbers.map (· ++ "\n"))) }

/-- The characters of a set such as "a-z\n". -/
def characterSet : List Char → List Char
  | '\\' :: 'n' :: rest => '\n' :: characterSet rest
  | '\\' :: 't' :: rest => '\t' :: characterSet rest
  | '\\' :: 'r' :: rest => '\r' :: characterSet rest
  | '\\' :: '0' :: rest => '\x00' :: characterSet rest
  | '\\' :: '\\' :: rest => '\\' :: characterSet rest
  | a :: '-' :: b :: rest =>
    (List.range (b.toNat + 1 - a.toNat)).map (fun i => Char.ofNat (a.toNat + i)) ++ characterSet rest
  | a :: rest => a :: characterSet rest
  | [] => []

/-- Changes or drops characters. -/
def tr : Tool := fun args =>
  let (options, sets) := splitOptions args
  let set (n : Nat) : List UInt8 := (characterSet ((sets[n]?).getD "").toList).map fun c => UInt8.ofNat c.toNat
  filter "tr" [] fun content =>
    if options.contains "-d" then (content.filter fun b => !(set 0).contains b, 0)
    else
      let target := set 1
      (content.map fun b =>
        match (set 0).idxOf? b with
        | some i => ((target[i]?).or target.getLast?).getD b
        | none => b, 0)

/-- Puts lines in order. -/
def sort : Tool := fun args =>
  let (options, paths) := splitOptions args
  filter "sort" paths fun content =>
    let sorted := (linesOf content).mergeSort fun a b => (compare a b).isLE
    let sorted := if options.contains "-r" then sorted.reverse else sorted
    (joinLines (if options.contains "-u" then sorted.eraseReps else sorted), 0)

/-- Whether a simple pattern matches a text at its front: a point stands for any character, a star for any
number of the character before it, a dollar sign for the end. -/
def matchesHere : Nat → List Char → List Char → Bool
  | 0, _, _ => false
  | _, [], _ => true
  | fuel + 1, p :: '*' :: rest, cs =>
    matchesHere fuel rest cs ||
      match cs with
      | c :: more => (p = '.' || p = c) && matchesHere fuel (p :: '*' :: rest) more
      | [] => false
  | fuel + 1, '\\' :: p :: rest, cs =>
    match cs with
    | c :: more => p = c && matchesHere fuel rest more
    | [] => false
  | _, ['$'], cs => cs.isEmpty
  | fuel + 1, p :: rest, cs =>
    match cs with
    | c :: more => (p = '.' || p = c) && matchesHere fuel rest more
    | [] => false

/-- Whether a simple pattern matches a text somewhere; a caret stands for the beginning. -/
def matchesIn (pattern cs : List Char) : Bool :=
  let fuel := pattern.length + cs.length + 1
  match pattern with
  | '^' :: rest => matchesHere fuel rest cs
  | _ => (List.range (cs.length + 1)).any fun i => matchesHere fuel pattern (cs.drop i)

/-- The lines that a simple pattern matches. -/
def grep : Tool := fun args =>
  let (options, rest) := splitOptions args
  let flags := (options.flatMap fun o => o.toList.drop 1)
  match rest with
  | [] => fun _ files => { files, status := 2 }
  | pattern :: paths => filter "grep" paths fun content =>
    let fits (line : List UInt8) : Bool :=
      let cs := (Utf8.decodeLossy line).toList
      let lower (cs : List Char) : List Char := if flags.contains 'i' then cs.map Char.toLower else cs
      matchesIn (lower pattern.toList) (lower cs) != flags.contains 'v'
    let found := (linesOf content).filter fits
    let output := if flags.contains 'q' then []
      else if flags.contains 'c' then Utf8.encode (toString found.length ++ "\n")
      else joinLines found
    (output, if found = [] then 1 else 0)

/-- The numbers of fields that a list such as "1,3-" names, out of so many. -/
def fieldNumbers (total : Nat) (list : String) : List Nat :=
  (list.splitOn ",").flatMap fun range =>
    match (range.splitOn "-").map String.toNat? with
    | [some n] => [n]
    | [first?, last?] => (List.range (total + 1)).filter fun n => first?.getD 1 ≤ n ∧ n ≤ last?.getD total
    | _ => []

/-- The value of an option that follows its letter or stands in the next argument. -/
def optionValue? (letter : Char) : List String → Option String
  | [] => none
  | arg :: rest =>
    match arg.toList with
    | '-' :: c :: value =>
      if c = letter then if value = [] then rest.head? else some (String.ofList value)
      else optionValue? letter rest
    | _ => optionValue? letter rest

/-- Cuts fields or characters out of lines. -/
def cut : Tool := fun args =>
  filter "cut" [] fun content =>
    let separator := ((optionValue? 'd' args).bind (·.toList.head?)).getD '\t'
    let pick {α : Type} (items : List α) (list : String) : List α :=
      let numbers := fieldNumbers items.length list
      (items.zipIdx 1).filterMap fun (item, n) => if numbers.contains n then some item else none
    let line (text : String) : String :=
      match optionValue? 'f' args, (optionValue? 'c' args).or (optionValue? 'b' args) with
      | some list, _ =>
        let fields := text.splitOn (String.singleton separator)
        if fields.length = 1 then text else (String.singleton separator).intercalate (pick fields list)
      | none, some list => String.ofList (pick text.toList list)
      | none, none => text
    (joinLines ((linesOf content).map fun l => Utf8.encode (line (Utf8.decodeLossy l))), 0)

/-- Drops lines that repeat the line before them. -/
def uniq : Tool := fun args =>
  filter "uniq" (splitOptions args).2 fun content => (joinLines (linesOf content).eraseReps, 0)

end BuildCredentials.Shell.Tool
