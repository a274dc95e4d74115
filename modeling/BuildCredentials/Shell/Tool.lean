import BuildCredentials.Shell.Format
import BuildCredentials.Shell.Test
import BuildCredentials.Shell.Tool.Files
import BuildCredentials.Shell.Tool.Text

/-!
# Tools by name

The tools that write and test are here, and the list of all of them.

Engines that are scripts start them, like the programs of any machine.
-/

set_option autoImplicit false

namespace BuildCredentials.Shell.Tool

/-- Writes its arguments; escapes have a meaning only if it is told so. -/
def echo : Tool := fun args _ files =>
  match args with
  | "-e" :: rest => { files, output := Format.echo true rest }
  | "-E" :: rest => { files, output := Format.echo false rest }
  | _ => { files, output := Format.echo false args }

/-- Writes its arguments by a format. -/
def printf : Tool := fun args _ files =>
  match args with
  | [] => { files, errors := message "printf" "missing operand", status := 1 }
  | format :: rest =>
    let (output, unfit) := Format.print format rest
    let excess := match rest with
      | arg :: _ =>
        if Format.takesArguments format then []
        else message "printf" ("warning: ignoring excess arguments, starting with '" ++ arg ++ "'")
      | [] => []
    let faults := unfit.flatMap fun arg => message "printf" ("'" ++ arg ++ "': expected a numeric value")
    { files, output, status := if unfit = [] then 0 else 1, errors := faults ++ excess }

/-- Whether a text is a time to wait for: a number, perhaps with a unit. -/
def isTime (text : String) : Bool :=
  let cs := text.toList
  let digits := if cs.getLast?.any (['s', 'm', 'h', 'd'].contains ·) then cs.dropLast else cs
  let parts := digits.splitOn '.'
  parts.length ≤ 2 && parts.all (·.all Char.isDigit) && parts.any (· ≠ [])

/-- Waits for a time, which passes at once. -/
def sleep : Tool := fun args _ files =>
  let wrong := args.filter (!isTime ·)
  let hint := Utf8.encode "Try 'sleep --help' for more information.\n"
  if args = [] then { files, errors := message "sleep" "missing operand" ++ hint, status := 1 }
  else if wrong = [] then { files }
  else
    let faults := wrong.flatMap fun arg => message "sleep" ("invalid time interval '" ++ arg ++ "'")
    { files, errors := faults ++ hint, status := 1 }

/-- The exit code of a condition, whose last word is a bracket if the tool is called by one. -/
def test (bracket : Bool) : Tool := fun args _ files =>
  let name := if bracket then "[" else "test"
  let words := if bracket then args.dropLast else args
  if bracket ∧ args.getLast? ≠ some "]" then { files, errors := message name "missing ']'", status := 2 }
  else match Test.run files words with
    | .ok holds => { files, status := if holds then 0 else 1 }
    | .error fault => { files, errors := message name fault.message, status := 2 }

/-- The tools that read no variables, by name. -/
def named? : String → Option Tool
  | "true" | "sync" | "chmod" => some fun _ _ files => { files }
  | "sleep" => some sleep
  | "false" => some fun _ _ files => { files, status := 1 }
  | "cat" => some cat
  | "head" => some head
  | "tail" => some tail
  | "wc" => some wc
  | "seq" => some seq
  | "tr" => some tr
  | "sort" => some sort
  | "uniq" => some uniq
  | "cut" => some cut
  | "grep" => some grep
  | "mkdir" => some mkdir
  | "rm" => some rm
  | "touch" => some touch
  | "ls" => some ls
  | "cp" => some (bring "cp" true)
  | "mv" => some (bring "mv" false)
  | "tee" => some tee
  | "basename" => some basename
  | "dirname" => some dirname
  | "stat" => some stat
  | "echo" => some echo
  | "printf" => some printf
  | "test" => some (test false)
  | "[" => some (test true)
  | "pwd" => some fun _ _ files => { files, output := Utf8.encode (files.absolutePath files.here ++ "\n") }
  | _ => none

end BuildCredentials.Shell.Tool
