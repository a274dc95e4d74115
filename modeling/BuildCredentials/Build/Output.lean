import BuildCredentials.Bytes.Utf8

/-!
# The output of an engine

An engine writes two streams, which are passed on line by line as they come. A line ends with a line feed, and a
carriage return before it belongs to its end; the last line may lack its end. A line that is no text ends its
stream.
-/

set_option autoImplicit false

namespace BuildCredentials.Build

/-- A line without the carriage return that belongs to its end. -/
def withoutReturn (line : List UInt8) : List UInt8 := if line.getLast? = some 13 then line.dropLast else line

/-- The lines of a stream. -/
def linesOf (bytes : List UInt8) : List (List UInt8) :=
  let parts := bytes.splitOn 10
  parts.dropLast.map withoutReturn ++ (parts.getLast?.filter (· ≠ [])).toList

/-- The texts of lines, up to the first that is none. -/
def textsOf : List (List UInt8) → List String
  | [] => []
  | line :: rest =>
    match Utf8.decode? line with
    | some text => text :: textsOf rest
    | none => []

/-- The lines of a stream that are passed on. -/
def passedOn (bytes : List UInt8) : List String := textsOf (linesOf bytes)

/-- The streams of an engine. -/
inductive Stream where
  | output
  | errors
  deriving DecidableEq, Repr

/-- Passes on lines of both streams, at each step from the stream that has a line first; what is left when nothing
more is known of the order comes stream by stream. -/
def forward : List Stream → List String → List String → List (Stream × String)
  | .output :: order, line :: output, errors => (.output, line) :: forward order output errors
  | .errors :: order, output, line :: errors => (.errors, line) :: forward order output errors
  | .output :: order, [], errors => forward order [] errors
  | .errors :: order, output, [] => forward order output []
  | [], output, errors => output.map (.output, ·) ++ errors.map (.errors, ·)

end BuildCredentials.Build
