import BuildCredentials.Build.Output

/-!
# Two streams passed on as they come

The streams of an engine come in pieces, and whichever has a line first is served first. What is not a whole line
yet waits for more, or for the end of its stream. A stream is left at its end and at a line that is no text; when
both are left nothing more happens.

`Forwarding` is the loop of `stream_child_output`: a step is one turn of it, on the stream that has something for it,
or what the engine does between two turns. `Tap.next` is `next_line`, which makes the same of an error as of the end
of a stream, `Reading.stops`.
-/

set_option autoImplicit false

namespace BuildCredentials.Build

/-- What a reader of lines comes to. -/
inductive Reading where
  /-- A line is not there yet. -/
  | waits
  /-- A line, and what has come behind it. -/
  | line (text : String) (rest : List UInt8)
  /-- There is no line, or none that is a text. -/
  | stops
  deriving DecidableEq, Repr

/-- What a line with something behind it comes to. -/
def Reading.ofLine (line rest : List UInt8) : Reading :=
  match Utf8.decode? line with
  | some text => .line text rest
  | none => .stops

/-- A stream while it is passed on. -/
structure Tap where
  /-- What is still to come. -/
  coming : List UInt8
  /-- What has come and was not passed on. -/
  held : List UInt8 := []
  /-- Whether the end of the stream was seen. -/
  ended : Bool := false
  /-- Whether the stream was left. -/
  left : Bool := false
  deriving DecidableEq, Repr

/-- What the reader of a stream comes to. -/
def Tap.next (t : Tap) : Reading :=
  match t.held.dropWhile (· ≠ 10) with
  | _ :: rest => .ofLine (withoutReturn (t.held.takeWhile (· ≠ 10))) rest
  | [] => if !t.ended then .waits else if t.held = [] then .stops else .ofLine t.held []

/-- What happens on a stream that was not left, and the line that is passed on thereby. -/
inductive Tap.Step : Tap → Option String → Tap → Prop
  | comes {t : Tap} {piece rest : List UInt8} : t.left = false → piece ≠ [] → t.coming = piece ++ rest →
      Step t none { t with coming := rest, held := t.held ++ piece }
  | ends {t : Tap} : t.left = false → t.coming = [] → t.ended = false → Step t none { t with ended := true }
  | passes {t : Tap} {text : String} {rest : List UInt8} : t.left = false → t.next = .line text rest →
      Step t (some text) { t with held := rest }
  | stops {t : Tap} : t.left = false → t.next = .stops → Step t none { t with left := true }

/-- Both streams, and the lines that were passed on. -/
structure Forwarding where
  tap : Stream → Tap
  passed : List (Stream × String) := []

namespace Forwarding

/-- Nothing has come yet of streams. -/
def start (streams : Stream → List UInt8) : Forwarding := { tap := fun s => { coming := streams s } }

/-- The same with another state of one stream. -/
def setTap (f : Forwarding) (s : Stream) (t : Tap) : Stream → Tap := fun other => if other = s then t else f.tap other

/-- Something happens on one of the streams, whichever it is. -/
inductive Step : Forwarding → Forwarding → Prop
  | on {f : Forwarding} {s : Stream} {text? : Option String} {t : Tap} : (f.tap s).Step text? t →
      Step f ⟨f.setTap s t, f.passed ++ (text?.map fun text => (s, text)).toList⟩

/-- What happens in so many steps from the start. -/
inductive Run (streams : Stream → List UInt8) : Nat → Forwarding → Prop
  | start : Run streams 0 (start streams)
  | step {n : Nat} {f g : Forwarding} : Run streams n f → Step f g → Run streams (n + 1) g

/-- Both streams were left. -/
def Done (f : Forwarding) : Prop := ∀ s, (f.tap s).left = true

/-- The lines of one stream that were passed on. -/
def linesFrom (f : Forwarding) (s : Stream) : List String := (f.passed.filter (·.1 = s)).map (·.2)

end Forwarding

end BuildCredentials.Build
