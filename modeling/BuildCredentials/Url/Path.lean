import BuildCredentials.Url.Percent
import BuildCredentials.Url.Scheme

/-!
# Paths

A path is read segment by segment: a segment of one dot is left out, and one of two dots takes away the
segment before it, unless this begins with a drive letter, of files or not. In file addresses a drive letter takes the
host away, and slashes at the front count once.
-/

set_option autoImplicit false

namespace BuildCredentials.Url.Path

/-- The spellings of one dot. -/
def isSingleDot (segment : List Char) : Bool := segment.map Char.toLower ∈ [['.'], ['%', '2', 'e']]

/-- The spellings of two dots. -/
def isDoubleDot (segment : List Char) : Bool :=
  segment.map Char.toLower ∈
    [['.', '.'], ['%', '2', 'e', '.'], ['.', '%', '2', 'e'], ['%', '2', 'e', '%', '2', 'e']]

/-- A letter and a colon or a bar. -/
def isDriveLetter : List Char → Bool
  | [c, mark] => c.isAlpha && (mark = ':' || mark = '|')
  | _ => false

/-- A letter and a colon. -/
def isNormalDriveLetter : List Char → Bool
  | [c, ':'] => c.isAlpha
  | _ => false

/-- A drive letter, with nothing behind it or a backslash. -/
def beginsWithDrive (segment : List Char) : Bool :=
  isDriveLetter (segment.take 2) && (segment.drop 2).head?.all (· = '\\')

/-- A path that is being read: its segments so far, the last one first. -/
structure Walk where
  segments : List (List Char) := []
  /-- Whether a drive letter was met, which no host may go before. -/
  hasDrive : Bool := false

/-- Takes away the last segment, but never one that begins with a drive letter. -/
def Walk.up (w : Walk) : Walk :=
  match w.segments with
  | [] => w
  | s :: rest => if beginsWithDrive s then w else { w with segments := rest }

/-- Puts a segment at the end. -/
def Walk.push (w : Walk) (segment : List Char) : Walk := { w with segments := segment :: w.segments }

/-- Puts the first segment of the path of a file, of which a drive letter is a segment of its own. -/
def Walk.pushFirst (w : Walk) (segment : List Char) : Walk :=
  if isDriveLetter segment then
    { segments := (segment.take 1 ++ [':']) :: w.segments, hasDrive := true }
  else if isNormalDriveLetter (segment.take 2) then (w.push (segment.take 2)).push (segment.drop 2)
  else w.push segment

/-- Takes the next segment, in which what has to be is encoded; `last` says that no slash follows it. -/
def Walk.step (kind : SchemeKind) (w : Walk) (segment : List Char) (last : Bool) : Walk :=
  if isDoubleDot segment then
    let w := w.up
    if last then w.push [] else w
  else if isSingleDot segment then if last then w.push [] else w
  else if kind = .file ∧ w.segments = [] then w.pushFirst segment
  else w.push segment

/-- Takes all segments. -/
def Walk.steps (kind : SchemeKind) (w : Walk) : List (List Char) → Walk
  | [] => w
  | [s] => w.step kind s true
  | s :: t :: rest => (w.step kind s false).steps kind (t :: rest)

/-- Whether a character ends a segment. -/
def isSlash (kind : SchemeKind) (c : Char) : Bool := c = '/' || (kind.isSpecial && c = '\\')

/-- Segments with a slash before each. -/
def text (segments : List (List Char)) : List Char := segments.flatMap ('/' :: ·)

/-- The segments of a text after its first slash, in order. -/
def walk (kind : SchemeKind) (cs : List Char) : Walk :=
  ({} : Walk).steps kind ((cs.splitOnP (isSlash kind)).map (Percent.encode Percent.inPath))

/-- Slashes at the front of the path of a file count once. -/
def trimFront (kind : SchemeKind) (segments : List (List Char)) : List (List Char) :=
  if kind = .file then
    match segments.dropWhile (· = []) with
    | [] => [[]]
    | s :: rest => s :: rest
  else segments

/-- Drops the slash that a path begins with. -/
def dropSlash (kind : SchemeKind) : List Char → List Char
  | [] => []
  | c :: rest => if isSlash kind c then rest else c :: rest

/-- The path that a text stands for behind a host, and whether it holds a drive letter. Addresses of a special
scheme always have a path; elsewhere the empty text is an empty path. -/
def read (kind : SchemeKind) (cs : List Char) : List Char × Bool :=
  if kind.isSpecial || cs ≠ [] then
    let w := walk kind (dropSlash kind cs)
    (text (trimFront kind w.segments.reverse), w.hasDrive)
  else ([], false)

end BuildCredentials.Url.Path
