import BuildCredentials.Unicode.Direction
import BuildCredentials.Unicode.Name
import BuildCredentials.Unicode.Normal
import BuildCredentials.Url.Punycode

/-!
# Domain names

`Domain.ascii?` brings a domain name to its one ASCII spelling: characters are mapped and composed, labels
beyond ASCII are written in Punycode, and Punycode labels that are already there have to stand for what their
characters would be written as. Names of ASCII letters are only put in lower case.
-/

set_option autoImplicit false

namespace BuildCredentials.Url.Domain

open Unicode

/-- The ASCII characters that no domain name may hold. -/
def isForbidden (n : Nat) : Bool :=
  n ≤ 0x20 || n = 0x7F || n ∈ ['%', '#', '/', ':', '<', '>', '?', '@', '[', '\\', ']', '^', '|'].map Char.toNat

/-! ## Mapping -/

/-- What a code point is replaced by. -/
def mapped? (n : Nat) : Option (List Nat) :=
  if n < 128 then some [if 65 ≤ n ∧ n ≤ 90 then n + 32 else n]
  else if nameValid.contains n then some [n]
  else if nameIgnored.contains n then some []
  else nameMapping.shifted? n

/-- The mapped and composed name. -/
def mapping? (name : List Nat) : Option (List Nat) := (name.mapM mapped?).map fun parts => Normal.compose parts.flatten

/-! ## Labels -/

/-- Whether a code point may stand in a label as it is. -/
def isKept (n : Nat) : Bool := mapped? n = some [n]

/-- The combining class of signs that end a syllable without a vowel. -/
def viramaClass : Nat := 9

def isVirama (n : Nat) : Bool := Normal.combiningClass n = viramaClass

def isTransparent (n : Nat) : Bool := transparent.contains n

/-- Whether the letter before, seen through marks, joins with what follows it. -/
def joinsOnward (before : List Nat) : Bool :=
  match before.dropWhile isTransparent with
  | [] => false
  | n :: _ => leftJoining.contains n || dualJoining.contains n

/-- Whether the letter after, seen through marks, joins with what goes before it. -/
def joinsBackward (rest : List Nat) : Bool :=
  match rest.dropWhile isTransparent with
  | [] => false
  | n :: _ => rightJoining.contains n || dualJoining.contains n

/-- Whether every joiner stands where it has an effect; `before` is in reverse. -/
def joinersFit (before : List Nat) : List Nat → Bool
  | [] => true
  | n :: rest =>
    let afterVirama := match before with
      | [] => false
      | m :: _ => isVirama m
    (if n = 0x200D then afterVirama
     else if n = 0x200C then afterVirama || (joinsOnward before && joinsBackward rest)
     else true) && joinersFit (n :: before) rest

/-- Whether a label may be written: it does not begin with a mark, and joiners have an effect. -/
def isLabel (label : List Nat) : Bool :=
  (match label with
   | [] => true
   | n :: _ => !marks.contains n) && joinersFit [] label

/-- The four characters before the Punycode of a label. -/
def punycodeMark : List Nat := ['x', 'n', '-', '-'].map Char.toNat

/-- Whether all is ASCII. -/
def isAscii (label : List Nat) : Bool := label.all (· < 128)

/-- The code points that a mapped label stands for. -/
def meaning? (label : List Nat) : Option (List Nat) :=
  if punycodeMark.isPrefixOf label then
    match Punycode.decode? ((label.drop 4).map Char.ofNat) with
    | none => none
    | some decoded =>
      if !isAscii label || isAscii decoded || !decoded.all isKept || Normal.compose decoded ≠ decoded
        || !isLabel decoded then none
      else some decoded
  else if isAscii label || isLabel label then some label
  else none

/-- The ASCII spelling of a mapped label. -/
def spelling (label : List Nat) : List Char :=
  if isAscii label then label.map Char.ofNat
  else punycodeMark.map Char.ofNat ++ Punycode.encode label

/-! ## Directions of writing -/

def isRightToLeft (n : Nat) : Bool := rightToLeft.contains n
def isNonspacing (n : Nat) : Bool := nonspacing.contains n
def isEuropean (n : Nat) : Bool := europeanNumbers.contains n
def isArabic (n : Nat) : Bool := arabicNumbers.contains n
def isNeutral (n : Nat) : Bool := neutrals.contains n

/-- Letters that are written from left to right: all that is in no other class. -/
def isLeftToRight (n : Nat) : Bool :=
  !(isRightToLeft n || isNonspacing n || isEuropean n || isArabic n || isNeutral n || directionless.contains n)

/-- Whether a label asks for every label to keep to one direction. -/
def turnsDirection (label : List Nat) : Bool := label.any fun n => isRightToLeft n || isArabic n

/-- The last code point that is not a mark satisfies a condition. -/
def endsIn (condition : Nat → Bool) (label : List Nat) : Bool :=
  match label.reverse.dropWhile isNonspacing with
  | [] => false
  | n :: _ => condition n

/-- Whether a label keeps to the direction of its first letter. -/
def keepsDirection (label : List Nat) : Bool :=
  match label with
  | [] => true
  | n :: _ =>
    if isRightToLeft n then
      label.all (fun c => isRightToLeft c || isArabic c || isEuropean c || isNeutral c || isNonspacing c)
        && endsIn (fun c => isRightToLeft c || isArabic c || isEuropean c) label
        && !(label.any isEuropean && label.any isArabic)
    else if isLeftToRight n then
      label.all (fun c => isLeftToRight c || isEuropean c || isNeutral c || isNonspacing c)
        && endsIn (fun c => isLeftToRight c || isEuropean c) label
    else false

/-! ## Names -/

/-- The dot between labels. -/
def dot : Nat := '.'.toNat

/-- The ASCII spelling of a name, if it is one. -/
def ascii? (name : List Char) : Option (List Char) := do
  let mapped ← mapping? (name.map Char.toNat)
  if mapped.any isForbidden then none
  let labels := mapped.splitOn dot
  let meanings ← labels.mapM meaning?
  if meanings.any turnsDirection && !meanings.all keepsDirection then none
  return ['.'].intercalate (labels.map spelling)

end BuildCredentials.Url.Domain
