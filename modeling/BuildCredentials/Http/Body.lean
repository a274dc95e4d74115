import BuildCredentials.Http.Head

/-!
# Bodies of messages

How long a body is follows from the head: a number of bytes, chunks that each tell their length, or all bytes
up to the end of the connection.
-/

set_option autoImplicit false

namespace BuildCredentials.Http

/-- How the end of a body is found. -/
inductive Framing where
  | sized (length : Nat)
  | chunked
  | untilEnd
  deriving DecidableEq, Repr

/-! ## Lengths -/

/-- The bytes before a length could not be counted any more. -/
def lengthBound : Nat := UInt64.size

/-- The number that decimal digits write, if it is below the bound. -/
def number? (digits : List UInt8) : Option Nat :=
  if digits = [] ∨ !digits.all isDigitByte then none
  else
    let n := digits.foldl (fun n b => 10 * n + (b.toNat - 48)) 0
    if n < lengthBound then some n else none

/-- The one length that all values tell; a value may tell it several times. -/
def lengthOf? (values : List (List UInt8)) : Option Nat := do
  match ← (values.flatMap fun v => (v.splitOn 44).map trimBytes).mapM number? with
  | [] => none
  | n :: others => if others.all (· = n) ∧ n + 2 < lengthBound then some n else none

/-- Whether the last coding of a value in visible characters is the one by chunks. -/
def endsInChunks (value : List UInt8) : Bool :=
  value.all (fun b => b = 9 || (32 ≤ b && b < 127))
    && (value.splitOn 44).getLast?.any fun coding => lowerBytes (trimBytes coding) = ascii "chunked"

/-! ## Framing -/

/-- What the fields of a request say of its body so far. -/
structure Said where
  /-- Whether the last coding that was named is the one by chunks. -/
  chunks? : Option Bool := none
  length? : Option Nat := none

/-- Takes what the next field of a request says. Lengths that follow a coding mean nothing, and a value tells one
length only. -/
def Said.step (version : Version) (said : Said) (field : Field) : Except HeadFault Said :=
  if field.name = "transfer-encoding" then
    if version = .v10 then .error .malformed else .ok { said with chunks? := some (endsInChunks field.value) }
  else if field.name = "content-length" ∧ said.chunks?.isNone then
    match number? field.value, said.length? with
    | none, _ => .error .malformed
    | some n, some m => if n = m then .ok said else .error .malformed
    | some n, none => if n + 2 < lengthBound then .ok { said with length? := some n } else .error .tooLarge
  else .ok said

/-- How the body of a request is framed; without a word on it there is none. -/
def Framing.ofRequest (version : Version) (fields : List Field) : Except HeadFault Framing := do
  let said ← fields.foldlM (Said.step version) {}
  match said.chunks? with
  | some true => return .chunked
  | some false => throw .malformed
  | none => return .sized (said.length?.getD 0)

/-- How the body of an answer is framed. -/
def Framing.ofResponse? (version : Version) (status : Nat) (fields : List Field) : Option Framing :=
  let codings := valuesOf fields "transfer-encoding"
  let lengths := valuesOf fields "content-length"
  if status ∈ [101, 204, 304] then some (.sized 0)
  else if codings ≠ [] then
    if version = .v10 then none else some (if codings.getLast?.any endsInChunks then .chunked else .untilEnd)
  else if lengths = [] then some .untilEnd
  else (lengthOf? lengths).map .sized

/-! ## Chunks -/

/-- The value of a hexadecimal digit. -/
def hexDigit? (b : UInt8) : Option Nat :=
  if isDigitByte b then some (b.toNat - 48)
  else if 97 ≤ b ∧ b ≤ 102 then some (b.toNat - 87)
  else if 65 ≤ b ∧ b ≤ 70 then some (b.toNat - 55)
  else none

/-- What follows a line end that has both of its bytes. -/
def afterLineEnd? : List UInt8 → Option (List UInt8)
  | 13 :: 10 :: rest => some rest
  | _ => none

/-- So many bytes of extensions are too many for the chunks of a body. -/
def extensionLimit : Nat := 16384

/-- Reads the line that tells the length of a chunk: the length, how many bytes its extension has, which means nothing,
and what follows. -/
def readChunkLength (bytes : List UInt8) : Option (Nat × Nat × List UInt8) :=
  let digits := bytes.takeWhile fun b => (hexDigit? b).isSome
  let n := digits.foldl (fun n b => 16 * n + (hexDigit? b).getD 0) 0
  let rest := (bytes.dropWhile fun b => (hexDigit? b).isSome).dropWhile isBlankByte
  let (extension, ending) :=
    match rest with
    | 59 :: after => after.span fun b => b ≠ 13 && b ≠ 10
    | _ => ([], rest)
  if digits = [] ∨ lengthBound ≤ n then none else (afterLineEnd? ending).map (n, extension.length, ·)

/-- So many bytes are too many for the lines after the last chunk. -/
def trailerLimit : Nat := 16384

/-- How many lines there are after the last chunk up to an empty one, and what follows this. -/
def countTrailers? : Nat → List UInt8 → Option (Nat × List UInt8)
  | 0, _ => none
  | fuel + 1, bytes =>
    match bytes with
    | [] => none
    | 13 :: _ => (afterLineEnd? bytes).map (0, ·)
    | _ :: rest => do
      let (n, after) ← countTrailers? fuel (← afterLineEnd? (rest.dropWhile (· ≠ 13)))
      return (n + 1, after)

/-- Whether the lines after the last chunk end. If there are any they are fields, and not too many or too long. -/
def endsTrailers (bytes : List UInt8) : Bool :=
  match countTrailers? (bytes.length + 1) bytes with
  | none => false
  | some (0, _) => true
  | some (n, after) =>
    let block := bytes.take (bytes.length - after.length)
    n < fieldLimit && block.length < trailerLimit && (readFields n block).isOk

/-- The bytes that chunks carry, of which those before had extensions of `extended` bytes. -/
def readChunks : Nat → Nat → List UInt8 → Option (List UInt8)
  | 0, _, _ => none
  | fuel + 1, extended, bytes => do
    let (n, extension, rest) ← readChunkLength bytes
    let extended := extended + extension
    if extensionLimit ≤ extended then none
    else if n = 0 then if endsTrailers rest then some [] else none
    else if rest.length < n then none
    else return rest.take n ++ (← readChunks fuel extended (← afterLineEnd? (rest.drop n)))

/-- The body at the front of bytes, or none if they end before it does. -/
def Framing.read (framing : Framing) (bytes : List UInt8) : Option (List UInt8) :=
  match framing with
  | sized n => if bytes.length < n then none else some (bytes.take n)
  | chunked => readChunks (bytes.length + 1) 0 bytes
  | untilEnd => some bytes

end BuildCredentials.Http
