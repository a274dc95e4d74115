import BuildCredentials.Program.Run
import BuildCredentials.Proofs.Build.Lifetime
import BuildCredentials.Proofs.Bytes.Base64
import Mathlib.Data.List.DropRight

/-!
# Credentials in a header and in a file

A header and a file tell of the same credentials if the header is the base64 of the file, in whatever form and with
whatever blanks around it (`ofHeader_of_encode`). No other header is read at all (`ofHeader_ne_notBase64_iff`). So
a build takes credentials either way, and to the same effect (`header_tells_same_as_file`).
-/

set_option autoImplicit false

namespace BuildCredentials.Text

/-! ## Blanks around a text -/

theorem trimChars_surrounded {before text after : List Char} (hbefore : ∀ c ∈ before, isBlank c)
    (hafter : ∀ c ∈ after, isBlank c) (htext : ∀ c ∈ text, ¬isBlank c) :
    trimChars (before ++ text ++ after) = text := by
  have hkept {cs : List Char} (h : ∀ c ∈ cs, ¬isBlank c) : cs.dropWhile isBlank = cs := by
    cases cs with
    | nil => rfl
    | cons c rest => exact List.dropWhile_cons_of_neg (h c (.head _))
  rw [trimChars, List.append_assoc, List.dropWhile_append_of_pos hbefore]
  cases text with
  | nil =>
    rw [List.nil_append, List.dropWhile_eq_nil_iff.2 hafter]
    rfl
  | cons c rest =>
    rw [List.cons_append, List.dropWhile_cons_of_neg (htext c (.head _)), ← List.cons_append, dropTrailingBlanks,
      List.reverse_append, List.dropWhile_append_of_pos fun d hd => hafter d (List.mem_reverse.1 hd),
      hkept fun d hd => htext d (List.mem_reverse.1 hd), List.reverse_reverse]

end BuildCredentials.Text

namespace BuildCredentials.Base64

theorem not_isBlank_digit (a : Alphabet) : ∀ n < 64, ¬Text.isBlank (a.digit n) := by
  cases a <;> decide

theorem not_isBlank_of_mem_encode {f : Form} {bytes : List UInt8} {c : Char} (h : c ∈ f.encode bytes) :
    ¬Text.isBlank c := by
  have hdigit {c : Char} (h : c ∈ digitsOf f.alphabet bytes) : ¬Text.isBlank c := by
    obtain ⟨n, hn, rfl⟩ := List.mem_map.1 h
    exact not_isBlank_digit f.alphabet n (lt_of_mem_sextets bytes n hn)
  rw [encode_eq] at h
  split at h
  · rcases List.mem_append.1 h with h | h
    · exact hdigit h
    · rw [List.eq_of_mem_replicate h]
      decide
  · exact hdigit h

end BuildCredentials.Base64

namespace BuildCredentials.Registry.Auths

open Base64 (Form)

variable {header : String} {f : Form} {bytes : List UInt8}

theorem ofHeader_of_blank (h : Text.trimChars header.toList = []) : ofHeader header = .ok ∅ := by
  rw [ofHeader, h]

theorem ofHeader_of_not_blank (h : Text.trimChars header.toList ≠ []) : ofHeader header =
    match Base64.decodeAny? (Text.trimChars header.toList) with
    | some bytes => ofJson bytes
    | none => .error .notBase64 := by
  unfold ofHeader
  split
  · contradiction
  · rfl

/-- A header is read as the bytes are that it is the base64 of. No bytes at all are written as no text. -/
theorem ofHeader_of_encode (h : Text.trimChars header.toList = f.encode bytes) :
    ofHeader header = ofJson bytes := by
  by_cases hblank : Text.trimChars header.toList = []
  · have hb : f.decode? [] = some bytes := Base64.Form.decode?_eq_some_iff.2 (hblank.symm.trans h)
    have hn : f.decode? [] = some [] := Base64.Form.decode?_eq_some_iff.2 (Base64.encode_nil f).symm
    rw [ofHeader_of_blank hblank, Base64.Form.decode?_unique hb hn]
    rfl
  · have hd : Base64.decodeAny? (Text.trimChars header.toList) = some bytes :=
      Base64.decodeAny?_eq_some_iff.2 ⟨f, h⟩
    rw [ofHeader_of_not_blank hblank, hd]

theorem ofJson_ne_notBase64 (bytes : List UInt8) : ofJson bytes ≠ .error .notBase64 := by
  unfold ofJson
  split
  · nofun
  · split <;> nofun

/-- The headers that are not refused as base64 are those that are the base64 of something. -/
theorem ofHeader_ne_notBase64_iff : ofHeader header ≠ .error .notBase64 ↔
    ∃ f bytes, Text.trimChars header.toList = Form.encode f bytes ∧ ofHeader header = ofJson bytes := by
  constructor
  · intro h
    by_cases hblank : Text.trimChars header.toList = []
    · have hempty : Text.trimChars header.toList = Form.encode ⟨.standard, true⟩ [] := by
        rw [hblank, Base64.encode_nil]
      exact ⟨_, _, hempty, ofHeader_of_encode hempty⟩
    · cases hd : Base64.decodeAny? (Text.trimChars header.toList) with
      | none => exact absurd (by rw [ofHeader_of_not_blank hblank, hd]) h
      | some bytes =>
        obtain ⟨f, hf⟩ := Base64.decodeAny?_eq_some_iff.1 hd
        exact ⟨f, bytes, hf, ofHeader_of_encode hf⟩
  · rintro ⟨f, bytes, -, h⟩
    exact h ▸ ofJson_ne_notBase64 bytes

end BuildCredentials.Registry.Auths

namespace BuildCredentials.Build

open Registry (Auths)

/-- What becomes of a build hangs on what its credentials are read as, and not on how they arrive. -/
theorem run_congr {auth? auth?' : Option RegistryAuth} (h : readAuths auth? = readAuths auth?') (engine : Engine)
    (socket : String) (fresh? : Except Error BuildId) (store : Store) (request : Request) :
    run engine socket fresh? store auth? request = run engine socket fresh? store auth?' request := by
  rw [run, run, h]

theorem readAuths_header_eq {header : String} {bytes : List UInt8} (h : Auths.ofHeader header = Auths.ofJson bytes) :
    readAuths (some (.header header)) = readAuths (some (.json bytes)) := by
  simp only [readAuths, RegistryAuth.read, h]

end BuildCredentials.Build

namespace BuildCredentials.Program

open CommandLine (BuildOptions)
open Registry (Auths)

/-- A build that finds its credentials in a file does what it would do if they were given in a header. -/
theorem build_header_eq (s : Start) (settings : Settings) (o : BuildOptions) {header path : String}
    {bytes : List UInt8} (hfile : (makeStateDirectory s.files s.vars).1.read path = .ok bytes)
    (h : Auths.ofHeader header = Auths.ofJson bytes) :
    build s settings { o with registryHeader? := some header } =
      build s settings { o with registryHeader? := none, registryFile? := some path } := by
  unfold build
  generalize makeStateDirectory s.files s.vars = made at hfile
  obtain ⟨files, result⟩ := made
  cases result with
  | error e => rfl
  | ok =>
    have hread := Build.readAuths_header_eq h
    simp only [registryAuth, hfile, buildOver, engineCommand, Build.run_congr hread]

end BuildCredentials.Program

namespace BuildCredentials.Registry.Auths

open Base64 (Form)

/-- Headers and files with credentials tell the same. Bytes in base64 of any form, with any blanks around them, are
read as the bytes themselves, be they credentials or not. A header that is not refused as base64 is, without the
blanks around it, the base64 in some form of the bytes that it is read as. In which order the forms are
tried makes no difference, since no text has different readings in two of them. And a build with such a header
does all that a build with such a file does, and no more. -/
theorem header_tells_same_as_file :
    (∀ (f : Form) (bytes : List UInt8) (before after : List Char), (∀ c ∈ before, Text.isBlank c) →
      (∀ c ∈ after, Text.isBlank c) →
      ofHeader (String.ofList (before ++ f.encode bytes ++ after)) = ofJson bytes) ∧
    (∀ text bytes, Base64.decodeAny? text = some bytes ↔ ∃ f : Form, text = f.encode bytes) ∧
    (∀ (header : String), ofHeader header ≠ .error .notBase64 ↔
      ∃ (f : Form) (bytes : List UInt8), Text.trimChars header.toList = f.encode bytes ∧
        ofHeader header = ofJson bytes) ∧
    (∀ (order : List Form), (∀ f, f ∈ order) → ∀ text,
      order.findSome? (·.decode? text) = Base64.decodeAny? text) ∧
    (∀ (f g : Form) text bytes bytes', f.decode? text = some bytes → g.decode? text = some bytes' →
      bytes = bytes') ∧
    ∀ (header : String) (f : Form) (bytes : List UInt8), Text.trimChars header.toList = f.encode bytes →
      (∀ engine socket fresh? store request,
        Build.run engine socket fresh? store (some (.header header)) request =
          Build.run engine socket fresh? store (some (.json bytes)) request) ∧
      ∀ (s : Program.Start) (settings : Settings) (o : CommandLine.BuildOptions) (path : String),
        (Program.makeStateDirectory s.files s.vars).1.read path = .ok bytes →
        Program.build s settings { o with registryHeader? := some header } =
          Program.build s settings { o with registryHeader? := none, registryFile? := some path } := by
  refine ⟨fun f bytes before after hbefore hafter => ?_, fun text bytes => Base64.decodeAny?_eq_some_iff,
    fun header => ofHeader_ne_notBase64_iff, fun order all text => ?_,
    fun f g text bytes bytes' => Base64.Form.decode?_unique, fun header f bytes h => ?_⟩
  · refine ofHeader_of_encode (f := f) ?_
    rw [String.toList_ofList]
    exact Text.trimChars_surrounded hbefore hafter fun c => Base64.not_isBlank_of_mem_encode
  · refine Option.ext fun bytes => ?_
    rw [Base64.findSome?_decode?_eq_some_iff all, Base64.decodeAny?_eq_some_iff]
  · have hsame := ofHeader_of_encode h
    exact ⟨Build.run_congr (Build.readAuths_header_eq hsame), fun s settings o path hfile =>
      Program.build_header_eq s settings o hfile hsame⟩

/-- The credentials of a build for `a`, in base64 between a space and a line feed. -/
theorem header_tells_same_as_file_of_padded :
    ofHeader " eyJhIjpbXX0=\n" = .ok (ofRecords [("a", {})]) := by
  have hencode : Form.encode ⟨.standard, true⟩ [123, 34, 97, 34, 58, 91, 93, 125] =
      ['e', 'y', 'J', 'h', 'I', 'j', 'p', 'b', 'X', 'X', '0', '='] := by decide +kernel
  have blank {b : Char} (hb : Text.isBlank b) : ∀ c ∈ [b], Text.isBlank c := fun c hc => List.mem_singleton.1 hc ▸ hb
  have hread := header_tells_same_as_file.1 ⟨.standard, true⟩ [123, 34, 97, 34, 58, 91, 93, 125] [' '] ['\n']
    (blank rfl) (blank rfl)
  rw [hencode] at hread
  have hjson : ofJson [123, 34, 97, 34, 58, 91, 93, 125] = .ok (ofRecords [("a", {})]) := by
    have h := Build.readAuths_one
    cases hj : ofJson [123, 34, 97, 34, 58, 91, 93, 125] with
    | error f => simp [Build.readAuths, Build.RegistryAuth.read, hj, Except.mapError] at h
    | ok auths => simpa [Build.readAuths, Build.RegistryAuth.read, hj, Except.mapError] using h
  exact hread.trans hjson

end BuildCredentials.Registry.Auths
