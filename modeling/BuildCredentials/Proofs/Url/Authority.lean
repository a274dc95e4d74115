import BuildCredentials.Proofs.Text.Cutting
import BuildCredentials.Registry.Address
import Mathlib.Data.List.DropRight

/-!
# Authorities

The text of an authority, and of what follows it, falls into `Pieces`. They are found in every text that is read as
one (`exists_pieces`), and put together again they are read as the same address (`readAuthority?_text`), so that a
piece can be changed and the address changes with it.
-/

set_option autoImplicit false

namespace BuildCredentials.Url

open Registry.Address (afterLast)
open Text (cut_append dropWhile_append_stop head?_dropWhile_stop takeWhile_append_stop)

/-! ## The last of a mark -/

theorem afterLast_append {c : Char} {margin : List Char} (h : c ∉ margin) (cs : List Char) :
    afterLast c (cs ++ margin) = afterLast c cs ++ margin := by
  rw [afterLast, List.reverse_append, List.takeWhile_append_of_pos fun d hd => ?_, List.reverse_append,
    List.reverse_reverse, afterLast]
  exact decide_eq_true fun he => h (he ▸ List.mem_reverse.1 hd)

theorem afterLast_cons {c : Char} {after : List Char} (h : c ∉ after) (before : List Char) :
    afterLast c (before ++ c :: after) = after := by
  rw [afterLast, List.reverse_append, List.reverse_cons, List.append_assoc, List.singleton_append,
    takeWhile_append_stop (fun d hd => ?_) (by simp), List.reverse_reverse]
  exact decide_eq_true fun he => h (he ▸ List.mem_reverse.1 hd)

theorem afterLast_of_not_mem {c : Char} {cs : List Char} (h : c ∉ cs) : afterLast c cs = cs := by
  rw [← List.nil_append cs, afterLast_append h]
  rfl

/-! ## Pieces -/

/-- The pieces of the text of an authority, and of what follows it. -/
structure Pieces where
  /-- The text before the last at sign, if there is one. -/
  info? : Option (List Char)
  host : List Char
  /-- The digits behind the colon after the host, if there is one. -/
  digits? : Option (List Char)
  /-- What follows the digits of the port, from a backslash on. -/
  left : List Char
  /-- What follows the authority. -/
  rest : List Char

namespace Pieces

/-- A user's text, with its at sign. -/
def userText : Option (List Char) → List Char
  | none => []
  | some info => info ++ ['@']

/-- A port's text, with its colon. -/
def portText : Option (List Char) → List Char
  | none => []
  | some digits => ':' :: digits

/-- Host and port. -/
def hostPort (w : Pieces) : List Char := w.host ++ (portText w.digits? ++ w.left)

def authority (w : Pieces) : List Char := userText w.info? ++ w.hostPort

def text (w : Pieces) : List Char := w.authority ++ w.rest

/-- The pieces are cut where reading cuts them. -/
structure Fit (w : Pieces) (kind : SchemeKind) : Prop where
  inside : ∀ c ∈ w.authority, endsAuthority kind c = false
  ends : ∀ c ∈ w.rest.head?, endsAuthority kind c = true
  at_sign : '@' ∉ w.hostPort
  host : hostText false w.hostPort = w.host
  digits : ∀ digits ∈ w.digits?, ∀ c ∈ digits, c.isDigit
  left : ∀ c ∈ w.left.head?, c = '\\'
  /-- Only digits are followed by anything. -/
  bare : w.digits? = none → w.left = []

/-- The pieces are read as a host and a port. -/
structure Reads (w : Pieces) (kind : SchemeKind) (host? : Option Host) (port? : Option Nat) : Prop where
  host : readHost? kind w.host = some host?
  port : portOfDigits? kind (w.digits?.getD []) = some port?
  /-- An at sign alone is only followed by the end. -/
  user : w.info? = some [] → w.hostPort = [] → w.rest = []
  /-- Without a host there is neither a port nor a user. -/
  server : host? = none → w.digits? = none ∧ userinfo (w.info?.getD []) = ("", none)

/-- The path, and what follows it. -/
def tail (w : Pieces) : List Char := w.left ++ w.rest

/-- The address that pieces stand for. -/
def url (w : Pieces) (scheme : String) (host? : Option Host) (port? : Option Nat) : Url :=
  let info := userinfo (w.info?.getD [])
  let u : Url := { scheme, username := info.1, password? := info.2, host?, port?, path := "" }
  u.finish (Path.read (.ofScheme scheme) (w.tail.takeWhile (!endsPath ·))).1 (w.tail.dropWhile (!endsPath ·))

end Pieces

open Pieces (userText portText)

theorem afterLast_userText {hostPort : List Char} (h : '@' ∉ hostPort) (info? : Option (List Char)) :
    afterLast '@' (userText info? ++ hostPort) = hostPort := by
  cases info? with
  | none => exact afterLast_of_not_mem h
  | some info =>
    rw [userText, List.append_assoc]
    exact afterLast_cons h info

theorem splitUserinfo_text {hostPort : List Char} (h : '@' ∉ hostPort) (info? : Option (List Char)) :
    splitUserinfo (userText info? ++ hostPort) = (info?, hostPort) := by
  have hafter : ((userText info? ++ hostPort).reverse.takeWhile (· ≠ '@')).reverse = hostPort :=
    afterLast_userText h info?
  simp only [splitUserinfo, hafter]
  cases info? with
  | none => exact if_neg (Nat.lt_irrefl _)
  | some info =>
    have hlength : (userText (some info) ++ hostPort).length = info.length + 1 + hostPort.length := by
      simp only [userText, List.length_append, List.length_singleton]
    have hinfo : info.length + 1 + hostPort.length - hostPort.length - 1 = info.length := by omega
    rw [hlength, if_pos (by omega), hinfo, userText, List.append_assoc, List.take_left]

theorem exists_userText (authority : List Char) :
    ∃ info? hostPort, authority = userText info? ++ hostPort ∧ '@' ∉ hostPort := by
  by_cases h : '@' ∈ authority
  · obtain ⟨after, before, hauthority, hafter⟩ := List.eq_append_cons_of_mem (List.mem_reverse.2 h)
    refine ⟨some before.reverse, after.reverse, ?_, by simpa using hafter⟩
    rw [← List.reverse_reverse authority, hauthority]
    simp [userText]
  · exact ⟨none, authority, rfl, h⟩

theorem hostText_append_drop (inBrackets : Bool) (cs : List Char) :
    hostText inBrackets cs ++ cs.drop (hostText inBrackets cs).length = cs := by
  induction cs generalizing inBrackets with
  | nil => rfl
  | cons c rest ih =>
    rw [hostText]
    split
    · rfl
    · rw [List.cons_append, List.length_cons, List.drop_succ_cons, ih]

/-- Where a host ends does not depend on what follows the colon behind it. -/
theorem hostText_append_colon {inBrackets : Bool} {host after : List Char}
    (h : hostText inBrackets (host ++ ':' :: after) = host) (other : List Char) :
    hostText inBrackets (host ++ ':' :: other) = host := by
  induction host generalizing inBrackets with
  | nil =>
    rw [List.nil_append, hostText] at h ⊢
    split at h
    · rename_i hcolon
      exact if_pos hcolon
    · cases h
  | cons c rest ih =>
    rw [List.cons_append, hostText] at h ⊢
    split at h
    · cases h
    · rename_i hcolon
      rw [if_neg hcolon, ih (List.cons.inj h).2]

/-- A host ends at a colon, if not at the end. -/
theorem head?_drop_hostText (inBrackets : Bool) (cs : List Char) :
    ∀ c ∈ (cs.drop (hostText inBrackets cs).length).head?, c = ':' := by
  induction cs generalizing inBrackets with
  | nil => simp
  | cons d rest ih =>
    rw [hostText]
    split
    · rename_i hcolon
      simpa using hcolon.1
    · exact ih _

theorem exists_digits_of_readPort? {kind : SchemeKind} {cs left : List Char} {port? : Option Nat}
    (h : readPort? kind cs = some (port?, left)) (hcs : ∀ c ∈ cs.head?, c = ':') :
    ∃ digits?, cs = portText digits? ++ left ∧ (∀ digits ∈ digits?, ∀ c ∈ digits, c.isDigit) ∧
      (∀ c ∈ left.head?, c = '\\') ∧ (digits? = none → left = []) ∧
      portOfDigits? kind (digits?.getD []) = some port? := by
  cases cs with
  | nil =>
    cases h
    exact ⟨none, rfl, by simp, by simp, fun _ => rfl, rfl⟩
  | cons c rest =>
    obtain rfl := hcs c rfl
    have hsplit := (List.takeWhile_append_dropWhile (p := Char.isDigit) (l := rest)).symm
    have hdigits (c : Char) (hc : c ∈ rest.takeWhile Char.isDigit) : c.isDigit := List.mem_takeWhile_imp hc
    have whole (h : (portOfDigits? kind (rest.takeWhile Char.isDigit)).map (·, rest.dropWhile Char.isDigit) =
        some (port?, left)) :
        portOfDigits? kind (rest.takeWhile Char.isDigit) = some port? ∧ left = rest.dropWhile Char.isDigit := by
      obtain ⟨_, hport, he⟩ := Option.map_eq_some_iff.1 h
      cases he
      exact ⟨hport, rfl⟩
    rw [readPort?] at h
    split at h
    · rename_i hend
      obtain ⟨hport, rfl⟩ := whole h
      exact ⟨some _, congrArg _ hsplit, by simpa using hdigits, by simp [hend], by simp, hport⟩
    · rename_i more hslash
      obtain ⟨hport, rfl⟩ := whole h
      exact ⟨some _, congrArg _ hsplit, by simpa using hdigits, by simp [hslash], by simp, hport⟩
    · cases h

theorem readPort?_text {kind : SchemeKind} {digits? : Option (List Char)} {left : List Char} {port? : Option Nat}
    (hdigits : ∀ digits ∈ digits?, ∀ c ∈ digits, c.isDigit) (hleft : ∀ c ∈ left.head?, c = '\\')
    (bare : digits? = none → left = []) (hport : portOfDigits? kind (digits?.getD []) = some port?) :
    readPort? kind (portText digits? ++ left) = some (port?, left) := by
  cases digits? with
  | none =>
    obtain rfl : none = port? := Option.some.inj hport
    rw [bare rfl]
    rfl
  | some digits =>
    have hstop : ∀ c ∈ left.head?, c.isDigit = false := fun c hc => by
      rw [hleft c hc]
      rfl
    obtain ⟨htake, hdrop⟩ := cut_append (hdigits digits rfl) hstop
    rw [Option.getD_some] at hport
    rw [portText, List.cons_append, readPort?]
    simp only [htake, hdrop, hport]
    cases left with
    | nil => rfl
    | cons c more =>
      obtain rfl := hleft c rfl
      rfl

theorem readHost?_of_special {kind : SchemeKind} (special : kind.isSpecial) (cs : List Char) :
    readHost? kind cs = (Host.ofSpecial? cs).map some := if_pos special

/-- A bracket that opens a host is closed at its end. -/
theorem getLast?_of_readHost? {kind : SchemeKind} {inner : List Char} {host? : Option Host}
    (h : readHost? kind ('[' :: inner) = some host?) : inner.getLast? = some ']' := by
  by_contra hlast
  have hopen : Host.bracketed? ('[' :: inner) = some none := by rw [Host.bracketed?, if_neg hlast]
  unfold readHost? Host.ofSpecial? Host.ofOpaque? at h
  simp [hopen] at h

/-! ## Reading pieces -/

/-- What is read as an authority are pieces that stand for the address. -/
theorem exists_pieces {scheme : String} {cs : List Char} {u : Url} (h : readAuthority? scheme cs = some u) :
    ∃ (w : Pieces) (host? : Option Host) (port? : Option Nat), w.Fit (.ofScheme scheme) ∧
      w.Reads (.ofScheme scheme) host? port? ∧ cs = w.text ∧ u = w.url scheme host? port? := by
  have hcs := (List.takeWhile_append_dropWhile (p := (!endsAuthority (.ofScheme scheme) ·)) (l := cs)).symm
  have hinside (c : Char) (hc : c ∈ cs.takeWhile (!endsAuthority (.ofScheme scheme) ·)) :
      endsAuthority (.ofScheme scheme) c = false := by
    simpa using List.mem_takeWhile_imp (p := fun d => !endsAuthority (.ofScheme scheme) d) hc
  have hends := head?_dropWhile_stop (p := (!endsAuthority (.ofScheme scheme) ·)) cs
  simp only [readAuthority?, Option.bind_eq_bind] at h
  generalize cs.takeWhile (!endsAuthority (.ofScheme scheme) ·) = authority at hcs hinside h
  generalize cs.dropWhile (!endsAuthority (.ofScheme scheme) ·) = rest at hcs hends h
  obtain ⟨info?, hostPort, rfl, hat⟩ := exists_userText authority
  rw [splitUserinfo_text hat] at h
  split at h
  · cases h
  rename_i huser
  obtain ⟨host?, hhost, h⟩ := Option.bind_eq_some_iff.1 h
  split at h
  · cases h
  rename_i hserver
  obtain ⟨⟨port?, left⟩, hport, h⟩ := Option.bind_eq_some_iff.1 h
  cases h
  obtain ⟨digits?, hafter, hdigits, hleft, bare, hvalue⟩ :=
    exists_digits_of_readPort? hport (head?_drop_hostText false hostPort)
  have hsplit := hostText_append_drop false hostPort
  rw [hafter] at hsplit
  have hpieces : hostText false hostPort ++ (portText digits? ++ left) = hostPort := hsplit
  refine ⟨⟨info?, hostText false hostPort, digits?, left, rest⟩, host?, port?, ?_, ?_, ?_, rfl⟩
  · exact {
      inside := fun c hc => hinside c (by rwa [← hpieces])
      ends := fun c hc => by simpa using hends c hc
      at_sign := by rwa [Pieces.hostPort, hpieces]
      host := by rw [Pieces.hostPort, hpieces]
      digits := hdigits
      left := hleft
      bare := bare }
  · refine { host := hhost, port := hvalue, user := fun hinfo hnone => ?_, server := fun hnone => ?_ }
    · rw [Pieces.hostPort, hpieces] at hnone
      by_contra hrest
      exact huser ⟨hinfo, hnone, hrest⟩
    · rw [hafter] at hserver
      cases digits? with
      | none =>
        by_contra huser
        refine hserver ⟨hnone, .inr ?_⟩
        by_contra hempty
        push Not at hempty
        exact huser ⟨rfl, Prod.ext hempty.1 hempty.2⟩
      | some digits => exact absurd ⟨hnone, .inl (by simp [portText])⟩ hserver
  · rw [hcs, Pieces.text, Pieces.authority, Pieces.hostPort, hpieces]

/-- A port is read of digits. -/
theorem Pieces.Reads.exists_digits {w : Pieces} {kind : SchemeKind} {host? : Option Host} {port : Nat}
    (reads : w.Reads kind host? (some port)) : ∃ digits, w.digits? = some digits := by
  cases hdigits : w.digits? with
  | none =>
    have hport := reads.port
    rw [hdigits] at hport
    cases hport
  | some digits => exact ⟨digits, rfl⟩

theorem Pieces.Fit.cut {w : Pieces} {kind : SchemeKind} (fit : w.Fit kind) :
    w.text.takeWhile (!endsAuthority kind ·) = w.authority ∧ w.text.dropWhile (!endsAuthority kind ·) = w.rest :=
  cut_append (fun c hc => by simp [fit.inside c hc]) (fun c hc => by simp [fit.ends c hc])

/-- Pieces are read as the address that they stand for. -/
theorem readAuthority?_text {scheme : String} {w : Pieces} (fit : w.Fit (.ofScheme scheme)) {host? : Option Host}
    {port? : Option Nat} (reads : w.Reads (.ofScheme scheme) host? port?) :
    readAuthority? scheme w.text = some (w.url scheme host? port?) := by
  obtain ⟨htake, hdrop⟩ := fit.cut
  have hafter : w.hostPort.drop w.host.length = portText w.digits? ++ w.left := List.drop_left
  have huser : ¬(w.info? = some [] ∧ w.hostPort = [] ∧ w.rest ≠ []) := fun h => h.2.2 (reads.user h.1 h.2.1)
  have hserver : ¬(host? = none ∧ (portText w.digits? ++ w.left ≠ [] ∨ (userinfo (w.info?.getD [])).1 ≠ "" ∨
      (userinfo (w.info?.getD [])).2 ≠ none)) := by
    rintro ⟨hnone, hsome⟩
    obtain ⟨hdigits, hinfo⟩ := reads.server hnone
    simp [hdigits, fit.bare hdigits, hinfo, portText] at hsome
  simp only [readAuthority?, Option.bind_eq_bind, htake, hdrop]
  rw [Pieces.authority, splitUserinfo_text fit.at_sign]
  simp only [fit.host, reads.host, hafter, readPort?_text fit.digits fit.left fit.bare reads.port, huser, hserver,
    if_false, Option.bind_some]
  rfl

end BuildCredentials.Url
