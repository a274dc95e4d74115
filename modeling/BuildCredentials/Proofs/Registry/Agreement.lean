import BuildCredentials.Proofs.Registry.Resolution
import BuildCredentials.Proofs.Url.Spelling
import BuildCredentials.Registry.Config

/-!
# What a request and its answer agree in

A stored address approximates a request if it agrees with it (`Address.approximates_iff`): whatever the request
takes from it, user, host, query and fragment are those of the request. So an answer never has another identity
than its request (`answer_keeps_identity`). On the web nothing else is asked for: a stored address that differs
from a request in its scheme, or in a port or a path that the request does not give, answers it, unless an earlier
one does (`tolerance_complete`).
-/

set_option autoImplicit false

namespace BuildCredentials.Registry

/-- Two addresses name the same user on the same host, and ask for the same there. -/
structure SameIdentity (a b : Url) : Prop where
  username : a.username = b.username
  password : a.password? = b.password?
  host : a.host? = b.host?
  query : a.query? = b.query?
  fragment : a.fragment? = b.fragment?

theorem sameExceptPort_iff {a b : Url} :
    sameExceptPort a b = true ↔ SameIdentity a b ∧ a.scheme = b.scheme ∧ a.path = b.path := by
  simp only [sameExceptPort, Bool.and_eq_true, decide_eq_true_eq]
  constructor
  · rintro ⟨⟨⟨⟨⟨⟨scheme, username⟩, password⟩, host⟩, path⟩, query⟩, fragment⟩
    exact ⟨{ username, password, host, query, fragment }, scheme, path⟩
  · rintro ⟨h, scheme, path⟩
    exact ⟨⟨⟨⟨⟨⟨scheme, h.username⟩, h.password⟩, h.host⟩, path⟩, h.query⟩, h.fragment⟩

theorem MeansSame.identity {a b : Url} (h : MeansSame a b) : SameIdentity a b :=
  ⟨h.username, h.password, h.host, h.query, h.fragment⟩

namespace Address

variable {a : Address} {stored : Url}

/-! ## Taking the scheme and the path -/

/-- Only the scheme and the port change with the scheme, and a special scheme stays one. -/
theorem of_takeScheme? {url : Url} (h : a.takeScheme? stored = some url) :
    a.url.kind.isSpecial = stored.kind.isSpecial ∧ ∃ port?, url = { a.url with scheme := stored.scheme, port? } := by
  unfold takeScheme? at h
  split at h
  · rename_i hscheme
    cases h
    exact ⟨by rw [Url.kind, hscheme, ← Url.kind], a.url.port?, by rw [← hscheme]⟩
  · unfold Url.withScheme? at h
    dsimp only at h
    split at h
    · cases h
    · rename_i hkept
      cases h
      push Not at hkept
      exact ⟨hkept.1.symm, _, rfl⟩

theorem exists_takeScheme?_of_web {port port' : Nat} (web : a.url.kind = .web port) (web' : stored.kind = .web port')
    (hhost : a.url.host? ≠ none) :
    ∃ port?, a.takeScheme? stored = some { a.url with scheme := stored.scheme, port? } := by
  unfold takeScheme?
  split
  · rename_i hscheme
    exact ⟨a.url.port?, by rw [← hscheme]⟩
  · have hkept : ¬((Url.SchemeKind.ofScheme stored.scheme).isSpecial ≠ a.url.kind.isSpecial ∨
        Url.SchemeKind.ofScheme stored.scheme = .file ∨
          ((Url.SchemeKind.ofScheme stored.scheme).isSpecial ∧ a.url.host? = none)) := by
      rw [web, ← Url.kind, web']
      simp [Url.SchemeKind.isSpecial, hhost]
    exact ⟨_, if_neg hkept⟩

/-- The path that is compared with that of a stored address: the one that is given, or the stored one as it is read
under its scheme. -/
def comparedPath (a : Address) (stored : Url) : String :=
  if a.hasPath then a.url.path else ({ a.url with scheme := stored.scheme }.withPath stored.path).path

/-! ## Agreement -/

/-- A stored address agrees with all that a request gives. -/
structure Agrees (a : Address) (stored : Url) : Prop where
  port : ∀ port ∈ a.explicitPort?, stored.effectivePort? = some port
  scheme : ∃ port?, a.takeScheme? stored = some { a.url with scheme := stored.scheme, port? }
  identity : SameIdentity a.url stored
  path : a.comparedPath stored = stored.path

theorem allowsPort_iff : a.allowsPort stored = true ↔ ∀ port ∈ a.explicitPort?, stored.effectivePort? = some port := by
  unfold allowsPort
  split
  · rename_i hport
    simp [hport]
  · rename_i port hport
    simp [hport]

/-- Whatever scheme and path are taken from a stored address, all else is compared as it was given. -/
theorem sameExceptPort_taken_iff (port? : Option Nat) :
    sameExceptPort (if a.hasPath then { a.url with scheme := stored.scheme, port? }
        else { a.url with scheme := stored.scheme, port? }.withPath stored.path) stored = true ↔
      SameIdentity a.url stored ∧ a.comparedPath stored = stored.path := by
  rw [sameExceptPort_iff]
  -- Neither a scheme with its port nor a path is a part of the identity.
  have identity {u : Url} (husername : u.username = a.url.username) (hpassword : u.password? = a.url.password?)
      (hhost : u.host? = a.url.host?) (hquery : u.query? = a.url.query?) (hfragment : u.fragment? = a.url.fragment?) :
      SameIdentity u stored ↔ SameIdentity a.url stored := by
    constructor
    · rintro ⟨h₁, h₂, h₃, h₄, h₅⟩
      exact ⟨husername ▸ h₁, hpassword ▸ h₂, hhost ▸ h₃, hquery ▸ h₄, hfragment ▸ h₅⟩
    · rintro ⟨h₁, h₂, h₃, h₄, h₅⟩
      exact ⟨husername ▸ h₁, hpassword ▸ h₂, hhost ▸ h₃, hquery ▸ h₄, hfragment ▸ h₅⟩
  cases hpath : a.hasPath with
  | true => simp [comparedPath, hpath, identity]
  | false => simp [comparedPath, hpath, identity, Url.withPath, Url.kind, Url.hasOpaquePath]

theorem approximates_iff : a.approximates stored = true ↔ a.Agrees stored := by
  rw [approximates, Bool.and_eq_true, allowsPort_iff]
  constructor
  · rintro ⟨port, h⟩
    split at h
    · cases h
    · rename_i url hurl
      obtain ⟨-, port?, rfl⟩ := of_takeScheme? hurl
      obtain ⟨identity, path⟩ := (sameExceptPort_taken_iff port?).1 h
      exact { port, scheme := ⟨port?, hurl⟩, identity, path }
  · rintro ⟨port, ⟨port?, hurl⟩, identity, path⟩
    rw [hurl]
    exact ⟨port, (sameExceptPort_taken_iff port?).2 ⟨identity, path⟩⟩

end Address

/-! ## Identities of answers -/

section

variable {α : Type} {entries : Std.ExtTreeMap String α} {requested key : String} {kind : MatchKind}

/-- What answers an address is itself a stored address, of the same identity and with a scheme of the same sort. -/
theorem answer_keeps_identity (answered : resolve entries requested = some (key, kind)) (searched : kind ≠ .verbatim) :
    key ∈ entries ∧ ∃ wanted stored, Url.parse? requested = some wanted ∧ Url.parse? key = some stored ∧
      SameIdentity wanted stored ∧ wanted.kind.isSpecial = stored.kind.isSpecial := by
  cases resolve_eq_iff.1 answered with
  | verbatim _ _ => exact absurd rfl searched
  | @exact wanted _ read first =>
    obtain ⟨kept, stored, hstored, same⟩ := first.holds
    have hkind : wanted.url.kind = stored.kind := by rw [Url.kind, same.scheme, ← Url.kind]
    exact ⟨kept, wanted.url, stored, Address.url_of_parse? read, hstored, same.identity, by rw [hkind]⟩
  | @approximate wanted _ read _ first =>
    obtain ⟨kept, stored, hstored, hfits⟩ := first.holds
    have agrees := Address.approximates_iff.1 hfits
    obtain ⟨port?, hurl⟩ := agrees.scheme
    exact ⟨kept, wanted.url, stored, Address.url_of_parse? read, hstored, agrees.identity,
      (Address.of_takeScheme? hurl).1⟩

end

/-- A request that takes another scheme, a port and a path still keeps to its own user and query. -/
theorem answer_keeps_identity_of_borrowed_path :
    resolve (Auths.ofRecords [("https://u:p@[::1]:5000/v2/?q", {}), ("https://[::1]:5000/v2/?q", {})])
        "ws://u:p@[::1]?q" = some ("https://u:p@[::1]:5000/v2/?q", .approximate) ∧
      ∃ wanted stored, Url.parse? "ws://u:p@[::1]?q" = some wanted ∧
        Url.parse? "https://u:p@[::1]:5000/v2/?q" = some stored ∧ SameIdentity wanted stored ∧
        wanted.kind.isSpecial = stored.kind.isSpecial := by
  have answered : resolve (Auths.ofRecords [("https://u:p@[::1]:5000/v2/?q", {}), ("https://[::1]:5000/v2/?q", {})])
      "ws://u:p@[::1]?q" = some ("https://u:p@[::1]:5000/v2/?q", .approximate) := by decide +kernel
  exact ⟨answered, (answer_keeps_identity answered (by decide)).2⟩

/-! ## Tolerance on the web -/

/-- The scheme is one of the two of registries. -/
def IsHttp (u : Url) : Prop := u.scheme = "http" ∨ u.scheme = "https"

theorem IsHttp.exists_port {u : Url} (h : IsHttp u) : ∃ port, u.kind = .web port := by
  obtain h | h := h
  · exact ⟨80, by rw [Url.kind, h]; rfl⟩
  · exact ⟨443, by rw [Url.kind, h]; rfl⟩

section

variable {α : Type} {entries : Std.ExtTreeMap String α} {requested key : String} {wanted : Address} {stored : Url}

theorem Address.comparedPath_of_missing {port : Nat} (missing : wanted.hasPath = false)
    (hauthority : wanted.url.hasAuthority = true) (readKey : Url.parse? key = some stored)
    (web : stored.kind = .web port) : wanted.comparedPath stored = stored.path := by
  obtain ⟨-, -, cs, hpath⟩ := Url.parts_of_web readKey web
  have hopaque : ({ wanted.url with scheme := stored.scheme } : Url).hasOpaquePath = false := by
    simp [Url.hasOpaquePath, hauthority]
  have hkind : ({ wanted.url with scheme := stored.scheme } : Url).kind = .web port := web
  have notFile : ({ wanted.url with scheme := stored.scheme } : Url).kind ≠ .file := by simp [hkind]
  -- The stored path was read under the rules of its own scheme, which the request has taken by now.
  have htaken := congrArg (·.path) (Url.withPath_read hopaque notFile cs)
  rw [Address.comparedPath, missing, if_neg Bool.false_ne_true, hpath]
  exact htaken

theorem Address.agrees_of_web {port port' : Nat} (read : Address.parse? requested = some wanted)
    (readKey : Url.parse? key = some stored) (web : wanted.url.kind = .web port) (web' : stored.kind = .web port')
    (identity : SameIdentity wanted.url stored)
    (hport : wanted.explicitPort? = none ∨ wanted.explicitPort? = stored.effectivePort?)
    (hpath : wanted.hasPath = false ∨ wanted.url.path = stored.path) : wanted.Agrees stored := by
  obtain ⟨hauthority, hhost, -⟩ := Url.parts_of_web (Address.url_of_parse? read) web
  refine { port := fun p hp => ?_, scheme := ?_, identity, path := ?_ }
  · obtain hport | hport := hport
    · rw [hport] at hp
      cases hp
    · exact hport.symm.trans hp
  · exact Address.exists_takeScheme?_of_web web web' hhost
  · cases hgiven : wanted.hasPath with
    | false => exact Address.comparedPath_of_missing hgiven hauthority readKey web'
    | true =>
      rw [Address.comparedPath, if_pos hgiven]
      exact hpath.resolve_left (by simp [hgiven])

/-- A request is compared with what it may be taken for only if nothing means the same. -/
theorem inexact_of_approximate (read : Address.parse? requested = some wanted)
    (answered : resolve entries requested = some (key, .approximate)) {other : String} :
    ¬Fits (· ∈ entries) (MeansSame wanted.url) other := by
  cases resolve_eq_iff.1 answered with
  | approximate read' inexact _ =>
    cases read.symm.trans read'
    exact inexact other

/-- On the web a stored address answers every request of its identity that gives no other port and no other path
than its own, whatever the schemes are. Only one that means the same, or an earlier one, goes before it. -/
theorem tolerance_complete (read : Address.parse? requested = some wanted) (kept : key ∈ entries)
    (readKey : Url.parse? key = some stored) (http : IsHttp wanted.url) (http' : IsHttp stored)
    (identity : SameIdentity wanted.url stored)
    (port : wanted.explicitPort? = none ∨ wanted.explicitPort? = stored.effectivePort?)
    (path : wanted.hasPath = false ∨ wanted.url.path = stored.path) :
    resolve entries requested ≠ none ∧
      ((∀ other, ¬Fits (· ∈ entries) (MeansSame wanted.url) other) →
        ∃ found, resolve entries requested = some (found, .approximate) ∧ Utf8.encode found ≤ Utf8.encode key) := by
  obtain ⟨_, web⟩ := http.exists_port
  obtain ⟨_, web'⟩ := http'.exists_port
  have fits : Fits (· ∈ entries) (wanted.approximates · = true) key :=
    ⟨kept, stored, readKey,
      Address.approximates_iff.2 (Address.agrees_of_web read readKey web web' identity port path)⟩
  generalize hanswer : resolve entries requested = answer
  cases resolve_eq_iff.1 hanswer with
  | verbatim unread _ | unknown unread _ => exact absurd read (Address.parse?_ne_some unread)
  | exact read' first =>
    cases read.symm.trans read'
    exact ⟨by simp, fun inexact => absurd first.holds (inexact _)⟩
  | approximate read' _ first =>
    cases read.symm.trans read'
    exact ⟨by simp, fun _ => ⟨_, rfl, first.le key fits⟩⟩
  | nothing read' _ unlike =>
    cases read.symm.trans read'
    exact absurd fits (unlike key)

end

/-- Another scheme, and no port or path: each of two stored addresses may answer, and the first one does. -/
theorem tolerance_complete_of_bare_host :
    ∃ found, resolve (Auths.ofRecords [("https://[::1]:6000/v1/", {}), ("https://[::1]:5000/v2/", {})])
        "http://[::1]" = some (found, .approximate) ∧
      Utf8.encode found ≤ Utf8.encode "https://[::1]:6000/v1/" := by
  have answered : resolve (Auths.ofRecords [("https://[::1]:6000/v1/", {}), ("https://[::1]:5000/v2/", {})])
      "http://[::1]" = some ("https://[::1]:5000/v2/", .approximate) := by decide +kernel
  have read : Address.parse? "http://[::1]" = some
      { url := { scheme := "http", host? := some (.ipv6 [0, 0, 0, 0, 0, 0, 0, 1]), path := "/" }
        hasPath := false
        explicitPort? := none } := by decide +kernel
  have readKey : Url.parse? "https://[::1]:6000/v1/" = some
      { scheme := "https"
        host? := some (.ipv6 [0, 0, 0, 0, 0, 0, 0, 1])
        port? := some 6000
        path := "/v1/" } := by decide +kernel
  have kept : "https://[::1]:6000/v1/" ∈
      Auths.ofRecords [("https://[::1]:6000/v1/", {}), ("https://[::1]:5000/v2/", {})] := by
    simp [Auths.ofRecords]
  exact (tolerance_complete read kept readKey (.inl rfl) (.inr rfl) ⟨rfl, rfl, rfl, rfl, rfl⟩ (.inl rfl) (.inl rfl)).2
    fun _ => inexact_of_approximate read answered

end BuildCredentials.Registry
