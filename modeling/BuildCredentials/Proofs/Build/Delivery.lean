import BuildCredentials.Build.Command
import BuildCredentials.Proofs.Build.Lifetime
import BuildCredentials.Proofs.Helper.Asking
import BuildCredentials.Proofs.Lookup.Transparency

/-!
# What an engine's helper delivers

An engine passes on what it is told in its environment, and the helper reads it back from there
(`ofVariables_environment_of_build`, `ofVariables_environment_of_none`). So a helper that an engine starts
gets what the credentials of its own build say while the build lasts, and finds nothing afterwards
(`helper_delivers_own_credentials`).
-/

set_option autoImplicit false

namespace BuildCredentials.Build

open Helper (Environment Variables)
open Registry

/-! ## The environment of an engine -/

section
variable {i : Invocation} {parent : Variables}

/-- Neither of an engine's own variables is taken over from the daemon. -/
theorem lookup_others {name : String} (h : name = Helper.buildVariable ∨ name = Helper.socketVariable) :
    (parent.filter fun (other, _) => other ≠ Helper.buildVariable ∧ other ≠ Helper.socketVariable).lookup name =
      none := by
  rw [List.lookup_eq_none_iff]
  intro p hp
  have hother := of_decide_eq_true (List.mem_filter.1 hp).2
  rcases h with rfl | rfl
  · exact bne_iff_ne.2 (Ne.symm hother.1)
  · exact bne_iff_ne.2 (Ne.symm hother.2)

theorem ofVariables_environment_of_build {build : BuildId} (h : i.build? = some build) (hb : build.text ≠ "")
    (hs : i.socket ≠ "") : Environment.ofVariables (i.environment parent) = ⟨some build.text, i.socket⟩ := by
  have hne : (Helper.socketVariable == Helper.buildVariable) = false := rfl
  simp [Environment.ofVariables, Invocation.environment, h, Helper.value?, List.lookup_cons, Option.filter, hne,
    hb, hs]

theorem ofVariables_environment_of_none (h : i.build? = none) :
    Environment.ofVariables (i.environment parent) = ⟨none, Helper.defaultSocket⟩ := by
  simp only [Environment.ofVariables, Invocation.environment, h, Helper.value?, lookup_others (.inl rfl),
    lookup_others (.inr rfl)]
  rfl

end

/-! ## Helpers of an engine -/

/-- What a call makes of credentials: it finds the record at the key that answers the address, or nothing if no
key does. -/
inductive Delivers (auths : Auths) (address : String) (call : Helper.Call) : Prop where
  | found {key : String} {kind : MatchKind} {record : Record} (hkey : resolve auths address = some (key, kind))
      (hrecord : auths[key]? = some record) (finds : Helper.Finds ⟨address, record.username, record.password⟩ call)
  | missing (hkey : resolve auths address = none) (finds : Helper.FindsNothing call)

section
variable {i : Invocation} {id : BuildId} {files : FileTree} {parent : Variables}
  {reach? : String → Option Helper.Reach} {url : String}

theorem findsNothing_of_no_credentials (hb : i.build? = none) (hurl : Text.trim url ≠ "") :
    Helper.call files (i.environment parent) reach? ["get"] (Utf8.encode url) =
      { output := "credentials not found in native keychain\n", success := false } := by
  refine Helper.call_of_no_build (Helper.readServerUrl_encode hurl) ?_
  rw [ofVariables_environment_of_none hb]

variable (hb : i.build? = some id) (hid : id.text ≠ "") (hs : i.socket ≠ "") (hurl : Text.trim url ≠ "")
include hb hid hs hurl

/-- Nothing is found unless the daemon at the socket keeps credentials for the build that answer the address. -/
theorem findsNothing_of_unanswered
    (unanswered : ∀ reach, reach? i.socket = some reach → ∀ auths, reach.store[id]? = some auths →
      resolve auths (Text.trim url) = none) :
    Helper.FindsNothing (Helper.call files (i.environment parent) reach? ["get"] (Utf8.encode url)) := by
  refine Helper.findsNothing_of_fetch (Helper.readServerUrl_encode hurl) ?_
  rw [ofVariables_environment_of_build hb hid hs]
  intro build hbuild reach hreach record hfetch
  obtain rfl : id.text = build := Option.some.inj hbuild
  obtain ⟨kind, hr⟩ := Lookup.resolve_of_fetch hfetch
  obtain ⟨auths, key, held, hkey, -⟩ := Store.resolve_eq_ok_iff.1 hr
  exact nomatch (unanswered reach hreach auths held).symm.trans hkey

/-- Credentials that the daemon at the socket keeps are delivered to a peer that it admits. -/
theorem delivers_of_held {reach : Helper.Reach} {peer : Peer.Identity} {auths : Auths}
    (hreach : reach? i.socket = some reach) (admitted : reach.endpoint.verdict (some reach.connection) = .ok peer)
    (held : reach.store[id]? = some auths) (waits : (Helper.client files (i.environment parent)).waits)
    (fits : (Utf8.encode (Lookup.Client.body ⟨id.text, Text.trim url⟩)).length ≤ Lookup.bodyLimit) :
    Delivers auths (Text.trim url)
      (Helper.call files (i.environment parent) reach? ["get"] (Utf8.encode url)) := by
  have henv : Environment.ofVariables (i.environment parent) = _ := ofVariables_environment_of_build hb hid hs
  have hsocket : reach? (Environment.ofVariables (i.environment parent)).socket = some reach := by
    rw [henv]
    exact hreach
  cases hkey : resolve auths (Text.trim url) with
  | none =>
    refine .missing hkey (findsNothing_of_unanswered hb hid hs hurl fun reached hreached auths' held' => ?_)
    obtain rfl : reach = reached := Option.some.inj (hreach.symm.trans hreached)
    obtain rfl : auths = auths' := Option.some.inj (held.symm.trans held')
    exact hkey
  | some found =>
    obtain ⟨key, kind⟩ := found
    obtain ⟨record, hrecord⟩ := exists_getElem?_of_resolve hkey
    have hr : reach.store.resolve ⟨id.text⟩ (Text.trim url) = .ok (record, kind) :=
      Store.resolve_eq_ok_iff.2 ⟨auths, key, held, hkey, hrecord⟩
    have hfetch : (reach.endpoint.fetch reach.store reach.connection ⟨id.text, Text.trim url⟩).1 = .ok record :=
      Lookup.fetch_of_resolve_ok admitted fits hid hurl hr
    exact .found hkey hrecord
      (Helper.finds_of_fetch (Helper.readServerUrl_encode hurl) (by rw [henv]) waits hsocket hfetch)

end

/-- What a helper finds that the engine of a build starts, in whatever environment the daemon was started, for
any address. While the engine runs, a daemon at the socket that keeps the build's credentials as the engine found
them, and that admits the helper, tells it what they hold for that address. After the build there is nothing
that it could find. In a build without credentials it finds nothing at any time, and does not ask. -/
theorem helper_delivers_own_credentials {id : BuildId} (hid : id.text ≠ "") {socket : String} (hs : socket ≠ "")
    {auth? : Option RegistryAuth} {auths : Auths} (hread : readAuths auth? = .ok auths) {url : String}
    (hurl : Text.trim url ≠ "") (engine : Engine) (store : Store) (request : Request) (parent : Variables)
    (files : FileTree) :
    let report := run engine socket (.ok id) store auth? request
    ∃ invocation opened, report.started = [(invocation, opened)] ∧
      let vars := invocation.environment parent
      let get reach? := Helper.call files vars reach? ["get"] (Utf8.encode url)
      (auths ≠ ∅ →
        (∀ reach? reach peer, reach? socket = some reach →
          reach.endpoint.verdict (some reach.connection) = .ok peer → reach.store[id]? = opened[id]? →
          (Helper.client files vars).waits →
          (Utf8.encode (Lookup.Client.body ⟨id.text, Text.trim url⟩)).length ≤ Lookup.bodyLimit →
          Delivers auths (Text.trim url) (get reach?)) ∧
        ∀ reach?, (∀ reach, reach? socket = some reach → reach.store[id]? = report.store[id]?) →
          Helper.FindsNothing (get reach?)) ∧
      (auths = ∅ →
        Helper.question? (Environment.ofVariables vars).build? "get" (Utf8.encode url) = none ∧
        ∀ reach?, get reach? = { output := "credentials not found in native keychain\n", success := false }) := by
  intro report
  by_cases hempty : auths = ∅
  · subst hempty
    simp only [report, run_of_empty hread]
    refine ⟨_, _, rfl, fun hne => absurd rfl hne, fun _ => ⟨?_, fun reach? => ?_⟩⟩
    · rw [ofVariables_environment_of_none rfl, Helper.question?_none]
    · exact findsNothing_of_no_credentials rfl hurl
  · simp only [report, run_of_auths hread hempty]
    refine ⟨_, _, rfl, fun _ => ⟨?_, ?_⟩, fun he => absurd he hempty⟩
    · intro reach? reach peer hreach admitted kept waits fits
      refine delivers_of_held rfl hid hs hurl hreach admitted ?_ waits fits
      rw [kept, getElem?_enter, if_pos rfl]
    · intro reach? kept
      refine findsNothing_of_unanswered rfl hid hs hurl fun reach hreach left held => ?_
      rw [kept reach hreach, getElem?_launch_leave, if_pos rfl] at held
      cases held

/-- The JSON text of one record under an address is read as just that. -/
theorem readAuths_row (address : String) (record : Record) :
    readAuths (some (.json (Utf8.encode (Json.object [(address, record.toJson)]).render))) =
      .ok (Auths.ofRecords [(address, record)]) := by
  let row := Utf8.bytesOf (Json.quoteChars address) ++ 58 :: (Utf8.encode record.toJson.render ++ [125])
  have hb : Utf8.encode (Json.object [(address, record.toJson)]).render = 123 :: row := by
    have hcolon : String.utf8EncodeChar ':' = [58] := by decide
    simp only [row]
    rw [Json.render, Utf8.encode_ofList, Json.render, Utf8.encode_ofList]
    show Utf8.bytesOf ('\x7b' :: ((Json.quoteChars address ++ ':' :: record.toJson.chars) ++ ['\x7d'])) = _
    rw [Utf8.bytesOf_cons (b := 123) (by decide), Utf8.bytesOf_append, Utf8.bytesOf_append,
      Utf8.bytesOf_cons hcolon, List.append_assoc]
    rfl
  have hrows : Json.readRows Record.shape [] false row = .ok ([(address, record.values)], []) := by
    have hname := Json.nextName_quoted false address (58 :: (Utf8.encode record.toJson.render ++ [125]))
    have hl : Record.shape.fields.length = record.values.length := rfl
    have hread := Json.Shape.read_toJson (by decide) hl [125]
    rw [Json.readRows_eq, show row = Json.comma false ++ row from rfl, hname]
    simp only [Json.readColon_colon, Record.toJson, hread]
    rw [Json.readRows_eq]
    rfl
  have htable : Json.parseTable Record.shape (123 :: row) = .ok [(address, record.values)] := by
    show Json.finish (Json.readRows Record.shape [] false row) = _
    rw [hrows]
    rfl
  have hblank : (123 :: row).all Auths.isBlankByte = false := rfl
  rw [hb]
  simp only [readAuths, RegistryAuth.read, Auths.ofJson, hblank, htable]
  rfl

/-- In a daemon that was itself started with the identifier of an old build, a build for `a` gets its own
credentials while another build's are kept, and none when it is over. -/
theorem helper_delivers_own_credentials_despite_stale_environment :
    let stale := [("FINCH_BUILD_ID", "stale")]
    let alice : Record := .basic "a" "alice" "secret"
    let store : Store := Store.put ∅ ⟨"other"⟩ ∅
    let report := run (fun _ store => ⟨store, [], .ok 0⟩) "socket" (.ok ⟨"own"⟩) store
      (some (.json (Utf8.encode (Json.object [("a", alice.toJson)]).render))) { context := "." }
    let reached (store : Store) : Helper.Reach :=
      ⟨⟨⟨1000, 1000, 10⟩, .ofParents [(30, 20), (20, 10)]⟩, store, .unix (.ok ⟨1000, 1000, some 30⟩)⟩
    ∃ invocation opened, report.started = [(invocation, opened)] ∧
      let get (store : Store) := Helper.call {} (invocation.environment stale) (fun _ => some (reached store))
        ["get"] (Utf8.encode "a\n")
      Helper.Finds ⟨"a", "alice", "secret"⟩ (get opened) ∧ Helper.FindsNothing (get report.store) := by
  intro stale alice store report reached
  have hne : Auths.ofRecords [("a", alice)] ≠ ∅ := by simp [Auths.ofRecords]
  have hread := readAuths_row "a" alice
  obtain ⟨invocation, opened, hs, helper, -⟩ := helper_delivers_own_credentials
    (show (⟨"own"⟩ : BuildId).text ≠ "" by decide) (show "socket" ≠ "" by decide) hread
    (show Text.trim "a\n" ≠ "" by decide) (fun _ store => ⟨store, [], .ok 0⟩) store { context := "." } stale {}
  obtain ⟨during, after⟩ := helper hne
  have hi : invocation = ⟨".", [], some ⟨"own"⟩, "socket"⟩ := by
    rw [run_of_auths hread hne] at hs
    exact (congrArg Prod.fst (List.singleton_inj.1 hs)).symm
  have waits : (Helper.client {} (invocation.environment stale)).waits := by
    rw [hi]
    decide +kernel
  have fits : (Utf8.encode (Lookup.Client.body ⟨"own", Text.trim "a\n"⟩)).length ≤ Lookup.bodyLimit := by
    decide +kernel
  refine ⟨invocation, opened, by simp only [report, hs], ?_, ?_⟩
  · have h := during (fun _ => some (reached opened)) (reached opened) ⟨1000, 1000, 30⟩ rfl rfl rfl waits fits
    have hkey : resolve (Auths.ofRecords [("a", alice)]) "a" = some ("a", .verbatim) := rfl
    have hrecord : (Auths.ofRecords [("a", alice)])["a"]? = some alice := rfl
    rw [show Text.trim "a\n" = "a" by decide] at h
    cases h with
    | found hkey' hrecord' finds =>
      cases hkey.symm.trans hkey'
      cases hrecord.symm.trans hrecord'
      exact finds
    | missing hkey' => cases hkey.symm.trans hkey'
  · refine after (fun _ => some (reached report.store)) fun reach hreach => ?_
    rw [← Option.some.inj hreach]

end BuildCredentials.Build
