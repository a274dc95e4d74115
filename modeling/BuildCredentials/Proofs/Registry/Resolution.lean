import BuildCredentials.Proofs.Bytes.Utf8
import BuildCredentials.Proofs.Registry.Matching

/-!
# Which stored address answers a request

`Answers` says what a request is answered with, given only which addresses are stored. There is one such answer,
and `resolve` gives it, as does any search through the stored addresses once they are in the order of their bytes,
in whatever order they were listed (`resolve_keeps_rules`). So a stored address is always found under its own
spelling, and only what is no address is found by its spelling alone.
-/

set_option autoImplicit false

namespace BuildCredentials.Registry

/-! ## Rules -/

/-- Two addresses mean the same: they agree in all their parts and in the port that is meant. -/
structure MeansSame (a b : Url) : Prop where
  scheme : a.scheme = b.scheme
  username : a.username = b.username
  password : a.password? = b.password?
  host : a.host? = b.host?
  path : a.path = b.path
  query : a.query? = b.query?
  fragment : a.fragment? = b.fragment?
  port : a.effectivePort? = b.effectivePort?

/-- A text is stored and is an address that satisfies a condition. -/
def Fits (stored : String → Prop) (condition : Url → Prop) (key : String) : Prop :=
  stored key ∧ ∃ url, Url.parse? key = some url ∧ condition url

/-- The first text with a property, in the order of bytes. -/
structure First (P : String → Prop) (text : String) : Prop where
  holds : P text
  le : ∀ other, P other → Utf8.encode text ≤ Utf8.encode other

/-- What a request is answered with. -/
inductive Answers (stored : String → Prop) (requested : String) : Option (String × MatchKind) → Prop
  /-- What is no address is only found by its spelling. -/
  | verbatim (unread : Url.parse? requested = none) (kept : stored requested) :
      Answers stored requested (some (requested, .verbatim))
  | unknown (unread : Url.parse? requested = none) (missing : ¬stored requested) : Answers stored requested none
  | exact {wanted : Address} {key : String} (read : Address.parse? requested = some wanted)
      (first : First (Fits stored (MeansSame wanted.url)) key) : Answers stored requested (some (key, .exact))
  | approximate {wanted : Address} {key : String} (read : Address.parse? requested = some wanted)
      (inexact : ∀ other, ¬Fits stored (MeansSame wanted.url) other)
      (first : First (Fits stored (wanted.approximates · = true)) key) :
      Answers stored requested (some (key, .approximate))
  | nothing {wanted : Address} (read : Address.parse? requested = some wanted)
      (inexact : ∀ other, ¬Fits stored (MeansSame wanted.url) other)
      (unlike : ∀ other, ¬Fits stored (wanted.approximates · = true) other) : Answers stored requested none

/-! ## Conditions on addresses -/

theorem MeansSame.refl (url : Url) : MeansSame url url := ⟨rfl, rfl, rfl, rfl, rfl, rfl, rfl, rfl⟩

namespace Address

theorem matchesExactly_iff {a : Address} {stored : Url} :
    a.matchesExactly stored = true ↔ MeansSame a.url stored := by
  simp only [matchesExactly, sameExceptPort, Bool.and_eq_true, decide_eq_true_eq]
  constructor
  · rintro ⟨⟨⟨⟨⟨⟨⟨scheme, username⟩, password⟩, host⟩, path⟩, query⟩, fragment⟩, port⟩
    exact { scheme, username, password, host, path, query, fragment, port }
  · intro h
    exact ⟨⟨⟨⟨⟨⟨⟨h.scheme, h.username⟩, h.password⟩, h.host⟩, h.path⟩, h.query⟩, h.fragment⟩, h.port⟩

/-- What is read of a requested address beyond its parts never keeps it from being one. -/
theorem map_url_parse? (raw : String) : (parse? raw).map (·.url) = Url.parse? raw := by
  unfold parse?
  cases Url.parse? raw with
  | none => rfl
  | some url => cases afterMark? raw.toList <;> rfl

theorem parse?_eq_none {raw : String} : parse? raw = none ↔ Url.parse? raw = none := by
  rw [← map_url_parse?, Option.map_eq_none_iff]

theorem parse?_ne_some {raw : String} {a : Address} (unread : Url.parse? raw = none) : parse? raw ≠ some a := by
  simp [parse?_eq_none.2 unread]

theorem url_of_parse? {raw : String} {a : Address} (h : parse? raw = some a) : Url.parse? raw = some a.url := by
  rw [← map_url_parse?, h, Option.map_some]

end Address

/-! ## The first of some addresses -/

theorem First.unique {P : String → Prop} {a b : String} (ha : First P a) (hb : First P b) : a = b :=
  Utf8.encode_injective (List.le_antisymm (ha.le b hb.holds) (hb.le a ha.holds))

/-- Texts in the order of their bytes. -/
def Rising (keys : List String) : Prop := keys.Pairwise fun a b => Utf8.encode a ≤ Utf8.encode b

section

variable {condition : Url → Bool} {keys : List String}

theorem fits_iff {key : String} :
    Fits (· ∈ keys) (condition · = true) key ↔ key ∈ keys ∧ (Url.parse? key).any condition = true := by
  rw [Fits, Option.any_eq_true]

theorem firstWith?_eq_none_iff :
    firstWith? condition keys = none ↔ ∀ key, ¬Fits (· ∈ keys) (condition · = true) key := by
  simp only [firstWith?, List.find?_eq_none, fits_iff, not_and]

theorem first_of_firstWith? (sorted : Rising keys) {key : String} (h : firstWith? condition keys = some key) :
    First (Fits (· ∈ keys) (condition · = true)) key := by
  obtain ⟨hkey, before, after, rfl, hbefore⟩ := List.find?_eq_some_iff_append.1 h
  refine ⟨fits_iff.2 ⟨List.mem_append_right _ (.head _), hkey⟩, fun other hother => ?_⟩
  obtain ⟨hmem, hany⟩ := fits_iff.1 hother
  have hfrom := (List.pairwise_append.1 sorted).2.1
  rcases List.mem_append.1 hmem with hm | hm
  · simpa [hany] using hbefore other hm
  · rcases List.mem_cons.1 hm with rfl | hm
    · exact List.le_refl _
    · exact List.rel_of_pairwise_cons hfrom hm

/-- A search through rising texts finds the first that fits. -/
theorem firstWith?_eq_some_iff (sorted : Rising keys) {key : String} :
    firstWith? condition keys = some key ↔ First (Fits (· ∈ keys) (condition · = true)) key := by
  refine ⟨first_of_firstWith? sorted, fun hfirst => ?_⟩
  cases hfound : firstWith? condition keys with
  | none => exact absurd hfirst.holds (firstWith?_eq_none_iff.1 hfound key)
  | some found => rw [(first_of_firstWith? sorted hfound).unique hfirst]

end

/-! ## Searches -/

section

variable {keys : List String} {requested : String}

theorem fits_matchesExactly (wanted : Address) :
    Fits (· ∈ keys) (wanted.matchesExactly · = true) = Fits (· ∈ keys) (MeansSame wanted.url) :=
  congrArg (Fits _) (funext fun _ => propext Address.matchesExactly_iff)

/-- A stored address is met by a request of its own spelling. -/
theorem Fits.self {stored : String → Prop} {wanted : Address} (read : Address.parse? requested = some wanted)
    (kept : stored requested) : Fits stored (MeansSame wanted.url) requested :=
  ⟨kept, wanted.url, Address.url_of_parse? read, MeansSame.refl _⟩

theorem answers_resolveAmong (sorted : Rising keys) (requested : String) :
    Answers (· ∈ keys) requested (resolveAmong keys requested) := by
  unfold resolveAmong
  split
  next unread =>
    rw [Address.parse?_eq_none] at unread
    unfold verbatim?
    split
    next kept => exact .verbatim unread kept
    next missing => exact .unknown unread missing
  next wanted read =>
    split
    next key hexact => exact .exact read (fits_matchesExactly wanted ▸ first_of_firstWith? sorted hexact)
    next hexact =>
      have inexact : ∀ other, ¬Fits (· ∈ keys) (MeansSame wanted.url) other :=
        fits_matchesExactly wanted ▸ firstWith?_eq_none_iff.1 hexact
      split
      next key happrox => exact .approximate read inexact (first_of_firstWith? sorted happrox)
      next happrox =>
        rw [verbatim?, if_neg fun kept => inexact requested (Fits.self read kept)]
        exact .nothing read inexact (firstWith?_eq_none_iff.1 happrox)

theorem Answers.resolveAmong_eq (sorted : Rising keys) {answer : Option (String × MatchKind)}
    (h : Answers (· ∈ keys) requested answer) : resolveAmong keys requested = answer := by
  have missed {wanted : Address} (inexact : ∀ other, ¬Fits (· ∈ keys) (MeansSame wanted.url) other) :
      firstWith? wanted.matchesExactly keys = none :=
    firstWith?_eq_none_iff.2 (fits_matchesExactly wanted ▸ inexact)
  cases h with
  | verbatim unread kept => rw [resolveAmong, Address.parse?_eq_none.2 unread, verbatim?, if_pos kept]
  | unknown unread missing => rw [resolveAmong, Address.parse?_eq_none.2 unread, verbatim?, if_neg missing]
  | exact read first =>
    simp only [resolveAmong, read, (firstWith?_eq_some_iff sorted).2 (fits_matchesExactly _ ▸ first)]
  | approximate read inexact first =>
    simp only [resolveAmong, read, missed inexact, (firstWith?_eq_some_iff sorted).2 first]
  | nothing read inexact unlike =>
    simp only [resolveAmong, read, missed inexact, firstWith?_eq_none_iff.2 unlike]
    exact if_neg fun kept => inexact requested (Fits.self read kept)

/-- A search through rising texts gives the one answer that the rules allow. -/
theorem resolveAmong_eq_iff (sorted : Rising keys) {answer : Option (String × MatchKind)} :
    resolveAmong keys requested = answer ↔ Answers (· ∈ keys) requested answer :=
  ⟨fun h => h ▸ answers_resolveAmong sorted requested, Answers.resolveAmong_eq sorted⟩

end

/-! ## Stored addresses -/

theorem rising_keys {α : Type} (entries : Std.ExtTreeMap String α) : Rising entries.keys :=
  (Std.ExtTreeMap.ordered_keys (t := entries)).imp fun h =>
    List.le_of_lt (Utf8.encode_lt_encode.2 (compareOfLessAndEq_eq_lt.1 h))

/-- Whether a text goes before another one in the order of bytes. -/
def inOrder (a b : String) : Bool := Utf8.encode a ≤ Utf8.encode b

theorem rising_mergeSort (listing : List String) : Rising (listing.mergeSort inOrder) := by
  refine (List.pairwise_mergeSort ?_ ?_ listing).imp of_decide_eq_true
  · intro a b c hab hbc
    exact decide_eq_true (List.le_trans (of_decide_eq_true hab) (of_decide_eq_true hbc))
  · intro a b
    rw [Bool.or_eq_true]
    exact (List.le_total (Utf8.encode a) (Utf8.encode b)).imp decide_eq_true decide_eq_true

/-- Stored addresses are searched to the one answer that the rules allow. -/
theorem resolve_eq_iff {α : Type} {entries : Std.ExtTreeMap String α} {requested : String}
    {answer : Option (String × MatchKind)} :
    resolve entries requested = answer ↔ Answers (· ∈ entries) requested answer := by
  have hmem : (· ∈ entries.keys) = (· ∈ entries) := funext fun key => propext Std.ExtTreeMap.mem_keys
  rw [resolve, resolveAmong_eq_iff (rising_keys entries), hmem]

/-- What answers an address is a stored one that means the same or is taken for it. -/
theorem fits_of_resolve {α : Type} {entries : Std.ExtTreeMap String α} {requested key : String} {kind : MatchKind}
    {wanted : Address} (read : Address.parse? requested = some wanted)
    (answered : resolve entries requested = some (key, kind)) :
    Fits (· ∈ entries) (fun stored => MeansSame wanted.url stored ∨ wanted.approximates stored = true) key := by
  cases resolve_eq_iff.1 answered with
  | verbatim unread _ => exact absurd read (Address.parse?_ne_some unread)
  | exact read' first =>
    cases read.symm.trans read'
    obtain ⟨kept, stored, hstored, same⟩ := first.holds
    exact ⟨kept, stored, hstored, .inl same⟩
  | approximate read' _ first =>
    cases read.symm.trans read'
    obtain ⟨kept, stored, hstored, hfits⟩ := first.holds
    exact ⟨kept, stored, hstored, .inr hfits⟩

/-- A single stored address is found if a request is taken for it. -/
theorem resolve_of_only {α : Type} {entries : Std.ExtTreeMap String α} {requested key : String} {wanted : Address}
    {stored : Url} (only : ∀ k, k ∈ entries ↔ k = key) (read : Address.parse? requested = some wanted)
    (readKey : Url.parse? key = some stored) (inexact : ¬MeansSame wanted.url stored)
    (fits : wanted.approximates stored = true) : resolve entries requested = some (key, .approximate) := by
  refine resolve_eq_iff.2 (.approximate read (fun k hk => ?_) ?_)
  · obtain ⟨hmem, stored', readKey', same⟩ := hk
    obtain rfl := (only k).1 hmem
    cases readKey.symm.trans readKey'
    exact inexact same
  · refine ⟨⟨(only key).2 rfl, stored, readKey, fits⟩, fun k hk => ?_⟩
    rw [(only k).1 hk.1]
    exact List.le_refl _

/-- `resolve` gives the one answer that the rules allow. So does a search that first puts the stored addresses in
order, however they are listed. An answer by the spelling alone is one to what is no address, and a stored text is
found when it is asked for. -/
theorem resolve_keeps_rules {α : Type} (entries : Std.ExtTreeMap String α) (requested : String) :
    (∀ answer, resolve entries requested = answer ↔ Answers (· ∈ entries) requested answer) ∧
      (∀ listing : List String, (∀ key, key ∈ listing ↔ key ∈ entries) →
        resolveAmong (listing.mergeSort inOrder) requested = resolve entries requested) ∧
      (∀ key, resolve entries requested = some (key, .verbatim) → Url.parse? requested = none) ∧
      (requested ∈ entries → resolve entries requested ≠ none) := by
  refine ⟨fun _ => resolve_eq_iff, fun listing hl => ?_, fun key h => ?_, fun kept h => ?_⟩
  · have hmem : (· ∈ listing.mergeSort inOrder) = (· ∈ entries) :=
      funext fun key => propext (List.mem_mergeSort.trans (hl key))
    rw [resolveAmong_eq_iff (rising_mergeSort listing), hmem, ← resolve_eq_iff]
  · cases resolve_eq_iff.1 h with
    | verbatim unread _ => exact unread
  · cases resolve_eq_iff.1 h with
    | unknown _ missing => exact missing kept
    | nothing read inexact _ => exact inexact requested (Fits.self read kept)

/-- A request without a port takes the one that comes first in the order, though it is listed last. -/
theorem resolve_keeps_rules_of_two_ports :
    (∀ key, key ∈ ["https://[::1]:6000/", "https://[::1]:5000/"] ↔
      key ∈ Std.ExtTreeMap.ofList [("https://[::1]:5000/", 1), ("https://[::1]:6000/", 2)]) ∧
    resolveAmong (["https://[::1]:6000/", "https://[::1]:5000/"].mergeSort inOrder) "https://[::1]" =
      some ("https://[::1]:5000/", .approximate) := by
  have listed (key : String) : key ∈ ["https://[::1]:6000/", "https://[::1]:5000/"] ↔
      key ∈ Std.ExtTreeMap.ofList [("https://[::1]:5000/", 1), ("https://[::1]:6000/", 2)] := by
    simp [Std.ExtTreeMap.mem_ofList, or_comm]
  exact ⟨listed, ((resolve_keeps_rules _ _).2.1 _ listed).trans (by decide +kernel)⟩

end BuildCredentials.Registry
