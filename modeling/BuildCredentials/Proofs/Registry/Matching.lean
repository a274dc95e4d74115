import BuildCredentials.Registry.Matching

/-!
# Answers of the matching

An address that a request is answered with is one of the stored ones, by whichever pass it was found
(`mem_of_resolve`). So there is a record to go with it.
-/

set_option autoImplicit false

namespace BuildCredentials.Registry

theorem mem_of_firstWith? {condition : Url → Bool} {keys : List String} {key : String}
    (h : firstWith? condition keys = some key) : key ∈ keys := List.mem_of_find?_eq_some h

theorem verbatim?_eq_some {keys : List String} {requested : String} {answer : String × MatchKind} :
    verbatim? keys requested = some answer ↔ requested ∈ keys ∧ answer = (requested, .verbatim) := by
  unfold verbatim?
  split
  · rename_i hm
    simp [hm, eq_comm]
  · rename_i hm
    simp [hm]

theorem mem_of_resolveAmong {keys : List String} {requested key : String} {kind : MatchKind}
    (h : resolveAmong keys requested = some (key, kind)) : key ∈ keys := by
  have verbatim (hv : verbatim? keys requested = some (key, kind)) : key ∈ keys := by
    obtain ⟨hm, he⟩ := verbatim?_eq_some.1 hv
    cases he
    exact hm
  unfold resolveAmong at h
  split at h
  · exact verbatim h
  · split at h
    · rename_i hf
      cases h
      exact mem_of_firstWith? hf
    · split at h
      · rename_i hf
        cases h
        exact mem_of_firstWith? hf
      · exact verbatim h

/-- A request is answered with a stored address. -/
theorem mem_of_resolve {α : Type} {entries : Std.ExtTreeMap String α} {requested key : String}
    {kind : MatchKind} (h : resolve entries requested = some (key, kind)) : key ∈ entries :=
  Std.ExtTreeMap.mem_keys.1 (mem_of_resolveAmong h)

theorem exists_getElem?_of_resolve {α : Type} {entries : Std.ExtTreeMap String α} {requested key : String}
    {kind : MatchKind} (h : resolve entries requested = some (key, kind)) :
    ∃ value, entries[key]? = some value :=
  Option.isSome_iff_exists.1 (Std.ExtTreeMap.mem_iff_isSome_getElem?.1 (mem_of_resolve h))

end BuildCredentials.Registry
