import BuildCredentials.Proofs.Json.Reading
import Std.Data.ExtTreeMap

/-!
# Values with their members in order

Putting the members of each object in the order of their names keeps what a value says: two values are the `Same` if
their arrays have the same items and their objects have the same under each name, where the last of two members
of one name stands (`Plain.same_sorted`). Members are put into others whose names rise, and rise again with it
(`Rises.insertMember`), so that a name is found where it belongs.
-/

set_option autoImplicit false

namespace BuildCredentials.Json

/-- What stands last under a name. -/
def last? (name : String) : List (String × Json) → Option Json
  | [] => none
  | (other, v) :: rest => (last? name rest).or (if other = name then some v else none)

/-- The names of members rise. -/
def Rises (members : List (String × Json)) : Prop := members.Pairwise fun m n => compare m.1 n.1 = .lt

/-- Values that say the same. -/
inductive Same : Json → Json → Prop
  | refl (v : Json) : Same v v
  | array {items others : List Json} : items.length = others.length →
      (∀ (i : Nat) v w, items[i]? = some v → others[i]? = some w → Same v w) → Same (.array items) (.array others)
  | object {members others : List (String × Json)} :
      (∀ name, (last? name members).isSome = (last? name others).isSome) →
      (∀ name v w, last? name members = some v → last? name others = some w → Same v w) →
      Same (.object members) (.object others)

/-! ## Members in order -/

theorem last?_eq_none {name : String} {members : List (String × Json)} (h : ∀ m ∈ members, m.1 ≠ name) :
    last? name members = none := by
  induction members with
  | nil => rfl
  | cons m members ih =>
    rw [last?, ih fun n hn => h n (.tail _ hn), if_neg (h m (.head _))]
    rfl

theorem ne_of_compare_lt {a b : String} (h : compare a b = .lt) : b ≠ a := by
  rintro rfl
  have he : compare b b = .eq := Std.ReflCmp.compare_self
  cases h.symm.trans he

theorem mem_insertMember {name : String} {v : Json} {members : List (String × Json)} {m : String × Json}
    (h : m ∈ insertMember name v members) : m = (name, v) ∨ m ∈ members := by
  induction members with
  | nil => exact .inl (List.mem_singleton.1 h)
  | cons n members ih =>
    rw [insertMember] at h
    split at h
    · rcases List.mem_cons.1 h with rfl | h
      · exact .inl rfl
      · exact .inr h
    · rcases List.mem_cons.1 h with rfl | h
      · exact .inl rfl
      · exact .inr (.tail _ h)
    · rcases List.mem_cons.1 h with rfl | h
      · exact .inr (.head _)
      · rcases ih h with rfl | h
        · exact .inl rfl
        · exact .inr (.tail _ h)

theorem Rises.insertMember {members : List (String × Json)} (h : Rises members) (name : String) (v : Json) :
    Rises (insertMember name v members) := by
  induction members with
  | nil => exact List.pairwise_singleton _ _
  | cons n members ih =>
    obtain ⟨hn, hr⟩ := List.pairwise_cons.1 h
    rw [Json.insertMember]
    split
    · next hc =>
      refine List.pairwise_cons.2 ⟨fun m hm => ?_, h⟩
      rcases List.mem_cons.1 hm with rfl | hm
      · exact hc
      · exact Std.TransCmp.lt_trans hc (hn m hm)
    · next hc =>
      obtain rfl := Std.LawfulEqCmp.eq_of_compare hc
      exact List.pairwise_cons.2 ⟨hn, hr⟩
    · next hc =>
      refine List.pairwise_cons.2 ⟨fun m hm => ?_, ih hr⟩
      rcases mem_insertMember hm with rfl | hm
      · exact Std.OrientedCmp.lt_of_gt hc
      · exact hn m hm

theorem last?_insertMember {members : List (String × Json)} (h : Rises members) (name : String) (v : Json)
    (other : String) :
    last? other (insertMember name v members) = if name = other then some v else last? other members := by
  induction members with
  | nil => simp [insertMember, last?]
  | cons n members ih =>
    obtain ⟨hn, hr⟩ := List.pairwise_cons.1 h
    have hnone : n.1 = other → last? other members = none := by
      rintro rfl
      exact last?_eq_none fun m hm => ne_of_compare_lt (hn m hm)
    rw [insertMember]
    split
    · next hc =>
      by_cases ho : name = other
      · subst ho
        have hall : ∀ m ∈ n :: members, m.1 ≠ name := by
          intro m hm
          rcases List.mem_cons.1 hm with rfl | hm
          · exact ne_of_compare_lt hc
          · exact ne_of_compare_lt (Std.TransCmp.lt_trans hc (hn m hm))
        show (last? name (n :: members)).or _ = _
        rw [last?_eq_none hall, if_pos rfl]
        rfl
      · show (last? other (n :: members)).or _ = _
        rw [if_neg ho, if_neg ho, Option.or_none]
    · next hc =>
      obtain rfl := Std.LawfulEqCmp.eq_of_compare hc
      by_cases ho : n.1 = other
      · show (last? other members).or _ = _
        rw [hnone ho, if_pos ho, if_pos ho]
        rfl
      · show (last? other members).or _ = if _ then _ else (last? other members).or _
        rw [if_neg ho, if_neg ho, if_neg ho]
    · next hc =>
      show (last? other (insertMember name v members)).or _ = if _ then _ else (last? other members).or _
      rw [ih hr]
      by_cases ho : name = other
      · rw [if_pos ho, if_pos ho]
        rfl
      · rw [if_neg ho, if_neg ho]

theorem mem_of_last? {name : String} {members : List (String × Json)} {v : Json}
    (h : last? name members = some v) : (name, v) ∈ members := by
  induction members with
  | nil => cases h
  | cons m members ih =>
    rw [last?] at h
    rcases Option.or_eq_some_iff.1 h with h | ⟨-, h⟩
    · exact .tail _ (ih h)
    · split at h
      · next he =>
        obtain rfl := Option.some.inj h
        obtain rfl := he
        exact .head _
      · cases h

theorem mem_sortedMembers {done members : List (String × Json)} {m : String × Json}
    (h : m ∈ sortedMembers done members) : m ∈ done ∨ ∃ n ∈ members, m = (n.1, n.2.sorted) := by
  induction members generalizing done with
  | nil =>
    rw [sortedMembers] at h
    exact .inl h
  | cons n members ih =>
    rw [sortedMembers] at h
    rcases ih h with h | ⟨x, hx, rfl⟩
    · rcases mem_insertMember h with rfl | h
      · exact .inr ⟨n, .head _, rfl⟩
      · exact .inl h
    · exact .inr ⟨x, .tail _ hx, rfl⟩

theorem last?_sortedMembers {done : List (String × Json)} (h : Rises done) (members : List (String × Json))
    (name : String) :
    last? name (sortedMembers done members) = ((last? name members).map sorted).or (last? name done) := by
  induction members generalizing done with
  | nil => rw [sortedMembers]; rfl
  | cons n members ih =>
    rw [sortedMembers, ih (h.insertMember n.1 n.2.sorted), last?_insertMember h, last?]
    cases last? name members with
    | some v => rfl
    | none => by_cases hn : n.1 = name <;> simp [hn]

theorem sortedItems_eq (items : List Json) : sortedItems items = items.map sorted := by
  induction items with
  | nil => rw [sortedItems]; rfl
  | cons v items ih => rw [sortedItems, ih]; rfl

/-! ## Values in order -/

section
variable {v : Json}

theorem rises_nil : Rises [] := .nil

theorem Plain.same_sorted (h : Plain v) : Same v.sorted v := by
  induction h with
  | null | bool | integer | text => exact .refl _
  | @array items _ ih =>
    rw [sorted, sortedItems_eq]
    refine .array (List.length_map ..) fun i v w hv hw => ?_
    rw [List.getElem?_map, hw] at hv
    obtain rfl := Option.some.inj hv
    exact ih w (List.mem_of_getElem? hw)
  | @object members _ ih =>
    rw [sorted]
    have hlast (name : String) : last? name (sortedMembers [] members) = (last? name members).map sorted := by
      rw [last?_sortedMembers rises_nil]
      exact Option.or_none
    refine .object (fun name => by rw [hlast, Option.isSome_map]) fun name v w hv hw => ?_
    rw [hlast, hw] at hv
    obtain rfl := Option.some.inj hv
    exact ih (name, w) (mem_of_last? hw)

theorem Plain.sorted (h : Plain v) : Plain v.sorted := by
  induction h with
  | null => exact .null
  | bool b => exact .bool b
  | integer hl hu => exact .integer hl hu
  | text s => exact .text s
  | @array items _ ih =>
    rw [Json.sorted, sortedItems_eq]
    refine .array fun w hw => ?_
    obtain ⟨x, hx, rfl⟩ := List.mem_map.1 hw
    exact ih x hx
  | @object members _ ih =>
    rw [Json.sorted]
    refine .object fun m hm => ?_
    rcases mem_sortedMembers hm with hm | ⟨n, hn, rfl⟩
    · cases hm
    · exact ih n hn

theorem Plain.depth_sorted_le (h : Plain v) : v.sorted.depth ≤ v.depth := by
  induction h with
  | null | bool | integer | text => exact Nat.le_refl _
  | @array items _ ih =>
    rw [Json.sorted, sortedItems_eq, depth, depth, Nat.add_le_add_iff_right, itemsDepth_le_iff]
    intro w hw
    obtain ⟨x, hx, rfl⟩ := List.mem_map.1 hw
    exact Nat.le_trans (ih x hx) (itemsDepth_le_iff.1 (Nat.le_refl _) x hx)
  | @object members _ ih =>
    rw [Json.sorted, depth, depth, Nat.add_le_add_iff_right, membersDepth_le_iff]
    intro m hm
    rcases mem_sortedMembers hm with hm | ⟨n, hn, rfl⟩
    · cases hm
    · exact Nat.le_trans (ih n hn) (membersDepth_le_iff.1 (Nat.le_refl _) n hn)

end

end BuildCredentials.Json
