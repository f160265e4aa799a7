import Introspection.Proofs.Members
import Mathlib.Data.List.Induction
/-!
# Items by name

A map by name is made by writing the items one after the other, so that of the items with one name
the last one stands. A search through the list finds the first of them.
-/

namespace Introspection

theorem insertMember_map {α β : Type} (f : α → β) (key : String) (value : α)
    (members : List (String × α)) :
    insertMember key (f value) (members.map fun member => (member.1, f member.2)) =
      (insertMember key value members).map fun member => (member.1, f member.2) := by
  induction members with
  | nil => rfl
  | cons member members ih =>
      simp only [List.map_cons, insertMember, ih]
      split
      · rfl
      · split <;> rfl

namespace NameMap

variable {α β : Type} (name : α → String) (items : List α)

/-- The last item is the last one that is written. -/
theorem of_concat (a : α) :
    NameMap.of name (items ++ [a]) =
      insertMember (name a) (a, items.length) (NameMap.of name items) := by
  simp [NameMap.of, List.zipIdx_append]

theorem of_map (f : β → α) (items : List β) :
    NameMap.of name (items.map f) =
      (NameMap.of (fun b => name (f b)) items).map fun entry =>
        (entry.1, f entry.2.1, entry.2.2) := by
  induction items using List.reverseRecOn with
  | nil => rfl
  | append_singleton items b ih =>
      rw [List.map_append, List.map_singleton, of_concat, of_concat, ih, List.length_map]
      exact insertMember_map (fun entry => (f entry.1, entry.2)) (name (f b)) (b, items.length) _

/-- Under a name stands the last of the items that have it, with its position. -/
theorem lookup_of (wanted : String) :
    (NameMap.of name items).lookup wanted =
      (items.zipIdx.filter (name ·.1 = wanted)).getLast? := by
  induction items using List.reverseRecOn with
  | nil => rfl
  | append_singleton items a ih =>
      rw [of_concat, lookup_insertMember, ih, List.zipIdx_append, List.filter_append]
      by_cases h : wanted = name a
      · simp [h]
      · simp [h, Ne.symm h]

theorem find?_of (wanted : String) :
    (NameMap.of name items).find? wanted = (items.filter (name · = wanted)).getLast? := by
  have hfst : items.filter (name · = wanted) =
      (items.zipIdx.filter (name ·.1 = wanted)).map (·.1) := by
    conv_lhs => rw [← List.zipIdx_map_fst 0 items, List.filter_map]
    rfl
  rw [find?, lookup_of, hfst, List.getLast?_map]

variable {name items} in
/-- The position under a name is that of the item under it. -/
theorem getElem?_of_lookup {wanted : String} {a : α} {position : Nat}
    (h : (NameMap.of name items).lookup wanted = some (a, position)) :
    items[position]? = some a ∧ (NameMap.of name items).find? wanted = some a := by
  refine ⟨?_, by rw [find?, h, Option.map_some]⟩
  rw [lookup_of] at h
  have hmem := (List.mem_filter.mp (List.mem_of_getLast? h)).1
  exact List.mem_zipIdx_iff_getElem?.mp hmem

variable {name items} in
theorem lookup_of_eq_none_iff {wanted : String} :
    (NameMap.of name items).lookup wanted = none ↔ ∀ a ∈ items, name a ≠ wanted := by
  have hfind : (NameMap.of name items).find? wanted = none ↔ ∀ a ∈ items, name a ≠ wanted := by
    rw [find?_of, List.getLast?_eq_none_iff, List.filter_eq_nil_iff]
    simp
  rwa [find?, Option.map_eq_none_iff] at hfind

end NameMap

theorem findByName?_eq {α : Type} (name : α → String) (items : List α) (wanted : String) :
    findByName? name items wanted = (items.filter (name · = wanted)).head? := by
  rw [findByName?, List.head?_filter]

end Introspection
