import Introspection.Entity.Node
/-!
# Records whose members are known

An object that is made of members with distinct keys has them all, and a map by name holds none
but the items that it is made of. Reading a record under the key of a member of the right shape
gives the member, and logs nothing.
-/

namespace Introspection

/-! ## Members of an object -/

theorem lookup_insertMember {α : Type} (key other : String) (value : α)
    (members : List (String × α)) :
    (insertMember key value members).lookup other =
      if other = key then some value else members.lookup other := by
  induction members with
  | nil =>
      rw [insertMember, List.lookup_cons]
      by_cases h : other = key
      · rw [if_pos h, beq_iff_eq.mpr h]
      · rw [if_neg h, beq_eq_false_iff_ne.mpr h]
  | cons member members ih =>
      obtain ⟨k, v⟩ := member
      rw [insertMember]
      by_cases h : other = key
      · subst h
        rw [if_pos rfl]
        split
        · rw [List.lookup_cons, beq_self_eq_true]
        · split
          · rw [List.lookup_cons, beq_self_eq_true]
          · rename_i hne
            rw [List.lookup_cons, beq_eq_false_iff_ne.mpr hne, ih, if_pos rfl]
      · rw [if_neg h]
        have hother : (other == key) = false := beq_eq_false_iff_ne.mpr h
        split
        · rw [List.lookup_cons, hother]
        · split
          · rename_i heq
            subst heq
            rw [List.lookup_cons, List.lookup_cons, hother]
          · rw [List.lookup_cons, List.lookup_cons, ih, if_neg h]

theorem lookup_foldl_insertMember {members sorted : List (String × Json)}
    (h : (members.map (·.1)).Nodup) (key : String) :
    (members.foldl (fun sorted (key, value) => insertMember key value sorted) sorted).lookup key =
      (members.lookup key).or (sorted.lookup key) := by
  induction members generalizing sorted with
  | nil => rfl
  | cons member members ih =>
      obtain ⟨k, v⟩ := member
      obtain ⟨hk, hmembers⟩ := List.nodup_cons.mp h
      rw [List.foldl_cons, ih hmembers, lookup_insertMember, List.lookup_cons]
      by_cases hkey : key = k
      · -- The key is in no later member, so it keeps the value of this one.
        subst hkey
        have hnone : members.lookup key = none := by
          apply List.lookup_eq_none_iff.mpr
          intro other hother
          apply bne_iff_ne.mpr
          rintro rfl
          exact hk (List.mem_map.mpr ⟨other, hother, rfl⟩)
        rw [hnone, if_pos rfl, beq_self_eq_true]
        rfl
      · rw [if_neg hkey, beq_eq_false_iff_ne.mpr hkey]

/-- An object made of members with distinct keys has these members. -/
theorem Json.member?_ofMembers {members : List (String × Json)}
    (hkeys : (members.map (·.1)).Nodup) {key : String} {value : Json}
    (h : members.lookup key = some value) : (Json.ofMembers members).member? key = some value := by
  rw [ofMembers, member?, lookup_foldl_insertMember hkeys, h, Option.some_or]

theorem Json.member?_ofMembers_singleton (key : String) (value : Json) :
    (Json.ofMembers [(key, value)]).member? key = some value := by
  show [(key, value)].lookup key = some value
  rw [List.lookup_cons, beq_self_eq_true]

theorem NameMap.mem_or_lookup_of_foldl {α : Type} {name : α → String} {entries : List (α × Nat)}
    {map : NameMap α} {wanted : String} {entry : α × Nat}
    (h : (entries.foldl (fun map item => insertMember (name item.1) item map) map).lookup wanted =
      some entry) : entry ∈ entries ∨ map.lookup wanted = some entry := by
  induction entries generalizing map with
  | nil => exact .inr h
  | cons first entries ih =>
      rcases ih h with hrest | hmap
      · exact .inl (List.mem_cons_of_mem first hrest)
      · rw [lookup_insertMember] at hmap
        split at hmap
        · cases hmap
          exact .inl List.mem_cons_self
        · exact .inr hmap

/-- What is found by a name in a map of names is one of the items. -/
theorem NameMap.mem_of_find? {α : Type} {name : α → String} {items : List α} {wanted : String}
    {a : α} (h : (NameMap.of name items).find? wanted = some a) : a ∈ items := by
  obtain ⟨entry, hentry, rfl⟩ := Option.map_eq_some_iff.mp h
  rcases mem_or_lookup_of_foldl hentry with hfound | hnone
  · exact List.fst_mem_of_mem_zipIdx hfound
  · cases hnone

/-! ## Reading members -/

namespace Record

variable {r : Record} {key : String}

theorem member_of_member? {value : Json} (h : r.json.member? key = some value) :
    r.member key = pure ⟨value, h⟩ := by
  obtain ⟨place, json⟩ := r
  cases json with
  | obj members =>
      unfold member
      dsimp only
      split
      · rename_i found hfound
        have hmember : members.lookup key = some value := h
        obtain rfl : found = value := Option.some.inj (hfound.symm.trans hmember)
        rfl
      · rename_i hmissing
        have hmember : members.lookup key = some value := h
        rw [hmissing] at hmember
        cases hmember
  | _ => cases h

theorem fetch_of_member? {value : Json} (h : r.json.member? key = some value) :
    r.fetch key = pure value := by
  rw [fetch, member_of_member? h, pure_bind]

theorem object_of_member? {members : List (String × Json)} (owner : Owner)
    (h : r.json.member? key = some (.obj members)) :
    r.object key owner = pure (unnamed owner (.obj members)) := by
  rw [object, fetch_of_member? h, pure_bind]

theorem string_of_member? {s : String} (h : r.json.member? key = some (.str s)) :
    r.string key = pure s := by
  rw [string, fetch_of_member? h, pure_bind]

theorem stringOrNull_of_member? {found : Option String}
    (h : r.json.member? key = some (.ofOption .str found)) :
    r.stringOrNull key = pure found := by
  rw [stringOrNull, fetch_of_member? h, pure_bind]
  cases found <;> rfl

theorem bool_of_member? {b : Bool} (h : r.json.member? key = some (.bool b)) :
    r.bool key = pure b := by
  rw [bool, fetch_of_member? h, pure_bind]

theorem listOrNull_of_member? {found : Option (List Json)}
    (h : r.json.member? key = some (.ofOption .arr found)) :
    r.listOrNull key = pure found := by
  rw [listOrNull, fetch_of_member? h, pure_bind]
  cases found <;> rfl

theorem list_of_member? {items : List Json} (h : r.json.member? key = some (.arr items)) :
    r.list key = pure items := by
  have hitems : r.json.member? key = some (.ofOption .arr (some items)) := h
  rw [list, listOrNull_of_member? hitems, pure_bind]

theorem kind_of_member? {kind : TypeKind} (h : r.json.member? "kind" = some (.str kind.name)) :
    r.kind = pure kind := by
  have hread : TypeKind.read? (.str kind.name) = some kind := TypeKind.ofName?_name kind
  rw [Record.kind, fetch_of_member? h, pure_bind, hread]
  rfl

theorem find?_of_member? {value : Json} (h : r.json.member? key = some value) :
    r.find? key = pure (if value = .null then none else some value) := by
  obtain ⟨place, json⟩ := r
  cases json with
  | obj members =>
      have hmember : members.lookup key = some value := h
      rw [find?]
      dsimp only
      rw [hmember]
      cases value <;> rfl
  | _ => cases h

theorem string?_of_member? {found : Option String}
    (h : r.json.member? key = some (.ofOption .str found)) : r.string? key = pure found := by
  rw [string?, find?_of_member? h, pure_bind]
  cases found <;> rfl

theorem bool?_of_member? {b : Bool} (h : r.json.member? key = some (.bool b)) :
    r.bool? key = pure (some b) := by
  rw [bool?, find?_of_member? h, pure_bind]
  rfl

end Record

/-! ## Reading items -/

/-- A list of items is read if each of them is. -/
theorem Reading.mapM_map_eq_pure {α β : Type} {read : Json → Reading β} {write : α → Json}
    {entity : α → β} {items : List α} (h : ∀ a ∈ items, read (write a) = pure (entity a)) :
    (items.map write).mapM read = pure (items.map entity) := by
  induction items with
  | nil => rw [List.map_nil, List.mapM_nil, List.map_nil]
  | cons item items ih =>
      have hrest := ih fun other hother => h other (List.mem_cons_of_mem item hother)
      rw [List.map_cons, List.mapM_cons, h item List.mem_cons_self, pure_bind, hrest, pure_bind,
        List.map_cons]

end Introspection
