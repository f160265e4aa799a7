import Introspection.Proofs.Alike
import Introspection.Proofs.Endings
import Introspection.Proofs.Plain
/-!
# Likenesses of documents

A likeness relates values of two documents, role by role, so that no reader can tell them apart.
Leaves are equal. Nodes are alike under the keys that they are read by. Lists are alike item by
item, up to an order that does not matter where they are sorted.
-/

namespace Introspection

open Reading

/-! ## Likenesses -/

namespace Role

def item? : Role → Option Role
  | nodes owner _ => some (.node owner)
  | references => some .reference
  | _ => none

/-- The name by which an item of a list is sorted, if the item can be read. -/
def sortName? : Role → Json → Option String
  | node .type, v => (TypeDefinition.read v).result.toOption.map (·.name)
  | node .enumValue, v => (EnumValue.read v).result.toOption.map (·.name)
  | node .directive, v => (Directive.read v).result.toOption.map (·.name)
  | reference, v => (TypeRef.read v).result.toOption.map (·.namedType)
  | _, _ => none

/-- Two orders of items that are sorted, that can all be read and that have different names. -/
structure Reordered (item : Role) (xs ys : List Json) : Prop where
  perm : xs.Perm ys
  names : ∃ names : List String, xs.map item.sortName? = names.map some ∧ names.Nodup

/-- A relation of values in roles that hides what no reader asks for. -/
structure IsLikeness (R : Role → Json → Json → Prop) : Prop where
  leaf : ∀ {shape v w}, R (.leaf shape) v w → v = w
  form : ∀ {role v w}, R role v w → v = w ∨ (v.isObject = true ∧ w.isObject = true) ∨
    ∃ xs ys, v = .arr xs ∧ w = .arr ys
  member : ∀ {role under : Role} {key v w}, R role v w → role.keys.lookup key = some under →
    Option.Rel (R under) (v.member? key) (w.member? key)
  items : ∀ {role item : Role} {xs ys}, R role (.arr xs) (.arr ys) → role.item? = some item →
    ∃ mid, List.Forall₂ (R item) xs mid ∧ (mid = ys ∨ item.Reordered mid ys)

end Role

open Role

variable {R : Role → Json → Json → Prop} {role under : Role} {key : String}

theorem Role.IsLikeness.isObject_eq (hR : IsLikeness R) {v w : Json} (h : R role v w) :
    v.isObject = w.isObject := by
  rcases hR.form h with rfl | ⟨hv, hw⟩ | ⟨xs, ys, rfl, rfl⟩
  · rfl
  · rw [hv, hw]
  · rfl

theorem Role.IsLikeness.null_iff (hR : IsLikeness R) {v w : Json} (h : R role v w) :
    v = .null ↔ w = .null := by
  rcases hR.form h with rfl | ⟨hv, hw⟩ | ⟨xs, ys, rfl, rfl⟩
  · exact Iff.rfl
  · constructor
    · rintro rfl
      cases hv
    · rintro rfl
      cases hw
  · exact ⟨nofun, nofun⟩

/-- Only sorted lists can be in another order. -/
theorem Role.IsLikeness.forall₂_items (hR : IsLikeness R) {item : Role} {xs ys : List Json}
    (h : R role (.arr xs) (.arr ys)) (hitem : role.item? = some item)
    (hunsorted : ∀ v, item.sortName? v = none) : List.Forall₂ (R item) xs ys := by
  obtain ⟨mid, hmid, rfl | hreordered⟩ := hR.items h hitem
  · exact hmid
  · obtain ⟨names, hnames, _⟩ := hreordered.names
    have hnil : mid = [] := by
      cases mid with
      | nil => rfl
      | cons v rest =>
          cases names with
          | nil => cases hnames
          | cons name names =>
              rw [List.map_cons, List.map_cons, hunsorted v] at hnames
              cases hnames
    subst hnil
    rwa [List.nil_perm.mp hreordered.perm]

/-! ## Records -/

structure Record.Alike (R : Role → Json → Json → Prop) (role : Role) (r r' : Record) : Prop where
  place : r.place = r'.place
  json : R role r.json r'.json

namespace Record

variable {r r' : Record}

theorem member_of_not_object (h : r.json.isObject = false) :
    r.member key = .fail (.notObject r.place) := by
  obtain ⟨place, json⟩ := r
  cases json with
  | obj members => cases h
  | _ => rfl

theorem member_of_lacks (h : r.Lacks key) : r.member key = .fail (.missing key r.place) := by
  obtain ⟨place, json⟩ := r
  obtain ⟨members, rfl, habsent⟩ := h
  unfold member
  dsimp only
  split
  · rename_i hfound
    rw [habsent] at hfound
    cases hfound
  · rfl

theorem lacks_of_isObject (hobject : r.json.isObject = true)
    (habsent : r.json.member? key = none) : r.Lacks key := by
  obtain ⟨place, json⟩ := r
  cases json with
  | obj members => exact ⟨members, rfl, habsent⟩
  | _ => cases hobject

/-- What is fetched of an object is told by its place and by what stands under the key. -/
theorem fetch_congr (hplace : r'.place = r.place) (hobject : r.json.isObject = true)
    (hobject' : r'.json.isObject = true) (h : r'.json.member? key = r.json.member? key) :
    r'.fetch key = r.fetch key := by
  cases hfound : r.json.member? key with
  | some value => rw [fetch_of_member? hfound, fetch_of_member? (h.trans hfound)]
  | none =>
      rw [fetch, fetch, member_of_lacks (lacks_of_isObject hobject hfound),
        member_of_lacks (lacks_of_isObject hobject' (h.trans hfound)), hplace]
      rfl

theorem find?_of_not_object (h : r.json.isObject = false) :
    r.find? key = .fail (.notObject r.place) := by
  obtain ⟨place, json⟩ := r
  cases json with
  | obj members => cases h
  | _ => rfl

variable (hR : IsLikeness R) (h : Record.Alike R role r r')
  (hkey : role.keys.lookup key = some under)
include hR h hkey

/-- A key that is read of alike records has alike values, or is absent from both, or neither
record is an object. -/
theorem Alike.member?_cases :
    (∃ x y, r.json.member? key = some x ∧ r'.json.member? key = some y ∧ R under x y) ∨
      (r.Lacks key ∧ r'.Lacks key) ∨ (r.json.isObject = false ∧ r'.json.isObject = false) := by
  obtain ⟨place, v⟩ := r
  obtain ⟨place', w⟩ := r'
  have hmember : Option.Rel (R under) (v.member? key) (w.member? key) := hR.member h.json hkey
  have hobject : v.isObject = w.isObject := hR.isObject_eq h.json
  generalize hv : v.member? key = found, hw : w.member? key = found' at hmember
  cases hmember with
  | some related => exact .inl ⟨_, _, rfl, rfl, related⟩
  | none =>
      refine .inr ?_
      cases v with
      | obj members =>
          cases w with
          | obj members' => exact .inl ⟨⟨members, rfl, hv⟩, ⟨members', rfl, hw⟩⟩
          | _ => cases hobject
      | _ => exact .inr ⟨rfl, hobject.symm⟩

theorem alike_member :
    (r.member key).Alike (fun found found' => R under found.1 found'.1) (r'.member key) := by
  rcases h.member?_cases hR hkey with ⟨x, y, hx, hy, related⟩ | ⟨hv, hw⟩ | ⟨hv, hw⟩
  · rw [member_of_member? hx, member_of_member? hy]
    exact alike_pure related
  · rw [member_of_lacks hv, member_of_lacks hw]
    exact alike_fail (congrArg (Fault.missing key) h.place)
  · rw [member_of_not_object hv, member_of_not_object hw]
    exact alike_fail (congrArg Fault.notObject h.place)

theorem alike_fetch : (r.fetch key).Alike (R under) (r'.fetch key) :=
  alike_bind (alike_member hR h hkey) fun _ _ hfound => alike_pure hfound

/-- That an optional key is absent is logged of both records. -/
theorem alike_find? : (r.find? key).Alike (Option.Rel (R under)) (r'.find? key) := by
  rcases h.member?_cases hR hkey with ⟨x, y, hx, hy, related⟩ | ⟨hv, hw⟩ | ⟨hv, hw⟩
  · rw [find?_of_member? hx, find?_of_member? hy]
    refine alike_pure ?_
    by_cases hnull : x = .null
    · rw [if_pos hnull, if_pos ((hR.null_iff related).mp hnull)]
      exact .none
    · rw [if_neg hnull, if_neg (mt (hR.null_iff related).mpr hnull)]
      exact .some related
  · rw [find?_of_lacks hv, find?_of_lacks hw, h.place]
    exact ⟨rfl, .ok .none⟩
  · rw [find?_of_not_object hv, find?_of_not_object hw]
    exact alike_fail (congrArg Fault.notObject h.place)

theorem alike_object {owner : Owner} (hunder : under = .node owner) :
    (r.object key owner).Alike (Record.Alike R (.node owner)) (r'.object key owner) := by
  subst hunder
  refine alike_bind (alike_fetch hR h hkey) fun x y related => ?_
  rcases hR.form related with rfl | ⟨hx, hy⟩ | ⟨xs, ys, rfl, rfl⟩
  · cases x with
    | null => exact alike_fail (congrArg (Fault.missing key) h.place)
    | obj members => exact alike_pure ⟨rfl, related⟩
    | _ => exact alike_fail (congrArg (Fault.unexpected key .object) h.place)
  · cases x with
    | obj members =>
        cases y with
        | obj members' => exact alike_pure ⟨rfl, related⟩
        | _ => cases hy
    | _ => cases hx
  · exact alike_fail (congrArg (Fault.unexpected key .object) h.place)

/-- Under a key of lists both records have alike lists, or both have null. -/
theorem alike_listOrNull :
    (r.listOrNull key).Alike (Option.Rel fun xs ys => R under (.arr xs) (.arr ys))
      (r'.listOrNull key) := by
  refine alike_bind (alike_fetch hR h hkey) fun x y related => ?_
  rcases hR.form related with rfl | ⟨hx, hy⟩ | ⟨xs, ys, rfl, rfl⟩
  · cases x with
    | null => exact alike_pure .none
    | arr items => exact alike_pure (.some related)
    | _ => exact alike_fail (congrArg (Fault.unexpected key .listOrNull) h.place)
  · cases x with
    | obj members =>
        cases y with
        | obj members' => exact alike_fail (congrArg (Fault.unexpected key .listOrNull) h.place)
        | _ => cases hy
    | _ => cases hx
  · exact alike_pure (.some related)

theorem alike_list :
    (r.list key).Alike (fun xs ys => R under (.arr xs) (.arr ys)) (r'.list key) := by
  refine alike_bind (alike_listOrNull hR h hkey) fun found found' related => ?_
  cases related with
  | some related => exact alike_pure related
  | none => exact alike_fail (congrArg (Fault.unexpected key .list) h.place)

omit hkey

section

variable {shape : Shape} (hleaf : role.keys.lookup key = some (.leaf shape))
include hleaf

/-! A leaf is read the same of both records. -/

theorem fetch_eq : r.fetch key = r'.fetch key :=
  ((alike_fetch hR h hleaf).imp fun _ _ => hR.leaf).eq

theorem string_eq : r.string key = r'.string key := by
  simp only [string, unexpected, fetch_eq hR h hleaf, h.place]

theorem stringOrNull_eq : r.stringOrNull key = r'.stringOrNull key := by
  simp only [stringOrNull, unexpected, fetch_eq hR h hleaf, h.place]

theorem bool_eq : r.bool key = r'.bool key := by
  simp only [bool, unexpected, fetch_eq hR h hleaf, h.place]

theorem list_eq : r.list key = r'.list key := by
  simp only [list, listOrNull, unexpected, fetch_eq hR h hleaf, h.place]

theorem find?_eq : r.find? key = r'.find? key := by
  refine ((alike_find? hR h hleaf).imp fun found found' related => ?_).eq
  cases related with
  | some related => rw [hR.leaf related]
  | none => rfl

theorem string?_eq : r.string? key = r'.string? key := by
  simp only [string?, unexpected, find?_eq hR h hleaf, h.place]

theorem bool?_eq : r.bool? key = r'.bool? key := by
  simp only [bool?, unexpected, find?_eq hR h hleaf, h.place]

end

theorem kind_eq {shape : Shape} (hleaf : role.keys.lookup "kind" = some (.leaf shape)) :
    r.kind = r'.kind := by
  simp only [kind, fetch_eq hR h hleaf, h.place]

end Record

/-! ## Type references -/

/-- A reference is read the same from alike nodes, down to the named type. -/
theorem TypeRef.read_eq (hR : IsLikeness R) {v : Json} :
    ∀ {w : Json}, R .reference v w → TypeRef.read v = TypeRef.read w := by
  induction v using TypeRef.read.induct with
  | case1 v record =>
      rename_i ih
      intro w h
      have hrecord : Record.Alike R .reference record (.unnamed .type w) := ⟨rfl, h⟩
      have hkind := Record.kind_eq hR hrecord rfl
      have hname : record.string "name" = (Record.unnamed .type w).string "name" :=
        Record.string_eq hR hrecord rfl
      rw [TypeRef.read.eq_1 v, TypeRef.read.eq_1 w]
      refine Alike.eq (alike_bind (alike_of_eq hkind) fun kind _ hsame => ?_)
      subst hsame
      cases wrapper? kind with
      | none =>
          exact alike_bind (alike_of_eq hname) fun _ _ hsame => alike_pure (congrArg _ hsame)
      | some wrap =>
          refine alike_bind (Record.alike_member hR hrecord (by rfl)) fun inner inner' related => ?_
          obtain ⟨inner, hinner⟩ := inner
          obtain ⟨inner', _⟩ := inner'
          dsimp only
          by_cases hnull : inner = .null
          · rw [if_pos hnull, if_pos ((hR.null_iff related).mp hnull)]
            exact alike_fail rfl
          · rw [if_neg hnull, if_neg (mt (hR.null_iff related).mpr hnull)]
            exact alike_bind (alike_of_eq (ih inner hinner related)) fun _ _ hsame =>
              alike_pure (congrArg _ hsame)

end Introspection
