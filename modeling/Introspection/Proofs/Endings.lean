import Introspection.Proofs.Layout
import Introspection.Proofs.Readings
/-!
# How readings end

A reading ends with a value or with a fault. Something is told of either: of the value what has
been read, and of the fault at which node of the document it arose and what is wrong there.
-/

namespace Introspection

def Reading.Ends {α : Type} (Q : α → Prop) (P : Fault → Prop) (r : Reading α) : Prop :=
  match r.result with
  | .ok a => Q a
  | .error fault => P fault

namespace Reading

variable {α β : Type} {Q : α → Prop} {S : β → Prop} {P : Fault → Prop} {r : Reading α}

theorem ends_pure {a : α} (h : Q a) : Ends Q P (pure a : Reading α) := h

theorem ends_fail {fault : Fault} (h : P fault) : Ends Q P (fail fault : Reading α) := h

theorem Ends.of_ok (h : r.Ends Q P) {a : α} (ha : r.result = .ok a) : Q a := by
  unfold Ends at h
  rwa [ha] at h

theorem Ends.of_error (h : r.Ends Q P) {fault : Fault} (hf : r.result = .error fault) :
    P fault := by
  unfold Ends at h
  rwa [hf] at h

theorem Ends.imp_value {Q' : α → Prop} (h : r.Ends Q P) (hQ : ∀ a, Q a → Q' a) :
    r.Ends Q' P := by
  unfold Ends at h ⊢
  cases hr : r.result with
  | ok a => rw [hr] at h; exact hQ a h
  | error fault => rw [hr] at h; exact h

theorem Ends.imp_fault {P' : Fault → Prop} (h : r.Ends Q P)
    (hP : ∀ fault, P fault → P' fault) : r.Ends Q P' := by
  unfold Ends at h ⊢
  cases hr : r.result with
  | ok a => rw [hr] at h; exact h
  | error fault => rw [hr] at h; exact hP fault h

theorem ends_bind {next : α → Reading β} (hr : r.Ends Q P)
    (hnext : ∀ a, Q a → (next a).Ends S P) : (r >>= next).Ends S P := by
  unfold Ends at hr ⊢
  rw [result_bind]
  cases h : r.result with
  | ok a =>
      rw [h] at hr
      exact hnext a hr
  | error fault =>
      rw [h] at hr
      exact hr

theorem ends_map {f : α → β} (hr : r.Ends Q P) (hf : ∀ a, Q a → S (f a)) :
    (f <$> r).Ends S P := by
  rw [← bind_pure_comp]
  exact ends_bind hr fun a ha => ends_pure (hf a ha)

theorem ends_require {fault : Fault} {found : Option α} (hsome : ∀ a, found = some a → Q a)
    (hnone : found = none → P fault) : (require fault found).Ends Q P := by
  cases found with
  | none => exact hnone rfl
  | some a => exact hsome a rfl

/-- Of a list each value is that of one of the items. -/
theorem ends_mapM {ι : Type} {read : ι → Reading α} {items : List ι}
    (h : ∀ item ∈ items, (read item).Ends Q P) :
    (items.mapM read).Ends (fun as => ∀ a ∈ as, Q a) P := by
  induction items with
  | nil =>
      rw [List.mapM_nil]
      exact fun a ha => absurd ha List.not_mem_nil
  | cons item items ih =>
      rw [List.mapM_cons]
      refine ends_bind (h item List.mem_cons_self) fun a ha => ?_
      refine ends_bind (ih fun other hother => h other (List.mem_cons_of_mem item hother))
        fun as has => ?_
      exact ends_pure (List.forall_mem_cons.mpr ⟨ha, has⟩)

end Reading

/-! ## What is wrong at a node -/

def Shape.fits : Shape → Json → Bool
  | object, .obj _ => true
  | string, .str _ => true
  | stringOrNull, .null => true
  | stringOrNull, .str _ => true
  | bool, .bool _ => true
  | boolOrNull, .null => true
  | boolOrNull, .bool _ => true
  | list, .arr _ => true
  | listOrNull, .null => true
  | listOrNull, .arr _ => true
  | enumerator, v => (TypeKind.read? v).isSome
  | _, _ => false

def Json.isObject : Json → Bool
  | .obj _ => true
  | _ => false

/-- The keys under which null counts as a missing value. -/
def nullIsMissing : List String := ["data", "__schema", "queryType", "ofType"]

/-- What a fault says is so of a node: `place` is how the node is called, and `known` tells
whether an item of a list of locations is one of those that are asked for. -/
inductive Fault.Tells (known : Json → Bool) (role : Role) (place : Place) (v : Json) :
    Fault → Prop
  | missing {key : String} {under : Role} (read : role.keys.lookup key = some under)
      (object : v.isObject = true)
      (absent : v.member? key = none ∨ v.member? key = some .null ∧ key ∈ nullIsMissing) :
      Tells known role place v (.missing key place)
  | unexpected {key : String} {under : Role} {shape : Shape} {x : Json}
      (read : role.keys.lookup key = some under) (found : v.member? key = some x)
      (other : shape.fits x = false) (wrong : under.shape.fits x = false)
      (present : x = .null → under.shape ≠ .object) :
      Tells known role place v (.unexpected key shape place)
  | notObject (other : v.isObject = false) : Tells known role place v (.notObject place)
  | wrapsNull {x : Json} {kind : TypeKind} (reference : role = .reference)
      (found : v.member? "kind" = some x) (wraps : TypeKind.read? x = some kind)
      (null : v.member? "ofType" = some .null) : Tells known role place v (.wrapsNull kind)
  | unknownLocation {items : List Json} {item : Json} (directive : role = .node .directive)
      (found : v.member? "locations" = some (.arr items)) (mem : item ∈ items)
      (unknown : known item = false) :
      Tells known role place v (.unknownLocation item place)

theorem Json.isObject_of_member? {v x : Json} {key : String} (h : v.member? key = some x) :
    v.isObject = true := by
  cases v with
  | obj members => rfl
  | _ => cases h

/-! ## Reading records -/

namespace Record

open Reading Fault

variable {r : Record} {role : Role} {known : Json → Bool} {key : String} {under : Role}

theorem ends_find? : (r.find? key).Ends
    (fun found => ∀ x, found = some x → r.json.member? key = some x ∧ x ≠ .null)
    (Tells known role r.place r.json) := by
  obtain ⟨place, json⟩ := r
  cases json with
  | obj members =>
      cases hlookup : members.lookup key with
      | none =>
          rw [find?]
          dsimp only
          rw [hlookup]
          intro x hx
          cases hx
      | some value =>
          rw [find?_of_member? (show (Json.obj members).member? key = some value from hlookup)]
          refine ends_pure fun x hx => ?_
          split at hx
          · cases hx
          · cases hx
            exact ⟨hlookup, ‹_›⟩
  | _ => exact ends_fail (.notObject rfl)

section

variable (hkey : role.keys.lookup key = some under)
include hkey

theorem ends_member : (r.member key).Ends (fun _ => True) (Tells known role r.place r.json) := by
  obtain ⟨place, json⟩ := r
  unfold member
  cases json with
  | obj members =>
      dsimp only
      split
      · exact ends_pure trivial
      · exact ends_fail (.missing hkey rfl (.inl ‹_›))
  | _ => exact ends_fail (.notObject rfl)

theorem ends_fetch : (r.fetch key).Ends (fun x => r.json.member? key = some x)
    (Tells known role r.place r.json) :=
  ends_bind (ends_member hkey) fun found _ => ends_pure found.2

/-- Where null counts as a missing value, the key asks for an object. -/
theorem shape_of_nullIsMissing (hnull : key ∈ nullIsMissing) : under.shape = .object := by
  simp only [nullIsMissing, List.mem_cons, List.not_mem_nil, or_false] at hnull
  rcases hnull with rfl | rfl | rfl | rfl
  all_goals
    cases role
    case node owner =>
      cases owner <;> first | (cases hkey; done) | (cases hkey; rfl)
    case reference => first | (cases hkey; done) | (cases hkey; rfl)
    all_goals cases hkey

/-- A value of another shape than its role asks for. -/
theorem ends_unexpected {α : Type} {Q : α → Prop} {shape asked : Shape} {x : Json}
    (hx : r.json.member? key = some x) (hother : shape.fits x = false)
    (hasked : under.shape = asked) (hwrong : asked.fits x = false)
    (hpresent : x = .null → asked ≠ .object) :
    (r.unexpected key shape : Reading α).Ends Q (Tells known role r.place r.json) := by
  subst hasked
  exact ends_fail (.unexpected hkey hx hother hwrong hpresent)

theorem ends_object {owner : Owner} (hshape : under.shape = .object) (hnull : key ∈ nullIsMissing) :
    (r.object key owner).Ends
      (fun found => ∃ members, r.json.member? key = some (.obj members) ∧
        found = unnamed owner (.obj members)) (Tells known role r.place r.json) := by
  refine ends_bind (ends_fetch hkey) fun x hx => ?_
  cases x with
  | null => exact ends_fail (.missing hkey (Json.isObject_of_member? hx) (.inr ⟨hx, hnull⟩))
  | obj members => exact ends_pure ⟨members, hx, rfl⟩
  | _ => exact ends_unexpected hkey hx rfl hshape rfl nofun

theorem ends_string (hshape : under.shape = .string) :
    (r.string key).Ends (fun s => r.json.member? key = some (.str s))
      (Tells known role r.place r.json) := by
  refine ends_bind (ends_fetch hkey) fun x hx => ?_
  cases x with
  | str s => exact ends_pure hx
  | _ => exact ends_unexpected hkey hx rfl hshape rfl nofun

theorem ends_stringOrNull (hshape : under.shape = .stringOrNull) :
    (r.stringOrNull key).Ends (fun _ => True) (Tells known role r.place r.json) := by
  refine ends_bind (ends_fetch hkey) fun x hx => ?_
  cases x with
  | null => exact ends_pure trivial
  | str s => exact ends_pure trivial
  | _ => exact ends_unexpected hkey hx rfl hshape rfl nofun

theorem ends_bool (hshape : under.shape = .bool) :
    (r.bool key).Ends (fun _ => True) (Tells known role r.place r.json) := by
  refine ends_bind (ends_fetch hkey) fun x hx => ?_
  cases x with
  | bool b => exact ends_pure trivial
  | _ => exact ends_unexpected hkey hx rfl hshape rfl nofun

/-- A list that may be null, under a key where it may, or where null is refused afterwards. -/
theorem ends_listOrNull (hshape : under.shape = .listOrNull ∨ under.shape = .list) :
    (r.listOrNull key).Ends
      (fun found => r.json.member? key = some (.ofOption .arr found))
      (Tells known role r.place r.json) := by
  refine ends_bind (ends_fetch hkey) fun x hx => ?_
  cases x with
  | null => exact ends_pure hx
  | arr items => exact ends_pure hx
  | _ => rcases hshape with h | h <;> exact ends_unexpected hkey hx rfl h rfl nofun

theorem ends_list (hshape : under.shape = .list) :
    (r.list key).Ends (fun items => r.json.member? key = some (.arr items))
      (Tells known role r.place r.json) := by
  refine ends_bind (ends_listOrNull hkey (.inr hshape)) fun found hfound => ?_
  cases found with
  | none => exact ends_unexpected hkey hfound rfl hshape rfl nofun
  | some items => exact ends_pure hfound

theorem ends_string? (hshape : under.shape = .stringOrNull) :
    (r.string? key).Ends (fun _ => True) (Tells known role r.place r.json) := by
  refine ends_bind ends_find? fun found hfound => ?_
  cases found with
  | none => exact ends_pure trivial
  | some x =>
      obtain ⟨hx, hnull⟩ := hfound x rfl
      cases x with
      | null => exact absurd rfl hnull
      | str s => exact ends_pure trivial
      | _ => exact ends_unexpected hkey hx rfl hshape rfl nofun

theorem ends_bool? (hshape : under.shape = .boolOrNull) :
    (r.bool? key).Ends (fun _ => True) (Tells known role r.place r.json) := by
  refine ends_bind ends_find? fun found hfound => ?_
  cases found with
  | none => exact ends_pure trivial
  | some x =>
      obtain ⟨hx, hnull⟩ := hfound x rfl
      cases x with
      | null => exact absurd rfl hnull
      | bool b => exact ends_pure trivial
      | _ => exact ends_unexpected hkey hx rfl hshape rfl nofun

end

theorem ends_kind (hkey : role.keys.lookup "kind" = some (.leaf .enumerator)) :
    r.kind.Ends (fun kind => ∃ x, r.json.member? "kind" = some x ∧
        TypeKind.read? x = some kind) (Tells known role r.place r.json) := by
  refine ends_bind (ends_fetch hkey) fun x hx => ?_
  refine ends_require (fun kind hkind => ⟨x, hx, hkind⟩) fun hnone => ?_
  have hother : Shape.enumerator.fits x = false := by
    rw [Shape.fits, hnone]
    rfl
  exact .unexpected hkey hx hother hother nofun

end Record

end Introspection
