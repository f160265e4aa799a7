import Introspection.Proofs.Members
import Introspection.Schema
import Mathlib.Data.List.Forall2
/-!
# When readings succeed

A sequence of readings succeeds if each of them does, and a list is read if each of its items is.
Under a key a record has the value that stands there in its object.
-/

namespace Introspection

namespace Reading

variable {α β : Type}

theorem result_bind (r : Reading α) (next : α → Reading β) :
    (r >>= next).result = r.result >>= fun a => (next a).result := by
  rw [bind_eq, andThen]
  cases r.result <;> rfl

theorem result_bind_eq_ok {r : Reading α} {next : α → Reading β} {b : β} :
    (r >>= next).result = .ok b ↔ ∃ a, r.result = .ok a ∧ (next a).result = .ok b := by
  rw [result_bind]
  cases r.result with
  | ok a =>
      constructor
      · intro h
        exact ⟨a, rfl, h⟩
      · rintro ⟨_, ha, h⟩
        cases ha
        exact h
  | error fault =>
      constructor
      · intro h
        cases h
      · rintro ⟨_, ha, _⟩
        cases ha

theorem result_map (f : α → β) (r : Reading α) : (f <$> r).result = r.result.map f := by
  rw [← bind_pure_comp, result_bind]
  cases r.result <;> rfl

theorem log_map (f : α → β) (r : Reading α) : (f <$> r).log = r.log := by
  rw [← bind_pure_comp, bind_eq, andThen]
  cases r.result with
  | ok a => exact List.append_nil r.log
  | error fault => rfl

theorem result_mapM_eq_ok {read : α → Reading β} {items : List α} {values : List β} :
    (items.mapM read).result = .ok values ↔
      List.Forall₂ (fun item value => (read item).result = .ok value) items values := by
  induction items generalizing values with
  | nil =>
      rw [List.mapM_nil, List.forall₂_nil_left_iff]
      constructor
      · intro h
        cases h
        rfl
      · rintro rfl
        rfl
  | cons item items ih =>
      rw [List.mapM_cons, result_bind_eq_ok]
      constructor
      · rintro ⟨value, hvalue, h⟩
        obtain ⟨rest, hrest, h⟩ := result_bind_eq_ok.mp h
        cases h
        exact .cons hvalue (ih.mp hrest)
      · intro h
        obtain ⟨value, rest, hvalue, hrest, rfl⟩ := List.forall₂_cons_left_iff.mp h
        exact ⟨value, hvalue, result_bind_eq_ok.mpr ⟨rest, ih.mpr hrest, rfl⟩⟩

end Reading

open Reading

namespace Record

variable {r : Record} {key : String}

theorem result_fetch_eq_ok {value : Json} :
    (r.fetch key).result = .ok value ↔ r.json.member? key = some value := by
  constructor
  · intro h
    obtain ⟨⟨found, hfound⟩, _, h⟩ := result_bind_eq_ok.mp h
    cases h
    exact hfound
  · intro h
    rw [fetch_of_member? h]
    rfl

theorem result_list_eq_ok {items : List Json} :
    (r.list key).result = .ok items ↔ r.json.member? key = some (.arr items) := by
  rw [list, result_bind_eq_ok, ← result_fetch_eq_ok]
  constructor
  · rintro ⟨found, hfound, h⟩
    obtain ⟨value, hvalue, hlist⟩ := result_bind_eq_ok.mp hfound
    cases found with
    | none => cases h
    | some list =>
        cases h
        cases value with
        | arr list => cases hlist; exact hvalue
        | _ => cases hlist
  · intro h
    exact ⟨some items, result_bind_eq_ok.mpr ⟨.arr items, h, rfl⟩, rfl⟩

theorem result_object_eq_ok {owner : Owner} {found : Record} :
    (r.object key owner).result = .ok found ↔
      ∃ members, r.json.member? key = some (.obj members) ∧
        found = unnamed owner (.obj members) := by
  rw [object, result_bind_eq_ok]
  constructor
  · rintro ⟨value, hvalue, h⟩
    cases value with
    | obj members =>
        cases h
        exact ⟨members, result_fetch_eq_ok.mp hvalue, rfl⟩
    | _ => cases h
  · rintro ⟨members, hmember, rfl⟩
    exact ⟨.obj members, result_fetch_eq_ok.mpr hmember, rfl⟩

end Record

/-! ## Schemas -/

/-- The value in a document at the end of a path of keys. -/
def Json.at? : List String → Json → Option Json
  | [], json => some json
  | key :: keys, json => (json.member? key).bind (Json.at? keys)

namespace Schema

variable {document : Json} {s : Schema}

/-- Roots that cannot be read do not keep a schema from being created. -/
theorem result_create (document : Json) : (create document).result = (read document).result := by
  rw [create, result_bind]
  cases (read document).result <;> rfl

theorem result_read_eq_ok :
    (read document).result = .ok s ↔ ∃ data members,
      document.member? "data" = some (.obj data) ∧
      (Json.obj data).member? "__schema" = some (.obj members) ∧
      s = ⟨.unnamed .schema (.obj members)⟩ := by
  rw [read, result_bind_eq_ok]
  constructor
  · rintro ⟨data, hdata, h⟩
    obtain ⟨record, hrecord, h⟩ := result_bind_eq_ok.mp h
    obtain ⟨members, hmembers, rfl⟩ := Record.result_object_eq_ok.mp hdata
    obtain ⟨inner, hinner, rfl⟩ := Record.result_object_eq_ok.mp hrecord
    cases h
    exact ⟨members, inner, hmembers, hinner, rfl⟩
  · rintro ⟨data, members, hdata, hmembers, rfl⟩
    refine ⟨_, Record.result_object_eq_ok.mpr ⟨data, hdata, rfl⟩, ?_⟩
    exact result_bind_eq_ok.mpr ⟨_, Record.result_object_eq_ok.mpr ⟨members, hmembers, rfl⟩, rfl⟩

/-- The node of a schema stands in the document that it was created from. -/
theorem at?_of_create (h : (create document).result = .ok s) (key : String) :
    document.at? ["data", "__schema", key] = s.record.json.member? key := by
  rw [result_create] at h
  obtain ⟨data, members, hdata, hmembers, rfl⟩ := result_read_eq_ok.mp h
  simp only [Json.at?, hdata, hmembers, Option.bind_some, Option.bind_fun_some]
  rfl

end Schema

end Introspection
