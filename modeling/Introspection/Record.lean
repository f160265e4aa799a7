import Introspection.Reading
/-!
# Records

A record is a node of the document that is read by its keys. Most keys are required; what may
stand under one is fixed by the reader: a string, a string or null, a boolean, a list or null, the
name of an enumerator. Faults are told of the record's place.
-/

namespace Introspection

structure Record where
  place : Place
  json : Json
  deriving DecidableEq, Hashable

namespace Record

/-- A record that has no name, or none that has been read. -/
def unnamed (owner : Owner) (json : Json) : Record := ⟨⟨owner, none⟩, json⟩

variable (r : Record)

/-- The value under a required key, which may be null, with the evidence that it stands there. -/
def member (key : String) : Reading { value : Json // r.json.member? key = some value } :=
  match r.json with
  | .obj members =>
      match h : members.lookup key with
      | some value => pure ⟨value, h⟩
      | none => .fail (.missing key r.place)
  | _ => .fail (.notObject r.place)

def fetch (key : String) : Reading Json := do
  let ⟨value, _⟩ ← r.member key
  pure value

/-- The value under an optional key. That the key is absent is logged, and then counts as
null. -/
def find? (key : String) : Reading (Option Json) :=
  match r.json with
  | .obj members =>
      match members.lookup key with
      | some .null => pure none
      | some value => pure (some value)
      | none => do
          Reading.note (.missing key r.place)
          pure none
  | _ => .fail (.notObject r.place)

def unexpected {α : Type} (key : String) (shape : Shape) : Reading α :=
  .fail (.unexpected key shape r.place)

def object (key : String) (owner : Owner) : Reading Record := do
  match ← r.fetch key with
  | .null => .fail (.missing key r.place)
  | .obj members => pure (unnamed owner (.obj members))
  | _ => r.unexpected key .object

def string (key : String) : Reading String := do
  match ← r.fetch key with
  | .str s => pure s
  | _ => r.unexpected key .string

def stringOrNull (key : String) : Reading (Option String) := do
  match ← r.fetch key with
  | .null => pure none
  | .str s => pure (some s)
  | _ => r.unexpected key .stringOrNull

def string? (key : String) : Reading (Option String) := do
  match ← r.find? key with
  | none => pure none
  | some (.str s) => pure (some s)
  | some _ => r.unexpected key .stringOrNull

def bool (key : String) : Reading Bool := do
  match ← r.fetch key with
  | .bool b => pure b
  | _ => r.unexpected key .bool

def bool? (key : String) : Reading (Option Bool) := do
  match ← r.find? key with
  | none => pure none
  | some (.bool b) => pure (some b)
  | some _ => r.unexpected key .boolOrNull

def listOrNull (key : String) : Reading (Option (List Json)) := do
  match ← r.fetch key with
  | .null => pure none
  | .arr items => pure (some items)
  | _ => r.unexpected key .listOrNull

def list (key : String) : Reading (List Json) := do
  match ← r.listOrNull key with
  | some items => pure items
  | none => r.unexpected key .list

def kind : Reading TypeKind := do
  Reading.require (.unexpected "kind" .enumerator r.place) (TypeKind.read? (← r.fetch "kind"))

end Record

end Introspection
