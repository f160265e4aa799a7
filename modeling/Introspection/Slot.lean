import Introspection.Entity.Basic
/-!
# Slots

A slot is a part of a node that is worked out as a whole or not at all, and only once: the lists
and the maps of a schema and of a type, the lists of a directive, the arguments of a field or a
directive, the type of a field or an input value, the casings of a name.
-/

namespace Introspection

inductive Slot where
  | types
  | typesByName
  | directives
  | fields
  | fieldsByName
  | inputFields
  | interfaces
  | possibleTypes
  | enumValues
  | locations
  | locationNames
  | arguments
  | type
  | casings
  deriving DecidableEq, Hashable

/-- What a slot holds. A list or a map that does not apply to a type is absent. -/
abbrev Slot.Content : Slot → Type
  | types => List TypeDefinition
  | typesByName => NameMap TypeDefinition
  | directives => List Directive
  | fields => Option (Deprecatables Field)
  | fieldsByName => Option (NameMap Field)
  | inputFields => Option InputValues
  | interfaces => Option (List TypeRef)
  | possibleTypes => Option (List TypeRef)
  | enumValues => Option (Deprecatables EnumValue)
  | locations => List DirectiveLocation
  | locationNames => List String
  | arguments => InputValues
  | type => TypeRef
  | casings => Casings

/-- A slot of a record. Nodes with one content share their cells: an answer does not show which
of them was asked. -/
structure Cell where
  slot : Slot
  record : Record
  deriving DecidableEq, Hashable

abbrev Cell.Content (cell : Cell) : Type := cell.slot.Content

end Introspection
