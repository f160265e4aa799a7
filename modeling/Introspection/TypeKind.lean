import Introspection.Json.Enumerator
/-!
# Kinds of types

Six kinds name a type; `list` and `nonNull` wrap another one.
-/

namespace Introspection

inductive TypeKind where
  | scalar
  | object
  | interface
  | union
  | enum
  | inputObject
  | list
  | nonNull
  deriving DecidableEq, Hashable

namespace TypeKind

def all : List TypeKind :=
  [scalar, object, interface, union, enum, inputObject, list, nonNull]

def name : TypeKind → String
  | scalar => "SCALAR"
  | object => "OBJECT"
  | interface => "INTERFACE"
  | union => "UNION"
  | enum => "ENUM"
  | inputObject => "INPUT_OBJECT"
  | list => "LIST"
  | nonNull => "NON_NULL"

/-- The name of the kind in the texts that show a value as it is built. -/
def label : TypeKind → String
  | scalar => "Scalar"
  | object => "Object"
  | interface => "Interface"
  | union => "Union"
  | enum => "Enum"
  | inputObject => "InputObject"
  | list => "List"
  | nonNull => "NonNull"

def ofName? (name : String) : Option TypeKind := all.find? (·.name = name)

def read? (json : Json) : Option TypeKind := json.enumerator?.bind ofName?

def isNamed (kind : TypeKind) : Bool := kind != list && kind != nonNull

/-- Whether a selection of values of this kind selects fields of theirs. -/
def hasSubfields (kind : TypeKind) : Bool :=
  kind == object || kind == interface || kind == union

theorem ofName?_name (kind : TypeKind) : ofName? kind.name = some kind := by
  cases kind <;> decide

theorem name_of_ofName? {name : String} {kind : TypeKind} (h : ofName? name = some kind) :
    kind.name = name := by
  simpa using List.find?_some h

end TypeKind

end Introspection
