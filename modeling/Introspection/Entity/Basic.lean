import Introspection.Entity.Node
import Introspection.TypeRef
import Introspection.DirectiveLocation
/-!
# Entities of a schema

The named parts of a schema, and the lists that they stand in. An entity is made from its node
by reading the name; a type also reads its kind. Lists are split once for all who ask: what is
deprecated from what is not, and what is required from what is optional.
-/

namespace Introspection

structure TypeDefinition extends Node where
  kind : TypeKind
  deriving DecidableEq

structure Field extends Node
  deriving DecidableEq

/-- An argument, or a field of an input object. -/
structure InputValue extends Node
  deriving DecidableEq

structure EnumValue extends Node
  deriving DecidableEq

structure Directive extends Node
  deriving DecidableEq

def builtinScalars : List String := ["Int", "Float", "String", "Boolean", "ID"]

def builtinDirectives : List String := ["skip", "include", "deprecated", "oneOf", "specifiedBy"]

/-- Reads a type: its name, then its kind. -/
def TypeDefinition.read (json : Json) : Reading TypeDefinition := do
  let node ← Node.read .type json
  let kind ← node.record.kind
  pure ⟨node, kind⟩

def TypeDefinition.isBuiltin (t : TypeDefinition) : Bool :=
  "__".isPrefixOf t.name || builtinScalars.contains t.name

def Field.read (json : Json) : Reading Field := do
  let node ← Node.read .field json
  pure ⟨node⟩

def InputValue.read (json : Json) : Reading InputValue := do
  let node ← Node.read .inputValue json
  pure ⟨node⟩

def EnumValue.read (json : Json) : Reading EnumValue := do
  let node ← Node.read .enumValue json
  pure ⟨node⟩

def Directive.read (json : Json) : Reading Directive := do
  let node ← Node.read .directive json
  pure ⟨node⟩

def Directive.isBuiltin (d : Directive) : Bool := builtinDirectives.contains d.name

def Node.isDeprecated (n : Node) : Reading Bool := n.record.bool "isDeprecated"

/-- A list with those of its items that are not deprecated. -/
structure Deprecatables (α : Type) where
  all : List α
  active : List α

namespace Deprecatables

variable {α : Type}

def activeOf (isDeprecated : α → Reading Bool) : List α → Reading (List α)
  | [] => pure []
  | item :: rest => do
      let deprecated ← isDeprecated item
      let active ← activeOf isDeprecated rest
      pure (if deprecated then active else item :: active)

def ofAll (isDeprecated : α → Reading Bool) (all : List α) : Reading (Deprecatables α) := do
  let active ← activeOf isDeprecated all
  pure ⟨all, active⟩

def view (items : Deprecatables α) (withDeprecated : Bool) : List α :=
  if withDeprecated then items.all else items.active

end Deprecatables

/-- Input values, and apart from each other the required and the optional ones of them. -/
structure InputValues where
  all : List InputValue
  required : List InputValue
  optional : List InputValue

end Introspection
