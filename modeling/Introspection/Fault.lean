import Introspection.Error
import Introspection.TypeKind
/-!
# What can be wrong with a document

A fault is the cause of an error: where a node of the document is not what a reader asked for.
Its error names the node by what it is and, once that has been read, by its name.
-/

namespace Introspection

inductive Owner where
  | document
  | data
  | schema
  | queryType
  | mutationType
  | subscriptionType
  | type
  | field
  | inputValue
  | enumValue
  | directive
  deriving DecidableEq, Hashable

def Owner.text : Owner → String
  | document => "introspection result"
  | data => "data"
  | schema => "__schema"
  | queryType => "queryType"
  | mutationType => "mutationType"
  | subscriptionType => "subscriptionType"
  | type => "__Type"
  | field => "__Field"
  | inputValue => "__InputValue"
  | enumValue => "__EnumValue"
  | directive => "__Directive"

/-- How errors and log lines call a node. -/
structure Place where
  owner : Owner
  name : Option String
  deriving DecidableEq, Hashable

def Place.text (place : Place) : String :=
  match place.name with
  | some name => place.owner.text ++ " `" ++ name ++ "`"
  | none => place.owner.text

/-- What a reader asks of the value under a key. -/
inductive Shape where
  | object
  | string
  | stringOrNull
  | bool
  | boolOrNull
  | list
  | listOrNull
  | enumerator
  deriving DecidableEq

def Shape.text : Shape → String
  | object => "an object"
  | string => "a string"
  | stringOrNull => "a string or null"
  | bool => "a boolean"
  | boolOrNull => "a boolean or null"
  | list => "a list"
  | listOrNull => "a list or null"
  | enumerator => "a known enum value"

inductive Fault where
  /-- A required key is absent, or null where an object is required. -/
  | missing (key : String) (place : Place)
  /-- The value under a key has another shape. -/
  | unexpected (key : String) (shape : Shape) (place : Place)
  /-- A node that should have keys is no object. -/
  | notObject (place : Place)
  /-- A wrapping type reference wraps null. -/
  | wrapsNull (kind : TypeKind)
  /-- A directive lists a value that is no location. -/
  | unknownLocation (value : Json) (place : Place)

private def ticked (s : String) : String := "`" ++ s ++ "`"

def Fault.toError : Fault → Error
  | missing key place => ⟨.missingField, ticked key, some place.text⟩
  | unexpected key shape place =>
      ⟨.unexpectedValue, "expected " ++ shape.text ++ " for " ++ ticked key, some place.text⟩
  | notObject place => ⟨.unexpectedValue, "expected an object", some place.text⟩
  | wrapsNull kind =>
      ⟨.missingField, ticked "ofType", some (kind.name ++ " type reference")⟩
  | unknownLocation value place =>
      ⟨.unexpectedValue, "unknown directive location " ++ value.text, some place.text⟩

end Introspection
