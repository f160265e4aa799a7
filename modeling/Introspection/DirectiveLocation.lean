import Introspection.Json.Enumerator
/-!
# Locations of directives

The places of a document where a directive may stand: those of executable documents first, then
those of schemas.
-/

namespace Introspection

inductive DirectiveLocation where
  | query
  | mutation
  | subscription
  | field
  | fragmentDefinition
  | fragmentSpread
  | inlineFragment
  | variableDefinition
  | schema
  | scalar
  | object
  | fieldDefinition
  | argumentDefinition
  | interface
  | union
  | enum
  | enumValue
  | inputObject
  | inputFieldDefinition
  deriving DecidableEq, Hashable

namespace DirectiveLocation

def all : List DirectiveLocation :=
  [query, mutation, subscription, field, fragmentDefinition, fragmentSpread, inlineFragment,
    variableDefinition, schema, scalar, object, fieldDefinition, argumentDefinition, interface,
    union, enum, enumValue, inputObject, inputFieldDefinition]

def name : DirectiveLocation → String
  | query => "QUERY"
  | mutation => "MUTATION"
  | subscription => "SUBSCRIPTION"
  | field => "FIELD"
  | fragmentDefinition => "FRAGMENT_DEFINITION"
  | fragmentSpread => "FRAGMENT_SPREAD"
  | inlineFragment => "INLINE_FRAGMENT"
  | variableDefinition => "VARIABLE_DEFINITION"
  | schema => "SCHEMA"
  | scalar => "SCALAR"
  | object => "OBJECT"
  | fieldDefinition => "FIELD_DEFINITION"
  | argumentDefinition => "ARGUMENT_DEFINITION"
  | interface => "INTERFACE"
  | union => "UNION"
  | enum => "ENUM"
  | enumValue => "ENUM_VALUE"
  | inputObject => "INPUT_OBJECT"
  | inputFieldDefinition => "INPUT_FIELD_DEFINITION"

/-- The name of the location in the texts that show a value as it is built. -/
def label : DirectiveLocation → String
  | query => "Query"
  | mutation => "Mutation"
  | subscription => "Subscription"
  | field => "Field"
  | fragmentDefinition => "FragmentDefinition"
  | fragmentSpread => "FragmentSpread"
  | inlineFragment => "InlineFragment"
  | variableDefinition => "VariableDefinition"
  | schema => "Schema"
  | scalar => "Scalar"
  | object => "Object"
  | fieldDefinition => "FieldDefinition"
  | argumentDefinition => "ArgumentDefinition"
  | interface => "Interface"
  | union => "Union"
  | enum => "Enum"
  | enumValue => "EnumValue"
  | inputObject => "InputObject"
  | inputFieldDefinition => "InputFieldDefinition"

def ofName? (name : String) : Option DirectiveLocation := all.find? (·.name = name)

def read? (json : Json) : Option DirectiveLocation := json.enumerator?.bind ofName?

def isExecutable : DirectiveLocation → Bool
  | query | mutation | subscription | field | fragmentDefinition | fragmentSpread
  | inlineFragment | variableDefinition => true
  | _ => false

theorem ofName?_name (location : DirectiveLocation) :
    ofName? location.name = some location := by
  cases location <;> decide

theorem name_of_ofName? {name : String} {location : DirectiveLocation}
    (h : ofName? name = some location) : location.name = name := by
  simpa using List.find?_some h

end DirectiveLocation

end Introspection
