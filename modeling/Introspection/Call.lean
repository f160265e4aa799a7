import Introspection.Schema
/-!
# Calls

A call is a question by name to a schema, an entity, a type reference or a list. Calls are written
as a name with arguments.
-/

namespace Introspection

inductive Call where
  | describe
  | walk
  | item (index : Number)
  | length
  | queryRootName
  | mutationRootName
  | subscriptionRootName
  | isRootTypeName (name : String)
  | types
  | typesByName
  | typeByName (name : String)
  | directives
  | directiveByName (name : String)
  | json
  | structureText
  | name
  | description
  | camelCase
  | pascalCase
  | upperSnakeCase
  | casings
  | nodeText
  | isDeprecated
  | deprecationReason
  | arguments
  | requiredArguments
  | optionalArguments
  | argument (name : String)
  | kind
  | isKind (kind : TypeKind)
  | isBuiltin
  | specifiedByUrl
  | fields (withDeprecated : Bool)
  | fieldsByName
  | field (name : String)
  | inputFields
  | requiredInputFields
  | optionalInputFields
  | inputField (name : String)
  | interfaces
  | implements (name : String)
  | possibleTypes
  | isPossibleType (name : String)
  | enumValues (withDeprecated : Bool)
  | type
  | hasSubfields
  | defaultValue
  | isRequired
  | locations
  | locationNames
  | hasLocation (location : DirectiveLocation)
  | isRepeatable
  | ofType
  | unwrap
  | unwrapList
  | unwrapNonNull
  | namedKind
  | namedType
  | text
  deriving DecidableEq

namespace Call

/-- The calls without arguments by their names. -/
def plain : List (String × Call) :=
  [("describe", describe), ("walk", walk), ("len", length),
    ("query_root_name", queryRootName), ("mutation_root_name", mutationRootName),
    ("subscription_root_name", subscriptionRootName), ("types", types),
    ("types_by_name", typesByName), ("directives", directives), ("to_json", json),
    ("debug", structureText), ("name", name), ("description", description),
    ("camelize_name", camelCase), ("classify_name", pascalCase), ("upcase_name", upperSnakeCase),
    ("name_forms", casings), ("node_debug", nodeText), ("is_deprecated", isDeprecated),
    ("deprecation_reason", deprecationReason), ("args", arguments),
    ("required_args", requiredArguments), ("optional_args", optionalArguments), ("kind", kind),
    ("is_scalar", isKind .scalar), ("is_object", isKind .object),
    ("is_interface", isKind .interface), ("is_union", isKind .union),
    ("is_enum", isKind .enum), ("is_input_object", isKind .inputObject),
    ("is_list", isKind .list), ("is_non_null", isKind .nonNull), ("is_builtin", isBuiltin),
    ("specified_by_url", specifiedByUrl), ("fields_by_name", fieldsByName),
    ("input_fields", inputFields), ("required_input_fields", requiredInputFields),
    ("optional_input_fields", optionalInputFields), ("interfaces", interfaces),
    ("possible_types", possibleTypes), ("type_ref", type), ("has_subfields", hasSubfields),
    ("default_value", defaultValue), ("is_required", isRequired), ("locations", locations),
    ("location_names", locationNames), ("is_repeatable", isRepeatable), ("of_type", ofType),
    ("unwrap", unwrap), ("unwrap_list", unwrapList), ("unwrap_non_null", unwrapNonNull),
    ("named_kind", namedKind), ("named_type", namedType), ("to_string", text)]

def withName : List (String × (String → Call)) :=
  [("is_root_type_name", isRootTypeName), ("type_by_name", typeByName),
    ("directive_by_name", directiveByName), ("arg", argument), ("field", field),
    ("input_field", inputField), ("implements", implements),
    ("is_possible_type", isPossibleType)]

def withFlag : List (String × (Bool → Call)) :=
  [("fields", fields), ("enum_values", enumValues)]

def of? (word : String) : List Json → Option Call
  | [] => plain.lookup word
  | [.str s] =>
      if word = "has_location" then (DirectiveLocation.ofName? s).map hasLocation
      else (withName.lookup word).map (· s)
  | [.bool b] => (withFlag.lookup word).map (· b)
  | [.num index] => if word = "at" then some (item index) else none
  | _ => none

/-- Reads a call that is written as a list of its name and its arguments. -/
def read? : Json → Option Call
  | .arr (.str word :: rest) => of? word rest
  | _ => none

end Call

end Introspection
