import Introspection.Proofs.NameOrder
import Introspection.Schema
import Mathlib.Data.List.Forall2
/-!
# Schemas as values

What a schema says, apart from any document: its roots, types and directives with all that they
contain. Each part is written as a node of an introspection result, with null for what is absent;
the written schema can then be read as any other document.
-/

namespace Introspection

/-! ## Values -/

structure InputSpec where
  name : String
  description : Option String
  type : TypeRef
  defaultValue : Option String

structure FieldSpec where
  name : String
  description : Option String
  arguments : List InputSpec
  type : TypeRef
  isDeprecated : Bool
  deprecationReason : Option String

structure EnumValueSpec where
  name : String
  description : Option String
  isDeprecated : Bool
  deprecationReason : Option String

/-- A type of any kind. A list that does not apply to the type is absent, not empty. -/
structure TypeSpec where
  kind : TypeKind
  name : String
  description : Option String
  specifiedByUrl : Option String
  fields : Option (List FieldSpec)
  inputFields : Option (List InputSpec)
  interfaces : Option (List TypeRef)
  possibleTypes : Option (List TypeRef)
  enumValues : Option (List EnumValueSpec)

structure DirectiveSpec where
  name : String
  description : Option String
  isRepeatable : Bool
  locations : List DirectiveLocation
  arguments : List InputSpec

structure SchemaSpec where
  queryRoot : String
  mutationRoot : Option String
  subscriptionRoot : Option String
  types : List TypeSpec
  directives : List DirectiveSpec

/-! ## Writing -/

def listToJson {α : Type} (write : α → Json) (found : Option (List α)) : Json :=
  .ofOption .arr (found.map (·.map write))

def refToJson (kind : TypeKind) (name ofType : Json) : Json :=
  .ofMembers [("kind", .str kind.name), ("name", name), ("ofType", ofType)]

def TypeRef.toJson : TypeRef → Json
  | named kind name => refToJson kind (.str name) .null
  | list inner => refToJson .list .null inner.toJson
  | nonNull inner => refToJson .nonNull .null inner.toJson

def InputSpec.members (v : InputSpec) : List (String × Json) :=
  [("name", .str v.name), ("description", .ofOption .str v.description),
    ("type", v.type.toJson), ("defaultValue", .ofOption .str v.defaultValue)]

def InputSpec.toJson (v : InputSpec) : Json := .ofMembers v.members

def FieldSpec.members (f : FieldSpec) : List (String × Json) :=
  [("name", .str f.name), ("description", .ofOption .str f.description),
    ("args", .arr (f.arguments.map InputSpec.toJson)), ("type", f.type.toJson),
    ("isDeprecated", .bool f.isDeprecated),
    ("deprecationReason", .ofOption .str f.deprecationReason)]

def FieldSpec.toJson (f : FieldSpec) : Json := .ofMembers f.members

def EnumValueSpec.members (v : EnumValueSpec) : List (String × Json) :=
  [("name", .str v.name), ("description", .ofOption .str v.description),
    ("isDeprecated", .bool v.isDeprecated),
    ("deprecationReason", .ofOption .str v.deprecationReason)]

def EnumValueSpec.toJson (v : EnumValueSpec) : Json := .ofMembers v.members

def TypeSpec.members (t : TypeSpec) : List (String × Json) :=
  [("kind", .str t.kind.name), ("name", .str t.name),
    ("description", .ofOption .str t.description),
    ("specifiedByURL", .ofOption .str t.specifiedByUrl),
    ("fields", listToJson FieldSpec.toJson t.fields),
    ("inputFields", listToJson InputSpec.toJson t.inputFields),
    ("interfaces", listToJson TypeRef.toJson t.interfaces),
    ("possibleTypes", listToJson TypeRef.toJson t.possibleTypes),
    ("enumValues", listToJson EnumValueSpec.toJson t.enumValues)]

def TypeSpec.toJson (t : TypeSpec) : Json := .ofMembers t.members

def locationToJson (location : DirectiveLocation) : Json := .str location.name

def DirectiveSpec.members (d : DirectiveSpec) : List (String × Json) :=
  [("name", .str d.name), ("description", .ofOption .str d.description),
    ("isRepeatable", .bool d.isRepeatable),
    ("locations", .arr (d.locations.map locationToJson)),
    ("args", .arr (d.arguments.map InputSpec.toJson))]

def DirectiveSpec.toJson (d : DirectiveSpec) : Json := .ofMembers d.members

def rootToJson (name : String) : Json := .ofMembers [("name", .str name)]

def SchemaSpec.members (s : SchemaSpec) : List (String × Json) :=
  [("queryType", rootToJson s.queryRoot), ("mutationType", .ofOption rootToJson s.mutationRoot),
    ("subscriptionType", .ofOption rootToJson s.subscriptionRoot),
    ("types", .arr (s.types.map TypeSpec.toJson)),
    ("directives", .arr (s.directives.map DirectiveSpec.toJson))]

def SchemaSpec.toJson (s : SchemaSpec) : Json := .ofMembers s.members

def SchemaSpec.document (s : SchemaSpec) : Json :=
  .ofMembers [("data", .ofMembers [("__schema", s.toJson)])]

/-! ## Proper values -/

/-- A reference whose named type is of a kind that types have; the other kinds only wrap. -/
def TypeRef.Proper (ref : TypeRef) : Prop := ref.namedKind.isNamed = true

instance : DecidablePred TypeRef.Proper := fun ref =>
  inferInstanceAs (Decidable (ref.namedKind.isNamed = true))

def InputSpec.Proper (v : InputSpec) : Prop := v.type.Proper

instance : DecidablePred InputSpec.Proper := fun v => inferInstanceAs (Decidable v.type.Proper)

def FieldSpec.Proper (f : FieldSpec) : Prop := f.type.Proper ∧ ∀ v ∈ f.arguments, v.Proper

instance : DecidablePred FieldSpec.Proper := fun f =>
  inferInstanceAs (Decidable (f.type.Proper ∧ ∀ v ∈ f.arguments, v.Proper))

structure TypeSpec.Proper (t : TypeSpec) : Prop where
  fields : ∀ items ∈ t.fields, ∀ f ∈ items, f.Proper
  inputFields : ∀ items ∈ t.inputFields, ∀ v ∈ items, v.Proper
  interfaces : ∀ items ∈ t.interfaces, ∀ ref ∈ items, ref.Proper
  possibleTypes : ∀ items ∈ t.possibleTypes, ∀ ref ∈ items, ref.Proper

instance : DecidablePred TypeSpec.Proper := fun t =>
  decidable_of_iff ((∀ items ∈ t.fields, ∀ f ∈ items, f.Proper) ∧
      (∀ items ∈ t.inputFields, ∀ v ∈ items, v.Proper) ∧
      (∀ items ∈ t.interfaces, ∀ ref ∈ items, ref.Proper) ∧
      (∀ items ∈ t.possibleTypes, ∀ ref ∈ items, ref.Proper))
    ⟨fun ⟨fields, inputFields, interfaces, possibleTypes⟩ =>
        ⟨fields, inputFields, interfaces, possibleTypes⟩,
      fun h => ⟨h.fields, h.inputFields, h.interfaces, h.possibleTypes⟩⟩

def DirectiveSpec.Proper (d : DirectiveSpec) : Prop := ∀ v ∈ d.arguments, v.Proper

instance : DecidablePred DirectiveSpec.Proper := fun d =>
  inferInstanceAs (Decidable (∀ v ∈ d.arguments, v.Proper))

structure SchemaSpec.Proper (s : SchemaSpec) : Prop where
  types : ∀ t ∈ s.types, t.Proper
  directives : ∀ d ∈ s.directives, d.Proper

instance : DecidablePred SchemaSpec.Proper := fun s =>
  decidable_of_iff ((∀ t ∈ s.types, t.Proper) ∧ ∀ d ∈ s.directives, d.Proper)
    ⟨fun ⟨types, directives⟩ => ⟨types, directives⟩, fun h => ⟨h.types, h.directives⟩⟩

/-! ## Order -/

def TypeSpec.sorted (t : TypeSpec) : TypeSpec :=
  { t with
    interfaces := t.interfaces.map (sortByName (·.namedType))
    possibleTypes := t.possibleTypes.map (sortByName (·.namedType))
    enumValues := t.enumValues.map (sortByName (·.name)) }

def SchemaSpec.sorted (s : SchemaSpec) : SchemaSpec :=
  { s with
    types := (sortByName (·.name) s.types).map TypeSpec.sorted
    directives := sortByName (·.name) s.directives }

/-- A type whose interfaces and possible types are those of another one by the names of the types
that they name, and whose enum values are by their own names; all else is the same. -/
structure TypeSpec.IsSorted (t sorted : TypeSpec) : Prop where
  same : sorted = { t with
    interfaces := sorted.interfaces
    possibleTypes := sorted.possibleTypes
    enumValues := sorted.enumValues }
  interfaces : Option.Rel (IsSortedByName (·.namedType)) t.interfaces sorted.interfaces
  possibleTypes : Option.Rel (IsSortedByName (·.namedType)) t.possibleTypes sorted.possibleTypes
  enumValues : Option.Rel (IsSortedByName (·.name)) t.enumValues sorted.enumValues

structure SchemaSpec.IsSorted (s sorted : SchemaSpec) : Prop where
  same : sorted = { s with types := sorted.types, directives := sorted.directives }
  types : ∃ types, IsSortedByName (·.name) s.types types ∧
    List.Forall₂ TypeSpec.IsSorted types sorted.types
  directives : IsSortedByName (·.name) s.directives sorted.directives

theorem rel_isSortedByName {α : Type} (name : α → String) (found : Option (List α)) :
    Option.Rel (IsSortedByName name) found (found.map (sortByName name)) := by
  cases found with
  | none => exact .none
  | some items => exact .some (isSortedByName_sortByName name items)

theorem TypeSpec.isSorted_sorted (t : TypeSpec) : t.IsSorted t.sorted where
  same := rfl
  interfaces := rel_isSortedByName _ t.interfaces
  possibleTypes := rel_isSortedByName _ t.possibleTypes
  enumValues := rel_isSortedByName _ t.enumValues

theorem SchemaSpec.isSorted_sorted (s : SchemaSpec) : s.IsSorted s.sorted where
  same := rfl
  types := by
    refine ⟨sortByName (·.name) s.types, isSortedByName_sortByName _ s.types, ?_⟩
    rw [sorted, List.forall₂_map_right_iff]
    exact List.forall₂_same.mpr fun t _ => t.isSorted_sorted
  directives := isSortedByName_sortByName _ s.directives

/-! ## Required and optional values -/

inductive InputPart where
  | all
  | required
  | optional

namespace InputPart

def list : InputPart → InputValues → List InputValue
  | all, values => values.all
  | required, values => values.required
  | optional, values => values.optional

def has : InputPart → InputSpec → Bool
  | all, _ => true
  | required, v => v.type.isNonNull
  | optional, v => !v.type.isNonNull

end InputPart

/-! ## Written entities -/

def InputSpec.entity (v : InputSpec) : InputValue := ⟨⟨.inputValue, v.name, v.toJson⟩⟩

def FieldSpec.entity (f : FieldSpec) : Field := ⟨⟨.field, f.name, f.toJson⟩⟩

def EnumValueSpec.entity (v : EnumValueSpec) : EnumValue := ⟨⟨.enumValue, v.name, v.toJson⟩⟩

def TypeSpec.entity (t : TypeSpec) : TypeDefinition := ⟨⟨.type, t.name, t.toJson⟩, t.kind⟩

def DirectiveSpec.entity (d : DirectiveSpec) : Directive := ⟨⟨.directive, d.name, d.toJson⟩⟩

def SchemaSpec.entity (s : SchemaSpec) : Schema := ⟨.unnamed .schema s.toJson⟩

end Introspection
