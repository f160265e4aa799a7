import Introspection.Proofs.Direct
import Introspection.Proofs.Readings
import Introspection.Proofs.Specs
/-!
# Reading what has been written

Each accessor of an entity that has been written gives back the part of its value, and nothing is
logged on the way. Only the counts of the types and of the directives are.
-/

namespace Introspection

open Reading (mapM_map_eq_pure)

/-! ## References -/

theorem member?_refToJson {kind : TypeKind} {name ofType : Json} {key : String} {value : Json}
    (h : [("kind", Json.str kind.name), ("name", name), ("ofType", ofType)].lookup key =
      some value) : (refToJson kind name ofType).member? key = some value :=
  Json.member?_ofMembers (by simp only [List.map]; decide) h

namespace TypeRef

theorem toJson_ne_null (ref : TypeRef) : ref.toJson ≠ .null := by
  cases ref <;> exact Json.noConfusion

theorem read_toJson_of_wrapper {kind : TypeKind} {wrap : TypeRef → TypeRef} {inner : TypeRef}
    (hwrap : wrapper? kind = some wrap) (hread : read inner.toJson = pure inner) :
    read (refToJson kind .null inner.toJson) = pure (wrap inner) := by
  have hkind : (Record.unnamed .type (refToJson kind .null inner.toJson)).kind = pure kind :=
    Record.kind_of_member? (member?_refToJson rfl)
  have hinner : (Record.unnamed .type (refToJson kind .null inner.toJson)).json.member? "ofType" =
    some inner.toJson := member?_refToJson rfl
  rw [read, hkind, pure_bind, hwrap]
  dsimp only
  rw [Record.member_of_member? hinner, pure_bind]
  dsimp only
  rw [if_neg inner.toJson_ne_null, hread, pure_bind]

/-- A proper reference is read as it was written. -/
theorem read_toJson {ref : TypeRef} (h : ref.Proper) : read ref.toJson = pure ref := by
  induction ref with
  | named kind name =>
      have hkind : (Record.unnamed .type (named kind name).toJson).kind = pure kind :=
        Record.kind_of_member? (member?_refToJson rfl)
      have hname : (Record.unnamed .type (named kind name).toJson).string "name" = pure name :=
        Record.string_of_member? (member?_refToJson rfl)
      have hwrapper : wrapper? kind = none := by cases kind <;> first | rfl | cases h
      rw [read, hkind, pure_bind, hwrapper]
      dsimp only
      rw [hname, pure_bind]
  | list inner ih => exact read_toJson_of_wrapper rfl (ih h)
  | nonNull inner ih => exact read_toJson_of_wrapper rfl (ih h)

end TypeRef

/-! ## Nodes -/

namespace Node

variable {n : Node}

theorem read_of_member? (owner : Owner) {json : Json} {name : String}
    (h : json.member? "name" = some (.str name)) : read owner json = pure ⟨owner, name, json⟩ := by
  have hname : (Record.unnamed owner json).string "name" = pure name := Record.string_of_member? h
  rw [read, hname, pure_bind]

theorem reading_description {found : Option String}
    (h : n.json.member? "description" = some (.ofOption .str found)) :
    n.description.reading = pure found := by
  rw [description, View.reading_read]
  exact Record.stringOrNull_of_member? h

theorem reading_deprecationReason {found : Option String}
    (h : n.json.member? "deprecationReason" = some (.ofOption .str found)) :
    n.deprecationReason.reading = pure found := by
  rw [deprecationReason, View.reading_read]
  exact Record.stringOrNull_of_member? h

theorem isDeprecated_of_member? {b : Bool}
    (h : n.json.member? "isDeprecated" = some (.bool b)) : n.isDeprecated = pure b :=
  Record.bool_of_member? h

theorem reading_type {ref : TypeRef} (h : n.json.member? "type" = some ref.toJson)
    (href : ref.Proper) : n.type.reading = pure ref := by
  have hfetch : n.record.fetch "type" = pure ref.toJson := Record.fetch_of_member? h
  rw [type, View.reading_memo, View.reading_read, Record.readType, hfetch, pure_bind,
    TypeRef.read_toJson href]

theorem reading_casings (n : Node) : n.casings.reading = pure (.of n.name) := by
  rw [casings, View.reading_memo, View.reading_pure]

end Node

/-! ## Input values -/

namespace InputSpec

def values (items : List InputSpec) : InputValues where
  all := items.map entity
  required := (items.filter (·.type.isNonNull)).map entity
  optional := (items.filter (!·.type.isNonNull)).map entity

theorem list_values (part : InputPart) (items : List InputSpec) :
    part.list (values items) = (items.filter part.has).map entity := by
  cases part with
  | all =>
      have hall : items.filter InputPart.all.has = items :=
        List.filter_eq_self.mpr fun _ _ => rfl
      rw [hall]
      rfl
  | required => rfl
  | optional => rfl

theorem member?_toJson (v : InputSpec) {key : String} {value : Json}
    (h : v.members.lookup key = some value) : v.toJson.member? key = some value :=
  Json.member?_ofMembers (by simp only [members, List.map]; decide) h

theorem read_toJson (v : InputSpec) : InputValue.read v.toJson = pure v.entity := by
  rw [InputValue.read, Node.read_of_member? _ (v.member?_toJson rfl), pure_bind]
  rfl

theorem reading_type {v : InputSpec} (h : v.Proper) : v.entity.type.reading = pure v.type :=
  Node.reading_type (v.member?_toJson rfl) h

theorem reading_split {items : List InputSpec} (h : ∀ v ∈ items, v.Proper) :
    (InputValues.split (items.map entity)).reading =
      pure ((values items).required, (values items).optional) := by
  induction items with
  | nil => rfl
  | cons v items ih =>
      have hrest := ih fun other hother => h other (List.mem_cons_of_mem v hother)
      rw [List.map_cons, InputValues.split, View.reading_bind,
        reading_type (h v List.mem_cons_self), pure_bind, View.reading_bind, hrest, pure_bind,
        View.reading_pure]
      simp only [values, List.filter_cons]
      cases v.type.isNonNull <;> rfl

theorem reading_values {items : List InputSpec} (h : ∀ v ∈ items, v.Proper) :
    (InputValues.read (items.map toJson)).reading = pure (values items) := by
  have hall : (items.map toJson).mapM InputValue.read = pure (items.map entity) :=
    mapM_map_eq_pure fun v _ => v.read_toJson
  rw [InputValues.read, View.reading_bind, View.reading_read, hall, pure_bind,
    View.reading_bind, reading_split h, pure_bind, View.reading_pure]
  rfl

end InputSpec

theorem Node.reading_arguments {n : Node} {items : List InputSpec}
    (h : n.json.member? "args" = some (.arr (items.map InputSpec.toJson)))
    (hitems : ∀ v ∈ items, v.Proper) : n.arguments.reading = pure (InputSpec.values items) := by
  have hlist : n.record.list "args" = pure (items.map InputSpec.toJson) :=
    Record.list_of_member? h
  rw [arguments, View.reading_memo, View.reading_bind, View.reading_read, hlist, pure_bind,
    InputSpec.reading_values hitems]

/-! ## Fields and enum values -/

namespace Deprecatables

variable {α β : Type} {isDeprecated : β → Reading Bool} {entity : α → β} {deprecated : α → Bool}

theorem activeOf_map_eq_pure (h : ∀ a, isDeprecated (entity a) = pure (deprecated a))
    (items : List α) : activeOf isDeprecated (items.map entity) =
      pure ((items.filter (!deprecated ·)).map entity) := by
  induction items with
  | nil => rfl
  | cons item items ih =>
      rw [List.map_cons, activeOf, h, pure_bind, ih, pure_bind, List.filter_cons]
      cases deprecated item <;> rfl

theorem ofAll_map_eq_pure (h : ∀ a, isDeprecated (entity a) = pure (deprecated a))
    (items : List α) : ofAll isDeprecated (items.map entity) =
      pure ⟨items.map entity, (items.filter (!deprecated ·)).map entity⟩ := by
  rw [ofAll, activeOf_map_eq_pure h, pure_bind]

end Deprecatables

namespace FieldSpec

theorem member?_toJson (f : FieldSpec) {key : String} {value : Json}
    (h : f.members.lookup key = some value) : f.toJson.member? key = some value :=
  Json.member?_ofMembers (by simp only [members, List.map]; decide) h

theorem read_toJson (f : FieldSpec) : Field.read f.toJson = pure f.entity := by
  rw [Field.read, Node.read_of_member? _ (f.member?_toJson rfl), pure_bind]
  rfl

theorem isDeprecated_entity (f : FieldSpec) : f.entity.isDeprecated = pure f.isDeprecated :=
  Node.isDeprecated_of_member? (f.member?_toJson rfl)

def lists (items : List FieldSpec) : Deprecatables Field :=
  ⟨items.map entity, (items.filter (!·.isDeprecated)).map entity⟩

theorem view_lists (withDeprecated : Bool) (items : List FieldSpec) :
    (lists items).view withDeprecated =
      (items.filter (withDeprecated || !·.isDeprecated)).map entity := by
  cases withDeprecated with
  | true =>
      have hall : items.filter (true || !·.isDeprecated) = items :=
        List.filter_eq_self.mpr fun _ _ => rfl
      rw [hall]
      rfl
  | false => rfl

theorem readAll_toJson (items : List FieldSpec) :
    Field.readAll (items.map toJson) = pure (lists items) := by
  have hall : (items.map toJson).mapM Field.read = pure (items.map entity) :=
    mapM_map_eq_pure fun f _ => f.read_toJson
  rw [Field.readAll, hall, pure_bind]
  exact Deprecatables.ofAll_map_eq_pure (fun f => f.isDeprecated_entity) items

end FieldSpec

namespace EnumValueSpec

theorem member?_toJson (v : EnumValueSpec) {key : String} {value : Json}
    (h : v.members.lookup key = some value) : v.toJson.member? key = some value :=
  Json.member?_ofMembers (by simp only [members, List.map]; decide) h

theorem read_toJson (v : EnumValueSpec) : EnumValue.read v.toJson = pure v.entity := by
  rw [EnumValue.read, Node.read_of_member? _ (v.member?_toJson rfl), pure_bind]
  rfl

theorem isDeprecated_entity (v : EnumValueSpec) : v.entity.isDeprecated = pure v.isDeprecated :=
  Node.isDeprecated_of_member? (v.member?_toJson rfl)

def lists (items : List EnumValueSpec) : Deprecatables EnumValue :=
  let sorted := sortByName (·.name) items
  ⟨sorted.map entity, (sorted.filter (!·.isDeprecated)).map entity⟩

theorem view_lists (withDeprecated : Bool) (items : List EnumValueSpec) :
    (lists items).view withDeprecated =
      ((sortByName (·.name) items).filter (withDeprecated || !·.isDeprecated)).map entity := by
  cases withDeprecated with
  | true =>
      have hall : (sortByName (·.name) items).filter (true || !·.isDeprecated) =
          sortByName (·.name) items := List.filter_eq_self.mpr fun _ _ => rfl
      rw [hall]
      rfl
  | false => rfl

theorem readAll_toJson (items : List EnumValueSpec) :
    EnumValue.readAll (items.map toJson) = pure (lists items) := by
  have hall : (items.map toJson).mapM EnumValue.read = pure (items.map entity) :=
    mapM_map_eq_pure fun v _ => v.read_toJson
  rw [EnumValue.readAll, hall, pure_bind, sortByName_map]
  exact Deprecatables.ofAll_map_eq_pure (fun v => v.isDeprecated_entity) _

end EnumValueSpec

theorem TypeRef.readAll_toJson {refs : List TypeRef} (h : ∀ ref ∈ refs, ref.Proper) :
    readAll (refs.map toJson) = pure (sortByName (·.namedType) refs) := by
  have hall : (refs.map toJson).mapM read = pure (refs.map id) :=
    mapM_map_eq_pure fun ref href => read_toJson (h ref href)
  rw [readAll, hall, pure_bind, List.map_id]

/-! ## Types -/

theorem View.reading_optional {α β : Type} {r : Record} {key : String} {write : α → Json}
    {found : Option (List α)} (h : r.json.member? key = some (listToJson write found))
    {readAll : List Json → View β} {value : List α → β}
    (hread : ∀ items ∈ found, (readAll (items.map write)).reading = pure (value items)) :
    (r.optional key readAll).reading = pure (found.map value) := by
  rw [Record.optional, View.reading_bind, View.reading_read, Record.listOrNull_of_member? h,
    pure_bind]
  cases found with
  | none => rfl
  | some items =>
      dsimp only [Option.map]
      rw [View.reading_map, hread items rfl]
      rfl

namespace TypeSpec

variable {t : TypeSpec}

theorem member?_toJson (t : TypeSpec) {key : String} {value : Json}
    (h : t.members.lookup key = some value) : t.toJson.member? key = some value :=
  Json.member?_ofMembers (by simp only [members, List.map]; decide) h

theorem read_toJson (t : TypeSpec) : TypeDefinition.read t.toJson = pure t.entity := by
  have hkind : (Node.record ⟨.type, t.name, t.toJson⟩).kind = pure t.kind :=
    Record.kind_of_member? (t.member?_toJson rfl)
  rw [TypeDefinition.read, Node.read_of_member? _ (t.member?_toJson rfl), pure_bind, hkind,
    pure_bind]
  rfl

theorem reading_specifiedByUrl (t : TypeSpec) :
    t.entity.specifiedByUrl.reading = pure t.specifiedByUrl := by
  rw [TypeDefinition.specifiedByUrl, View.reading_read]
  exact Record.string?_of_member? (t.member?_toJson rfl)

theorem reading_fieldList (t : TypeSpec) :
    t.entity.fieldList.reading = pure (t.fields.map FieldSpec.lists) := by
  rw [TypeDefinition.fieldList, View.reading_memo]
  refine View.reading_optional (t.member?_toJson rfl) fun items _ => ?_
  rw [View.reading_read, FieldSpec.readAll_toJson]

theorem reading_fields (t : TypeSpec) (withDeprecated : Bool) :
    (t.entity.fields withDeprecated).reading =
      pure (t.fields.map fun items => (FieldSpec.lists items).view withDeprecated) := by
  rw [TypeDefinition.fields, View.reading_bind, t.reading_fieldList, pure_bind,
    View.reading_pure, Option.map_map]
  rfl

theorem reading_fieldsByName (t : TypeSpec) : t.entity.fieldsByName.reading =
    pure (t.fields.map fun items => .of (·.name) (items.map FieldSpec.entity)) := by
  rw [TypeDefinition.fieldsByName, View.reading_memo, View.reading_bind, t.reading_fields,
    pure_bind, View.reading_pure, Option.map_map]
  rfl

theorem reading_inputFieldList (h : t.Proper) :
    t.entity.inputFieldList.reading = pure (t.inputFields.map InputSpec.values) := by
  rw [TypeDefinition.inputFieldList, View.reading_memo]
  refine View.reading_optional (t.member?_toJson rfl) fun items hitems => ?_
  exact InputSpec.reading_values (h.inputFields items hitems)

theorem reading_refs {key : String} {found : Option (List TypeRef)}
    (h : t.members.lookup key = some (listToJson TypeRef.toJson found))
    (hrefs : ∀ refs ∈ found, ∀ ref ∈ refs, ref.Proper) :
    (t.entity.refs key).reading = pure (found.map (sortByName (·.namedType))) := by
  refine View.reading_optional (t.member?_toJson h) fun refs hfound => ?_
  rw [View.reading_read, TypeRef.readAll_toJson (hrefs refs hfound)]

theorem reading_interfaces (h : t.Proper) : t.entity.interfaces.reading =
    pure (t.interfaces.map (sortByName (·.namedType))) := by
  rw [TypeDefinition.interfaces, View.reading_memo]
  exact reading_refs rfl h.interfaces

theorem reading_possibleTypes (h : t.Proper) : t.entity.possibleTypes.reading =
    pure (t.possibleTypes.map (sortByName (·.namedType))) := by
  rw [TypeDefinition.possibleTypes, View.reading_memo]
  exact reading_refs rfl h.possibleTypes

theorem reading_enumValueList (t : TypeSpec) :
    t.entity.enumValueList.reading = pure (t.enumValues.map EnumValueSpec.lists) := by
  rw [TypeDefinition.enumValueList, View.reading_memo]
  refine View.reading_optional (t.member?_toJson rfl) fun items _ => ?_
  rw [View.reading_read, EnumValueSpec.readAll_toJson]

theorem reading_enumValues (t : TypeSpec) (withDeprecated : Bool) :
    (t.entity.enumValues withDeprecated).reading =
      pure (t.enumValues.map fun items => (EnumValueSpec.lists items).view withDeprecated) := by
  rw [TypeDefinition.enumValues, View.reading_bind, t.reading_enumValueList, pure_bind,
    View.reading_pure, Option.map_map]
  rfl

theorem reading_field? (t : TypeSpec) (name : String) : (t.entity.field? name).reading =
    pure (t.fields.bind fun items =>
      (NameMap.of (·.name) (items.map FieldSpec.entity)).find? name) := by
  rw [TypeDefinition.field?, View.reading_bind, t.reading_fieldsByName, pure_bind,
    View.reading_pure, Option.bind_map]
  rfl

theorem reading_inputField? (h : t.Proper) (name : String) :
    (t.entity.inputField? name).reading =
      pure (t.inputFields.bind fun items => (InputSpec.values items).find? name) := by
  rw [TypeDefinition.inputField?, View.reading_bind, reading_inputFieldList h, pure_bind,
    View.reading_pure, Option.bind_map]
  rfl

end TypeSpec

/-! ## Directives -/

namespace DirectiveSpec

theorem member?_toJson (d : DirectiveSpec) {key : String} {value : Json}
    (h : d.members.lookup key = some value) : d.toJson.member? key = some value :=
  Json.member?_ofMembers (by simp only [members, List.map]; decide) h

theorem read_toJson (d : DirectiveSpec) : Directive.read d.toJson = pure d.entity := by
  rw [Directive.read, Node.read_of_member? _ (d.member?_toJson rfl), pure_bind]
  rfl

theorem list_locations (d : DirectiveSpec) :
    d.entity.record.list "locations" = pure (d.locations.map locationToJson) :=
  Record.list_of_member? (d.member?_toJson rfl)

theorem reading_locations (d : DirectiveSpec) :
    d.entity.locations.reading = pure d.locations := by
  have hall : (d.locations.map locationToJson).mapM d.entity.record.location =
      pure (d.locations.map id) := by
    apply mapM_map_eq_pure
    intro location _
    have hread : DirectiveLocation.read? (locationToJson location) = some location :=
      DirectiveLocation.ofName?_name location
    rw [Record.location, hread]
    rfl
  rw [Directive.locations, View.reading_memo, View.reading_read, Record.readLocations,
    d.list_locations, pure_bind, hall, List.map_id]

theorem reading_locationNames (d : DirectiveSpec) :
    d.entity.locationNames.reading = pure (d.locations.map DirectiveLocation.name) := by
  have hall : (d.locations.map locationToJson).mapM d.entity.record.locationName =
      pure (d.locations.map DirectiveLocation.name) := by
    apply mapM_map_eq_pure
    intro location _
    rfl
  rw [Directive.locationNames, View.reading_memo, View.reading_read, Record.readLocationNames,
    d.list_locations, pure_bind, hall]

theorem reading_isRepeatable (d : DirectiveSpec) :
    d.entity.isRepeatable.reading = pure d.isRepeatable := by
  have hbool : d.entity.record.bool? "isRepeatable" = pure (some d.isRepeatable) :=
    Record.bool?_of_member? (d.member?_toJson rfl)
  rw [Directive.isRepeatable, View.reading_bind, View.reading_read, hbool, pure_bind]
  rfl

end DirectiveSpec

/-! ## Schemas -/

theorem string_rootToJson (owner : Owner) (name : String) :
    (Record.unnamed owner (rootToJson name)).string "name" = pure name :=
  Record.string_of_member? (Json.member?_ofMembers_singleton "name" _)

namespace SchemaSpec

variable (s : SchemaSpec)

theorem member?_toJson {key : String} {value : Json}
    (h : s.members.lookup key = some value) : s.toJson.member? key = some value :=
  Json.member?_ofMembers (by simp only [members, List.map]; decide) h

theorem readQueryRootName_entity : s.entity.readQueryRootName = pure s.queryRoot := by
  have hobject : s.entity.record.object "queryType" .queryType =
      pure (Record.unnamed .queryType (rootToJson s.queryRoot)) :=
    Record.object_of_member? .queryType (s.member?_toJson rfl)
  rw [Schema.readQueryRootName, hobject, pure_bind, string_rootToJson]

theorem readMutationRootName_entity : s.entity.readMutationRootName = pure s.mutationRoot := by
  have hfetch : s.entity.record.fetch "mutationType" =
      pure (Json.ofOption rootToJson s.mutationRoot) :=
    Record.fetch_of_member? (s.member?_toJson rfl)
  rw [Schema.readMutationRootName, hfetch, pure_bind]
  cases s.mutationRoot with
  | none => rfl
  | some name =>
      have hname := string_rootToJson .mutationType name
      rw [Json.ofOption]
      exact (congrArg (some <$> ·) hname).trans (map_pure some name)

theorem readSubscriptionRootName_entity :
    s.entity.readSubscriptionRootName = pure s.subscriptionRoot := by
  have hmember : s.entity.record.json.member? "subscriptionType" =
      some (Json.ofOption rootToJson s.subscriptionRoot) := s.member?_toJson rfl
  have hfind := Record.find?_of_member? hmember
  rw [Schema.readSubscriptionRootName, hfind, pure_bind]
  cases s.subscriptionRoot with
  | none => rfl
  | some name =>
      have hname := string_rootToJson .subscriptionType name
      exact (congrArg (some <$> ·) hname).trans (map_pure some name)

theorem result_types : s.entity.types.reading.result =
    .ok ((sortByName (·.name) s.types).map TypeSpec.entity) := by
  have hlist : s.entity.record.list "types" = pure (s.types.map TypeSpec.toJson) :=
    Record.list_of_member? (s.member?_toJson rfl)
  have hall : (s.types.map TypeSpec.toJson).mapM TypeDefinition.read =
      pure (s.types.map TypeSpec.entity) := mapM_map_eq_pure fun t _ => t.read_toJson
  rw [Schema.types, View.reading_memo, View.reading_read, Schema.readTypes, hlist, pure_bind,
    hall, pure_bind, sortByName_map]
  rfl

theorem result_directives : s.entity.directives.reading.result =
    .ok ((sortByName (·.name) s.directives).map DirectiveSpec.entity) := by
  have hlist : s.entity.record.list "directives" =
      pure (s.directives.map DirectiveSpec.toJson) :=
    Record.list_of_member? (s.member?_toJson rfl)
  have hall : (s.directives.map DirectiveSpec.toJson).mapM Directive.read =
      pure (s.directives.map DirectiveSpec.entity) := mapM_map_eq_pure fun d _ => d.read_toJson
  rw [Schema.directives, View.reading_memo, View.reading_read, Schema.readDirectives, hlist,
    pure_bind, hall, pure_bind, sortByName_map]
  rfl

theorem reading_isRootTypeName (name : String) : (s.entity.isRootTypeName name).reading =
    pure (s.queryRoot == name || s.mutationRoot == some name) := by
  rw [Schema.isRootTypeName, View.reading_bind, Schema.queryRootName, View.reading_read,
    readQueryRootName_entity, pure_bind]
  by_cases h : s.queryRoot = name
  · rw [if_pos h, View.reading_pure, beq_iff_eq.mpr h, Bool.true_or]
  · rw [if_neg h, View.reading_bind, Schema.mutationRootName, View.reading_read,
      readMutationRootName_entity, pure_bind, View.reading_pure, beq_eq_false_iff_ne.mpr h,
      Bool.false_or]

theorem result_typesByName : s.entity.typesByName.reading.result =
    .ok (.of (·.name) ((sortByName (·.name) s.types).map TypeSpec.entity)) := by
  rw [Schema.typesByName, View.reading_memo, bind_pure_comp, View.reading_map,
    Reading.result_map, s.result_types]
  rfl

/-- The schema that is created from the written document is that of the value. -/
theorem result_create : (Schema.create s.document).result = .ok s.entity := by
  rw [Schema.result_create, Schema.result_read_eq_ok]
  refine ⟨_, _, Json.member?_ofMembers_singleton "data" _, ?_, rfl⟩
  exact Json.member?_ofMembers_singleton "__schema" _

end SchemaSpec

end Introspection
