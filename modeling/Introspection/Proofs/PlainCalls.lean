import Introspection.Proofs.PlainViews
/-!
# What calls log

A call on an entity is a plain view, but for two kinds of calls. Those that go through a counted
list of a schema also log its count, and those that look up an optional key also log that it is
absent. The text that shows a schema is left out: it swallows faults that have been logged.
-/

namespace Introspection

open View

/-! ## The two kinds of calls that are not plain -/

namespace Entity

/-- The cell of the counted list that a call goes through. -/
def countedCell? : Entity → Call → Option Cell
  | schema s, .types => some ⟨.types, s.record⟩
  | schema s, .typesByName => some ⟨.types, s.record⟩
  | schema s, .typeByName _ => some ⟨.types, s.record⟩
  | schema s, .directives => some ⟨.directives, s.record⟩
  | schema s, .directiveByName _ => some ⟨.directives, s.record⟩
  | _, _ => none

def optionalKey? : Entity → Call → Option (Record × String)
  | schema s, .subscriptionRootName => some (s.record, "subscriptionType")
  | type t, .specifiedByUrl => some (t.record, "specifiedByURL")
  | directive d, .isRepeatable => some (d.record, "isRepeatable")
  | _, _ => none

def showsSchema : Entity → Call → Bool
  | schema _, .structureText => true
  | _, _ => false

end Entity

/-! ## Plain calls -/

section

variable {call : Call} {view : View Answer}

theorem Node.plain_ask {n : Node} (h : n.ask call = some view) : view.Plain := by
  unfold Node.ask at h
  cases call with
  | name | json | nodeText =>
      cases h
      exact plain_pure _
  | description =>
      cases h
      exact plain_map _ (View.plain_read (n.record.plain_stringOrNull "description"))
  | camelCase | pascalCase | upperSnakeCase | casings =>
      cases h
      exact plain_map _ n.plain_casings
  | _ => cases h

theorem Node.plain_askArguments {n : Node} (h : n.askArguments call = some view) :
    view.Plain := by
  unfold Node.askArguments at h
  cases call with
  | arguments | requiredArguments | optionalArguments | argument _ =>
      cases h
      exact plain_map _ n.plain_arguments
  | _ => exact Node.plain_ask h

theorem TypeDefinition.plain_ask {t : TypeDefinition} (h : t.ask call = some view)
    (hurl : call ≠ .specifiedByUrl) : view.Plain := by
  unfold TypeDefinition.ask at h
  cases call with
  | kind | isBuiltin =>
      cases h
      exact plain_pure _
  | isKind kind =>
      obtain ⟨_, hview⟩ := Option.ite_none_right_eq_some.mp h
      cases hview
      exact plain_pure _
  | specifiedByUrl => exact absurd rfl hurl
  | fields withDeprecated =>
      cases h
      exact plain_map _ (t.plain_fields withDeprecated)
  | fieldsByName =>
      cases h
      exact plain_map _ t.plain_fieldsByName
  | field name =>
      cases h
      exact plain_map _ (plain_bind t.plain_fieldsByName fun _ => plain_pure _)
  | inputFields | requiredInputFields | optionalInputFields =>
      cases h
      exact plain_map _ t.plain_inputFieldList
  | inputField name =>
      cases h
      exact plain_map _ (plain_bind t.plain_inputFieldList fun _ => plain_pure _)
  | interfaces =>
      cases h
      exact plain_map _ t.plain_interfaces
  | implements name =>
      cases h
      exact plain_map _ (plain_bind t.plain_interfaces fun _ => plain_pure _)
  | possibleTypes =>
      cases h
      exact plain_map _ t.plain_possibleTypes
  | isPossibleType name =>
      cases h
      exact plain_map _ (plain_bind t.plain_possibleTypes fun _ => plain_pure _)
  | enumValues withDeprecated =>
      cases h
      exact plain_map _ (plain_bind t.plain_enumValueList fun _ => plain_pure _)
  | _ => exact Node.plain_ask h

theorem Field.plain_ask {f : Field} (h : f.ask call = some view) : view.Plain := by
  unfold Field.ask at h
  cases call with
  | type =>
      cases h
      exact plain_map _ f.plain_type
  | hasSubfields =>
      cases h
      exact plain_map _ (plain_bind f.plain_type fun _ => plain_pure _)
  | isDeprecated =>
      cases h
      exact plain_map _ (View.plain_read f.plain_isDeprecated)
  | deprecationReason =>
      cases h
      exact plain_map _ (View.plain_read (f.record.plain_stringOrNull "deprecationReason"))
  | _ => exact Node.plain_askArguments h

theorem InputValue.plain_ask {v : InputValue} (h : v.ask call = some view) : view.Plain := by
  unfold InputValue.ask at h
  cases call with
  | type =>
      cases h
      exact plain_map _ v.plain_type
  | defaultValue =>
      cases h
      exact plain_map _ (View.plain_read (v.record.plain_stringOrNull "defaultValue"))
  | isRequired =>
      cases h
      exact plain_map _ (plain_bind v.plain_type fun _ => plain_pure _)
  | _ => exact Node.plain_ask h

theorem EnumValue.plain_ask {v : EnumValue} (h : v.ask call = some view) : view.Plain := by
  unfold EnumValue.ask at h
  cases call with
  | isDeprecated =>
      cases h
      exact plain_map _ (View.plain_read v.plain_isDeprecated)
  | deprecationReason =>
      cases h
      exact plain_map _ (View.plain_read (v.record.plain_stringOrNull "deprecationReason"))
  | _ => exact Node.plain_ask h

theorem Directive.plain_ask {d : Directive} (h : d.ask call = some view)
    (hrepeatable : call ≠ .isRepeatable) : view.Plain := by
  unfold Directive.ask at h
  cases call with
  | locations =>
      cases h
      exact plain_map _ d.plain_locations
  | locationNames =>
      cases h
      exact plain_map _ d.plain_locationNames
  | hasLocation location =>
      cases h
      exact plain_map _ (plain_bind d.plain_locationNames fun _ => plain_pure _)
  | isRepeatable => exact absurd rfl hrepeatable
  | isBuiltin =>
      cases h
      exact plain_pure _
  | _ => exact Node.plain_askArguments h

theorem Schema.plain_ask {s : Schema} (h : s.ask call = some view)
    (hcounted : (Entity.schema s).countedCell? call = none)
    (hkey : (Entity.schema s).optionalKey? call = none)
    (htext : (Entity.schema s).showsSchema call = false) : view.Plain := by
  unfold Schema.ask at h
  cases call with
  | queryRootName =>
      cases h
      exact plain_map _ (View.plain_read s.plain_readQueryRootName)
  | mutationRootName =>
      cases h
      exact plain_map _ (View.plain_read s.plain_readMutationRootName)
  | subscriptionRootName => cases hkey
  | isRootTypeName name =>
      cases h
      exact plain_map _ (s.plain_isRootTypeName name)
  | types | typesByName | typeByName _ | directives | directiveByName _ => cases hcounted
  | json =>
      cases h
      exact plain_pure _
  | structureText => cases htext
  | _ => cases h

theorem Entity.plain_ask {e : Entity} (h : e.ask call = some view)
    (hcounted : e.countedCell? call = none) (hkey : e.optionalKey? call = none)
    (htext : e.showsSchema call = false) : view.Plain := by
  cases e with
  | schema s => exact Schema.plain_ask h hcounted hkey htext
  | type t =>
      apply TypeDefinition.plain_ask h
      rintro rfl
      cases hkey
  | field f => exact Field.plain_ask h
  | inputValue v => exact InputValue.plain_ask h
  | enumValue v => exact EnumValue.plain_ask h
  | directive d =>
      apply Directive.plain_ask h
      rintro rfl
      cases hkey
  | ref r =>
      obtain ⟨answer, _, rfl⟩ := Option.map_eq_some_iff.mp h
      exact View.plain_pure answer
  | plain json => cases h

/-! ## Calls that are not plain -/

theorem Schema.reading_types (s : Schema) :
    s.types.reading = (Slot.fill .types s.record).reading :=
  View.reading_memo .types s.record _

theorem Schema.reading_typesByName (s : Schema) :
    s.typesByName.reading = NameMap.of (·.name) <$> (Slot.fill .types s.record).reading := by
  rw [typesByName, View.reading_memo, bind_pure_comp, View.reading_map, reading_types]

theorem Schema.reading_directives (s : Schema) :
    s.directives.reading = (Slot.fill .directives s.record).reading :=
  View.reading_memo .directives s.record _

/-- A call through a counted list logs what reading the list does, and succeeds if that does. -/
theorem Entity.reading_ask_of_counted {e : Entity} (h : e.ask call = some view) {cell : Cell}
    (hcell : e.countedCell? call = some cell) :
    cell.slot.isCounted = true ∧
      ∃ f : cell.Content → Answer, view.reading = f <$> cell.fill.reading := by
  cases e with
  | schema s =>
      cases call with
      | types =>
          cases hcell
          cases h
          exact ⟨rfl, _, by rw [View.reading_map, Schema.reading_types]; rfl⟩
      | typesByName =>
          cases hcell
          cases h
          exact ⟨rfl, _, by rw [View.reading_map, Schema.reading_typesByName, Functor.map_map]; rfl⟩
      | typeByName name =>
          cases hcell
          cases h
          exact ⟨rfl, _, by
            rw [View.reading_map, Schema.typeByName?, bind_pure_comp, View.reading_map,
              Schema.reading_typesByName, Functor.map_map, Functor.map_map]
            rfl⟩
      | directives =>
          cases hcell
          cases h
          exact ⟨rfl, _, by rw [View.reading_map, Schema.reading_directives]; rfl⟩
      | directiveByName name =>
          cases hcell
          cases h
          exact ⟨rfl, _, by
            rw [View.reading_map, Schema.directiveByName?, bind_pure_comp, View.reading_map,
              Schema.reading_directives, Functor.map_map]
            rfl⟩
      | _ => cases hcell
  | _ => cases hcell

theorem Entity.eq_of_optionalKey? {e : Entity} {record : Record} {key : String}
    (h : e.optionalKey? call = some (record, key)) :
    (∃ s, e = schema s ∧ call = .subscriptionRootName ∧ record = s.record ∧
      key = "subscriptionType") ∨
    (∃ t, e = type t ∧ call = .specifiedByUrl ∧ record = t.record ∧ key = "specifiedByURL") ∨
    ∃ d, e = directive d ∧ call = .isRepeatable ∧ record = d.record ∧ key = "isRepeatable" := by
  cases e with
  | schema s =>
      cases call with
      | subscriptionRootName =>
          cases h
          exact .inl ⟨s, rfl, rfl, rfl, rfl⟩
      | _ => cases h
  | type t =>
      cases call with
      | specifiedByUrl =>
          cases h
          exact .inr (.inl ⟨t, rfl, rfl, rfl, rfl⟩)
      | _ => cases h
  | directive d =>
      cases call with
      | isRepeatable =>
          cases h
          exact .inr (.inr ⟨d, rfl, rfl, rfl, rfl⟩)
      | _ => cases h
  | _ => cases h

/-- A call that looks up an optional key logs that it is absent, and has an answer then. -/
theorem Entity.reading_ask_of_lacks {e : Entity} (h : e.ask call = some view)
    {record : Record} {key : String} (hkey : e.optionalKey? call = some (record, key))
    (hlacks : record.Lacks key) :
    ∃ answer, view.reading = ⟨[.missing key record.place], .ok answer⟩ := by
  obtain ⟨s, rfl, rfl, rfl, rfl⟩ | ⟨t, rfl, rfl, rfl, rfl⟩ | ⟨d, rfl, rfl, rfl, rfl⟩ :=
    eq_of_optionalKey? hkey
  · cases h
    refine ⟨.nothing, ?_⟩
    rw [View.reading_map, Schema.subscriptionRootName, View.reading_read,
      Schema.readSubscriptionRootName_of_lacks _ hlacks]
    rfl
  · cases h
    refine ⟨.nothing, ?_⟩
    rw [View.reading_map, TypeDefinition.specifiedByUrl, View.reading_read,
      Record.string?_of_lacks hlacks]
    rfl
  · cases h
    refine ⟨.bool false, ?_⟩
    rw [View.reading_map, Directive.isRepeatable, View.reading_bind, View.reading_read,
      Record.bool?_of_lacks hlacks]
    rfl

theorem Entity.plain_ask_of_not_lacks {e : Entity} (h : e.ask call = some view)
    {record : Record} {key : String} (hkey : e.optionalKey? call = some (record, key))
    (hlacks : ¬ record.Lacks key) : view.Plain := by
  obtain ⟨s, rfl, rfl, rfl, rfl⟩ | ⟨t, rfl, rfl, rfl, rfl⟩ | ⟨d, rfl, rfl, rfl, rfl⟩ :=
    eq_of_optionalKey? hkey
  · cases h
    exact plain_map _ (View.plain_read (Schema.plain_readSubscriptionRootName _ hlacks))
  · cases h
    exact plain_map _ (View.plain_read (Record.plain_string? hlacks))
  · cases h
    apply plain_map
    exact plain_bind (View.plain_read (Record.plain_bool? hlacks)) fun _ => plain_pure _

end

end Introspection
