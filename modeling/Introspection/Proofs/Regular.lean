import Introspection.Proofs.Asked
import Introspection.Proofs.Filling
/-!
# Every call is a regular access

Answers to a schema and to what is reached from it ask cells with their own fillings, and no call
leads to another schema. So every chain of calls, and every description and walk on its way, is
a regular access.
-/

namespace Introspection

open Reading View

variable {r : Record}

/-! ## Accessors of entities -/

theorem View.regular_optional {α : Type} (record : Record) (key : String)
    {readAll : List Json → View α} (h : ∀ items, (readAll items).Regular r fun _ => True) :
    (record.optional key readAll).Regular r fun _ => True := by
  refine regular_bind (regular_plain (record.plain_listOrNull key)) fun found _ => ?_
  cases found with
  | none => exact regular_pure trivial
  | some items => exact regular_map (h items) fun _ _ => trivial

theorem Node.regular_casings (n : Node) : n.casings.Regular r fun _ => True :=
  regular_memo .casings rfl rfl (regular_pure trivial)

theorem Node.regular_type (n : Node) : n.type.Regular r fun _ => True :=
  regular_memo .type rfl rfl (regular_plain n.record.plain_readType)

theorem InputValues.regular_split (values : List InputValue) :
    (split values).Regular r fun _ => True := by
  induction values with
  | nil => exact regular_pure trivial
  | cons value values ih =>
      exact regular_bind (value.regular_type) fun _ _ =>
        regular_bind ih fun _ _ => regular_pure trivial

theorem InputValues.regular_read (items : List Json) : (read items).Regular r fun _ => True :=
  regular_bind (regular_plain (plain_mapM InputValue.plain_read items)) fun all _ =>
    regular_bind (regular_split all) fun _ _ => regular_pure trivial

theorem Node.regular_arguments (n : Node) : n.arguments.Regular r fun _ => True :=
  regular_memo .arguments rfl rfl
    (regular_bind (regular_plain (n.record.plain_list "args")) fun items _ =>
      InputValues.regular_read items)

namespace TypeDefinition

variable (t : TypeDefinition)

theorem regular_fieldList : t.fieldList.Regular r fun _ => True :=
  regular_memo .fields rfl rfl (regular_optional t.record "fields" fun items =>
    regular_plain (Field.plain_readAll items))

theorem regular_fields (withDeprecated : Bool) :
    (t.fields withDeprecated).Regular r fun _ => True :=
  regular_bind (t.regular_fieldList) fun _ _ => regular_pure trivial

theorem fill_fieldsByName : Slot.fill .fieldsByName t.record = (do
    pure ((← t.fields true).map (.of (·.name))) : View (Option (NameMap Field))) := by
  rw [Slot.fill, fields, fieldList]
  simp only [bind_assoc, pure_bind]

theorem regular_fieldsByName : t.fieldsByName.Regular r fun _ => True :=
  regular_memo .fieldsByName t.fill_fieldsByName rfl
    (regular_bind (t.regular_fields true) fun _ _ => regular_pure trivial)

theorem regular_inputFieldList : t.inputFieldList.Regular r fun _ => True :=
  regular_memo .inputFields rfl rfl
    (regular_optional t.record "inputFields" InputValues.regular_read)

theorem regular_refs (key : String) : (t.refs key).Regular r fun _ => True :=
  regular_optional t.record key fun items => regular_plain (TypeRef.plain_readAll items)

theorem regular_interfaces : t.interfaces.Regular r fun _ => True :=
  regular_memo .interfaces rfl rfl (t.regular_refs "interfaces")

theorem regular_possibleTypes : t.possibleTypes.Regular r fun _ => True :=
  regular_memo .possibleTypes rfl rfl (t.regular_refs "possibleTypes")

theorem regular_enumValueList : t.enumValueList.Regular r fun _ => True :=
  regular_memo .enumValues rfl rfl (regular_optional t.record "enumValues" fun items =>
    regular_plain (EnumValue.plain_readAll items))

theorem regular_enumValues (withDeprecated : Bool) :
    (t.enumValues withDeprecated).Regular r fun _ => True :=
  regular_bind t.regular_enumValueList fun _ _ => regular_pure trivial

end TypeDefinition

theorem Directive.regular_locations (d : Directive) : d.locations.Regular r fun _ => True :=
  regular_memo .locations rfl rfl (regular_plain d.record.plain_readLocations)

theorem Directive.regular_locationNames (d : Directive) :
    d.locationNames.Regular r fun _ => True :=
  regular_memo .locationNames rfl rfl (regular_plain d.record.plain_readLocationNames)

/-! ## Accessors of a schema -/

namespace Schema

variable (s : Schema)

theorem uncounted_readRoots : s.readRoots.Uncounted := by
  refine uncounted_bind (uncounted_attempt ?_) fun _ => ?_
  · exact uncounted_of_plain s.plain_readQueryRootName
  · refine uncounted_bind (uncounted_attempt ?_) fun _ => uncounted_of_plain (plain_pure _)
    exact uncounted_of_plain s.plain_readMutationRootName

theorem uncounted_readSubscriptionRootName : s.readSubscriptionRootName.Uncounted := by
  by_cases h : s.record.Lacks "subscriptionType"
  · rw [readSubscriptionRootName_of_lacks s h]
    exact uncounted_missing _ _ _
  · exact uncounted_of_plain (s.plain_readSubscriptionRootName h)

theorem regular_types : s.types.Regular s.record fun _ => True :=
  regular_counted .types rfl rfl

theorem regular_typesByName : s.typesByName.Regular s.record fun _ => True :=
  regular_memo .typesByName rfl rfl (regular_bind s.regular_types fun _ _ => regular_pure trivial)

theorem regular_directives : s.directives.Regular s.record fun _ => True :=
  regular_counted .directives rfl rfl

theorem regular_isRootTypeName (name : String) :
    (s.isRootTypeName name).Regular r fun _ => True := by
  refine regular_bind (regular_plain s.plain_readQueryRootName) fun query _ => ?_
  split
  · exact regular_pure trivial
  · exact regular_bind (regular_plain s.plain_readMutationRootName) fun _ _ =>
      regular_pure trivial

theorem regular_structureText : s.structureText.Regular r fun _ => True :=
  regular_bind (regular_read s.uncounted_readRoots fun _ _ => trivial) fun _ _ =>
    regular_pure trivial

end Schema

theorem TypeDefinition.regular_specifiedByUrl (t : TypeDefinition) :
    t.specifiedByUrl.Regular r fun _ => True := by
  refine regular_read ?_ fun _ _ => trivial
  by_cases h : t.record.Lacks "specifiedByURL"
  · rw [Record.string?_of_lacks h]
    exact uncounted_missing _ _ _
  · exact uncounted_of_plain (Record.plain_string? h)

theorem Directive.regular_isRepeatable (d : Directive) :
    d.isRepeatable.Regular r fun _ => True := by
  refine regular_bind (regular_read ?_ fun _ _ => trivial) fun _ _ => regular_pure trivial
  by_cases h : d.record.Lacks "isRepeatable"
  · rw [Record.bool?_of_lacks h]
    exact uncounted_missing _ _ _
  · exact uncounted_of_plain (Record.plain_bool? h)

/-! ## Calls -/

def Entity.Within (s : Schema) : Entity → Prop
  | schema other => other = s
  | _ => True

def Answer.Within (s : Schema) : Answer → Prop
  | nothing => True
  | one entity => entity.Within s
  | many entities => ∀ entity ∈ entities, entity.Within s

namespace Answer

variable {s : Schema} {α : Type}

theorem within_option {write : α → Answer} {found : Option α}
    (h : ∀ a, (write a).Within s) : (option write found).Within s := by
  cases found with
  | none => trivial
  | some a => exact h a

theorem within_option_mem {found : Option Entity} (h : ∀ e, found = some e → e.Within s) :
    (option one found).Within s := by
  cases found with
  | none => trivial
  | some e => exact h e rfl

theorem within_items {entity : α → Entity} {as : List α}
    (h : ∀ a, (entity a).Within s) : (items entity as).Within s := by
  intro e he
  obtain ⟨a, _, rfl⟩ := List.mem_map.mp he
  exact h a

theorem within_strings (ss : List String) : (strings ss).Within s := by
  intro e he
  obtain ⟨text, _, rfl⟩ := List.mem_map.mp he
  trivial

end Answer

def View.Orderly (s : Schema) (view : View Answer) : Prop :=
  view.Regular s.record (Answer.Within s)

namespace View

variable {s : Schema} {α : Type} {f : α → Answer}

theorem orderly_pure {answer : Answer} (h : answer.Within s) : Orderly s (pure answer) :=
  regular_pure h

theorem orderly_map {view : View α} (hf : ∀ a, (f a).Within s)
    (h : view.Regular s.record fun _ => True) : Orderly s (f <$> view) :=
  regular_map h fun a _ => hf a

end View

open Answer

section

variable {s : Schema} {call : Call} {view : View Answer}

theorem Node.orderly_ask {n : Node} (h : n.ask call = some view) : view.Orderly s := by
  unfold Node.ask at h
  cases call with
  | name | json | nodeText =>
      cases h
      exact orderly_pure trivial
  | description =>
      cases h
      exact orderly_map (fun _ => within_option fun _ => trivial)
        (regular_plain (n.record.plain_stringOrNull "description"))
  | camelCase | pascalCase | upperSnakeCase =>
      cases h
      exact orderly_map (fun _ => trivial) n.regular_casings
  | casings =>
      cases h
      exact orderly_map (fun _ => within_strings _) n.regular_casings
  | _ => cases h

theorem Node.orderly_askArguments {n : Node} (h : n.askArguments call = some view) :
    view.Orderly s := by
  unfold Node.askArguments at h
  cases call with
  | arguments | requiredArguments | optionalArguments =>
      cases h
      exact orderly_map (fun _ => within_items fun _ => trivial) n.regular_arguments
  | argument name =>
      cases h
      exact orderly_map (fun _ => within_option fun _ => trivial) n.regular_arguments
  | _ => exact Node.orderly_ask h

theorem TypeDefinition.orderly_ask {t : TypeDefinition} (h : t.ask call = some view) :
    view.Orderly s := by
  unfold TypeDefinition.ask at h
  cases call with
  | kind | isBuiltin =>
      cases h
      exact orderly_pure trivial
  | isKind kind =>
      obtain ⟨_, hview⟩ := Option.ite_none_right_eq_some.mp h
      cases hview
      exact orderly_pure trivial
  | specifiedByUrl =>
      cases h
      exact orderly_map (fun _ => within_option fun _ => trivial) t.regular_specifiedByUrl
  | fields withDeprecated =>
      cases h
      exact orderly_map (fun _ => within_option fun _ => within_items fun _ => trivial)
        (t.regular_fields withDeprecated)
  | fieldsByName =>
      cases h
      exact orderly_map (fun _ => within_option fun _ => trivial) t.regular_fieldsByName
  | field name =>
      cases h
      exact orderly_map (fun _ => within_option fun _ => trivial)
        (regular_bind t.regular_fieldsByName fun _ _ => regular_pure trivial)
  | inputFields | requiredInputFields | optionalInputFields =>
      cases h
      exact orderly_map (fun _ => within_option fun _ => within_items fun _ => trivial)
        t.regular_inputFieldList
  | inputField name =>
      cases h
      exact orderly_map (fun _ => within_option fun _ => trivial)
        (regular_bind t.regular_inputFieldList fun _ _ => regular_pure trivial)
  | interfaces =>
      cases h
      exact orderly_map (fun _ => within_option fun _ => within_items fun _ => trivial)
        t.regular_interfaces
  | implements name =>
      cases h
      exact orderly_map (fun _ => trivial)
        (regular_bind t.regular_interfaces fun _ _ => regular_pure trivial)
  | possibleTypes =>
      cases h
      exact orderly_map (fun _ => within_option fun _ => within_items fun _ => trivial)
        t.regular_possibleTypes
  | isPossibleType name =>
      cases h
      exact orderly_map (fun _ => trivial)
        (regular_bind t.regular_possibleTypes fun _ _ => regular_pure trivial)
  | enumValues withDeprecated =>
      cases h
      exact orderly_map (fun _ => within_option fun _ => within_items fun _ => trivial)
        (t.regular_enumValues withDeprecated)
  | _ => exact Node.orderly_ask h

theorem Field.orderly_ask {f : Field} (h : f.ask call = some view) : view.Orderly s := by
  unfold Field.ask at h
  cases call with
  | type =>
      cases h
      exact orderly_map (fun _ => trivial) f.regular_type
  | hasSubfields =>
      cases h
      exact orderly_map (fun _ => trivial)
        (regular_bind f.regular_type fun _ _ => regular_pure trivial)
  | isDeprecated =>
      cases h
      exact orderly_map (fun _ => trivial) (regular_plain f.plain_isDeprecated)
  | deprecationReason =>
      cases h
      exact orderly_map (fun _ => within_option fun _ => trivial)
        (regular_plain (f.record.plain_stringOrNull "deprecationReason"))
  | _ => exact Node.orderly_askArguments h

theorem InputValue.orderly_ask {v : InputValue} (h : v.ask call = some view) :
    view.Orderly s := by
  unfold InputValue.ask at h
  cases call with
  | type =>
      cases h
      exact orderly_map (fun _ => trivial) v.regular_type
  | defaultValue =>
      cases h
      exact orderly_map (fun _ => within_option fun _ => trivial)
        (regular_plain (v.record.plain_stringOrNull "defaultValue"))
  | isRequired =>
      cases h
      exact orderly_map (fun _ => trivial)
        (regular_bind v.regular_type fun _ _ => regular_pure trivial)
  | _ => exact Node.orderly_ask h

theorem EnumValue.orderly_ask {v : EnumValue} (h : v.ask call = some view) :
    view.Orderly s := by
  unfold EnumValue.ask at h
  cases call with
  | isDeprecated =>
      cases h
      exact orderly_map (fun _ => trivial) (regular_plain v.plain_isDeprecated)
  | deprecationReason =>
      cases h
      exact orderly_map (fun _ => within_option fun _ => trivial)
        (regular_plain (v.record.plain_stringOrNull "deprecationReason"))
  | _ => exact Node.orderly_ask h

theorem Directive.orderly_ask {d : Directive} (h : d.ask call = some view) :
    view.Orderly s := by
  unfold Directive.ask at h
  cases call with
  | locations =>
      cases h
      exact orderly_map (fun _ => within_strings _) d.regular_locations
  | locationNames =>
      cases h
      exact orderly_map (fun _ => within_strings _) d.regular_locationNames
  | hasLocation location =>
      cases h
      exact orderly_map (fun _ => trivial)
        (regular_bind d.regular_locationNames fun _ _ => regular_pure trivial)
  | isRepeatable =>
      cases h
      exact orderly_map (fun _ => trivial) d.regular_isRepeatable
  | isBuiltin =>
      cases h
      exact orderly_pure trivial
  | _ => exact Node.orderly_askArguments h

theorem Schema.orderly_ask (h : s.ask call = some view) : view.Orderly s := by
  unfold Schema.ask at h
  cases call with
  | queryRootName =>
      cases h
      exact orderly_map (fun _ => trivial) (regular_plain s.plain_readQueryRootName)
  | mutationRootName =>
      cases h
      exact orderly_map (fun _ => within_option fun _ => trivial)
        (regular_plain s.plain_readMutationRootName)
  | subscriptionRootName =>
      cases h
      exact orderly_map (fun _ => within_option fun _ => trivial)
        (regular_read s.uncounted_readSubscriptionRootName fun _ _ => trivial)
  | isRootTypeName name =>
      cases h
      exact orderly_map (fun _ => trivial) (s.regular_isRootTypeName name)
  | types =>
      cases h
      exact orderly_map (fun _ => within_items fun _ => trivial) s.regular_types
  | typesByName =>
      cases h
      exact orderly_map (fun _ => trivial) s.regular_typesByName
  | typeByName name =>
      cases h
      exact orderly_map (fun _ => within_option fun _ => trivial)
        (regular_bind s.regular_typesByName fun _ _ => regular_pure trivial)
  | directives =>
      cases h
      exact orderly_map (fun _ => within_items fun _ => trivial) s.regular_directives
  | directiveByName name =>
      cases h
      exact orderly_map (fun _ => within_option fun _ => trivial)
        (regular_bind s.regular_directives fun _ _ => regular_pure trivial)
  | json =>
      cases h
      exact orderly_pure trivial
  | structureText =>
      cases h
      exact orderly_map (fun _ => trivial) s.regular_structureText
  | _ => cases h

theorem TypeRef.within_answer? {ref : TypeRef} {answer : Answer}
    (h : ref.answer? call = some answer) : answer.Within s := by
  obtain rfl | ⟨other, rfl⟩ | ⟨json, rfl⟩ := eq_of_answer? h <;> trivial

end

end Introspection
