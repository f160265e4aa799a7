import Introspection.Proofs.StandingViews
import Introspection.Transcript
/-!
# Calls lead to what stands below

A call on an entity that stands for a node leads to entities that stand for nodes below it, or
ends with a fault that arises at the node or below one of the keys that the call looks up there.
-/

namespace Introspection

open Fault

/-! ## Answers that stand below a node -/

/-- An entity that stands for a node below a value. References and plain values have no node. -/
inductive Entity.StandsIn (role : Role) (v : Json) : Entity → Prop
  | schema {s : Schema} (holds : role.Holds v (.node .schema) s.record.json)
      (place : s.record.place = ⟨.schema, none⟩) : StandsIn role v (.schema s)
  | type {t : TypeDefinition} (holds : role.Holds v (.node .type) t.json) (stands : t.Stands) :
      StandsIn role v (.type t)
  | field {f : Field} (holds : role.Holds v (.node .field) f.json)
      (stands : f.toNode.Stands .field) : StandsIn role v (.field f)
  | inputValue {i : InputValue} (holds : role.Holds v (.node .inputValue) i.json)
      (stands : i.toNode.Stands .inputValue) : StandsIn role v (.inputValue i)
  | enumValue {e : EnumValue} (holds : role.Holds v (.node .enumValue) e.json)
      (stands : e.toNode.Stands .enumValue) : StandsIn role v (.enumValue e)
  | directive {d : Directive} (holds : role.Holds v (.node .directive) d.json)
      (stands : d.toNode.Stands .directive) : StandsIn role v (.directive d)
  | ref (ref : TypeRef) : StandsIn role v (.ref ref)
  | plain (json : Json) : StandsIn role v (.plain json)

def Answer.StandsIn (role : Role) (v : Json) : Answer → Prop
  | nothing => True
  | one entity => entity.StandsIn role v
  | many entities => ∀ entity ∈ entities, entity.StandsIn role v

theorem Entity.StandsIn.above {role upper : Role} {v w : Json} {e : Entity}
    (h : e.StandsIn role v) (hholds : upper.Holds w role v) : e.StandsIn upper w := by
  cases h with
  | schema holds place => exact .schema (hholds.trans holds) place
  | type holds stands => exact .type (hholds.trans holds) stands
  | field holds stands => exact .field (hholds.trans holds) stands
  | inputValue holds stands => exact .inputValue (hholds.trans holds) stands
  | enumValue holds stands => exact .enumValue (hholds.trans holds) stands
  | directive holds stands => exact .directive (hholds.trans holds) stands
  | ref r => exact .ref r
  | plain json => exact .plain json

namespace Answer

variable {role : Role} {v : Json} {α : Type}

theorem StandsIn.above {upper : Role} {w : Json} {answer : Answer} (h : answer.StandsIn role v)
    (hholds : upper.Holds w role v) : answer.StandsIn upper w := by
  cases answer with
  | nothing => trivial
  | one entity => exact Entity.StandsIn.above h hholds
  | many entities => exact fun entity hentity => (h entity hentity).above hholds

theorem standsIn_option {write : α → Answer} {found : Option α}
    (h : ∀ a ∈ found, (write a).StandsIn role v) : (option write found).StandsIn role v := by
  cases found with
  | none => trivial
  | some a => exact h a rfl

theorem standsIn_items {entity : α → Entity} {as : List α}
    (h : ∀ a ∈ as, (entity a).StandsIn role v) : (items entity as).StandsIn role v := by
  intro e he
  obtain ⟨a, ha, rfl⟩ := List.mem_map.mp he
  exact h a ha

theorem standsIn_string (s : String) : (string s).StandsIn role v := Entity.StandsIn.plain _

theorem standsIn_strings (ss : List String) : (strings ss).StandsIn role v := by
  intro e he
  obtain ⟨text, _, rfl⟩ := List.mem_map.mp he
  exact .plain _

theorem standsIn_ref (r : TypeRef) : (one (.ref r)).StandsIn role v := Entity.StandsIn.ref r

theorem standsIn_json (json : Json) : (Answer.json json).StandsIn role v := Entity.StandsIn.plain _

end Answer

/-! ## Calls on named nodes -/

/-- Whether an item of a list of locations is one that a call can use. -/
def Call.knows : Call → Json → Bool
  | locations, value => (DirectiveLocation.read? value).isSome
  | _, value => value.string?.isSome

def View.EndsBelow (role : Role) (v : Json) (call : Call) (view : View Answer) : Prop :=
  view.Ends (Answer.StandsIn role v) (Arises call.knows role call.keys v)

namespace View

variable {role : Role} {v : Json} {call : Call} {α : Type} {f : α → Answer} {Q : α → Prop}

theorem endsBelow_pure {answer : Answer} (h : answer.StandsIn role v) :
    EndsBelow role v call (pure answer) := ends_pure h

theorem endsBelow_map {view : View α} (h : view.Ends Q (Arises call.knows role call.keys v))
    (hf : ∀ a, Q a → (f a).StandsIn role v) : EndsBelow role v call (f <$> view) :=
  ends_map h hf

end View

open View Answer

section

variable {owner : Owner} {n : Node} {call : Call} {view : View Answer}

theorem Node.endsBelow_ask (hn : n.Stands owner) (hnamed : owner.isNamed = true)
    (h : n.ask call = some view) : view.EndsBelow (.node owner) n.json call := by
  have hcasings : n.casings.Ends (fun _ => True)
      (Arises call.knows (.node owner) call.keys n.json) := ends_memo .casings (ends_pure trivial)
  unfold Node.ask at h
  cases call with
  | name | nodeText =>
      obtain rfl := Option.some.inj h
      exact endsBelow_pure (standsIn_string _)
  | description =>
      obtain rfl := Option.some.inj h
      exact endsBelow_map (Node.ends_stringOrNull hn hnamed (Owner.keys_description hnamed))
        fun _ _ => standsIn_option fun _ _ => standsIn_string _
  | camelCase | pascalCase | upperSnakeCase =>
      obtain rfl := Option.some.inj h
      exact endsBelow_map hcasings fun _ _ => standsIn_string _
  | casings =>
      obtain rfl := Option.some.inj h
      exact endsBelow_map hcasings fun _ _ => standsIn_strings _
  | json =>
      obtain rfl := Option.some.inj h
      exact endsBelow_pure (standsIn_json _)
  | _ => cases h

/-- Arguments stand for items of the list under their key. -/
theorem Entity.standsIn_inputValue {role : Role} {v : Json} {key : String} {shape : Shape}
    {items : List Json} {i : InputValue}
    (hkey : role.keys.lookup key = some (.nodes .inputValue shape))
    (hitems : v.member? key = some (.arr items))
    (hi : i.json ∈ items ∧ i.toNode.Stands .inputValue) :
    (Entity.inputValue i).StandsIn role v :=
  .inputValue ((Role.Holds.self.member hkey hitems).node hi.1) hi.2

theorem Node.ends_argumentList {known : Json → Bool} {keys : List String} (hn : n.Stands owner)
    (hnamed : owner.isNamed = true)
    (hkey : (Role.node owner).keys.lookup "args" = some (.nodes .inputValue .list))
    (hmem : "args" ∈ keys) :
    n.arguments.Ends
      (fun values => ∀ part : InputPart, ∀ i ∈ part.list values,
        (Entity.inputValue i).StandsIn (.node owner) n.json)
      (Arises known (.node owner) keys n.json) := by
  refine (Node.ends_arguments hn hnamed hkey hmem).imp_value ?_
  rintro values ⟨items, hitems, hvalues⟩ part i hi
  exact Entity.standsIn_inputValue hkey hitems (hvalues part i hi)

theorem Node.endsBelow_askArguments (hn : n.Stands owner) (hnamed : owner.isNamed = true)
    (hkey : (Role.node owner).keys.lookup "args" = some (.nodes .inputValue .list))
    (h : n.askArguments call = some view) : view.EndsBelow (.node owner) n.json call := by
  unfold Node.askArguments at h
  cases call with
  | arguments =>
      cases h
      exact endsBelow_map (Node.ends_argumentList hn hnamed hkey List.mem_cons_self)
        fun _ hvalues => standsIn_items (hvalues .all)
  | requiredArguments =>
      cases h
      exact endsBelow_map (Node.ends_argumentList hn hnamed hkey List.mem_cons_self)
        fun _ hvalues => standsIn_items (hvalues .required)
  | optionalArguments =>
      cases h
      exact endsBelow_map (Node.ends_argumentList hn hnamed hkey List.mem_cons_self)
        fun _ hvalues => standsIn_items (hvalues .optional)
  | argument name =>
      cases h
      exact endsBelow_map (Node.ends_argumentList hn hnamed hkey List.mem_cons_self)
        fun _ hvalues => standsIn_option fun i hi => hvalues .all i (List.mem_of_find?_eq_some hi)
  | _ => exact Node.endsBelow_ask hn hnamed h

theorem Field.endsBelow_ask {f : Field} (hf : f.toNode.Stands .field)
    (h : f.ask call = some view) : view.EndsBelow (.node .field) f.json call := by
  unfold Field.ask at h
  cases call with
  | type =>
      cases h
      exact endsBelow_map (Node.ends_type hf rfl rfl List.mem_cons_self) fun r _ => standsIn_ref r
  | hasSubfields =>
      cases h
      exact endsBelow_map (Q := fun _ => True) (ends_bind
        (Node.ends_type hf rfl rfl List.mem_cons_self) fun r _ => ends_pure trivial)
        fun _ _ => standsIn_json _
  | isDeprecated =>
      cases h
      exact endsBelow_map (View.ends_read (hf.ends rfl (Node.ends_isDeprecated rfl)))
        fun _ _ => standsIn_json _
  | deprecationReason =>
      cases h
      exact endsBelow_map (Node.ends_stringOrNull hf rfl rfl)
        fun _ _ => standsIn_option fun _ _ => standsIn_string _
  | _ => exact Node.endsBelow_askArguments hf rfl rfl h

theorem InputValue.endsBelow_ask {i : InputValue} (hi : i.toNode.Stands .inputValue)
    (h : i.ask call = some view) : view.EndsBelow (.node .inputValue) i.json call := by
  unfold InputValue.ask at h
  cases call with
  | type =>
      cases h
      exact endsBelow_map (Node.ends_type hi rfl rfl List.mem_cons_self) fun r _ => standsIn_ref r
  | defaultValue =>
      cases h
      exact endsBelow_map (Node.ends_stringOrNull hi rfl rfl)
        fun _ _ => standsIn_option fun _ _ => standsIn_string _
  | isRequired =>
      cases h
      exact endsBelow_map (Q := fun _ => True) (ends_bind
        (Node.ends_type hi rfl rfl List.mem_cons_self) fun r _ => ends_pure trivial)
        fun _ _ => standsIn_json _
  | _ => exact Node.endsBelow_ask hi rfl h

theorem EnumValue.endsBelow_ask {v : EnumValue} (hv : v.toNode.Stands .enumValue)
    (h : v.ask call = some view) : view.EndsBelow (.node .enumValue) v.json call := by
  unfold EnumValue.ask at h
  cases call with
  | isDeprecated =>
      cases h
      exact endsBelow_map (View.ends_read (hv.ends rfl (Node.ends_isDeprecated rfl)))
        fun _ _ => standsIn_json _
  | deprecationReason =>
      cases h
      exact endsBelow_map (Node.ends_stringOrNull hv rfl rfl)
        fun _ _ => standsIn_option fun _ _ => standsIn_string _
  | _ => exact Node.endsBelow_ask hv rfl h

theorem Directive.endsBelow_ask {d : Directive} (hd : d.toNode.Stands .directive)
    (h : d.ask call = some view) : view.EndsBelow (.node .directive) d.json call := by
  unfold Directive.ask at h
  cases call with
  | locations =>
      cases h
      refine endsBelow_map (Q := fun _ => True) (ends_memo .locations (View.ends_read
        (Directive.ends_items hd fun item hnone => ?_))) fun _ _ => standsIn_strings _
      rw [Call.knows, hnone]
      rfl
  | locationNames =>
      cases h
      exact endsBelow_map (Directive.ends_locationNames hd fun _ => rfl)
        fun _ _ => standsIn_strings _
  | hasLocation location =>
      cases h
      exact endsBelow_map (Q := fun _ => True) (ends_bind
        (Directive.ends_locationNames hd fun _ => rfl)
        fun _ _ => ends_pure trivial) fun _ _ => standsIn_json _
  | isRepeatable =>
      cases h
      exact endsBelow_map (Q := fun _ => True) (ends_bind
        (View.ends_read (hd.ends rfl (Record.ends_bool? (by rfl) rfl)))
        fun _ _ => ends_pure trivial) fun _ _ => standsIn_json _
  | isBuiltin =>
      cases h
      exact endsBelow_pure (standsIn_json _)
  | _ => exact Node.endsBelow_askArguments hd rfl rfl h

end

/-! ## Calls on types -/

section

variable {call : Call} {view : View Answer} {t : TypeDefinition} {known : Json → Bool}
  {keys : List String}

theorem TypeDefinition.ends_fields (ht : t.Stands) (hmem : "fields" ∈ keys)
    (withDeprecated : Bool) :
    (t.fields withDeprecated).Ends
      (fun found => ∀ fs ∈ found, ∀ f ∈ fs, (Entity.field f).StandsIn (.node .type) t.json)
      (Arises known (.node .type) keys t.json) := by
  refine ends_bind (ends_memo .fields (ends_optional ht.node rfl (by rfl) rfl hmem fun items =>
    View.ends_read (Field.ends_readAll items))) fun found hfound => ends_pure fun fs hfs f hf => ?_
  obtain ⟨lists, hlists, rfl⟩ := Option.map_eq_some_iff.mp hfs
  obtain ⟨items, hitems, hall⟩ := hfound lists hlists
  obtain ⟨hjson, hstands⟩ := hall withDeprecated f hf
  exact .field ((Role.Holds.self.member (by rfl) hitems).node hjson) hstands

theorem TypeDefinition.ends_fieldsByName (ht : t.Stands) (hmem : "fields" ∈ keys) :
    t.fieldsByName.Ends
      (fun found => ∀ map ∈ found, ∀ name f, map.find? name = some f →
        (Entity.field f).StandsIn (.node .type) t.json)
      (Arises known (.node .type) keys t.json) := by
  refine ends_memo .fieldsByName (ends_bind (ends_fields ht hmem true) fun found hfound => ?_)
  refine ends_pure fun map hmap name f hf => ?_
  obtain ⟨fs, hfs, rfl⟩ := Option.map_eq_some_iff.mp hmap
  exact hfound fs hfs f (NameMap.mem_of_find? hf)

theorem TypeDefinition.ends_field? (ht : t.Stands) (hmem : "fields" ∈ keys) (name : String) :
    (t.field? name).Ends (fun found => ∀ f ∈ found, (Entity.field f).StandsIn (.node .type) t.json)
      (Arises known (.node .type) keys t.json) := by
  refine ends_bind (ends_fieldsByName ht hmem) fun found hfound => ends_pure fun f hf => ?_
  obtain ⟨map, hmap, hfind⟩ := Option.bind_eq_some_iff.mp hf
  exact hfound map hmap name f hfind

theorem TypeDefinition.ends_inputFieldList (ht : t.Stands) (hmem : "inputFields" ∈ keys) :
    t.inputFieldList.Ends
      (fun found => ∀ values ∈ found, ∀ part : InputPart, ∀ i ∈ part.list values,
        (Entity.inputValue i).StandsIn (.node .type) t.json)
      (Arises known (.node .type) keys t.json) := by
  have hlist : t.inputFieldList.Ends _ (Arises known (.node .type) keys t.json) :=
    ends_memo .inputFields (ends_optional ht.node rfl (by rfl) rfl hmem InputValues.ends_read)
  refine hlist.imp_value fun found hfound values hvalues part i hi => ?_
  obtain ⟨items, hitems, hall⟩ := hfound values hvalues
  exact Entity.standsIn_inputValue (by rfl) hitems (hall part i hi)

theorem TypeDefinition.ends_inputField? (ht : t.Stands) (hmem : "inputFields" ∈ keys)
    (name : String) :
    (t.inputField? name).Ends
      (fun found => ∀ i ∈ found, (Entity.inputValue i).StandsIn (.node .type) t.json)
      (Arises known (.node .type) keys t.json) := by
  refine ends_bind (ends_inputFieldList ht hmem) fun found hfound => ends_pure fun i hi => ?_
  obtain ⟨values, hvalues, hfind⟩ := Option.bind_eq_some_iff.mp hi
  exact hfound values hvalues .all i (List.mem_of_find?_eq_some hfind)

theorem TypeDefinition.ends_enumValues (ht : t.Stands) (hmem : "enumValues" ∈ keys)
    (withDeprecated : Bool) :
    (t.enumValues withDeprecated).Ends
      (fun found => ∀ vs ∈ found, ∀ v ∈ vs, (Entity.enumValue v).StandsIn (.node .type) t.json)
      (Arises known (.node .type) keys t.json) := by
  refine ends_bind (ends_memo .enumValues (ends_optional ht.node rfl (by rfl) rfl hmem fun items =>
    View.ends_read (EnumValue.ends_readAll items))) fun found hfound =>
      ends_pure fun vs hvs v hv => ?_
  obtain ⟨lists, hlists, rfl⟩ := Option.map_eq_some_iff.mp hvs
  obtain ⟨items, hitems, hall⟩ := hfound lists hlists
  obtain ⟨hjson, hstands⟩ := hall withDeprecated v hv
  exact .enumValue ((Role.Holds.self.member (by rfl) hitems).node hjson) hstands

theorem TypeDefinition.ends_refs (ht : t.Stands) {key : String}
    (hkey : (Role.node .type).keys.lookup key = some .references) (hmem : key ∈ keys) :
    (t.refs key).Ends (fun _ => True) (Arises known (.node .type) keys t.json) := by
  have hrefs : (t.refs key).Ends _ (Arises known (.node .type) keys t.json) :=
    ends_optional ht.node rfl hkey rfl hmem fun items => View.ends_read (TypeRef.ends_readAll items)
  exact hrefs.imp_value fun _ _ => trivial

theorem TypeDefinition.ends_interfaces (ht : t.Stands) (hmem : "interfaces" ∈ keys) :
    t.interfaces.Ends (fun _ => True) (Arises known (.node .type) keys t.json) :=
  ends_memo .interfaces (ends_refs ht (by rfl) hmem)

theorem TypeDefinition.ends_possibleTypes (ht : t.Stands) (hmem : "possibleTypes" ∈ keys) :
    t.possibleTypes.Ends (fun _ => True) (Arises known (.node .type) keys t.json) :=
  ends_memo .possibleTypes (ends_refs ht (by rfl) hmem)

theorem TypeDefinition.endsBelow_ask (ht : t.Stands) (h : t.ask call = some view) :
    view.EndsBelow (.node .type) t.json call := by
  unfold TypeDefinition.ask at h
  cases call with
  | kind =>
      cases h
      exact endsBelow_pure (standsIn_string _)
  | isKind kind =>
      obtain ⟨_, hview⟩ := Option.ite_none_right_eq_some.mp h
      cases hview
      exact endsBelow_pure (standsIn_json _)
  | isBuiltin =>
      cases h
      exact endsBelow_pure (standsIn_json _)
  | specifiedByUrl =>
      cases h
      exact endsBelow_map (View.ends_read (ht.node.ends rfl (Record.ends_string? (by rfl) rfl)))
        fun _ _ => standsIn_option fun _ _ => standsIn_string _
  | fields withDeprecated =>
      cases h
      exact endsBelow_map (TypeDefinition.ends_fields ht List.mem_cons_self withDeprecated)
        fun _ hfound => standsIn_option fun fs hfs => standsIn_items (hfound fs hfs)
  | fieldsByName =>
      cases h
      exact endsBelow_map (TypeDefinition.ends_fieldsByName ht List.mem_cons_self)
        fun _ _ => standsIn_option fun _ _ => standsIn_json _
  | field name =>
      cases h
      exact endsBelow_map (TypeDefinition.ends_field? ht List.mem_cons_self name)
        fun _ hfound => standsIn_option hfound
  | inputFields =>
      cases h
      exact endsBelow_map (TypeDefinition.ends_inputFieldList ht List.mem_cons_self)
        fun _ hfound => standsIn_option fun values hvalues =>
          standsIn_items (hfound values hvalues .all)
  | requiredInputFields =>
      cases h
      exact endsBelow_map (TypeDefinition.ends_inputFieldList ht List.mem_cons_self)
        fun _ hfound => standsIn_option fun values hvalues =>
          standsIn_items (hfound values hvalues .required)
  | optionalInputFields =>
      cases h
      exact endsBelow_map (TypeDefinition.ends_inputFieldList ht List.mem_cons_self)
        fun _ hfound => standsIn_option fun values hvalues =>
          standsIn_items (hfound values hvalues .optional)
  | inputField name =>
      cases h
      exact endsBelow_map (TypeDefinition.ends_inputField? ht List.mem_cons_self name)
        fun _ hfound => standsIn_option hfound
  | interfaces =>
      cases h
      exact endsBelow_map (TypeDefinition.ends_interfaces ht List.mem_cons_self)
        fun _ _ => standsIn_option fun _ _ => standsIn_items fun r _ => .ref r
  | implements name =>
      cases h
      exact endsBelow_map (Q := fun _ => True) (ends_bind (TypeDefinition.ends_interfaces ht
        List.mem_cons_self) fun _ _ => ends_pure trivial) fun _ _ => standsIn_json _
  | possibleTypes =>
      cases h
      exact endsBelow_map (TypeDefinition.ends_possibleTypes ht List.mem_cons_self)
        fun _ _ => standsIn_option fun _ _ => standsIn_items fun r _ => .ref r
  | isPossibleType name =>
      cases h
      exact endsBelow_map (Q := fun _ => True) (ends_bind (TypeDefinition.ends_possibleTypes ht
        List.mem_cons_self) fun _ _ => ends_pure trivial) fun _ _ => standsIn_json _
  | enumValues withDeprecated =>
      cases h
      exact endsBelow_map (TypeDefinition.ends_enumValues ht List.mem_cons_self withDeprecated)
        fun _ hfound => standsIn_option fun vs hvs => standsIn_items (hfound vs hvs)
  | _ => exact Node.endsBelow_ask ht.node rfl h

end

/-! ## Calls on a schema -/

namespace Schema

variable {s : Schema} {call : Call} {view : View Answer} {known : Json → Bool}
  {keys : List String} {key : String}

/-- A reading of the node of a schema tells of that node. -/
theorem ends_own (hs : s.record.place = ⟨.schema, none⟩) {α : Type} {Q : α → Prop}
    {reading : Reading α}
    (h : reading.Ends Q (Tells known (.node .schema) s.record.place s.record.json)) :
    reading.Ends Q (Arises known (.node .schema) keys s.record.json) := by
  rw [hs] at h
  exact h.imp_fault fun _ => arises_own

/-- The name of a root is read of the node under the key of the root. -/
theorem ends_rootName {owner : Owner} {json : Json} (hunnamed : owner.isNamed = false)
    (hname : (Role.node owner).keys.lookup "name" = some (.leaf .string))
    (hkey : (Role.node .schema).keys.lookup key = some (.node owner)) (hmem : key ∈ keys)
    (hjson : s.record.json.member? key = some json) :
    ((Record.unnamed owner json).string "name").Ends (fun _ => True)
      (Arises known (.node .schema) keys s.record.json) := by
  have hread : ((Record.unnamed owner json).string "name").Ends _
      (Tells known (.node owner) ⟨owner, none⟩ json) := Record.ends_string hname rfl
  have hplace : (Role.node owner).place json = ⟨owner, none⟩ := by
    rw [Role.place, hunnamed]
    rfl
  rw [← hplace] at hread
  refine (hread.imp_fault fun fault hfault => ?_).imp_value fun _ _ => trivial
  exact arises_under hmem hkey hjson hfault.below

theorem ends_readQueryRootName (hs : s.record.place = ⟨.schema, none⟩)
    (hmem : "queryType" ∈ keys) : s.readQueryRootName.Ends (fun _ => True)
      (Arises known (.node .schema) keys s.record.json) := by
  refine Reading.ends_bind (ends_own hs (Record.ends_object (by rfl) rfl (by decide)))
    fun root hroot => ?_
  obtain ⟨members, hmembers, rfl⟩ := hroot
  exact ends_rootName rfl rfl (by rfl) hmem hmembers

theorem ends_readMutationRootName (hs : s.record.place = ⟨.schema, none⟩)
    (hmem : "mutationType" ∈ keys) : s.readMutationRootName.Ends (fun _ => True)
      (Arises known (.node .schema) keys s.record.json) := by
  refine Reading.ends_bind (ends_own hs (Record.ends_fetch (by rfl))) fun json hjson => ?_
  split
  · exact Reading.ends_pure trivial
  · exact Reading.ends_map (ends_rootName rfl rfl (by rfl) hmem hjson) fun _ _ => trivial

theorem ends_readSubscriptionRootName (hs : s.record.place = ⟨.schema, none⟩)
    (hmem : "subscriptionType" ∈ keys) : s.readSubscriptionRootName.Ends (fun _ => True)
      (Arises known (.node .schema) keys s.record.json) := by
  refine Reading.ends_bind (ends_own hs Record.ends_find?) fun found hfound => ?_
  cases found with
  | none => exact Reading.ends_pure trivial
  | some json =>
      exact Reading.ends_map (ends_rootName rfl rfl (by rfl) hmem (hfound json rfl).1)
        fun _ _ => trivial

theorem ends_types (hs : s.record.place = ⟨.schema, none⟩) (hmem : "types" ∈ keys) :
    s.types.Ends (fun ts => ∀ t ∈ ts, (Entity.type t).StandsIn (.node .schema) s.record.json)
      (Arises known (.node .schema) keys s.record.json) := by
  have hread : s.readTypes.Ends _ (Arises known (.node .schema) keys s.record.json) :=
    ends_readList hs (by rfl) hmem TypeDefinition.ends_read
  refine ends_memo .types (View.ends_read (hread.imp_value fun ts hts t ht => ?_))
  obtain ⟨items, hitems, hall⟩ := hts
  exact .type ((Role.Holds.self.member (by rfl) hitems).node (hall t ht).1) (hall t ht).2

theorem ends_typesByName (hs : s.record.place = ⟨.schema, none⟩) (hmem : "types" ∈ keys) :
    s.typesByName.Ends
      (fun map => ∀ name t, map.find? name = some t →
        (Entity.type t).StandsIn (.node .schema) s.record.json)
      (Arises known (.node .schema) keys s.record.json) :=
  ends_memo .typesByName (ends_bind (ends_types hs hmem) fun _ hts =>
    ends_pure fun _ t ht => hts t (NameMap.mem_of_find? ht))

theorem ends_directives (hs : s.record.place = ⟨.schema, none⟩) (hmem : "directives" ∈ keys) :
    s.directives.Ends
      (fun ds => ∀ d ∈ ds, (Entity.directive d).StandsIn (.node .schema) s.record.json)
      (Arises known (.node .schema) keys s.record.json) := by
  have hread : s.readDirectives.Ends _ (Arises known (.node .schema) keys s.record.json) :=
    ends_readList hs (by rfl) hmem Directive.ends_read
  refine ends_memo .directives (View.ends_read (hread.imp_value fun ds hds d hd => ?_))
  obtain ⟨items, hitems, hall⟩ := hds
  exact .directive ((Role.Holds.self.member (by rfl) hitems).node (hall d hd).1) (hall d hd).2

/-- The roots that are shown are those that can be read, so no root makes the text fail. -/
theorem ends_structureText {P : Fault → Prop} : s.structureText.Ends (fun _ => True) P :=
  ends_bind (Q := fun _ => True) (View.ends_read trivial) fun _ _ => ends_pure trivial

theorem endsBelow_ask (hs : s.record.place = ⟨.schema, none⟩) (h : s.ask call = some view) :
    view.EndsBelow (.node .schema) s.record.json call := by
  unfold Schema.ask at h
  cases call with
  | queryRootName =>
      cases h
      exact endsBelow_map (View.ends_read (ends_readQueryRootName hs List.mem_cons_self))
        fun _ _ => standsIn_string _
  | mutationRootName =>
      cases h
      exact endsBelow_map (View.ends_read (ends_readMutationRootName hs List.mem_cons_self))
        fun _ _ => standsIn_option fun _ _ => standsIn_string _
  | subscriptionRootName =>
      cases h
      exact endsBelow_map (View.ends_read (ends_readSubscriptionRootName hs List.mem_cons_self))
        fun _ _ => standsIn_option fun _ _ => standsIn_string _
  | isRootTypeName name =>
      cases h
      refine endsBelow_map (Q := fun _ => True) (ends_bind
        (View.ends_read (ends_readQueryRootName hs List.mem_cons_self)) fun query _ => ?_)
        fun _ _ => standsIn_json _
      split
      · exact ends_pure trivial
      · exact ends_bind (View.ends_read (ends_readMutationRootName hs
          (List.mem_cons_of_mem _ List.mem_cons_self))) fun _ _ => ends_pure trivial
  | types =>
      cases h
      exact endsBelow_map (ends_types hs List.mem_cons_self) fun _ hts => standsIn_items hts
  | typesByName =>
      cases h
      exact endsBelow_map (ends_typesByName hs List.mem_cons_self) fun _ _ => standsIn_json _
  | typeByName name =>
      cases h
      exact endsBelow_map (ends_bind (ends_typesByName hs List.mem_cons_self) fun _ hmap =>
        ends_pure (hmap name)) fun _ hfound => standsIn_option hfound
  | directives =>
      cases h
      exact endsBelow_map (ends_directives hs List.mem_cons_self) fun _ hds => standsIn_items hds
  | directiveByName name =>
      cases h
      refine endsBelow_map (Q := fun found => ∀ d, found = some d →
        (Entity.directive d).StandsIn (.node .schema) s.record.json) ?_
        fun _ hfound => standsIn_option hfound
      exact ends_bind (ends_directives hs List.mem_cons_self) fun _ hds =>
        ends_pure fun d hd => hds d (List.mem_of_find?_eq_some hd)
  | json =>
      cases h
      exact endsBelow_pure (standsIn_json _)
  | structureText =>
      cases h
      exact endsBelow_map ends_structureText fun _ _ => standsIn_string _
  | _ => cases h

end Schema

end Introspection
