import Introspection.Proofs.SpecReadings
import Introspection.Proofs.Transparency
/-!
# No call fails on what has been written

A call on an entity that has been written is answered, and all that the answer holds has been
written as well. So no chain of calls that begins at a written schema fails.
-/

namespace Introspection

open View

/-! ## Written answers -/

def Entity.Written : Entity → Prop
  | schema s => ∃ value : SchemaSpec, value.Proper ∧ s = value.entity
  | type t => ∃ value : TypeSpec, value.Proper ∧ t = value.entity
  | field f => ∃ value : FieldSpec, value.Proper ∧ f = value.entity
  | inputValue v => ∃ value : InputSpec, value.Proper ∧ v = value.entity
  | enumValue v => ∃ value : EnumValueSpec, v = value.entity
  | directive d => ∃ value : DirectiveSpec, value.Proper ∧ d = value.entity
  | ref _ => True
  | plain _ => True

def Answer.Written : Answer → Prop
  | nothing => True
  | one entity => entity.Written
  | many entities => ∀ entity ∈ entities, entity.Written

namespace Answer

variable {α : Type}

theorem written_option {write : α → Answer} {found : Option α}
    (h : ∀ a ∈ found, (write a).Written) : (option write found).Written := by
  cases found with
  | none => trivial
  | some a => exact h a rfl

theorem written_items {entity : α → Entity} {as : List α}
    (h : ∀ a ∈ as, (entity a).Written) : (items entity as).Written := by
  intro e he
  obtain ⟨a, ha, rfl⟩ := List.mem_map.mp he
  exact h a ha

theorem written_strings (ss : List String) : (strings ss).Written := by
  intro e he
  obtain ⟨text, _, rfl⟩ := List.mem_map.mp he
  trivial

end Answer

def View.Succeeds (view : View Answer) : Prop :=
  ∃ answer, view.reading.result = .ok answer ∧ answer.Written

namespace View

variable {α : Type} {f : α → Answer}

theorem succeeds_pure {answer : Answer} (h : answer.Written) : Succeeds (pure answer) :=
  ⟨answer, rfl, h⟩

theorem succeeds_of_result {view : View α} {a : α} (h : view.reading.result = .ok a)
    (ha : (f a).Written) : Succeeds (f <$> view) := by
  refine ⟨f a, ?_, ha⟩
  rw [reading_map, Reading.result_map, h]
  rfl

theorem succeeds_map {view : View α} {a : α} (h : view.reading = pure a)
    (ha : (f a).Written) : Succeeds (f <$> view) :=
  succeeds_of_result (congrArg Reading.result h) ha

end View

open Answer

/-! ## Entities -/

section

variable {call : Call} {view : View Answer}

theorem Node.succeeds_ask {n : Node} {description : Option String}
    (hn : n.json.member? "description" = some (.ofOption .str description))
    (h : n.ask call = some view) : view.Succeeds := by
  unfold Node.ask at h
  cases call with
  | name | json | nodeText =>
      obtain rfl := Option.some.inj h
      exact succeeds_pure trivial
  | description =>
      obtain rfl := Option.some.inj h
      exact succeeds_map (reading_description hn) (written_option fun _ _ => trivial)
  | camelCase | pascalCase | upperSnakeCase =>
      obtain rfl := Option.some.inj h
      exact succeeds_map n.reading_casings trivial
  | casings =>
      obtain rfl := Option.some.inj h
      exact succeeds_map n.reading_casings (written_strings _)
  | _ => cases h

theorem InputSpec.written_of_mem {arguments : List InputSpec} (h : ∀ v ∈ arguments, v.Proper)
    (part : InputPart) {v : InputValue} (hv : v ∈ part.list (values arguments)) :
    (Entity.inputValue v).Written := by
  rw [list_values] at hv
  obtain ⟨value, hvalue, rfl⟩ := List.mem_map.mp hv
  exact ⟨value, h value (List.mem_of_mem_filter hvalue), rfl⟩

theorem InputSpec.written_of_find? {arguments : List InputSpec}
    (h : ∀ v ∈ arguments, v.Proper) {name : String} {v : InputValue}
    (hv : v ∈ (values arguments).find? name) : (Entity.inputValue v).Written :=
  written_of_mem h .all (List.mem_of_find?_eq_some hv)

theorem Node.succeeds_askArguments {n : Node} {description : Option String}
    (hn : n.json.member? "description" = some (.ofOption .str description))
    {arguments : List InputSpec}
    (hargs : n.json.member? "args" = some (.arr (arguments.map InputSpec.toJson)))
    (harguments : ∀ v ∈ arguments, v.Proper) (h : n.askArguments call = some view) :
    view.Succeeds := by
  have hread := Node.reading_arguments hargs harguments
  unfold Node.askArguments at h
  cases call with
  | arguments =>
      obtain rfl := Option.some.inj h
      exact succeeds_map hread
        (written_items fun _ hv => InputSpec.written_of_mem harguments .all hv)
  | requiredArguments =>
      obtain rfl := Option.some.inj h
      exact succeeds_map hread
        (written_items fun _ hv => InputSpec.written_of_mem harguments .required hv)
  | optionalArguments =>
      obtain rfl := Option.some.inj h
      exact succeeds_map hread
        (written_items fun _ hv => InputSpec.written_of_mem harguments .optional hv)
  | argument name =>
      obtain rfl := Option.some.inj h
      exact succeeds_map hread
        (written_option fun _ hv => InputSpec.written_of_find? harguments hv)
  | _ => exact Node.succeeds_ask hn h

theorem InputSpec.succeeds_ask {v : InputSpec} (hv : v.Proper)
    (h : v.entity.ask call = some view) : view.Succeeds := by
  have hdescription : v.toJson.member? "description" = some (.ofOption .str v.description) :=
    v.member?_toJson rfl
  unfold InputValue.ask at h
  cases call with
  | type =>
      obtain rfl := Option.some.inj h
      exact succeeds_map (reading_type hv) trivial
  | defaultValue =>
      obtain rfl := Option.some.inj h
      refine succeeds_map (a := v.defaultValue) ?_ (written_option fun _ _ => trivial)
      rw [InputValue.defaultValue, View.reading_read]
      exact Record.stringOrNull_of_member? (v.member?_toJson rfl)
  | isRequired =>
      obtain rfl := Option.some.inj h
      refine succeeds_map (a := v.type.isNonNull) ?_ trivial
      rw [InputValue.isRequired, View.reading_bind, reading_type hv, pure_bind, View.reading_pure]
  | _ => exact Node.succeeds_ask (n := v.entity.toNode) hdescription h

theorem FieldSpec.succeeds_ask {f : FieldSpec} (hf : f.Proper)
    (h : f.entity.ask call = some view) : view.Succeeds := by
  have htype : f.entity.type.reading = pure f.type :=
    Node.reading_type (f.member?_toJson rfl) hf.1
  have hdescription : f.toJson.member? "description" = some (.ofOption .str f.description) :=
    f.member?_toJson rfl
  have hargs : f.toJson.member? "args" = some (.arr (f.arguments.map InputSpec.toJson)) :=
    f.member?_toJson rfl
  unfold Field.ask at h
  cases call with
  | type =>
      obtain rfl := Option.some.inj h
      exact succeeds_map htype trivial
  | hasSubfields =>
      obtain rfl := Option.some.inj h
      refine succeeds_map (a := f.type.hasSubfields) ?_ trivial
      rw [Field.hasSubfields, View.reading_bind, htype, pure_bind, View.reading_pure]
  | isDeprecated =>
      obtain rfl := Option.some.inj h
      refine succeeds_map (a := f.isDeprecated) ?_ trivial
      rw [View.reading_read, f.isDeprecated_entity]
  | deprecationReason =>
      obtain rfl := Option.some.inj h
      exact succeeds_map (Node.reading_deprecationReason (f.member?_toJson rfl))
        (written_option fun _ _ => trivial)
  | _ => exact Node.succeeds_askArguments (n := f.entity.toNode) hdescription hargs hf.2 h

theorem EnumValueSpec.succeeds_ask {v : EnumValueSpec} (h : v.entity.ask call = some view) :
    view.Succeeds := by
  have hdescription : v.toJson.member? "description" = some (.ofOption .str v.description) :=
    v.member?_toJson rfl
  unfold EnumValue.ask at h
  cases call with
  | isDeprecated =>
      obtain rfl := Option.some.inj h
      refine succeeds_map (a := v.isDeprecated) ?_ trivial
      rw [View.reading_read, v.isDeprecated_entity]
  | deprecationReason =>
      obtain rfl := Option.some.inj h
      exact succeeds_map (Node.reading_deprecationReason (v.member?_toJson rfl))
        (written_option fun _ _ => trivial)
  | _ => exact Node.succeeds_ask (n := v.entity.toNode) hdescription h

theorem DirectiveSpec.succeeds_ask {d : DirectiveSpec} (hd : d.Proper)
    (h : d.entity.ask call = some view) : view.Succeeds := by
  have hdescription : d.toJson.member? "description" = some (.ofOption .str d.description) :=
    d.member?_toJson rfl
  have hargs : d.toJson.member? "args" = some (.arr (d.arguments.map InputSpec.toJson)) :=
    d.member?_toJson rfl
  unfold Directive.ask at h
  cases call with
  | locations =>
      obtain rfl := Option.some.inj h
      exact succeeds_map d.reading_locations (written_strings _)
  | locationNames =>
      obtain rfl := Option.some.inj h
      exact succeeds_map d.reading_locationNames (written_strings _)
  | hasLocation location =>
      obtain rfl := Option.some.inj h
      refine succeeds_map (a := (d.locations.map DirectiveLocation.name).contains location.name) ?_
        trivial
      rw [Directive.hasLocation, View.reading_bind, d.reading_locationNames, pure_bind,
        View.reading_pure]
  | isRepeatable =>
      obtain rfl := Option.some.inj h
      exact succeeds_map d.reading_isRepeatable trivial
  | isBuiltin =>
      obtain rfl := Option.some.inj h
      exact succeeds_pure trivial
  | _ => exact Node.succeeds_askArguments (n := d.entity.toNode) hdescription hargs hd h

theorem FieldSpec.written_of_mem {items : List FieldSpec} (h : ∀ f ∈ items, f.Proper)
    {withDeprecated : Bool} {f : Field} (hf : f ∈ (lists items).view withDeprecated) :
    (Entity.field f).Written := by
  rw [view_lists] at hf
  obtain ⟨value, hvalue, rfl⟩ := List.mem_map.mp hf
  exact ⟨value, h value (List.mem_of_mem_filter hvalue), rfl⟩

theorem FieldSpec.written_of_find? {items : List FieldSpec} (h : ∀ f ∈ items, f.Proper)
    {name : String} {f : Field}
    (hf : (NameMap.of (·.name) (items.map entity)).find? name = some f) :
    (Entity.field f).Written := by
  obtain ⟨value, hvalue, rfl⟩ := List.mem_map.mp (NameMap.mem_of_find? hf)
  exact ⟨value, h value hvalue, rfl⟩

theorem EnumValueSpec.written_of_mem {items : List EnumValueSpec} {withDeprecated : Bool}
    {v : EnumValue} (hv : v ∈ (lists items).view withDeprecated) :
    (Entity.enumValue v).Written := by
  rw [view_lists] at hv
  obtain ⟨value, _, rfl⟩ := List.mem_map.mp hv
  exact ⟨value, rfl⟩

theorem TypeSpec.written_inputFieldList {t : TypeSpec} (ht : t.Proper) (part : InputPart)
    {found : InputValues} (hfound : found ∈ t.inputFields.map InputSpec.values) :
    (items .inputValue (part.list found)).Written := by
  obtain ⟨items, hitems, rfl⟩ := Option.map_eq_some_iff.mp hfound
  exact written_items fun _ hv => InputSpec.written_of_mem (ht.inputFields items hitems) part hv

theorem TypeSpec.succeeds_ask {t : TypeSpec} (ht : t.Proper)
    (h : t.entity.ask call = some view) : view.Succeeds := by
  have hdescription : t.toJson.member? "description" = some (.ofOption .str t.description) :=
    t.member?_toJson rfl
  unfold TypeDefinition.ask at h
  cases call with
  | kind | isBuiltin =>
      obtain rfl := Option.some.inj h
      exact succeeds_pure trivial
  | isKind kind =>
      obtain ⟨_, hview⟩ := Option.ite_none_right_eq_some.mp h
      cases hview
      exact succeeds_pure trivial
  | specifiedByUrl =>
      obtain rfl := Option.some.inj h
      exact succeeds_map t.reading_specifiedByUrl (written_option fun _ _ => trivial)
  | fields withDeprecated =>
      obtain rfl := Option.some.inj h
      refine succeeds_map (t.reading_fields withDeprecated) (written_option fun found hfound => ?_)
      obtain ⟨items, hitems, rfl⟩ := Option.map_eq_some_iff.mp hfound
      exact written_items fun f hf => FieldSpec.written_of_mem (ht.fields items hitems) hf
  | fieldsByName =>
      obtain rfl := Option.some.inj h
      exact succeeds_map t.reading_fieldsByName (written_option fun _ _ => trivial)
  | field name =>
      obtain rfl := Option.some.inj h
      refine succeeds_map (t.reading_field? name) (written_option fun f hf => ?_)
      obtain ⟨items, hitems, hfind⟩ := Option.bind_eq_some_iff.mp hf
      exact FieldSpec.written_of_find? (ht.fields items hitems) hfind
  | inputFields =>
      obtain rfl := Option.some.inj h
      exact succeeds_map (reading_inputFieldList ht)
        (written_option fun _ => written_inputFieldList ht .all)
  | requiredInputFields =>
      obtain rfl := Option.some.inj h
      exact succeeds_map (reading_inputFieldList ht)
        (written_option fun _ => written_inputFieldList ht .required)
  | optionalInputFields =>
      obtain rfl := Option.some.inj h
      exact succeeds_map (reading_inputFieldList ht)
        (written_option fun _ => written_inputFieldList ht .optional)
  | inputField name =>
      obtain rfl := Option.some.inj h
      refine succeeds_map (reading_inputField? ht name) (written_option fun v hv => ?_)
      obtain ⟨items, hitems, hfind⟩ := Option.bind_eq_some_iff.mp hv
      exact InputSpec.written_of_find? (ht.inputFields items hitems) hfind
  | interfaces =>
      obtain rfl := Option.some.inj h
      exact succeeds_map (reading_interfaces ht)
        (written_option fun _ _ => written_items fun _ _ => trivial)
  | implements name =>
      obtain rfl := Option.some.inj h
      refine succeeds_map (a := TypeDefinition.names
        (t.interfaces.map (sortByName (·.namedType))) name) ?_ trivial
      rw [TypeDefinition.implements, reading_bind, reading_interfaces ht, pure_bind, reading_pure]
  | possibleTypes =>
      obtain rfl := Option.some.inj h
      exact succeeds_map (reading_possibleTypes ht)
        (written_option fun _ _ => written_items fun _ _ => trivial)
  | isPossibleType name =>
      obtain rfl := Option.some.inj h
      refine succeeds_map (a := TypeDefinition.names
        (t.possibleTypes.map (sortByName (·.namedType))) name) ?_ trivial
      rw [TypeDefinition.isPossibleType, reading_bind, reading_possibleTypes ht, pure_bind,
        reading_pure]
  | enumValues withDeprecated =>
      obtain rfl := Option.some.inj h
      refine succeeds_map (t.reading_enumValues withDeprecated)
        (written_option fun found hfound => ?_)
      obtain ⟨items, _, rfl⟩ := Option.map_eq_some_iff.mp hfound
      exact written_items fun v hv => EnumValueSpec.written_of_mem hv
  | _ => exact Node.succeeds_ask (n := t.entity.toNode) hdescription h

theorem Schema.exists_result_structureText (s : Schema) :
    ∃ text, s.structureText.reading.result = .ok text := by
  rw [Schema.structureText, View.reading_bind, View.reading_read, Reading.result_bind]
  exact ⟨_, rfl⟩

theorem SchemaSpec.succeeds_ask {s : SchemaSpec} (hs : s.Proper)
    (h : s.entity.ask call = some view) : view.Succeeds := by
  have htype : ∀ t ∈ (sortByName (·.name) s.types).map TypeSpec.entity,
      (Entity.type t).Written := by
    intro t ht
    obtain ⟨value, hvalue, rfl⟩ := List.mem_map.mp ht
    exact ⟨value, hs.types value (mem_of_mem_sortByName hvalue), rfl⟩
  have hdirective : ∀ d ∈ (sortByName (·.name) s.directives).map DirectiveSpec.entity,
      (Entity.directive d).Written := by
    intro d hd
    obtain ⟨value, hvalue, rfl⟩ := List.mem_map.mp hd
    exact ⟨value, hs.directives value (mem_of_mem_sortByName hvalue), rfl⟩
  unfold Schema.ask at h
  cases call with
  | queryRootName =>
      obtain rfl := Option.some.inj h
      refine succeeds_map (a := s.queryRoot) ?_ trivial
      rw [Schema.queryRootName, reading_read, s.readQueryRootName_entity]
  | mutationRootName =>
      obtain rfl := Option.some.inj h
      refine succeeds_map (a := s.mutationRoot) ?_ (written_option fun _ _ => trivial)
      rw [Schema.mutationRootName, reading_read, s.readMutationRootName_entity]
  | subscriptionRootName =>
      obtain rfl := Option.some.inj h
      refine succeeds_map (a := s.subscriptionRoot) ?_ (written_option fun _ _ => trivial)
      rw [Schema.subscriptionRootName, reading_read, s.readSubscriptionRootName_entity]
  | isRootTypeName name =>
      obtain rfl := Option.some.inj h
      exact succeeds_map (s.reading_isRootTypeName name) trivial
  | types =>
      obtain rfl := Option.some.inj h
      exact succeeds_of_result s.result_types (written_items htype)
  | typesByName =>
      obtain rfl := Option.some.inj h
      exact succeeds_of_result s.result_typesByName trivial
  | typeByName name =>
      obtain rfl := Option.some.inj h
      rw [Schema.typeByName?, bind_pure_comp, ← comp_map]
      refine succeeds_of_result s.result_typesByName (written_option fun t ht => ?_)
      exact htype t (NameMap.mem_of_find? ht)
  | directives =>
      obtain rfl := Option.some.inj h
      exact succeeds_of_result s.result_directives (written_items hdirective)
  | directiveByName name =>
      obtain rfl := Option.some.inj h
      rw [Schema.directiveByName?, bind_pure_comp, ← comp_map]
      refine succeeds_of_result s.result_directives (written_option fun d hd => ?_)
      exact hdirective d (List.mem_of_find?_eq_some hd)
  | json =>
      obtain rfl := Option.some.inj h
      exact succeeds_pure trivial
  | structureText =>
      obtain rfl := Option.some.inj h
      obtain ⟨text, htext⟩ := s.entity.exists_result_structureText
      exact succeeds_of_result htext trivial
  | _ => cases h

/-- A call on a written entity is answered by what has been written. -/
theorem Entity.succeeds_ask {e : Entity} (he : e.Written) (h : e.ask call = some view) :
    view.Succeeds := by
  cases e with
  | schema s => obtain ⟨value, hvalue, rfl⟩ := he; exact SchemaSpec.succeeds_ask hvalue h
  | type t => obtain ⟨value, hvalue, rfl⟩ := he; exact TypeSpec.succeeds_ask hvalue h
  | field f => obtain ⟨value, hvalue, rfl⟩ := he; exact FieldSpec.succeeds_ask hvalue h
  | inputValue v => obtain ⟨value, hvalue, rfl⟩ := he; exact InputSpec.succeeds_ask hvalue h
  | enumValue v => obtain ⟨value, rfl⟩ := he; exact EnumValueSpec.succeeds_ask h
  | directive d => obtain ⟨value, hvalue, rfl⟩ := he; exact DirectiveSpec.succeeds_ask hvalue h
  | ref r =>
      obtain ⟨answer, hanswer, rfl⟩ := Option.map_eq_some_iff.mp h
      refine succeeds_pure ?_
      obtain rfl | ⟨other, rfl⟩ | ⟨json, rfl⟩ := r.eq_of_answer? hanswer <;> trivial
  | plain json => cases h

end

/-! ## Chains -/

theorem View.reading_lift {α : Type} (access : Access α) :
    View.reading (ExceptT.lift access) = ⟨access.lines, .ok access.value⟩ := by
  rw [reading, ExceptT.run_lift, Access.lines_map, Access.value_map]

theorem View.exists_result_mapM {α : Type} {β : Type} {f : α → View β} {items : List α}
    (h : ∀ a ∈ items, ∃ b, (f a).reading.result = .ok b) :
    ∃ bs, (items.mapM f).reading.result = .ok bs := by
  induction items with
  | nil => exact ⟨[], rfl⟩
  | cons a items ih =>
      obtain ⟨b, hb⟩ := h a List.mem_cons_self
      obtain ⟨bs, hbs⟩ := ih fun other hother => h other (List.mem_cons_of_mem a hother)
      refine ⟨b :: bs, ?_⟩
      rw [List.mapM_cons, reading_bind, Reading.result_bind_eq_ok]
      refine ⟨b, hb, ?_⟩
      rw [reading_bind, Reading.result_bind_eq_ok]
      exact ⟨bs, hbs, rfl⟩

theorem Entity.exists_result_render (e : Entity) :
    ∃ json, e.render.reading.result = .ok json := by
  cases e with
  | schema s =>
      obtain ⟨text, htext⟩ := s.exists_result_structureText
      refine ⟨.str text, ?_⟩
      rw [render, reading_map, Reading.result_map, htext]
      rfl
  | _ => exact ⟨_, rfl⟩

namespace Answer

theorem exists_result_render (answer : Answer) :
    ∃ json, answer.render.reading.result = .ok json := by
  cases answer with
  | nothing => exact ⟨.null, rfl⟩
  | one entity => exact entity.exists_result_render
  | many entities =>
      obtain ⟨items, hitems⟩ := exists_result_mapM fun e (_ : e ∈ entities) =>
        e.exists_result_render
      refine ⟨.arr items, ?_⟩
      rw [render, reading_map, Reading.result_map, hitems]
      rfl

/-- Descriptions and walks tell of faults in what they write, and do not fail themselves. -/
theorem succeeds_each {write : Entity → Access Json} {answer : Answer} {view : View Answer}
    (h : answer.each write = some view) : view.Succeeds := by
  have hlift : ∀ {α : Type} (access : Access α),
      (View.reading (ExceptT.lift access)).result = .ok access.value := by
    intro α access
    rw [reading_lift]
  unfold each at h
  cases answer with
  | nothing =>
      obtain rfl := Option.some.inj h
      exact succeeds_pure trivial
  | one e =>
      obtain ⟨_, hview⟩ := Option.ite_none_right_eq_some.mp h
      obtain rfl := Option.some.inj hview
      exact succeeds_of_result (hlift _) trivial
  | many entities =>
      obtain ⟨_, hview⟩ := Option.ite_none_right_eq_some.mp h
      obtain rfl := Option.some.inj hview
      exact succeeds_of_result (hlift _) trivial

theorem succeeds_ask {answer : Answer} (ha : answer.Written) {call : Call} {view : View Answer}
    (h : answer.ask call = some view) : view.Succeeds := by
  cases asked_of_ask h with
  | describe each => exact succeeds_each each
  | walk each => exact succeeds_each each
  | nothing => exact succeeds_pure trivial
  | one asked => exact Entity.succeeds_ask ha asked
  | item =>
      refine succeeds_pure (written_option fun e he => ?_)
      obtain ⟨index, _, hindex⟩ := Option.bind_eq_some_iff.mp he
      exact ha e (List.mem_of_getElem? hindex)
  | length => exact succeeds_pure trivial

/-- By induction on the chain: what is asked next has been written again. -/
theorem exists_result_follow (chain : Chain) {answer : Answer} (ha : answer.Written) :
    ∃ found, (answer.follow chain).reading.result = .ok found := by
  induction chain generalizing answer with
  | nil =>
      obtain ⟨json, hjson⟩ := answer.exists_result_render
      refine ⟨some json, ?_⟩
      rw [follow, reading_map, Reading.result_map, hjson]
      rfl
  | cons call chain ih =>
      rw [follow]
      cases hask : answer.ask call with
      | none => exact ⟨none, rfl⟩
      | some view =>
          obtain ⟨next, hnext, hwritten⟩ := succeeds_ask ha hask
          obtain ⟨found, hfound⟩ := ih hwritten
          refine ⟨found, ?_⟩
          dsimp only
          rw [reading_bind, Reading.result_bind_eq_ok]
          exact ⟨next, hnext, hfound⟩

end Answer

/-- No chain of calls on a written schema fails. -/
theorem SchemaSpec.outcome_ne_failed {s : SchemaSpec} (hs : s.Proper) (chain : Chain)
    (fault : Fault) : s.entity.outcome chain ≠ .failed fault := by
  have hwritten : (Answer.one (.schema s.entity)).Written := ⟨s, hs, rfl⟩
  obtain ⟨found, hfound⟩ := Answer.exists_result_follow chain hwritten
  have hvalue : ((Answer.one (.schema s.entity)).follow chain).run.value = .ok found := hfound
  rw [Schema.outcome, Schema.follow, Access.value_bind, hvalue]
  cases found <;> exact Outcome.noConfusion

end Introspection
