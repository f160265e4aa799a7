import Introspection.Proofs.Collections
import Introspection.Proofs.NameMaps
import Introspection.Proofs.SessionCalls
/-!
# Calls on collections

All calls that go through one list of an entity are answered from one reading of the list. So they
fail together and with the same fault, and on what they show they agree.
-/

namespace Introspection

open Answer (option positions)

/-! ## What is shown of a list -/

namespace Listing

variable (listing : Listing)

def entities : List Entity := listing.map (·.1)

def marked (mark : Bool) : List Entity := (listing.filter (·.2 = mark)).map (·.1)

def view (withDeprecated : Bool) : List Entity :=
  if withDeprecated then listing.entities else listing.marked false

def named (name : String) : List Entity := listing.entities.filter (·.listedName = name)

@[simp] theorem entities_map_mark (es : List Entity) :
    entities (es.map fun e => (e, e.mark)) = es := by
  simp [entities, Function.comp_def]

@[simp] theorem marked_map_mark (es : List Entity) (mark : Bool) :
    marked (es.map fun e => (e, e.mark)) mark = es.filter (·.mark = mark) := by
  simp [marked, List.filter_map, Function.comp_def]

end Listing

namespace Collection

/-- The record of an entity that holds the list. -/
def record? : Collection → Entity → Option Record
  | types, .schema s => some s.record
  | directives, .schema s => some s.record
  | fields, .type t => some t.record
  | enumValues, .type t => some t.record
  | interfaces, .type t => some t.record
  | possibleTypes, .type t => some t.record
  | inputFields, .type t => some t.record
  | arguments, .field f => some f.record
  | arguments, .directive d => some d.record
  | _, _ => none

/-- What a call shows of the list, or that the list does not apply. -/
def shows : Collection → Call → Option (Option Listing → Answer)
  | types, .types => some (option fun l => .many l.entities)
  | types, .typesByName => some (option fun l => positions (.of Entity.listedName l.entities))
  | types, .typeByName name => some (option fun l => option .one (l.named name).getLast?)
  | directives, .directives => some (option fun l => .many l.entities)
  | directives, .directiveByName name => some (option fun l => option .one (l.named name).head?)
  | fields, .fields withDeprecated => some (option fun l => .many (l.view withDeprecated))
  | fields, .fieldsByName => some (option fun l => positions (.of Entity.listedName l.entities))
  | fields, .field name => some (option fun l => option .one (l.named name).getLast?)
  | enumValues, .enumValues withDeprecated => some (option fun l => .many (l.view withDeprecated))
  | interfaces, .interfaces => some (option fun l => .many l.entities)
  | interfaces, .implements name => some fun found => .bool (found.any fun l => l.named name ≠ [])
  | possibleTypes, .possibleTypes => some (option fun l => .many l.entities)
  | possibleTypes, .isPossibleType name =>
      some fun found => .bool (found.any fun l => l.named name ≠ [])
  | inputFields, .inputFields => some (option fun l => .many l.entities)
  | inputFields, .requiredInputFields => some (option fun l => .many (l.marked true))
  | inputFields, .optionalInputFields => some (option fun l => .many (l.marked false))
  | inputFields, .inputField name => some (option fun l => option .one (l.named name).head?)
  | arguments, .arguments => some (option fun l => .many l.entities)
  | arguments, .requiredArguments => some (option fun l => .many (l.marked true))
  | arguments, .optionalArguments => some (option fun l => .many (l.marked false))
  | arguments, .argument name => some (option fun l => option .one (l.named name).head?)
  | _, _ => none

end Collection

/-! ## Typed lists -/

/-- A list of entities that are all made in one way of items of a type. -/
def Listing.of {α : Type} (entity : α → Entity) (marked : List (α × Bool)) : Listing :=
  marked.map (Prod.map entity id)

namespace Listing

variable {α : Type} (entity : α → Entity) (items : List (α × Bool))

@[simp] theorem entities_of : (of entity items).entities = (items.map (·.1)).map entity := by
  simp [of, entities, Function.comp_def]

@[simp] theorem marked_of (mark : Bool) :
    (of entity items).marked mark = ((items.filter (·.2 = mark)).map (·.1)).map entity := by
  simp [of, marked, List.filter_map, Function.comp_def]

theorem named_of {name : α → String} (hname : ∀ a, (entity a).listedName = name a)
    (wanted : String) : (of entity items).named wanted =
      ((items.map (·.1)).filter (name · = wanted)).map entity := by
  simp [named, List.filter_map, Function.comp_def, hname]

section

variable {name : α → String} (hname : ∀ a, (entity a).listedName = name a)

include hname

theorem option_getLast?_named_of (wanted : String) :
    option .one ((of entity items).named wanted).getLast? =
      option (.one ∘ entity) ((NameMap.of name (items.map (·.1))).find? wanted) := by
  rw [named_of entity items hname, NameMap.find?_of, List.getLast?_map]
  cases (List.filter (name · = wanted) (items.map (·.1))).getLast? <;> rfl

theorem option_head?_named_of (wanted : String) :
    option .one ((of entity items).named wanted).head? =
      option (.one ∘ entity) (findByName? name (items.map (·.1)) wanted) := by
  rw [named_of entity items hname, findByName?_eq, List.head?_map]
  cases (List.filter (name · = wanted) (items.map (·.1))).head? <;> rfl

theorem positions_of :
    positions (NameMap.of Entity.listedName (of entity items).entities) =
      positions (NameMap.of name (items.map (·.1))) := by
  rw [entities_of, NameMap.of_map]
  simp only [hname, positions, List.map_map, Function.comp_def]

end

theorem decide_named_of_ref (refs : List (TypeRef × Bool)) (wanted : String) :
    decide ((of Entity.ref refs).named wanted ≠ []) =
      (refs.map (·.1)).any (·.namedType = wanted) := by
  have hname : ∀ ref, (Entity.ref ref).listedName = ref.namedType := fun _ => rfl
  rw [named_of Entity.ref refs hname, Bool.eq_iff_iff]
  simp [List.filter_eq_nil_iff]

end Listing

theorem Record.reading_optional {α : Type} (r : Record) (key : String)
    (readAll : List Json → View α) :
    (r.optional key readAll).reading =
      r.readList key true fun items => (readAll items).reading := by
  rw [optional, View.reading_bind, View.reading_read, readList, if_pos rfl]
  congr 1
  funext found
  cases found <;> simp

/-- A field passes the calls about its arguments on to its node. -/
theorem Field.ask_eq_askArguments (field : Field) {call : Call} {f : Option Listing → Answer}
    (hf : Collection.arguments.shows call = some f) :
    field.ask call = field.toNode.askArguments call := by
  cases call <;> first | rfl | cases hf

theorem Directive.ask_eq_askArguments (d : Directive) {call : Call} {f : Option Listing → Answer}
    (hf : Collection.arguments.shows call = some f) :
    d.ask call = d.toNode.askArguments call := by
  cases call <;> first | rfl | cases hf

theorem TypeDefinition.reading_fieldsByName (t : TypeDefinition) :
    t.fieldsByName.reading =
      Option.map (fun l => NameMap.of (·.name) l.all) <$> t.fieldList.reading := by
  rw [fieldsByName, View.reading_memo]
  simp [fields, Deprecatables.view, Function.comp_def]

namespace Collection

section

variable {α : Type} {entity : α → Entity} {read : Json → Reading α} {arrange : List α → List α}
  {mark : α → Reading Bool} {c : Collection}

theorem readAll_eq (hitem : c.readItem = fun item => entity <$> read item)
    (harrange : ∀ as : List α, c.arrange (as.map entity) = (arrange as).map entity)
    (hmark : ∀ a, (entity a).readMark = mark a) :
    c.readAll = fun items => Listing.of entity <$> Reading.inTwoPasses read arrange mark items := by
  funext items
  rw [readAll, hitem]
  exact Reading.inTwoPasses_map harrange hmark items

end

theorem arrange_map {α : Type} {c : Collection} (hc : c.isSorted = true) {entity : α → Entity}
    {name : α → String} (hname : ∀ a, (entity a).listedName = name a) (as : List α) :
    c.arrange (as.map entity) = (sortByName name as).map entity := by
  rw [arrange, if_pos hc, sortByName_map]
  simp only [hname]

theorem arrange_unsorted {c : Collection} (hc : c.isSorted = false) (made : List Entity) :
    c.arrange made = made := by
  rw [arrange, hc]
  rfl

theorem readAll_types : types.readAll = fun items => Listing.of .type <$>
    Reading.inTwoPasses TypeDefinition.read (sortByName (·.name)) (fun _ => pure false) items :=
  readAll_eq rfl (arrange_map rfl fun _ => rfl) fun _ => rfl

theorem readAll_directives : directives.readAll = fun items => Listing.of .directive <$>
    Reading.inTwoPasses Directive.read (sortByName (·.name)) (fun _ => pure false) items :=
  readAll_eq rfl (arrange_map rfl fun _ => rfl) fun _ => rfl

theorem readAll_fields : fields.readAll = fun items => Listing.of .field <$>
    Reading.inTwoPasses Field.read id (·.isDeprecated) items :=
  readAll_eq rfl (fun _ => arrange_unsorted rfl _) fun _ => rfl

theorem readAll_enumValues : enumValues.readAll = fun items => Listing.of .enumValue <$>
    Reading.inTwoPasses EnumValue.read (sortByName (·.name)) (·.isDeprecated) items :=
  readAll_eq rfl (arrange_map rfl fun _ => rfl) fun _ => rfl

theorem readAll_interfaces : interfaces.readAll = fun items => Listing.of .ref <$>
    Reading.inTwoPasses TypeRef.read (sortByName (·.namedType)) (fun _ => pure false) items :=
  readAll_eq rfl (arrange_map rfl fun _ => rfl) fun _ => rfl

theorem readAll_possibleTypes : possibleTypes.readAll = interfaces.readAll := rfl

theorem readAll_inputFields : inputFields.readAll = fun items => Listing.of .inputValue <$>
    Reading.inTwoPasses InputValue.read id InputValues.readMark items :=
  readAll_eq rfl (fun _ => arrange_unsorted rfl _) fun _ => rfl

theorem readAll_arguments : arguments.readAll = inputFields.readAll := rfl

/-! ## One reading for all calls -/

variable {c : Collection} {r : Record}

theorem read_eq {α : Type} {f : α → Listing} {readAll : List Json → Reading α}
    (h : c.readAll = fun items => f <$> readAll items) :
    c.read r = Option.map f <$> r.readList c.key c.isNullable readAll := by
  rw [read, h, Record.readList_map]

theorem read_eq_of_not_nullable {α : Type} {f : α → Listing} {readAll : List Json → Reading α}
    (hc : c.isNullable = false) (h : c.readAll = fun items => f <$> readAll items) :
    c.read r = (fun a => some (f a)) <$> (r.list c.key >>= readAll) := by
  rw [read, Record.readList, hc, h]
  simp

def Answers (c : Collection) (r : Record) (f : Option Listing → Answer) (view : View Answer) :
    Prop := view.reading.result = (c.read r).result.map f

/-- The list of a record and what a cell holds of it come from one reading. -/
theorem answers_of_content {α β : Type} {content : View β} {typed : Reading α} {g : α → β}
    {h : α → Option Listing} {f : Option Listing → Answer} {F : β → Answer}
    (hcontent : content.reading.result = (g <$> typed).result) (hread : c.read r = h <$> typed)
    (hF : ∀ a, F (g a) = f (h a)) : c.Answers r f (F <$> content) := by
  rw [Answers, View.reading_map, Reading.result_map, hcontent, hread, ← Reading.result_map,
    ← Reading.result_map, Functor.map_map, Functor.map_map]
  simp only [hF]

/-- The same for a list that null may stand for. -/
theorem answers_of_optional {α β : Type} {content : View (Option β)}
    {readAll : List Json → View β} {typed : List Json → Reading α} {g : α → β} {h : α → Listing}
    {f : Option Listing → Answer} {F : Option β → Answer} (hnullable : c.isNullable = true)
    (hcontent : content.reading = (r.optional c.key readAll).reading)
    (htyped : ∀ items, (readAll items).reading = g <$> typed items)
    (hread : c.readAll = fun items => h <$> typed items)
    (hF : ∀ found, F (Option.map g found) = f (found.map h)) : c.Answers r f (F <$> content) := by
  refine answers_of_content ?_ (read_eq hread) hF
  rw [hcontent, Record.reading_optional, hnullable, ← Record.readList_map]
  simp only [htyped]

/-- The same for a list whose length is logged. -/
theorem answers_of_counted {α : Type} {content : View (List α)} {read : Json → Reading α}
    (line : Nat → LogLine) {arrange : List α → List α} {entity : α → Entity}
    {f : Option Listing → Answer} {F : List α → Answer} (hnullable : c.isNullable = false)
    (hcontent : content.reading = (do
      let as ← (← r.list c.key).mapM read
      Reading.note (line as.length)
      pure (arrange as)))
    (hread : c.readAll = fun items =>
      Listing.of entity <$> Reading.inTwoPasses read arrange (fun _ => pure false) items)
    (hF : ∀ marked : List (α × Bool),
      F (marked.map (·.1)) = f (some (Listing.of entity marked))) :
    c.Answers r f (F <$> content) := by
  refine answers_of_content ?_ (read_eq_of_not_nullable hnullable hread) hF
  rw [hcontent, map_bind]
  simp only [Reading.map_fst_inTwoPasses_pure]
  rw [Reading.result_bind, Reading.result_bind]
  simp only [Reading.result_note]

section

variable {f : Option Listing → Answer}

theorem answers_fields {t : TypeDefinition} {F : Option (Deprecatables Field) → Answer}
    (hF : ∀ found,
      F (Option.map Deprecatables.ofMarked found) = f (found.map (Listing.of .field))) :
    fields.Answers t.record f (F <$> t.fieldList) := by
  refine answers_of_optional rfl (View.reading_memo _ _ _) (fun items => ?_) readAll_fields hF
  rw [View.reading_read, Field.readAll_eq]

theorem answers_enumValues {t : TypeDefinition} {F : Option (Deprecatables EnumValue) → Answer}
    (hF : ∀ found,
      F (Option.map Deprecatables.ofMarked found) = f (found.map (Listing.of .enumValue))) :
    enumValues.Answers t.record f (F <$> t.enumValueList) := by
  refine answers_of_optional rfl (View.reading_memo _ _ _) (fun items => ?_) readAll_enumValues hF
  rw [View.reading_read, EnumValue.readAll_eq]

theorem answers_inputFields {t : TypeDefinition} {F : Option InputValues → Answer}
    (hF : ∀ found,
      F (Option.map InputValues.ofMarked found) = f (found.map (Listing.of .inputValue))) :
    inputFields.Answers t.record f (F <$> t.inputFieldList) :=
  answers_of_optional rfl (View.reading_memo _ _ _) InputValues.reading_read readAll_inputFields hF

theorem answers_refs {t : TypeDefinition} (hc : c.readAll = interfaces.readAll)
    (hnullable : c.isNullable = true) {content : View (Option (List TypeRef))}
    (hcontent : content.reading = (t.refs c.key).reading) {F : Option (List TypeRef) → Answer}
    (hF : ∀ found, F (Option.map (List.map (·.1)) found) = f (found.map (Listing.of .ref))) :
    c.Answers t.record f (F <$> content) := by
  refine answers_of_optional hnullable hcontent (fun items => ?_) (hc.trans readAll_interfaces) hF
  rw [View.reading_read, TypeRef.readAll, bind_pure_comp, Reading.map_fst_inTwoPasses_pure]

theorem answers_arguments {n : Node} {F : InputValues → Answer}
    (hF : ∀ marked, F (InputValues.ofMarked marked) = f (some (Listing.of .inputValue marked))) :
    arguments.Answers n.record f (F <$> n.arguments) := by
  refine answers_of_content ?_
    (read_eq_of_not_nullable rfl (readAll_arguments.trans readAll_inputFields)) hF
  rw [Node.arguments, View.reading_memo, View.reading_bind, View.reading_read, map_bind]
  simp only [InputValues.reading_read]
  rfl

theorem answers_types {s : Schema} {F : List TypeDefinition → Answer}
    (hF : ∀ marked : List (TypeDefinition × Bool),
      F (marked.map (·.1)) = f (some (Listing.of .type marked))) :
    types.Answers s.record f (F <$> s.types) := by
  refine answers_of_counted .readTypes rfl ?_ readAll_types hF
  rw [Schema.types, View.reading_memo, View.reading_read]
  rfl

theorem answers_directives {s : Schema} {F : List Directive → Answer}
    (hF : ∀ marked : List (Directive × Bool),
      F (marked.map (·.1)) = f (some (Listing.of .directive marked))) :
    directives.Answers s.record f (F <$> s.directives) := by
  refine answers_of_counted .readDirectives rfl ?_ readAll_directives hF
  rw [Schema.directives, View.reading_memo, View.reading_read]
  rfl

theorem Answers.of_reading_eq {view other : View Answer} (h : c.Answers r f view)
    (heq : other.reading = view.reading) : c.Answers r f other := by
  rw [Answers, heq]
  exact h

variable {call : Call}

theorem exists_answers_fields {t : TypeDefinition} (hf : fields.shows call = some f) :
    ∃ view, t.ask call = some view ∧ fields.Answers t.record f view := by
  cases call with
  | fields withDeprecated =>
      cases hf
      refine ⟨_, rfl, ?_⟩
      rw [TypeDefinition.fields, bind_pure_comp, Functor.map_map]
      apply answers_fields
      intro found
      cases found <;> cases withDeprecated <;>
        simp [option, Answer.items, Listing.view, Deprecatables.view, Deprecatables.ofMarked]
  | fieldsByName =>
      cases hf
      refine ⟨_, rfl, ?_⟩
      have hview : (option positions <$> t.fieldsByName).reading =
          ((fun found => option positions (found.map fun l => .of (·.name) l.all))
            <$> t.fieldList).reading := by
        simp [t.reading_fieldsByName]
      refine Answers.of_reading_eq (answers_fields fun found => ?_) hview
      cases found with
      | none => rfl
      | some marked => exact (Listing.positions_of Entity.field marked fun _ => rfl).symm
  | field name =>
      cases hf
      refine ⟨_, rfl, ?_⟩
      have hview : (option (.one ∘ .field) <$> t.field? name).reading =
          ((fun found : Option (Deprecatables Field) => option (.one ∘ .field)
            (found.bind fun l => (NameMap.of (·.name) l.all).find? name))
              <$> t.fieldList).reading := by
        simp [TypeDefinition.field?, t.reading_fieldsByName, Function.comp_def, Option.bind_map]
      refine Answers.of_reading_eq (answers_fields fun found => ?_) hview
      cases found with
      | none => rfl
      | some marked =>
          exact (Listing.option_getLast?_named_of Entity.field marked (fun _ => rfl) name).symm
  | _ => cases hf

theorem exists_answers_enumValues {t : TypeDefinition} (hf : enumValues.shows call = some f) :
    ∃ view, t.ask call = some view ∧ enumValues.Answers t.record f view := by
  cases call with
  | enumValues withDeprecated =>
      cases hf
      refine ⟨_, rfl, ?_⟩
      rw [TypeDefinition.enumValues, bind_pure_comp, Functor.map_map]
      apply answers_enumValues
      intro found
      cases found <;> cases withDeprecated <;>
        simp [option, Answer.items, Listing.view, Deprecatables.view, Deprecatables.ofMarked]
  | _ => cases hf

theorem exists_answers_inputFields {t : TypeDefinition} (hf : inputFields.shows call = some f) :
    ∃ view, t.ask call = some view ∧ inputFields.Answers t.record f view := by
  cases call with
  | inputFields =>
      cases hf
      refine ⟨_, rfl, answers_inputFields fun found => ?_⟩
      cases found <;> simp [option, Answer.items, InputValues.ofMarked]
  | requiredInputFields =>
      cases hf
      refine ⟨_, rfl, answers_inputFields fun found => ?_⟩
      cases found <;> simp [option, Answer.items, InputValues.ofMarked]
  | optionalInputFields =>
      cases hf
      refine ⟨_, rfl, answers_inputFields fun found => ?_⟩
      cases found <;> simp [option, Answer.items, InputValues.ofMarked]
  | inputField name =>
      cases hf
      refine ⟨_, rfl, ?_⟩
      rw [TypeDefinition.inputField?, bind_pure_comp, Functor.map_map]
      refine answers_inputFields fun found => ?_
      cases found with
      | none => rfl
      | some marked =>
          exact (Listing.option_head?_named_of Entity.inputValue marked (fun _ => rfl) name).symm
  | _ => cases hf

/-- Whether a type is named is told by the list of references. -/
theorem any_named_map (found : Option (List (TypeRef × Bool))) (name : String) :
    (found.map (Listing.of Entity.ref)).any (fun l => l.named name ≠ []) =
      TypeDefinition.names (found.map (List.map (·.1))) name := by
  cases found with
  | none => rfl
  | some refs => exact Listing.decide_named_of_ref refs name

theorem exists_answers_interfaces {t : TypeDefinition} (hf : interfaces.shows call = some f) :
    ∃ view, t.ask call = some view ∧ interfaces.Answers t.record f view := by
  cases call with
  | interfaces =>
      cases hf
      refine ⟨_, rfl, answers_refs rfl rfl (View.reading_memo _ _ _) fun found => ?_⟩
      cases found <;> simp [option, Answer.items]
  | implements name =>
      cases hf
      refine ⟨_, rfl, ?_⟩
      rw [TypeDefinition.implements, bind_pure_comp, Functor.map_map]
      refine answers_refs rfl rfl (View.reading_memo _ _ _) fun found => ?_
      rw [any_named_map]
  | _ => cases hf

theorem exists_answers_possibleTypes {t : TypeDefinition}
    (hf : possibleTypes.shows call = some f) :
    ∃ view, t.ask call = some view ∧ possibleTypes.Answers t.record f view := by
  cases call with
  | possibleTypes =>
      cases hf
      refine ⟨_, rfl, ?_⟩
      refine answers_refs readAll_possibleTypes rfl (View.reading_memo _ _ _) fun found => ?_
      cases found <;> simp [option, Answer.items]
  | isPossibleType name =>
      cases hf
      refine ⟨_, rfl, ?_⟩
      rw [TypeDefinition.isPossibleType, bind_pure_comp, Functor.map_map]
      refine answers_refs readAll_possibleTypes rfl (View.reading_memo _ _ _) fun found => ?_
      rw [any_named_map]
  | _ => cases hf

theorem exists_answers_arguments {n : Node} (hf : arguments.shows call = some f) :
    ∃ view, n.askArguments call = some view ∧ arguments.Answers n.record f view := by
  cases call with
  | arguments =>
      cases hf
      refine ⟨_, rfl, answers_arguments fun marked => ?_⟩
      simp [option, Answer.items, InputValues.ofMarked]
  | requiredArguments =>
      cases hf
      refine ⟨_, rfl, answers_arguments fun marked => ?_⟩
      simp [option, Answer.items, InputValues.ofMarked]
  | optionalArguments =>
      cases hf
      refine ⟨_, rfl, answers_arguments fun marked => ?_⟩
      simp [option, Answer.items, InputValues.ofMarked]
  | argument name =>
      cases hf
      refine ⟨_, rfl, answers_arguments fun marked => ?_⟩
      exact (Listing.option_head?_named_of Entity.inputValue marked (fun _ => rfl) name).symm
  | _ => cases hf

theorem exists_answers_types {s : Schema} (hf : types.shows call = some f) :
    ∃ view, s.ask call = some view ∧ types.Answers s.record f view := by
  cases call with
  | types =>
      cases hf
      refine ⟨_, rfl, answers_types fun marked => ?_⟩
      simp [option, Answer.items]
  | typesByName =>
      cases hf
      refine ⟨_, rfl, ?_⟩
      have hview : (positions <$> s.typesByName).reading =
          ((fun types => positions (.of (·.name) types)) <$> s.types).reading := by
        simp [s.reading_typesByName, s.reading_types]
      refine Answers.of_reading_eq (answers_types fun marked => ?_) hview
      exact (Listing.positions_of Entity.type marked fun _ => rfl).symm
  | typeByName name =>
      cases hf
      refine ⟨_, rfl, ?_⟩
      have hview : (option (.one ∘ .type) <$> s.typeByName? name).reading =
          ((fun types => option (.one ∘ .type) ((NameMap.of (·.name) types).find? name))
            <$> s.types).reading := by
        simp [Schema.typeByName?, s.reading_typesByName, s.reading_types]
      refine Answers.of_reading_eq (answers_types fun marked => ?_) hview
      exact (Listing.option_getLast?_named_of Entity.type marked (fun _ => rfl) name).symm
  | _ => cases hf

theorem exists_answers_directives {s : Schema} (hf : directives.shows call = some f) :
    ∃ view, s.ask call = some view ∧ directives.Answers s.record f view := by
  cases call with
  | directives =>
      cases hf
      refine ⟨_, rfl, answers_directives fun marked => ?_⟩
      simp [option, Answer.items]
  | directiveByName name =>
      cases hf
      refine ⟨_, rfl, ?_⟩
      rw [Schema.directiveByName?, bind_pure_comp, Functor.map_map]
      refine answers_directives fun marked => ?_
      exact (Listing.option_head?_named_of Entity.directive marked (fun _ => rfl) name).symm
  | _ => cases hf

/-- Each call that shows something of a list is answered from one reading of the list. -/
theorem exists_answers {e : Entity} (hr : c.record? e = some r) (hf : c.shows call = some f) :
    ∃ view, e.ask call = some view ∧ c.Answers r f view := by
  cases c with
  | types =>
      cases e with
      | schema s =>
          cases hr
          exact exists_answers_types hf
      | _ => cases hr
  | directives =>
      cases e with
      | schema s =>
          cases hr
          exact exists_answers_directives hf
      | _ => cases hr
  | fields =>
      cases e with
      | type t =>
          cases hr
          exact exists_answers_fields hf
      | _ => cases hr
  | enumValues =>
      cases e with
      | type t =>
          cases hr
          exact exists_answers_enumValues hf
      | _ => cases hr
  | interfaces =>
      cases e with
      | type t =>
          cases hr
          exact exists_answers_interfaces hf
      | _ => cases hr
  | possibleTypes =>
      cases e with
      | type t =>
          cases hr
          exact exists_answers_possibleTypes hf
      | _ => cases hr
  | inputFields =>
      cases e with
      | type t =>
          cases hr
          exact exists_answers_inputFields hf
      | _ => cases hr
  | arguments =>
      cases e with
      | field f =>
          cases hr
          obtain ⟨view, hview, hanswers⟩ := exists_answers_arguments hf
          exact ⟨view, (Field.ask_eq_askArguments f hf).trans hview, hanswers⟩
      | directive d =>
          cases hr
          obtain ⟨view, hview, hanswers⟩ := exists_answers_arguments hf
          exact ⟨view, (Directive.ask_eq_askArguments d hf).trans hview, hanswers⟩
      | _ => cases hr

end

end Collection

/-! ## Calls in sessions -/

namespace Collection

def call : Collection → Call
  | types => .types
  | directives => .directives
  | fields => .fields true
  | enumValues => .enumValues true
  | interfaces => .interfaces
  | possibleTypes => .possibleTypes
  | inputFields => .inputFields
  | arguments => .arguments

theorem shows_call (c : Collection) : c.shows c.call = some (option fun l => .many l.entities) := by
  cases c <;> rfl

variable {c : Collection} {r : Record}

theorem read_of_items {items : List Json} (h : r.json.member? c.key = some (.arr items)) :
    c.read r = some <$> c.readAll items := by
  have hlist : r.json.member? c.key = some (.ofOption .arr (some items)) := h
  rw [read, Record.readList, Record.list_of_member? h, Record.listOrNull_of_member? hlist,
    pure_bind, pure_bind]
  split <;> rfl

theorem result_read_of_null (hc : c.isNullable = false)
    (h : r.json.member? c.key = some .null) :
    (c.read r).result = .error (.unexpected c.key .list r.place) := by
  have hlist := ((r.endsJust_list c.key).error _).mpr (.inr ⟨h, rfl⟩)
  rw [read, Record.readList, hc, if_neg Bool.false_ne_true, Reading.result_bind, hlist]
  rfl

theorem exists_listing (hc : c.isNullable = false) {found : Option Listing}
    (h : (c.read r).result = .ok found) : ∃ listing, found = some listing := by
  rw [read, Record.readList, hc, if_neg Bool.false_ne_true] at h
  obtain ⟨items, -, h⟩ := Reading.result_bind_eq_ok.mp h
  rw [Reading.result_map] at h
  cases hread : (c.readAll items).result <;> rw [hread] at h <;> cases h
  exact ⟨_, rfl⟩

/-- A list that was read has been read of the items under its key. -/
theorem exists_of_result_read {listing : Listing} (h : (c.read r).result = .ok (some listing)) :
    ∃ items, r.json.member? c.key = some (.arr items) ∧
      (c.readAll items).result = .ok listing := by
  have hsome : ∀ {items : List Json}, (some <$> c.readAll items).result = .ok (some listing) →
      (c.readAll items).result = .ok listing := by
    intro items hitems
    rw [Reading.result_map] at hitems
    cases hread : (c.readAll items).result <;> rw [hread] at hitems <;> cases hitems
    rfl
  rw [read, Record.readList] at h
  split at h
  · obtain ⟨found, hfound, h⟩ := Reading.result_bind_eq_ok.mp h
    cases found with
    | none => cases h
    | some items => exact ⟨items, ((r.endsJust_listOrNull c.key).ok _).mp hfound, hsome h⟩
  · obtain ⟨items, hitems, h⟩ := Reading.result_bind_eq_ok.mp h
    exact ⟨items, Record.result_list_eq_ok.mp hitems, hsome h⟩

/-- What has been read of a list is made of the items under its key. -/
theorem exists_made_of_result_read {listing : Listing}
    (h : (c.read r).result = .ok (some listing)) :
    ∃ items made, r.json.member? c.key = some (.arr items) ∧ List.Forall₂ c.Makes items made ∧
      listing = (c.arrange made).map fun e => (e, e.mark) := by
  obtain ⟨items, hitems, hlisting⟩ := exists_of_result_read h
  rw [(c.endsJust_readAll items).ok] at hlisting
  obtain ⟨made, hmade, -, rfl⟩ := lists_iff.mp hlisting
  exact ⟨items, made, hitems, hmade, rfl⟩

end Collection

namespace Session

variable {s : Schema} {recording : Bool} {session : Session} {e : Entity} {c : Collection}
  {r : Record}

/-- What a call on a list finds in a session. -/
theorem Reachable.ask_eq_of_shows (h : Reachable s recording session) (he : e.Within s)
    (hr : c.record? e = some r) {call : Call} {f : Option Listing → Answer}
    (hf : c.shows call = some f) : session.ask e call = some ((c.read r).result.map f) := by
  obtain ⟨view, hview, hanswers⟩ := Collection.exists_answers hr hf
  rw [h.ask_eq he, hview, Option.map_some, hanswers]

theorem Reachable.ask_eq_of_items (h : Reachable s recording session) (he : e.Within s)
    (hr : c.record? e = some r) {items : List Json}
    (hitems : r.json.member? c.key = some (.arr items)) {call : Call} {g : Listing → Answer}
    (hf : c.shows call = some (option g)) :
    session.ask e call = some ((c.readAll items).result.map g) := by
  rw [h.ask_eq_of_shows he hr hf, Collection.read_of_items hitems, Reading.result_map]
  cases (c.readAll items).result <;> rfl

section

variable {items : List Json} {call : Call} {g : Listing → Answer}

/-- A call on a list that is an array is answered if a list can be made of the items. -/
theorem Reachable.ask_eq_ok_iff (h : Reachable s recording session) (he : e.Within s)
    (hr : c.record? e = some r) (hitems : r.json.member? c.key = some (.arr items))
    (hf : c.shows call = some (option g)) {answer : Answer} :
    session.ask e call = some (.ok answer) ↔
      ∃ listing, c.Lists items listing ∧ g listing = answer := by
  simp only [h.ask_eq_of_items he hr hitems hf, ← (c.endsJust_readAll items).ok]
  cases (c.readAll items).result <;> simp [Except.map]

theorem Reachable.ask_eq_error_iff (h : Reachable s recording session) (he : e.Within s)
    (hr : c.record? e = some r) (hitems : r.json.member? c.key = some (.arr items))
    (hf : c.shows call = some (option g)) {fault : Fault} :
    session.ask e call = some (.error fault) ↔ c.Fails items fault := by
  simp only [h.ask_eq_of_items he hr hitems hf, ← (c.endsJust_readAll items).error]
  cases (c.readAll items).result <;> simp [Except.map]

end

end Session

end Introspection
