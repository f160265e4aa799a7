import Introspection.Proofs.SpecCalls
/-!
# Reading undoes writing

A client that asks every entity for what it tells, and goes on with what it was told, gets back
the schema that was written, with the sorted lists in the order of their names. It may leave out
what is deprecated, and keep of arguments and input fields the required or the optional ones.
-/

namespace Introspection

open View

/-! ## Parts of a schema -/

def FieldSpec.restrict (part : InputPart) (f : FieldSpec) : FieldSpec :=
  { f with arguments := f.arguments.filter part.has }

def TypeSpec.restrict (withDeprecated : Bool) (part : InputPart) (t : TypeSpec) : TypeSpec :=
  { t with
    fields := t.fields.map fun items =>
      (items.filter (withDeprecated || !·.isDeprecated)).map (·.restrict part)
    inputFields := t.inputFields.map (·.filter part.has)
    enumValues := t.enumValues.map (·.filter (withDeprecated || !·.isDeprecated)) }

def DirectiveSpec.restrict (part : InputPart) (d : DirectiveSpec) : DirectiveSpec :=
  { d with arguments := d.arguments.filter part.has }

/-- A schema without its deprecated fields and enum values, unless they are asked for, and with
the arguments and input fields that are. -/
def SchemaSpec.restrict (withDeprecated : Bool) (part : InputPart) (s : SchemaSpec) : SchemaSpec :=
  { s with
    types := s.types.map (·.restrict withDeprecated part)
    directives := s.directives.map (·.restrict part) }

/-! ## Collecting -/

def InputSpec.collect (v : InputValue) : View InputSpec := do
  let description ← v.description
  let type ← v.type
  let defaultValue ← v.defaultValue
  pure { name := v.name, description, type, defaultValue }

def FieldSpec.collect (part : InputPart) (f : Field) : View FieldSpec := do
  let description ← f.description
  let arguments ← (part.list (← f.arguments)).mapM InputSpec.collect
  let type ← f.type
  let isDeprecated ← View.read f.isDeprecated
  let deprecationReason ← f.deprecationReason
  pure { name := f.name, description, arguments, type, isDeprecated, deprecationReason }

def EnumValueSpec.collect (v : EnumValue) : View EnumValueSpec := do
  let description ← v.description
  let isDeprecated ← View.read v.isDeprecated
  let deprecationReason ← v.deprecationReason
  pure { name := v.name, description, isDeprecated, deprecationReason }

def View.collectList {α β : Type} (collect : α → View β) : Option (List α) → View (Option (List β))
  | none => pure none
  | some items => some <$> items.mapM collect

def TypeSpec.collect (withDeprecated : Bool) (part : InputPart) (t : TypeDefinition) :
    View TypeSpec := do
  let description ← t.description
  let specifiedByUrl ← t.specifiedByUrl
  let fields ← collectList (FieldSpec.collect part) (← t.fields withDeprecated)
  let inputFields ← collectList InputSpec.collect ((← t.inputFieldList).map part.list)
  let interfaces ← t.interfaces
  let possibleTypes ← t.possibleTypes
  let enumValues ← collectList EnumValueSpec.collect (← t.enumValues withDeprecated)
  pure { kind := t.kind, name := t.name, description, specifiedByUrl, fields, inputFields,
         interfaces, possibleTypes, enumValues }

def DirectiveSpec.collect (part : InputPart) (d : Directive) : View DirectiveSpec := do
  let description ← d.description
  let isRepeatable ← d.isRepeatable
  let locations ← d.locations
  let arguments ← (part.list (← d.arguments)).mapM InputSpec.collect
  pure { name := d.name, description, isRepeatable, locations, arguments }

def SchemaSpec.collect (withDeprecated : Bool) (part : InputPart) (s : Schema) :
    View SchemaSpec := do
  let queryRoot ← s.queryRootName
  let mutationRoot ← s.mutationRootName
  let subscriptionRoot ← s.subscriptionRootName
  let types ← (← s.types).mapM (TypeSpec.collect withDeprecated part)
  let directives ← (← s.directives).mapM (DirectiveSpec.collect part)
  pure { queryRoot, mutationRoot, subscriptionRoot, types, directives }

/-! ## What is collected -/

theorem View.reading_mapM_map {ι α β : Type} {collect : α → View β} (entity : ι → α)
    (value : ι → β) {items : List ι}
    (h : ∀ i ∈ items, (collect (entity i)).reading = pure (value i)) :
    ((items.map entity).mapM collect).reading = pure (items.map value) := by
  induction items with
  | nil => rfl
  | cons i items ih =>
      have hrest := ih fun other hother => h other (List.mem_cons_of_mem i hother)
      rw [List.map_cons, List.mapM_cons, reading_bind, h i List.mem_cons_self, pure_bind,
        reading_bind, hrest, pure_bind, reading_pure, List.map_cons]

theorem View.reading_collectList {ι α β : Type} {collect : α → View β} {found : Option ι}
    (list : ι → List α) (value : ι → List β)
    (h : ∀ i ∈ found, ((list i).mapM collect).reading = pure (value i)) :
    (collectList collect (found.map list)).reading = pure (found.map value) := by
  cases found with
  | none => rfl
  | some i =>
      rw [Option.map_some, collectList, reading_map, h i rfl]
      rfl

namespace InputSpec

theorem reading_collect {v : InputSpec} (hv : v.Proper) :
    (collect v.entity).reading = pure v := by
  have hdescription : v.entity.description.reading = pure v.description :=
    Node.reading_description (v.member?_toJson rfl)
  have hdefault : v.entity.defaultValue.reading = pure v.defaultValue := by
    rw [InputValue.defaultValue, reading_read]
    exact Record.stringOrNull_of_member? (v.member?_toJson rfl)
  rw [collect, reading_bind, hdescription, pure_bind, reading_bind, reading_type hv, pure_bind,
    reading_bind, hdefault, pure_bind, reading_pure]
  rfl

theorem reading_collectAll {items : List InputSpec} (hitems : ∀ v ∈ items, v.Proper)
    (part : InputPart) : ((part.list (values items)).mapM collect).reading =
      pure (items.filter part.has) := by
  have hcollect := reading_mapM_map entity id fun v (hv : v ∈ items.filter part.has) =>
    reading_collect (hitems v (List.mem_of_mem_filter hv))
  rw [list_values, hcollect, List.map_id]

end InputSpec

namespace FieldSpec

theorem reading_collect {f : FieldSpec} (hf : f.Proper) (part : InputPart) :
    (collect part f.entity).reading = pure (f.restrict part) := by
  have hdescription : f.entity.description.reading = pure f.description :=
    Node.reading_description (f.member?_toJson rfl)
  have harguments : f.entity.arguments.reading = pure (InputSpec.values f.arguments) :=
    Node.reading_arguments (f.member?_toJson rfl) hf.2
  have htype : f.entity.type.reading = pure f.type :=
    Node.reading_type (f.member?_toJson rfl) hf.1
  have hreason : f.entity.deprecationReason.reading = pure f.deprecationReason :=
    Node.reading_deprecationReason (f.member?_toJson rfl)
  rw [collect, reading_bind, hdescription, pure_bind, reading_bind, harguments, pure_bind,
    reading_bind, InputSpec.reading_collectAll hf.2, pure_bind, reading_bind, htype, pure_bind,
    reading_bind, reading_read, f.isDeprecated_entity, pure_bind, reading_bind, hreason,
    pure_bind, reading_pure]
  rfl

end FieldSpec

namespace EnumValueSpec

theorem reading_collect (v : EnumValueSpec) : (collect v.entity).reading = pure v := by
  have hdescription : v.entity.description.reading = pure v.description :=
    Node.reading_description (v.member?_toJson rfl)
  have hreason : v.entity.deprecationReason.reading = pure v.deprecationReason :=
    Node.reading_deprecationReason (v.member?_toJson rfl)
  rw [collect, reading_bind, hdescription, pure_bind, reading_bind, reading_read,
    v.isDeprecated_entity, pure_bind, reading_bind, hreason, pure_bind, reading_pure]
  rfl

end EnumValueSpec

namespace TypeSpec

variable {t : TypeSpec}

theorem reading_collectFields (ht : t.Proper) (withDeprecated : Bool) (part : InputPart) :
    (collectList (FieldSpec.collect part) (t.fields.map fun items =>
      (FieldSpec.lists items).view withDeprecated)).reading =
        pure (t.restrict withDeprecated part).fields := by
  apply reading_collectList
  intro items hitems
  rw [FieldSpec.view_lists]
  apply reading_mapM_map
  intro f hf
  exact FieldSpec.reading_collect (ht.fields items hitems f (List.mem_of_mem_filter hf)) part

theorem reading_collectInputFields (ht : t.Proper) (part : InputPart) :
    (collectList InputSpec.collect ((t.inputFields.map InputSpec.values).map part.list)).reading =
      pure (t.inputFields.map (·.filter part.has)) := by
  rw [Option.map_map]
  apply reading_collectList
  intro items hitems
  exact InputSpec.reading_collectAll (ht.inputFields items hitems) part

theorem reading_collectEnumValues (t : TypeSpec) (withDeprecated : Bool) (part : InputPart) :
    (collectList EnumValueSpec.collect (t.enumValues.map fun items =>
      (EnumValueSpec.lists items).view withDeprecated)).reading =
        pure (t.sorted.restrict withDeprecated part).enumValues := by
  rw [restrict, sorted, Option.map_map]
  apply reading_collectList
  intro items _
  rw [EnumValueSpec.view_lists]
  have hcollect := reading_mapM_map EnumValueSpec.entity id
    fun v (_ : v ∈ (sortByName (·.name) items).filter (withDeprecated || !·.isDeprecated)) =>
      v.reading_collect
  rw [hcollect, List.map_id]
  rfl

theorem reading_collect (ht : t.Proper) (withDeprecated : Bool) (part : InputPart) :
    (collect withDeprecated part t.entity).reading =
      pure (t.sorted.restrict withDeprecated part) := by
  have hdescription : t.entity.description.reading = pure t.description :=
    Node.reading_description (t.member?_toJson rfl)
  rw [collect, reading_bind, hdescription, pure_bind, reading_bind, t.reading_specifiedByUrl,
    pure_bind, reading_bind, t.reading_fields, pure_bind, reading_bind,
    reading_collectFields ht, pure_bind, reading_bind, reading_inputFieldList ht, pure_bind,
    reading_bind, reading_collectInputFields ht, pure_bind, reading_bind, reading_interfaces ht,
    pure_bind, reading_bind, reading_possibleTypes ht, pure_bind, reading_bind,
    t.reading_enumValues, pure_bind, reading_bind, t.reading_collectEnumValues _ part, pure_bind,
    reading_pure]
  rfl

end TypeSpec

theorem DirectiveSpec.reading_collect {d : DirectiveSpec} (hd : d.Proper) (part : InputPart) :
    (collect part d.entity).reading = pure (d.restrict part) := by
  have hdescription : d.entity.description.reading = pure d.description :=
    Node.reading_description (d.member?_toJson rfl)
  have harguments : d.entity.arguments.reading = pure (InputSpec.values d.arguments) :=
    Node.reading_arguments (d.member?_toJson rfl) hd
  rw [collect, reading_bind, hdescription, pure_bind, reading_bind, d.reading_isRepeatable,
    pure_bind, reading_bind, d.reading_locations, pure_bind, reading_bind, harguments, pure_bind,
    reading_bind, InputSpec.reading_collectAll hd, pure_bind, reading_pure]
  rfl

/-- All that is collected from a written schema is what was written, in the order of names. -/
theorem SchemaSpec.result_collect {s : SchemaSpec} (hs : s.Proper) (withDeprecated : Bool)
    (part : InputPart) : (collect withDeprecated part s.entity).reading.result =
      .ok (s.sorted.restrict withDeprecated part) := by
  have htypes := reading_mapM_map TypeSpec.entity
    (fun t => t.sorted.restrict withDeprecated part)
    fun t (ht : t ∈ sortByName (·.name) s.types) =>
      TypeSpec.reading_collect (hs.types t (mem_of_mem_sortByName ht)) withDeprecated part
  have hdirectives := reading_mapM_map DirectiveSpec.entity (·.restrict part)
    fun d (hd : d ∈ sortByName (·.name) s.directives) =>
      DirectiveSpec.reading_collect (hs.directives d (mem_of_mem_sortByName hd)) part
  rw [collect, reading_bind, Schema.queryRootName, reading_read, s.readQueryRootName_entity,
    pure_bind, reading_bind, Schema.mutationRootName, reading_read,
    s.readMutationRootName_entity, pure_bind, reading_bind, Schema.subscriptionRootName,
    reading_read, s.readSubscriptionRootName_entity, pure_bind, reading_bind,
    Reading.result_bind_eq_ok]
  refine ⟨_, s.result_types, ?_⟩
  rw [reading_bind, htypes, pure_bind, reading_bind, Reading.result_bind_eq_ok]
  refine ⟨_, s.result_directives, ?_⟩
  rw [reading_bind, hdirectives, pure_bind, reading_pure, restrict, sorted, List.map_map]
  rfl

/-! ## The whole of a schema -/

theorem InputPart.filter_all (items : List InputSpec) : items.filter InputPart.all.has = items :=
  List.filter_eq_self.mpr fun _ _ => rfl

theorem FieldSpec.restrict_all (f : FieldSpec) : f.restrict .all = f := by
  rw [restrict, InputPart.filter_all]

theorem DirectiveSpec.restrict_all (d : DirectiveSpec) : d.restrict .all = d := by
  rw [restrict, InputPart.filter_all]

theorem TypeSpec.restrict_all (t : TypeSpec) : t.restrict true .all = t := by
  have hfields : (fun items : List FieldSpec =>
      (items.filter (true || !·.isDeprecated)).map (·.restrict .all)) = id := by
    funext items
    have hall : items.filter (true || !·.isDeprecated) = items :=
      List.filter_eq_self.mpr fun _ _ => rfl
    simp only [hall, FieldSpec.restrict_all, List.map_id', id]
  have hinputs : (fun items : List InputSpec => items.filter InputPart.all.has) = id :=
    funext InputPart.filter_all
  have hvalues : (fun items : List EnumValueSpec =>
      items.filter (true || !·.isDeprecated)) = id := by
    funext items
    exact List.filter_eq_self.mpr fun _ _ => rfl
  rw [restrict, hfields, hinputs, hvalues, Option.map_id, Option.map_id, Option.map_id]
  rfl

/-- Nothing is left out if all is asked for. -/
theorem SchemaSpec.restrict_all (s : SchemaSpec) : s.restrict true .all = s := by
  simp only [restrict, TypeSpec.restrict_all, DirectiveSpec.restrict_all, List.map_id']

/-! ## Collecting in a session -/

section

variable {r : Record} (part : InputPart)

theorem InputSpec.regular_collect (v : InputValue) : (collect v).Regular r fun _ => True := by
  refine regular_bind (regular_plain (v.record.plain_stringOrNull "description")) fun _ _ => ?_
  refine regular_bind v.regular_type fun _ _ => ?_
  refine regular_bind (regular_plain (v.record.plain_stringOrNull "defaultValue")) fun _ _ => ?_
  exact regular_pure trivial

theorem InputSpec.regular_collectAll (values : InputValues) :
    ((part.list values).mapM collect).Regular r fun _ => True :=
  regular_mapM fun v _ => regular_collect v

theorem FieldSpec.regular_collect (f : Field) : (collect part f).Regular r fun _ => True := by
  refine regular_bind (regular_plain (f.record.plain_stringOrNull "description")) fun _ _ => ?_
  refine regular_bind f.regular_arguments fun values _ => ?_
  refine regular_bind (InputSpec.regular_collectAll part values) fun _ _ => ?_
  refine regular_bind f.regular_type fun _ _ => ?_
  refine regular_bind (regular_plain f.plain_isDeprecated) fun _ _ => ?_
  refine regular_bind (regular_plain (f.record.plain_stringOrNull "deprecationReason"))
    fun _ _ => ?_
  exact regular_pure trivial

theorem EnumValueSpec.regular_collect (v : EnumValue) :
    (collect v).Regular r fun _ => True := by
  refine regular_bind (regular_plain (v.record.plain_stringOrNull "description")) fun _ _ => ?_
  refine regular_bind (regular_plain v.plain_isDeprecated) fun _ _ => ?_
  refine regular_bind (regular_plain (v.record.plain_stringOrNull "deprecationReason"))
    fun _ _ => ?_
  exact regular_pure trivial

theorem View.regular_collectList {α β : Type} {collect : α → View β}
    (h : ∀ a, (collect a).Regular r fun _ => True) (found : Option (List α)) :
    (collectList collect found).Regular r fun _ => True := by
  cases found with
  | none => exact regular_pure trivial
  | some items => exact regular_map (regular_mapM fun a _ => h a) fun _ _ => trivial

theorem TypeSpec.regular_collect (withDeprecated : Bool) (t : TypeDefinition) :
    (collect withDeprecated part t).Regular r fun _ => True := by
  refine regular_bind (regular_plain (t.record.plain_stringOrNull "description")) fun _ _ => ?_
  refine regular_bind t.regular_specifiedByUrl fun _ _ => ?_
  refine regular_bind (t.regular_fields withDeprecated) fun fields _ => ?_
  refine regular_bind (regular_collectList (FieldSpec.regular_collect part) fields) fun _ _ => ?_
  refine regular_bind t.regular_inputFieldList fun inputFields _ => ?_
  refine regular_bind (regular_collectList InputSpec.regular_collect _) fun _ _ => ?_
  refine regular_bind t.regular_interfaces fun _ _ => ?_
  refine regular_bind t.regular_possibleTypes fun _ _ => ?_
  refine regular_bind (t.regular_enumValues withDeprecated) fun values _ => ?_
  refine regular_bind (regular_collectList EnumValueSpec.regular_collect values) fun _ _ => ?_
  exact regular_pure trivial

theorem DirectiveSpec.regular_collect (d : Directive) :
    (collect part d).Regular r fun _ => True := by
  refine regular_bind (regular_plain (d.record.plain_stringOrNull "description")) fun _ _ => ?_
  refine regular_bind d.regular_isRepeatable fun _ _ => ?_
  refine regular_bind d.regular_locations fun _ _ => ?_
  refine regular_bind d.regular_arguments fun values _ => ?_
  refine regular_bind (InputSpec.regular_collectAll part values) fun _ _ => ?_
  exact regular_pure trivial

theorem SchemaSpec.regular_collect (withDeprecated : Bool) (s : Schema) :
    (collect withDeprecated part s).Regular s.record fun _ => True := by
  refine regular_bind (regular_plain s.plain_readQueryRootName) fun _ _ => ?_
  refine regular_bind (regular_plain s.plain_readMutationRootName) fun _ _ => ?_
  refine regular_bind (regular_read s.uncounted_readSubscriptionRootName fun _ _ => trivial)
    fun _ _ => ?_
  refine regular_bind s.regular_types fun types _ => ?_
  refine regular_bind (regular_mapM fun t _ => TypeSpec.regular_collect part withDeprecated t)
    fun _ _ => ?_
  refine regular_bind s.regular_directives fun directives _ => ?_
  refine regular_bind (regular_mapM fun d _ => DirectiveSpec.regular_collect part d) fun _ _ => ?_
  exact regular_pure trivial

end

/-- The document of a schema is read back. A schema is created from it, no chain of calls fails,
and whatever has been asked before, all that is collected is what was written, with the types,
directives and enum values by name and the interfaces and possible types by the names of the types
that they name. So it is of the parts of a schema. -/
theorem SchemaSpec.collect_of_document (S : SchemaSpec) (hS : S.Proper) :
    S.IsSorted S.sorted ∧ ∃ s, (Schema.create S.document).result = .ok s ∧
      (∀ recording chains, ∃ outcomes,
        (Transcript.of recording S.document chains).outcomes = .ok outcomes ∧
          ∀ fault, .failed fault ∉ outcomes) ∧
      ∀ recording session, Session.Reachable s recording session →
        ((collect true .all s).run.run session).1 = .ok S.sorted ∧
        ∀ withDeprecated part, ((collect withDeprecated part s).run.run session).1 =
          .ok (S.sorted.restrict withDeprecated part) := by
  refine ⟨S.isSorted_sorted, S.entity, S.result_create, ?_, ?_⟩
  · intro recording chains
    refine ⟨_, Transcript.outcomes_of S.result_create recording chains, ?_⟩
    intro fault hfault
    obtain ⟨chain, _, hchain⟩ := List.mem_map.mp hfault
    exact outcome_ne_failed hS chain fault hchain
  · intro recording session hsession
    have hcollect : ∀ withDeprecated part,
        ((collect withDeprecated part S.entity).run.run session).1 =
          .ok (S.sorted.restrict withDeprecated part) := by
      intro withDeprecated part
      rw [run_eq_result (regular_collect part withDeprecated S.entity) hsession.sound]
      exact result_collect hS withDeprecated part
    refine ⟨?_, hcollect⟩
    rw [hcollect, restrict_all]

def SchemaSpec.books : SchemaSpec where
  queryRoot := "Query"
  mutationRoot := none
  subscriptionRoot := some "Feed"
  types :=
    [{ kind := .object, name := "Query", description := none, specifiedByUrl := none,
       fields := some
         [{ name := "books", description := some "All books.",
            arguments :=
              [{ name := "order", description := none, type := .named .enum "Order",
                 defaultValue := some "TITLE" }],
            type := .nonNull (.list (.nonNull (.named .object "Book"))),
            isDeprecated := true, deprecationReason := some "There are too many." }],
       inputFields := none, interfaces := some [], possibleTypes := none, enumValues := none },
     { kind := .enum, name := "Order", description := none, specifiedByUrl := none,
       fields := none, inputFields := none, interfaces := none, possibleTypes := none,
       enumValues := some
         [{ name := "TITLE", description := none, isDeprecated := false,
            deprecationReason := none },
          { name := "AUTHOR", description := none, isDeprecated := false,
            deprecationReason := none }] }]
  directives :=
    [{ name := "skip", description := none, isRepeatable := false,
       locations := [.field, .inlineFragment],
       arguments :=
         [{ name := "if", description := none, type := .nonNull (.named .scalar "Boolean"),
            defaultValue := none }] }]

theorem SchemaSpec.collect_of_document_books :
    books.Proper ∧ ∃ s, (Schema.create books.document).result = .ok s ∧
      ((collect true .all s).run.run (.new true)).1 = .ok books.sorted := by
  have hbooks : books.Proper := by decide
  obtain ⟨_, s, hs, _, hcollect⟩ := collect_of_document books hbooks
  exact ⟨hbooks, s, hs, (hcollect true _ .new).1⟩

end Introspection
