import Introspection.Proofs.Asked
import Introspection.Proofs.LikeViews
import Introspection.Transcript
/-!
# Calls on alike entities

A call that does not ask for the JSON of a node leads from alike entities to alike answers, and
applies to both of them or to neither.
-/

namespace Introspection

open View Role

/-! ## Alike answers -/

/-- Two entities of one sort that stand for alike nodes, or are one reference or plain value. -/
inductive Entity.Alike (R : Role → Json → Json → Prop) : Entity → Entity → Prop
  | schema {s s' : Schema} (h : s.Alike R s') : Alike R (.schema s) (.schema s')
  | type {t t' : TypeDefinition} (h : t.Alike R t') : Alike R (.type t) (.type t')
  | field {f f' : Field} (h : f.Alike R f') : Alike R (.field f) (.field f')
  | inputValue {i i' : InputValue} (h : i.Alike R i') : Alike R (.inputValue i) (.inputValue i')
  | enumValue {v v' : EnumValue} (h : v.Alike R v') : Alike R (.enumValue v) (.enumValue v')
  | directive {d d' : Directive} (h : d.Alike R d') : Alike R (.directive d) (.directive d')
  | ref (ref : TypeRef) : Alike R (.ref ref) (.ref ref)
  | plain (json : Json) : Alike R (.plain json) (.plain json)

inductive Answer.Alike (R : Role → Json → Json → Prop) : Answer → Answer → Prop
  | nothing : Alike R .nothing .nothing
  | one {e e' : Entity} (h : e.Alike R e') : Alike R (.one e) (.one e')
  | many {es es' : List Entity} (h : List.Forall₂ (Entity.Alike R) es es') :
      Alike R (.many es) (.many es')

namespace Answer

variable {R : Role → Json → Json → Prop} {α : Type} {S : α → α → Prop}

theorem alike_json (json : Json) : Alike R (Answer.json json) (Answer.json json) :=
  .one (.plain json)

theorem alike_ref (ref : TypeRef) : Alike R (.one (.ref ref)) (.one (.ref ref)) := .one (.ref ref)

theorem alike_many {es : List Entity} (h : ∀ e ∈ es, e.Alike R e) : Alike R (.many es) (.many es) :=
  .many (List.forall₂_same.mpr h)

theorem alike_strings (ss : List String) : Alike R (strings ss) (strings ss) := by
  refine alike_many fun e he => ?_
  obtain ⟨text, _, rfl⟩ := List.mem_map.mp he
  exact .plain _

theorem alike_refs (refs : List TypeRef) : Alike R (items .ref refs) (items .ref refs) := by
  refine alike_many fun e he => ?_
  obtain ⟨ref, _, rfl⟩ := List.mem_map.mp he
  exact .ref ref

theorem alike_option {write : α → Answer} {found found' : Option α} (h : Option.Rel S found found')
    (hwrite : ∀ a b, S a b → (write a).Alike R (write b)) :
    (option write found).Alike R (option write found') := by
  cases h with
  | none => exact .nothing
  | some related => exact hwrite _ _ related

theorem alike_option_self {write : α → Answer} (h : ∀ a, (write a).Alike R (write a))
    (found : Option α) : (option write found).Alike R (option write found) := by
  cases found with
  | none => exact .nothing
  | some a => exact h a

theorem alike_items {entity : α → Entity} {as bs : List α} (h : List.Forall₂ S as bs)
    (hentity : ∀ a b, S a b → (entity a).Alike R (entity b)) :
    (items entity as).Alike R (items entity bs) := by
  refine .many ?_
  rw [List.forall₂_map_left_iff, List.forall₂_map_right_iff]
  exact h.imp hentity

/-- The positions under the names of alike maps are the same. -/
theorem alike_positions {map map' : NameMap α} (h : map.Alike S map') :
    (positions map).Alike R (positions map') := by
  have hsame : positions map = positions map' := by
    refine congrArg (Answer.json ∘ Json.obj) ?_
    induction h with
    | nil => rfl
    | @cons entry entry' _ _ hentry _ ih =>
        obtain ⟨name, _, position⟩ := entry
        obtain ⟨_, _, _⟩ := entry'
        obtain ⟨rfl, _, rfl⟩ := hentry
        rw [List.map_cons, List.map_cons, ih]
  rw [hsame]
  exact alike_json _

end Answer

/-! ## Calls on named nodes -/

open Answer

variable {R : Role → Json → Json → Prop} {call : Call}

section

variable {α : Type} {f g : α → Answer} {view view' : View α}

/-- A view that finds the same has the same answer. -/
theorem View.alike_answer (h : view.Alike Eq view') (hf : ∀ a, (f a).Alike R (f a)) :
    View.Alike (Answer.Alike R) (f <$> view) (f <$> view') :=
  alike_map h fun a _ hsame => hsame ▸ hf a

end

abbrev View.AlikeAnswers (R : Role → Json → Json → Prop) :
    Option (View Answer) → Option (View Answer) → Prop :=
  Option.Rel (View.Alike (Answer.Alike R))

section

variable {owner : Owner} {n n' : Node}

theorem Node.alike_ask (hR : IsLikeness R) (h : n.Alike R owner n') (hnamed : owner.isNamed = true)
    (hcall : call ≠ .json) : AlikeAnswers R (n.ask call) (n'.ask call) := by
  unfold Node.ask
  cases call with
  | name => exact .some (alike_pure (h.name ▸ alike_json _))
  | description =>
      exact .some (alike_answer (Node.alike_stringOrNull hR h (Owner.keys_description hnamed))
        (alike_option_self fun _ => alike_json _))
  | camelCase | pascalCase | upperSnakeCase =>
      exact .some (alike_answer (Node.alike_casings h) fun _ => alike_json _)
  | casings => exact .some (alike_answer (Node.alike_casings h) fun _ => alike_strings _)
  | json => exact absurd rfl hcall
  | nodeText =>
      refine .some (alike_pure ?_)
      rw [Node.structureText, Node.structureText, h.same, h.name]
      exact alike_json _
  | _ => exact .none

theorem Node.alike_askArguments (hR : IsLikeness R) (h : n.Alike R owner n')
    (hnamed : owner.isNamed = true)
    (hkey : (Role.node owner).keys.lookup "args" = some (.nodes .inputValue .list))
    (hcall : call ≠ .json) : AlikeAnswers R (n.askArguments call) (n'.askArguments call) := by
  have harguments := Node.alike_arguments hR h hkey
  unfold Node.askArguments
  cases call with
  | arguments =>
      exact .some (alike_map harguments fun _ _ hvalues =>
        alike_items (hvalues .all) fun _ _ => .inputValue)
  | requiredArguments =>
      exact .some (alike_map harguments fun _ _ hvalues =>
        alike_items (hvalues .required) fun _ _ => .inputValue)
  | optionalArguments =>
      exact .some (alike_map harguments fun _ _ hvalues =>
        alike_items (hvalues .optional) fun _ _ => .inputValue)
  | argument name =>
      exact .some (alike_map harguments fun _ _ hvalues =>
        alike_option (hvalues.find? name) fun _ _ hi => .one (.inputValue hi))
  | _ => exact Node.alike_ask hR h hnamed hcall

end

/-! ## Calls on entities -/

theorem TypeRef.alike_answer? {ref : TypeRef} {answer : Answer}
    (h : ref.answer? call = some answer) : answer.Alike R answer := by
  obtain rfl | ⟨other, rfl⟩ | ⟨json, rfl⟩ := eq_of_answer? h
  · exact .nothing
  · exact alike_ref other
  · exact alike_json json

section

variable (hR : IsLikeness R) (hcall : call ≠ .json)
include hR hcall

theorem Field.alike_ask {f f' : Field} (h : f.Alike R f') :
    AlikeAnswers R (f.ask call) (f'.ask call) := by
  have htype := Node.alike_type hR h rfl
  unfold Field.ask
  cases call with
  | type => exact .some (alike_answer htype alike_ref)
  | hasSubfields =>
      exact .some (alike_answer (alike_bind htype fun _ _ hsame => alike_pure (congrArg _ hsame))
        fun _ => alike_json _)
  | isDeprecated =>
      exact .some (alike_answer (View.alike_of_eq (Node.isDeprecated_eq hR h rfl))
        fun _ => alike_json _)
  | deprecationReason =>
      exact .some (alike_answer (Node.alike_stringOrNull hR h rfl)
        (alike_option_self fun _ => alike_json _))
  | _ => exact Node.alike_askArguments hR h rfl rfl hcall

theorem InputValue.alike_ask {i i' : InputValue} (h : i.Alike R i') :
    AlikeAnswers R (i.ask call) (i'.ask call) := by
  have htype := Node.alike_type hR h rfl
  unfold InputValue.ask
  cases call with
  | type => exact .some (alike_answer htype alike_ref)
  | defaultValue =>
      exact .some (alike_answer (Node.alike_stringOrNull hR h rfl)
        (alike_option_self fun _ => alike_json _))
  | isRequired =>
      exact .some (alike_answer (alike_bind htype fun _ _ hsame => alike_pure (congrArg _ hsame))
        fun _ => alike_json _)
  | _ => exact Node.alike_ask hR h rfl hcall

theorem EnumValue.alike_ask {v v' : EnumValue} (h : v.Alike R v') :
    AlikeAnswers R (v.ask call) (v'.ask call) := by
  unfold EnumValue.ask
  cases call with
  | isDeprecated =>
      exact .some (alike_answer (View.alike_of_eq (Node.isDeprecated_eq hR h rfl))
        fun _ => alike_json _)
  | deprecationReason =>
      exact .some (alike_answer (Node.alike_stringOrNull hR h rfl)
        (alike_option_self fun _ => alike_json _))
  | _ => exact Node.alike_ask hR h rfl hcall

theorem Directive.alike_ask {d d' : Directive} (h : d.Alike R d') :
    AlikeAnswers R (d.ask call) (d'.ask call) := by
  have hnames := Directive.alike_locationNames hR h
  unfold Directive.ask
  cases call with
  | locations =>
      exact .some (alike_answer (Directive.alike_locations hR h) fun _ => alike_strings _)
  | locationNames => exact .some (alike_answer hnames alike_strings)
  | hasLocation location =>
      exact .some (alike_answer (alike_bind hnames fun _ _ hsame =>
        alike_pure (congrArg (List.contains · _) hsame)) fun _ => alike_json _)
  | isRepeatable =>
      exact .some (alike_answer (alike_bind (View.alike_of_eq (Record.bool?_eq hR h.record rfl))
        fun _ _ hsame => alike_pure (congrArg (Option.getD · false) hsame)) fun _ => alike_json _)
  | isBuiltin =>
      refine .some (alike_pure ?_)
      rw [Directive.isBuiltin, Directive.isBuiltin, h.name]
      exact alike_json _
  | _ => exact Node.alike_askArguments hR h rfl rfl hcall

theorem TypeDefinition.alike_ask {t t' : TypeDefinition} (h : t.Alike R t') :
    AlikeAnswers R (t.ask call) (t'.ask call) := by
  have hinputs := TypeDefinition.alike_inputFieldList hR h
  unfold TypeDefinition.ask
  cases call with
  | kind => exact .some (alike_pure (h.kind ▸ alike_json _))
  | isKind kind =>
      dsimp only
      split
      · exact .some (alike_pure (h.kind ▸ alike_json _))
      · exact .none
  | isBuiltin =>
      refine .some (alike_pure ?_)
      rw [TypeDefinition.isBuiltin, TypeDefinition.isBuiltin, h.node.name]
      exact alike_json _
  | specifiedByUrl =>
      exact .some (alike_answer (View.alike_of_eq (Record.string?_eq hR h.node.record rfl))
        (alike_option_self fun _ => alike_json _))
  | fields withDeprecated =>
      exact .some (alike_map (TypeDefinition.alike_fields hR h withDeprecated) fun _ _ hfound =>
        alike_option hfound fun _ _ hfields => alike_items hfields fun _ _ => .field)
  | fieldsByName =>
      exact .some (alike_map (TypeDefinition.alike_fieldsByName hR h) fun _ _ hfound =>
        alike_option hfound fun _ _ hmap => alike_positions hmap)
  | field name =>
      exact .some (alike_map (TypeDefinition.alike_field? hR h name) fun _ _ hfound =>
        alike_option hfound fun _ _ hf => .one (.field hf))
  | inputFields =>
      exact .some (alike_map hinputs fun _ _ hfound => alike_option hfound fun _ _ hvalues =>
        alike_items (hvalues .all) fun _ _ => .inputValue)
  | requiredInputFields =>
      exact .some (alike_map hinputs fun _ _ hfound => alike_option hfound fun _ _ hvalues =>
        alike_items (hvalues .required) fun _ _ => .inputValue)
  | optionalInputFields =>
      exact .some (alike_map hinputs fun _ _ hfound => alike_option hfound fun _ _ hvalues =>
        alike_items (hvalues .optional) fun _ _ => .inputValue)
  | inputField name =>
      exact .some (alike_map (TypeDefinition.alike_inputField? hR h name) fun _ _ hfound =>
        alike_option hfound fun _ _ hi => .one (.inputValue hi))
  | interfaces =>
      exact .some (alike_answer (TypeDefinition.alike_interfaces hR h)
        (alike_option_self Answer.alike_refs))
  | implements name =>
      exact .some (alike_answer (alike_bind (TypeDefinition.alike_interfaces hR h)
        fun _ _ hsame => alike_pure (congrArg (TypeDefinition.names · _) hsame))
        fun _ => alike_json _)
  | possibleTypes =>
      exact .some (alike_answer (TypeDefinition.alike_possibleTypes hR h)
        (alike_option_self Answer.alike_refs))
  | isPossibleType name =>
      exact .some (alike_answer (alike_bind (TypeDefinition.alike_possibleTypes hR h)
        fun _ _ hsame => alike_pure (congrArg (TypeDefinition.names · _) hsame))
        fun _ => alike_json _)
  | enumValues withDeprecated =>
      exact .some (alike_map (TypeDefinition.alike_enumValues hR h withDeprecated) fun _ _ hfound =>
        alike_option hfound fun _ _ hvalues => alike_items hvalues fun _ _ => .enumValue)
  | _ => exact Node.alike_ask hR h.node rfl hcall

theorem Schema.alike_ask {s s' : Schema} (h : s.Alike R s') :
    AlikeAnswers R (s.ask call) (s'.ask call) := by
  have hquery := View.alike_of_eq (Schema.readQueryRootName_eq hR h)
  have hmutation := View.alike_of_eq (Schema.readMutationRootName_eq hR h)
  unfold Schema.ask
  cases call with
  | queryRootName => exact .some (alike_answer hquery fun _ => alike_json _)
  | mutationRootName =>
      exact .some (alike_answer hmutation (alike_option_self fun _ => alike_json _))
  | subscriptionRootName =>
      exact .some (alike_answer (View.alike_of_eq (Schema.readSubscriptionRootName_eq hR h))
        (alike_option_self fun _ => alike_json _))
  | isRootTypeName name =>
      refine .some (alike_answer (alike_bind hquery fun query _ hsame => ?_) fun _ => alike_json _)
      subst hsame
      split
      · exact alike_pure rfl
      · exact alike_bind hmutation fun _ _ hsame => alike_pure (congrArg (· == _) hsame)
  | types =>
      exact .some (alike_map (Schema.alike_types hR h) fun _ _ hts =>
        alike_items hts fun _ _ => .type)
  | typesByName =>
      exact .some (alike_map (Schema.alike_typesByName hR h) fun _ _ => alike_positions)
  | typeByName name =>
      exact .some (alike_map (alike_bind (Schema.alike_typesByName hR h) fun _ _ hmap =>
        alike_pure (hmap.find? name)) fun _ _ hfound =>
          alike_option hfound fun _ _ ht => .one (.type ht))
  | directives =>
      exact .some (alike_map (Schema.alike_directives hR h) fun _ _ hds =>
        alike_items hds fun _ _ => .directive)
  | directiveByName name =>
      exact .some (alike_map (alike_bind (Schema.alike_directives hR h) fun _ _ hds =>
        alike_pure (findByName?_rel hds (fun _ _ hd => hd.name) name)) fun _ _ hfound =>
          alike_option hfound fun _ _ hd => .one (.directive hd))
  | json => exact absurd rfl hcall
  | structureText =>
      exact .some (alike_answer (Schema.alike_structureText hR h) fun _ => alike_json _)
  | _ => exact .none

theorem Entity.alike_ask {e e' : Entity} (h : e.Alike R e') :
    AlikeAnswers R (e.ask call) (e'.ask call) := by
  cases h with
  | schema h => exact Schema.alike_ask hR hcall h
  | type h => exact TypeDefinition.alike_ask hR hcall h
  | field h => exact Field.alike_ask hR hcall h
  | inputValue h => exact InputValue.alike_ask hR hcall h
  | enumValue h => exact EnumValue.alike_ask hR hcall h
  | directive h => exact Directive.alike_ask hR hcall h
  | ref r =>
      show AlikeAnswers R ((r.answer? call).map pure) ((r.answer? call).map pure)
      cases hanswer : r.answer? call with
      | none => exact .none
      | some answer => exact .some (alike_pure (TypeRef.alike_answer? hanswer))
  | plain json => exact .none

end

end Introspection
