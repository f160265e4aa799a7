import Introspection.Proofs.Regular
/-!
# Chains of calls are regular

Descriptions and walks put calls together, and a chain follows one call after the other. Each of
them is a regular access as the single calls are.
-/

namespace Introspection

open View

variable {s : Schema}

/-! ## Writing answers -/

theorem Entity.regular_render (e : Entity) : e.render.Regular s.record fun _ => True := by
  cases e with
  | schema other => exact regular_map other.regular_structureText fun _ _ => trivial
  | _ => exact regular_pure trivial

theorem Answer.regular_render (answer : Answer) :
    answer.render.Regular s.record fun _ => True := by
  cases answer with
  | nothing => exact regular_pure trivial
  | one entity => exact entity.regular_render
  | many entities =>
      exact regular_map (regular_mapM fun entity _ => entity.regular_render) fun _ _ => trivial

/-! ## Descriptions and walks -/

namespace Entity

theorem orderly_ask {e : Entity} (he : e.Within s) {call : Call} {view : View Answer}
    (h : e.ask call = some view) : view.Orderly s := by
  cases e with
  | schema other => cases he; exact Schema.orderly_ask h
  | type t => exact TypeDefinition.orderly_ask h
  | field f => exact Field.orderly_ask h
  | inputValue v => exact InputValue.orderly_ask h
  | enumValue v => exact EnumValue.orderly_ask h
  | directive d => exact Directive.orderly_ask h
  | ref r =>
      obtain ⟨answer, hanswer, rfl⟩ := Option.map_eq_some_iff.mp h
      exact orderly_pure (TypeRef.within_answer? hanswer)
  | plain json => cases h

/-- Each of the named views of an entity comes from one of its calls. -/
theorem orderly_of_mem {e : Entity} (he : e.Within s) {calls : List (String × Call)}
    {item : String × View Answer}
    (h : item ∈ calls.filterMap fun (name, call) => (e.ask call).map (name, ·)) :
    item.2.Orderly s := by
  obtain ⟨⟨name, call⟩, _, hitem⟩ := List.mem_filterMap.mp h
  obtain ⟨view, hview, rfl⟩ := Option.map_eq_some_iff.mp hitem
  exact orderly_ask he hview

theorem regular_outcomes {e : Entity} (he : e.Within s) :
    e.outcomes.Regular s.record fun _ => True := by
  refine Access.regular_mapM fun item hitem => ?_
  have hwritten : View.Regular s.record (fun _ => True) (do (← item.2).render) :=
    regular_bind (orderly_of_mem he hitem) fun answer _ => answer.regular_render
  exact Access.regular_bind hwritten fun outcome _ => .done trivial

theorem regular_describe {e : Entity} (he : e.Within s) :
    e.describe.Regular s.record fun _ => True :=
  Access.regular_bind (regular_outcomes he) fun _ _ => .done trivial

theorem regular_walk (depth : Nat) {e : Entity} (he : e.Within s) :
    (e.walk depth).Regular s.record fun _ => True := by
  induction depth generalizing e with
  | zero => exact regular_describe he
  | succ depth ih =>
      refine Access.regular_bind (regular_outcomes he) fun outcomes _ => ?_
      refine Access.regular_bind (Access.regular_mapM fun item hitem => ?_) fun _ _ => .done trivial
      refine Access.regular_bind (orderly_of_mem he hitem) fun found hfound => ?_
      split
      · rename_i entities
        refine Access.regular_bind (Access.regular_mapM fun entity hentity => ?_) fun _ _ =>
          .done trivial
        exact ih (hfound (.many entities) rfl entity hentity)
      · exact .done trivial

end Entity

/-! ## Chains -/

namespace Answer

theorem orderly_each {write : Entity → Access Json}
    (hw : ∀ {e : Entity}, e.Within s → (write e).Regular s.record fun _ => True)
    {answer : Answer} (ha : answer.Within s) {view : View Answer}
    (h : answer.each write = some view) : view.Orderly s := by
  unfold each at h
  cases answer with
  | nothing =>
      cases h
      exact orderly_pure trivial
  | one e =>
      obtain ⟨_, hview⟩ := Option.ite_none_right_eq_some.mp h
      cases hview
      exact orderly_map (fun _ => trivial) (regular_lift (hw ha))
  | many entities =>
      obtain ⟨_, hview⟩ := Option.ite_none_right_eq_some.mp h
      cases hview
      refine orderly_map (fun _ => trivial) (regular_lift ?_)
      exact Access.regular_mapM fun entity hentity => hw (ha entity hentity)

theorem orderly_ask {answer : Answer} (ha : answer.Within s) {call : Call} {view : View Answer}
    (h : answer.ask call = some view) : view.Orderly s := by
  cases asked_of_ask h with
  | describe each => exact orderly_each Entity.regular_describe ha each
  | walk each => exact orderly_each (Entity.regular_walk _) ha each
  | nothing => exact orderly_pure trivial
  | one asked => exact Entity.orderly_ask ha asked
  | item =>
      refine orderly_pure (within_option_mem fun entity hentity => ?_)
      obtain ⟨index, _, hindex⟩ := Option.bind_eq_some_iff.mp hentity
      exact ha entity (List.mem_of_getElem? hindex)
  | length => exact orderly_pure trivial

theorem regular_follow (chain : Chain) {answer : Answer} (ha : answer.Within s) :
    (answer.follow chain).Regular s.record fun _ => True := by
  induction chain generalizing answer with
  | nil => exact regular_map answer.regular_render fun _ _ => trivial
  | cons call chain ih =>
      rw [follow]
      split
      · exact regular_pure trivial
      · exact regular_bind (orderly_ask ha ‹_›) fun next hnext => ih hnext

end Answer

theorem Schema.regular_follow (chain : Chain) :
    (s.follow chain).Regular s.record fun _ => True := by
  refine Access.regular_bind (Answer.regular_follow chain rfl) fun found _ => ?_
  split <;> exact .done trivial

end Introspection
