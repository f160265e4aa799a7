import Introspection.Proofs.StandingCalls
import Introspection.Proofs.Transparency
/-!
# What chains of calls reach

From a schema chains of calls lead to answers, whatever the state of the session in which each of
the calls is made. The entities in them stand for nodes of the document that the schema was
created from, and a node tells all of its entity.
-/

namespace Introspection

open Fault View

def Entity.site? : Entity → Option (Role × Json)
  | schema s => some (.node .schema, s.record.json)
  | type t => some (.node .type, t.json)
  | field f => some (.node .field, f.json)
  | inputValue v => some (.node .inputValue, v.json)
  | enumValue v => some (.node .enumValue, v.json)
  | directive d => some (.node .directive, d.json)
  | ref _ => none
  | plain _ => none

/-- The node of an entity is what it answers when it is asked for its JSON. -/
theorem Entity.ask_json {e : Entity} {role : Role} {node : Json}
    (h : e.site? = some (role, node)) : e.ask .json = some (pure (.json node)) := by
  cases e with
  | ref r => cases h
  | plain json => cases h
  | _ => cases h; rfl

/-- A chain of calls leads from a schema to an answer, where the calls can be made in different
sessions of the schema. -/
inductive Schema.Reaches (s : Schema) : Chain → Answer → Prop
  | schema : Reaches s [] (.one (.schema s))
  | call {chain : Chain} {answer next : Answer} {call : Call} {view : View Answer}
      {recording : Bool} {session : Session} (before : Reaches s chain answer)
      (asked : answer.ask call = some view) (state : Session.Reachable s recording session)
      (answered : (view.run.run session).1 = .ok next) : Reaches s (chain ++ [call]) next

/-! ## Calls on entities -/

section

variable {role : Role} {v : Json} {call : Call}

theorem TypeRef.standsIn_answer? {ref : TypeRef} {answer : Answer}
    (h : ref.answer? call = some answer) : answer.StandsIn role v := by
  obtain rfl | ⟨other, rfl⟩ | ⟨json, rfl⟩ := eq_of_answer? h
  · trivial
  · exact Answer.standsIn_ref other
  · exact Answer.standsIn_json json

def Entity.Blames (e : Entity) (role : Role) (v : Json) (call : Call) (fault : Fault) : Prop :=
  ∃ own node, e.site? = some (own, node) ∧ role.Holds v own node ∧
    fault.Arises call.knows own call.keys node

theorem Entity.ends_of_endsBelow {e : Entity} {own : Role} {node : Json} {view : View Answer}
    (h : view.EndsBelow own node call) (hsite : e.site? = some (own, node))
    (hholds : role.Holds v own node) :
    view.Ends (Answer.StandsIn role v) (e.Blames role v call) :=
  (h.imp_value fun _ hanswer => hanswer.above hholds).imp_fault fun _ hfault =>
    ⟨own, node, hsite, hholds, hfault⟩

/-- Calls on an entity lead to what stands below its node, or end with a fault that arises
there. -/
theorem Entity.ends_ask {e : Entity} {view : View Answer} (he : e.StandsIn role v)
    (h : e.ask call = some view) : view.Ends (Answer.StandsIn role v) (e.Blames role v call) := by
  cases he with
  | schema holds place => exact ends_of_endsBelow (Schema.endsBelow_ask place h) rfl holds
  | type holds stands => exact ends_of_endsBelow (TypeDefinition.endsBelow_ask stands h) rfl holds
  | field holds stands => exact ends_of_endsBelow (Field.endsBelow_ask stands h) rfl holds
  | inputValue holds stands =>
      exact ends_of_endsBelow (InputValue.endsBelow_ask stands h) rfl holds
  | enumValue holds stands => exact ends_of_endsBelow (EnumValue.endsBelow_ask stands h) rfl holds
  | directive holds stands => exact ends_of_endsBelow (Directive.endsBelow_ask stands h) rfl holds
  | ref r =>
      obtain ⟨answer, hanswer, rfl⟩ := Option.map_eq_some_iff.mp h
      exact ends_pure (TypeRef.standsIn_answer? hanswer)
  | plain json => cases h

end

/-! ## Calls on answers -/

/-- Access that is lifted to a view does not fail. -/
theorem View.ends_lift {α : Type} {P : Fault → Prop} (access : Access α) :
    View.Ends (fun _ => True) P (ExceptT.lift access) := by
  rw [View.Ends, Reading.Ends, View.reading, ExceptT.run_lift, Access.value_map]
  trivial

namespace Answer

variable {role : Role} {v : Json}

theorem ends_each {write : Entity → Access Json} {answer : Answer} {view : View Answer}
    (h : answer.each write = some view) : view.Ends (StandsIn role v) fun _ => True := by
  unfold each at h
  cases answer with
  | nothing =>
      cases h
      exact ends_pure trivial
  | one e =>
      obtain ⟨_, hview⟩ := Option.ite_none_right_eq_some.mp h
      cases hview
      exact ends_map (ends_lift _) fun _ _ => standsIn_json _
  | many entities =>
      obtain ⟨_, hview⟩ := Option.ite_none_right_eq_some.mp h
      cases hview
      exact ends_map (ends_lift _) fun _ _ => standsIn_json _

theorem ends_ask {answer : Answer} {call : Call} {view : View Answer}
    (ha : answer.StandsIn role v) (h : answer.ask call = some view) :
    view.Ends (StandsIn role v) fun _ => True := by
  cases asked_of_ask h with
  | describe each => exact ends_each each
  | walk each => exact ends_each each
  | nothing => exact ends_pure trivial
  | one asked => exact (Entity.ends_ask ha asked).imp_fault fun _ _ => trivial
  | item =>
      refine ends_pure (standsIn_option fun entity hentity => ?_)
      obtain ⟨index, _, hindex⟩ := Option.bind_eq_some_iff.mp hentity
      exact ha entity (List.mem_of_getElem? hindex)
  | length => exact ends_pure (standsIn_json _)

end Answer

/-! ## Answers that are reached -/

theorem Access.Regular.value {r : Record} {α : Type} {P : α → Prop} {access : Access α}
    (h : access.Regular r P) : P access.value := by
  induction h with
  | done answer => exact answer
  | note _ _ ih => exact ih
  | memo _ _ _ _ _ ih => exact ih _
  | counted _ _ _ _ ih => exact ih _

namespace Schema.Reaches

variable {s : Schema} {chain : Chain} {answer : Answer}

theorem within (h : s.Reaches chain answer) : answer.Within s := by
  induction h with
  | schema => rfl
  | call _ asked state answered ih =>
      have hview := Answer.orderly_ask ih asked
      rw [View.run_eq_result hview state.sound] at answered
      exact hview.value _ answered

/-- The session in which a call is made does not show in its answer. -/
theorem result_of_run {next : Answer} {call : Call} {view : View Answer} {recording : Bool}
    {session : Session} (h : s.Reaches chain answer) (asked : answer.ask call = some view)
    (state : Session.Reachable s recording session)
    (answered : (view.run.run session).1 = .ok next) : view.reading.result = .ok next := by
  rwa [View.run_eq_result (Answer.orderly_ask h.within asked) state.sound] at answered

/-- A call that is answered without memory is answered in a new session. -/
theorem of_result {next : Answer} {call : Call} {view : View Answer}
    (h : s.Reaches chain answer) (asked : answer.ask call = some view)
    (hresult : view.reading.result = .ok next) : s.Reaches (chain ++ [call]) next := by
  have hnew : Session.Reachable s false (.new false) := .new
  have hrun := View.run_eq_result (Answer.orderly_ask h.within asked) hnew.sound
  exact h.call asked hnew (hrun.trans hresult)

theorem standsIn {document : Json} (hs : (Schema.create document).result = .ok s)
    (h : s.Reaches chain answer) : answer.StandsIn (.node .document) document := by
  induction h with
  | schema =>
      rw [result_create] at hs
      obtain ⟨data, members, hdata, hmembers, rfl⟩ := result_read_eq_ok.mp hs
      refine .schema ?_ rfl
      exact (Role.Holds.self.member (by rfl) hdata).member (by rfl) hmembers
  | call before asked state answered ih =>
      exact (Answer.ends_ask ih asked).of_ok (before.result_of_run asked state answered)

end Schema.Reaches

/-! ## Entities of one node -/

theorem Schema.eq_of_place {s t : Schema} {place : Place} (hs : s.record.place = place)
    (ht : t.record.place = place) (h : s.record.json = t.record.json) : s = t := by
  obtain ⟨⟨_, _⟩⟩ := s
  obtain ⟨⟨_, _⟩⟩ := t
  cases hs
  cases ht
  cases h
  rfl

theorem Node.Stands.eq {owner : Owner} {n m : Node} (hn : n.Stands owner) (hm : m.Stands owner)
    (h : n.json = m.json) : n = m := by
  obtain ⟨nowner, nname, json⟩ := n
  obtain ⟨mowner, mname, _⟩ := m
  obtain rfl : json = _ := h
  obtain rfl : nowner = owner := hn.owner
  obtain rfl : mowner = nowner := hm.owner
  cases hn.name.symm.trans hm.name
  rfl

theorem TypeDefinition.Stands.eq {t u : TypeDefinition} (ht : t.Stands) (hu : u.Stands)
    (h : t.json = u.json) : t = u := by
  obtain ⟨x, hx, hkind⟩ := ht.kind
  obtain ⟨y, hy, hother⟩ := hu.kind
  have hnode := ht.node.eq hu.node h
  rw [h, hy] at hx
  cases hx
  rw [hother] at hkind
  cases t
  cases u
  cases hkind
  cases hnode
  rfl

/-- Entities that stand for one node are one entity, whatever they have been reached by. -/
theorem Entity.eq_of_site? {e f : Entity} {role other own : Role} {v w node : Json}
    (he : e.StandsIn role v) (hf : f.StandsIn other w) (hesite : e.site? = some (own, node))
    (hfsite : f.site? = some (own, node)) : e = f := by
  have hsites := hesite.trans hfsite.symm
  have hnode : ∀ {r r' : Role} {x y : Json}, some (r, x) = some (r', y) → x = y := fun h =>
    (Prod.mk.inj (Option.some.inj h)).2
  cases he with
  | schema _ place =>
      cases hf with
      | schema _ other => exact congrArg schema (Schema.eq_of_place place other (hnode hsites))
      | _ => cases hsites
  | type _ stands =>
      cases hf with
      | type _ other => exact congrArg type (stands.eq other (hnode hsites))
      | _ => cases hsites
  | field _ stands =>
      cases hf with
      | field _ other =>
          exact congrArg (field ∘ Field.mk) (stands.eq other (hnode hsites))
      | _ => cases hsites
  | inputValue _ stands =>
      cases hf with
      | inputValue _ other =>
          exact congrArg (inputValue ∘ InputValue.mk) (stands.eq other (hnode hsites))
      | _ => cases hsites
  | enumValue _ stands =>
      cases hf with
      | enumValue _ other =>
          exact congrArg (enumValue ∘ EnumValue.mk) (stands.eq other (hnode hsites))
      | _ => cases hsites
  | directive _ stands =>
      cases hf with
      | directive _ other =>
          exact congrArg (directive ∘ Directive.mk) (stands.eq other (hnode hsites))
      | _ => cases hsites
  | ref _ => cases hesite
  | plain _ => cases hesite

end Introspection
