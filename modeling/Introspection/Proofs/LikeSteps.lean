import Introspection.Proofs.LikeCalls
import Introspection.Proofs.LogOnce
import Introspection.Proofs.Reached
/-!
# Steps on alike documents

Descriptions, walks and chains of calls are alike on alike documents: they log the same and end
the same, unless a chain ends by asking for the JSON of a node, which tells the node itself.
-/

namespace Introspection

open Role View

variable {R : Role → Json → Json → Prop}

/-! ## Writing answers -/

section

variable (hR : IsLikeness R)
include hR

theorem Entity.alike_render {e e' : Entity} (h : e.Alike R e') :
    e.render.Alike Eq e'.render := by
  cases h with
  | schema h => exact alike_map (Schema.alike_structureText hR h) fun _ _ hsame => congrArg _ hsame
  | type h => exact alike_pure (congrArg Json.str h.node.name)
  | field h => exact alike_pure (congrArg Json.str h.name)
  | inputValue h => exact alike_pure (congrArg Json.str h.name)
  | enumValue h => exact alike_pure (congrArg Json.str h.name)
  | directive h => exact alike_pure (congrArg Json.str h.name)
  | ref r => exact alike_pure rfl
  | plain json => exact alike_pure rfl

theorem Answer.alike_render {answer answer' : Answer} (h : answer.Alike R answer') :
    answer.render.Alike Eq answer'.render := by
  cases h with
  | nothing => exact alike_pure rfl
  | one h => exact Entity.alike_render hR h
  | many h =>
      refine alike_map (alike_mapM h fun _ _ => Entity.alike_render hR) fun _ _ hsame => ?_
      rw [List.forall₂_eq_eq_eq] at hsame
      exact congrArg Json.arr hsame

end

/-! ## Descriptions and walks -/

namespace Entity

theorem Alike.accessors {e e' : Entity} (h : e.Alike R e') : e.accessors = e'.accessors := by
  cases h <;> rfl

theorem Alike.children {e e' : Entity} (h : e.Alike R e') : e.children = e'.children := by
  cases h <;> rfl

theorem Alike.isDescribed {e e' : Entity} (h : e.Alike R e') :
    e.isDescribed = e'.isDescribed := by
  cases h <;> rfl

/-- No description tells the JSON of a node. -/
theorem ne_json_of_mem_accessors (e : Entity) : ∀ item ∈ e.accessors, item.2 ≠ .json := by
  have hall : e.accessors.all (·.2 ≠ .json) = true := by cases e <;> rfl
  exact fun item hitem => of_decide_eq_true (List.all_eq_true.mp hall item hitem)

theorem ne_json_of_mem_children (e : Entity) : ∀ item ∈ e.children, item.2 ≠ .json := by
  have hall : e.children.all (·.2 ≠ .json) = true := by cases e <;> rfl
  exact fun item hitem => of_decide_eq_true (List.all_eq_true.mp hall item hitem)

section

variable (hR : IsLikeness R) {e e' : Entity} (h : e.Alike R e')
include hR h

/-- The views behind a list of calls, by the names of the calls. -/
theorem forall₂_views {calls : List (String × Call)} (hcalls : ∀ item ∈ calls, item.2 ≠ .json) :
    List.Forall₂ (fun item item' : String × View Answer => item.1 = item'.1 ∧
        item.2.Alike (Answer.Alike R) item'.2)
      (calls.filterMap fun (name, call) => (e.ask call).map (name, ·))
      (calls.filterMap fun (name, call) => (e'.ask call).map (name, ·)) := by
  have hsame : List.Forall₂ (fun item item' => item = item' ∧ item.2 ≠ .json) calls calls :=
    List.forall₂_same.mpr fun item hitem => ⟨rfl, hcalls item hitem⟩
  refine List.rel_filterMap (fun item item' hitem => ?_) hsame
  obtain ⟨rfl, hcall⟩ := hitem
  exact rel_map (Entity.alike_ask hR hcall h) fun _ _ hview => ⟨rfl, hview⟩

theorem alike_outcomes : e.outcomes.Alike Eq e'.outcomes := by
  have hviews := forall₂_views hR h (ne_json_of_mem_accessors e)
  rw [outcomes, outcomes, ← h.accessors]
  refine Access.alike_mapM_eq hviews fun item item' hitem => ?_
  obtain ⟨name, view⟩ := item
  obtain ⟨_, view'⟩ := item'
  obtain ⟨rfl, hview⟩ := hitem
  have hwritten : View.Alike Eq (do (← view).render : View Json) (do (← view').render) :=
    alike_bind hview fun _ _ hanswer => Answer.alike_render hR hanswer
  refine Access.alike_bind hwritten.run fun outcome outcome' hsame => Access.alike_pure ?_
  cases hsame with
  | ok hvalue => rw [hvalue]
  | error fault => rfl

theorem alike_describe : e.describe.Alike Eq e'.describe :=
  Access.alike_bind (alike_outcomes hR h) fun _ _ hsame => Access.alike_pure (congrArg _ hsame)

end

theorem alike_walk (hR : IsLikeness R) (depth : Nat) {e e' : Entity} (h : e.Alike R e') :
    (e.walk depth).Alike Eq (e'.walk depth) := by
  induction depth generalizing e e' with
  | zero => exact alike_describe hR h
  | succ depth ih =>
      have hviews := forall₂_views hR h (ne_json_of_mem_children e)
      refine Access.alike_bind (alike_outcomes hR h) fun outcomes _ hsame => ?_
      subst hsame
      rw [← h.children]
      refine Access.alike_bind (Access.alike_mapM_eq hviews fun item item' hitem => ?_)
        fun below _ hsame => Access.alike_pure (by rw [hsame])
      obtain ⟨name, view⟩ := item
      obtain ⟨_, view'⟩ := item'
      obtain ⟨rfl, hview⟩ := hitem
      refine Access.alike_bind hview.run fun found found' hfound => ?_
      cases hfound with
      | error fault => exact Access.alike_pure rfl
      | ok hanswer =>
          cases hanswer with
          | nothing => exact Access.alike_pure rfl
          | one _ => exact Access.alike_pure rfl
          | many hes =>
              exact Access.alike_bind (Access.alike_mapM_eq hes fun _ _ => ih)
                fun walks _ hsame => Access.alike_pure (by rw [hsame])

end Entity

/-! ## Chains -/

theorem getElem?_rel {α : Type} {S : α → α → Prop} {as bs : List α} (h : List.Forall₂ S as bs)
    (index : Nat) : Option.Rel S as[index]? bs[index]? := by
  induction h generalizing index with
  | nil => exact .none
  | cons hab _ ih =>
      cases index with
      | zero => exact .some hab
      | succ index => exact ih index

theorem Entity.all_isDescribed {es es' : List Entity} (h : List.Forall₂ (Entity.Alike R) es es') :
    es.all Entity.isDescribed = es'.all Entity.isDescribed := by
  induction h with
  | nil => rfl
  | cons hab _ ih => rw [List.all_cons, List.all_cons, ih, hab.isDescribed]

namespace Answer

variable {answer answer' : Answer}

theorem alike_each (h : answer.Alike R answer') {write : Entity → Access Json}
    (hwrite : ∀ e e' : Entity, e.Alike R e' → (write e).Alike Eq (write e')) :
    AlikeAnswers R (answer.each write) (answer'.each write) := by
  cases h with
  | nothing => exact .some (alike_pure .nothing)
  | one h =>
      rw [each, each, ← h.isDescribed]
      split
      · exact .some (alike_answer (alike_lift (hwrite _ _ h)) alike_json)
      · exact .none
  | many h =>
      rw [each, each, ← Entity.all_isDescribed h]
      split
      · exact .some (alike_answer (alike_lift (Access.alike_mapM_eq h hwrite))
          fun _ => alike_json _)
      · exact .none

theorem alike_ask (hR : IsLikeness R) (h : answer.Alike R answer') {call : Call}
    (hcall : call ≠ .json) : AlikeAnswers R (answer.ask call) (answer'.ask call) := by
  unfold ask
  cases call with
  | describe => exact alike_each h fun _ _ => Entity.alike_describe hR
  | walk => exact alike_each h fun _ _ => Entity.alike_walk hR _
  | item index =>
      cases h with
      | nothing => exact .some (alike_pure .nothing)
      | one h => exact Entity.alike_ask hR hcall h
      | many h =>
          refine .some (alike_pure (alike_option ?_ fun _ _ => .one))
          cases index.natural? with
          | none => exact .none
          | some index => exact getElem?_rel h index
  | length =>
      cases h with
      | nothing => exact .some (alike_pure .nothing)
      | one h => exact Entity.alike_ask hR hcall h
      | many h => exact .some (alike_pure (h.length_eq ▸ alike_json _))
  | _ =>
      cases h with
      | nothing => exact .some (alike_pure .nothing)
      | one h => exact Entity.alike_ask hR hcall h
      | many h => exact .none

end Answer

/-! ## Following chains -/

/-- A chain ends by asking for the JSON of an entity that it has reached from each of two schemas,
and the entities stand for these values. -/
def Schema.Shows (s s' : Schema) (chain : Chain) (role : Role) (v w : Json) : Prop :=
  ∃ before e e', chain = before ++ [.json] ∧ s.Reaches before (.one e) ∧
    s'.Reaches before (.one e') ∧ e.site? = some (role, v) ∧ e'.site? = some (role, w)

theorem Schema.Shows.json_mem {s s' : Schema} {chain : Chain} {role : Role} {v w : Json}
    (h : s.Shows s' chain role v w) : .json ∈ chain := by
  obtain ⟨before, _, _, rfl, _⟩ := h
  exact List.mem_append_right before List.mem_cons_self

def Schema.Agree (R : Role → Json → Json → Prop) (s s' : Schema) (chain : Chain)
    (found found' : Except Fault (Option Json)) : Prop :=
  found = found' ∨ ∃ role v w, s.Shows s' chain role v w ∧ R role v w ∧
    found = .ok (some v) ∧ found' = .ok (some w)

namespace Answer

variable {s s' : Schema} {before : Chain} {answer answer' : Answer}

theorem follow_json_cons (json : Json) (call : Call) (chain : Chain) :
    (Answer.json json).follow (call :: chain) = pure none := by
  have hask : (Answer.json json).ask call = none := by cases call <;> rfl
  rw [follow, hask]

theorem follow_json {e : Entity} {role : Role} {v : Json} (h : e.site? = some (role, v))
    (chain : Chain) : (Answer.one e).follow (.json :: chain) = (Answer.json v).follow chain := by
  have hask : (Answer.one e).ask .json = some (pure (.json v)) := Entity.ask_json h
  rw [follow, hask]
  exact pure_bind _ _

/-- Asked for the JSON of their nodes, alike entities answer alike nodes. Where an answer has no
node, it is asked like for anything else. -/
theorem Alike.ask_json (h : answer.Alike R answer') :
    AlikeAnswers R (answer.ask .json) (answer'.ask .json) ∨
      ∃ e e' role v w, answer = .one e ∧ answer' = .one e' ∧ e.site? = some (role, v) ∧
        e'.site? = some (role, w) ∧ R role v w := by
  cases h with
  | nothing => exact .inl (.some (alike_pure .nothing))
  | many h => exact .inl .none
  | one h =>
      cases h with
      | schema h => exact .inr ⟨_, _, _, _, _, rfl, rfl, rfl, rfl, h.json⟩
      | type h => exact .inr ⟨_, _, _, _, _, rfl, rfl, rfl, rfl, h.node.json⟩
      | field h => exact .inr ⟨_, _, _, _, _, rfl, rfl, rfl, rfl, h.json⟩
      | inputValue h => exact .inr ⟨_, _, _, _, _, rfl, rfl, rfl, rfl, h.json⟩
      | enumValue h => exact .inr ⟨_, _, _, _, _, rfl, rfl, rfl, rfl, h.json⟩
      | directive h => exact .inr ⟨_, _, _, _, _, rfl, rfl, rfl, rfl, h.json⟩
      | ref r => exact .inl .none
      | plain json => exact .inl .none

/-- The induction is on the chain. What has been reached before it is needed only to say where the
JSON of a node is asked for. -/
theorem alike_follow (hR : IsLikeness R) (chain : Chain) (hs : s.Reaches before answer)
    (hs' : s'.Reaches before answer') (h : answer.Alike R answer') :
    (answer.follow chain).reading.log = (answer'.follow chain).reading.log ∧
      s.Agree R s' (before ++ chain) (answer.follow chain).reading.result
        (answer'.follow chain).reading.result := by
  induction chain generalizing before answer answer' with
  | nil =>
      have hsame : (answer.follow []).Alike Eq (answer'.follow []) :=
        alike_map (Answer.alike_render hR h) fun _ _ hvalue => congrArg some hvalue
      have hreading := Reading.Alike.eq hsame
      exact ⟨congrArg Reading.log hreading, .inl (congrArg Reading.result hreading)⟩
  | cons call chain ih =>
      have hstep : AlikeAnswers R (answer.ask call) (answer'.ask call) →
          (answer.follow (call :: chain)).reading.log =
            (answer'.follow (call :: chain)).reading.log ∧
          s.Agree R s' (before ++ call :: chain) (answer.follow (call :: chain)).reading.result
            (answer'.follow (call :: chain)).reading.result := by
        intro hviews
        rw [follow, follow]
        generalize hview : answer.ask call = view, hview' : answer'.ask call = view' at hviews
        cases hviews with
        | none => exact ⟨rfl, .inl rfl⟩
        | @some view view' hviews =>
            obtain ⟨hlog, hresult⟩ := hviews
            dsimp only
            rw [reading_bind, reading_bind]
            generalize hfound : view.reading.result = found,
              hfound' : view'.reading.result = found' at hresult
            cases hresult with
            | ok hnext =>
                obtain ⟨hrest, hend⟩ := ih (hs.of_result hview hfound)
                  (hs'.of_result hview' hfound') hnext
                rw [List.append_assoc, List.singleton_append] at hend
                rw [Reading.bind_of_ok hfound, Reading.bind_of_ok hfound', hlog, hrest]
                exact ⟨rfl, hend⟩
            | error fault =>
                rw [Reading.bind_of_error hfound, Reading.bind_of_error hfound', hlog]
                exact ⟨rfl, .inl rfl⟩
      by_cases hcall : call = .json
      · subst hcall
        rcases h.ask_json with hviews | ⟨e, e', role, v, w, rfl, rfl, hsite, hsite', hvw⟩
        · exact hstep hviews
        · rw [follow_json hsite, follow_json hsite']
          cases chain with
          | nil => exact ⟨rfl, .inr ⟨role, v, w, ⟨before, e, e', rfl, hs, hs', hsite, hsite'⟩, hvw,
              rfl, rfl⟩⟩
          | cons next chain =>
              rw [follow_json_cons, follow_json_cons]
              exact ⟨rfl, .inl rfl⟩
      · exact hstep (alike_ask hR h hcall)

end Answer

end Introspection
