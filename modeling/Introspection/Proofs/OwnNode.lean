import Introspection.Proofs.Reached
/-!
# Answers of an entity depend on its own node

Two entities of one sort with the same JSON answer the same to every chain of calls, in whatever
documents they stand and whatever has been asked before. So what is wrong elsewhere in a document
does not show in an entity.
-/

namespace Introspection

namespace Entity

def role? (e : Entity) : Option Role := e.site?.map Prod.fst

theorem site?_of_ask_json {e : Entity} {role : Role} {node : Json} (hrole : e.role? = some role)
    (hjson : e.ask .json = some (pure (.json node))) : e.site? = some (role, node) := by
  obtain ⟨⟨own, other⟩, hsite, rfl⟩ := Option.map_eq_some_iff.mp hrole
  have hviews := Option.some.inj (hjson.symm.trans (ask_json hsite))
  cases congrArg (fun view : View Answer => view.reading.result) hviews
  exact hsite

variable {document₁ document₂ : Json} {s₁ s₂ : Schema} {recording₁ recording₂ : Bool}
  {session₁ session₂ : Session} {chain₁ chain₂ : Chain} {e₁ e₂ : Entity} {role : Role}
  {node : Json}

/-- What follows an entity by further calls is told by its sort and its JSON. -/
theorem follow_eq_of_same_node (hs₁ : (Schema.create document₁).result = .ok s₁)
    (hs₂ : (Schema.create document₂).result = .ok s₂)
    (hsession₁ : Session.Reachable s₁ recording₁ session₁)
    (hsession₂ : Session.Reachable s₂ recording₂ session₂)
    (hreached₁ : s₁.Reaches chain₁ (.one e₁)) (hreached₂ : s₂.Reaches chain₂ (.one e₂))
    (hrole₁ : e₁.role? = some role) (hrole₂ : e₂.role? = some role)
    (hjson₁ : e₁.ask .json = some (pure (.json node)))
    (hjson₂ : e₂.ask .json = some (pure (.json node))) (chain : Chain) :
    (((Answer.one e₁).follow chain).run.run session₁).1 =
      (((Answer.one e₂).follow chain).run.run session₂).1 := by
  have hfollow₁ := View.run_eq_result (Answer.regular_follow chain hreached₁.within)
    hsession₁.sound
  have hfollow₂ := View.run_eq_result (Answer.regular_follow chain hreached₂.within)
    hsession₂.sound
  have hsame : e₁ = e₂ := eq_of_site? (hreached₁.standsIn hs₁) (hreached₂.standsIn hs₂)
    (site?_of_ask_json hrole₁ hjson₁) (site?_of_ask_json hrole₂ hjson₂)
  rw [hfollow₁, hfollow₂, hsame]

end Entity

/-! ## A type in two documents -/

namespace Transcript

def scalarNode : Json := .obj [("kind", .str "SCALAR"), ("name", .str "Date")]

def scalarAlone (directives : Json) : Json :=
  .obj [("data", .obj [("__schema", .obj [("directives", directives),
    ("types", .arr [scalarNode])])])]

end Transcript

namespace Schema

open Transcript

/-- The one type of a document is found by its name. -/
theorem reaches_scalarAlone (directives : Json) :
    ∃ s, (create (scalarAlone directives)).result = .ok s ∧
      s.Reaches [.typeByName "Date"] (.one (.type ⟨⟨.type, "Date", scalarNode⟩, .scalar⟩)) := by
  obtain ⟨s, hs⟩ : ∃ s, (create (scalarAlone directives)).result = .ok s := ⟨_, rfl⟩
  have hasked : (Answer.one (.schema s)).ask (.typeByName "Date") =
      some (Answer.option (.one ∘ .type) <$> s.typeByName? "Date") := rfl
  have hfound : (s.typeByName? "Date").reading.result = .ok ((NameMap.of (·.name) (sortByName
      (·.name) [(⟨⟨.type, "Date", scalarNode⟩, .scalar⟩ : TypeDefinition)])).find? "Date") := by
    cases hs
    rfl
  refine ⟨s, hs, Reaches.schema.of_result hasked ?_⟩
  rw [View.reading_map, Reading.result_map, hfound, sortByName, List.mergeSort_singleton]
  rfl

end Schema

/-- A type is the same where the directives are wrong and where they are not. -/
theorem Entity.follow_eq_of_same_node_scalarAlone :
    ∃ s₁ s₂ e, (Schema.create (Transcript.scalarAlone (.arr []))).result = .ok s₁ ∧
      (Schema.create (Transcript.scalarAlone .null)).result = .ok s₂ ∧
      s₁.Reaches [.typeByName "Date"] (.one e) ∧ s₂.Reaches [.typeByName "Date"] (.one e) ∧
      (((Answer.one e).follow [.describe]).run.run (.new true)).1 =
        (((Answer.one e).follow [.describe]).run.run (.new false)).1 := by
  obtain ⟨s₁, hs₁, hreached₁⟩ := Schema.reaches_scalarAlone (.arr [])
  obtain ⟨s₂, hs₂, hreached₂⟩ := Schema.reaches_scalarAlone .null
  exact ⟨s₁, s₂, _, hs₁, hs₂, hreached₁, hreached₂, follow_eq_of_same_node hs₁ hs₂
    (.new : Session.Reachable s₁ true _) (.new : Session.Reachable s₂ false _) hreached₁ hreached₂
    rfl rfl rfl rfl [.describe]⟩

end Introspection
