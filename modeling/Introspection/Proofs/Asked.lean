import Introspection.Description
/-!
# What calls lead to

Calls on references and on answers are told once by what they lead to. A reference only leads to
another reference or to a plain value; an answer passes a call on to the one entity in it.
-/

namespace Introspection

theorem TypeRef.eq_of_answer? {ref : TypeRef} {call : Call} {answer : Answer}
    (h : ref.answer? call = some answer) :
    answer = .nothing ∨ (∃ other, answer = .one (.ref other)) ∨ ∃ json, answer = .json json := by
  unfold answer? at h
  cases call with
  | name =>
      cases h
      cases ref.name? with
      | none => exact .inl rfl
      | some name => exact .inr (.inr ⟨_, rfl⟩)
  | ofType =>
      cases h
      cases ref.ofType? with
      | none => exact .inl rfl
      | some other => exact .inr (.inl ⟨other, rfl⟩)
  | unwrap | unwrapList | unwrapNonNull =>
      cases h
      exact .inr (.inl ⟨_, rfl⟩)
  | isKind kind =>
      cases kind with
      | list | nonNull =>
          cases h
          exact .inr (.inr ⟨_, rfl⟩)
      | _ => cases h
  | kind | namedKind | namedType | hasSubfields | text | structureText =>
      cases h
      exact .inr (.inr ⟨_, rfl⟩)
  | _ => cases h

namespace Answer

/-- What a call on an answer leads to, with one case for each of the ways. -/
inductive Asked : Answer → Call → View Answer → Prop
  | describe {answer : Answer} {view : View Answer}
      (each : answer.each Entity.describe = some view) : Asked answer .describe view
  | walk {answer : Answer} {view : View Answer}
      (each : answer.each (Entity.walk Entity.walkDepth) = some view) : Asked answer .walk view
  | nothing {call : Call} : Asked nothing call (pure nothing)
  | one {e : Entity} {call : Call} {view : View Answer} (asked : e.ask call = some view) :
      Asked (one e) call view
  | item {entities : List Entity} {index : Number} :
      Asked (many entities) (.item index) (pure (option one (index.natural?.bind (entities[·]?))))
  | length {entities : List Entity} :
      Asked (many entities) .length (pure (json (.num (.integer entities.length))))

theorem asked_of_ask {answer : Answer} {call : Call} {view : View Answer}
    (h : answer.ask call = some view) : answer.Asked call view := by
  unfold ask at h
  cases answer with
  | nothing =>
      cases call with
      | describe => exact .describe h
      | walk => exact .walk h
      | _ =>
          cases h
          exact .nothing
  | one e =>
      cases call with
      | describe => exact .describe h
      | walk => exact .walk h
      | _ => exact .one h
  | many entities =>
      cases call with
      | describe => exact .describe h
      | walk => exact .walk h
      | item index =>
          cases h
          exact .item
      | length =>
          cases h
          exact .length
      | _ => cases h

end Answer

end Introspection
