import Introspection.Proofs.CollectionCalls
/-!
# Sorted lists

Types, directives, interfaces, possible types and enum values stand in the order of their names.
A list is the stable rearrangement of what is made of its items by the bytes of the names, and
nothing else. The faults of items, however, are found in the order of the document.
-/

namespace Introspection

namespace Session

variable {s : Schema} {recording : Bool} {session : Session}

/-- A sorted list is read if and only if each of its items can be made and marked, and then its
entities are those that are made of the items, in the only order in which their names ascend by
their bytes and equal names stand as in the document. The first item of the document of which no
entity can be made gives the fault. Types and directives have to be listed. -/
theorem ask_sorted (hsession : Session.Reachable s recording session) {c : Collection}
    (hc : c.isSorted = true) {e : Entity} {r : Record} (he : e.Within s)
    (hr : c.record? e = some r) :
    (∀ items, r.json.member? c.key = some (.arr items) →
      ((∃ answer, session.ask e c.call = some (.ok answer)) ↔
        ∀ item ∈ items, c.Makeable item ∧ c.Markable item) ∧
      (∀ answer, session.ask e c.call = some (.ok answer) ↔
        ∃ made entities, List.Forall₂ c.Makes items made ∧ (∀ item ∈ items, c.Markable item) ∧
          answer = .many entities ∧ IsSortedByBytes Entity.listedName made entities) ∧
      ∀ fault, FirstFault c.Refuses items fault → session.ask e c.call = some (.error fault)) ∧
    (c.isNullable = false →
      (r.json.member? c.key = some .null →
        session.ask e c.call = some (.error (.unexpected c.key .list r.place))) ∧
      ∀ answer, session.ask e c.call = some (.ok answer) →
        ∃ items, r.json.member? c.key = some (.arr items)) := by
  refine ⟨fun items hitems => ⟨?_, fun answer => ?_, fun fault h => ?_⟩, fun hnull => ⟨?_, ?_⟩⟩
  · rw [← Collection.exists_lists_iff]
    simp only [hsession.ask_eq_ok_iff he hr hitems c.shows_call]
    exact ⟨fun ⟨_, listing, h, _⟩ => ⟨listing, h⟩, fun ⟨listing, h⟩ => ⟨_, listing, h, rfl⟩⟩
  · rw [hsession.ask_eq_ok_iff he hr hitems c.shows_call]
    have horders : ∀ {made entities : List Entity},
        IsSortedByBytes Entity.listedName made entities ↔ entities = c.arrange made := by
      intro made entities
      rw [← Collection.orders_iff, Collection.Orders, if_pos hc]
    simp only [Collection.lists_iff, horders]
    constructor
    · rintro ⟨_, ⟨made, hmade, hmarkable, rfl⟩, rfl⟩
      exact ⟨made, _, hmade, hmarkable, rfl, Listing.entities_map_mark _⟩
    · rintro ⟨made, entities, hmade, hmarkable, rfl, rfl⟩
      exact ⟨_, ⟨made, hmade, hmarkable, rfl⟩, by rw [Listing.entities_map_mark]⟩
  · exact (hsession.ask_eq_error_iff he hr hitems c.shows_call).mpr (.inl h)
  · intro hmember
    rw [hsession.ask_eq_of_shows he hr c.shows_call, Collection.result_read_of_null hnull hmember]
    rfl
  · intro answer h
    rw [hsession.ask_eq_of_shows he hr c.shows_call, Option.some_inj] at h
    cases hread : (c.read r).result with
    | error fault =>
        rw [hread] at h
        cases h
    | ok found =>
        obtain ⟨listing, rfl⟩ := Collection.exists_listing hnull hread
        obtain ⟨items, hitems, -⟩ := Collection.exists_of_result_read hread
        exact ⟨items, hitems⟩

def typeNode (name : String) (kind : TypeKind) : Json :=
  .ofMembers [("kind", .str kind.name), ("name", .str name)]

def accented : Schema :=
  ⟨.unnamed .schema (.ofMembers [("directives", .null), ("types", .arr [typeNode "é" .object,
    typeNode "z" .scalar, typeNode "z" .enum])])⟩

def unfinished : Schema :=
  ⟨.unnamed .schema (.ofMembers [("types", .arr [.ofMembers [("name", .str "A")],
    .ofMembers [("kind", .str "ENUM")]])])⟩

theorem ask_sorted_accented :
    (Session.new true).ask (.schema accented) .types = some (.ok (.many
      [.type ⟨⟨.type, "z", typeNode "z" .scalar⟩, .scalar⟩,
        .type ⟨⟨.type, "z", typeNode "z" .enum⟩, .enum⟩,
        .type ⟨⟨.type, "é", typeNode "é" .object⟩, .object⟩])) ∧
    (Session.new true).ask (.schema accented) .directives =
      some (.error (.unexpected "directives" .list ⟨.schema, none⟩)) ∧
    (Session.new true).ask (.schema unfinished) .types =
      some (.error (.missing "kind" ⟨.type, some "A"⟩)) := by
  have hmakes : ∀ name kind, Collection.types.Makes (typeNode name kind)
      (.type ⟨⟨.type, name, typeNode name kind⟩, kind⟩) := by
    intro name kind
    exact ⟨rfl, ⟨rfl, rfl⟩, _, rfl, TypeKind.ofName?_name kind⟩
  obtain ⟨htypes, -⟩ := ask_sorted (.new : Reachable accented true _) (c := .types) rfl
    (e := .schema accented) rfl rfl
  obtain ⟨-, hdirectives⟩ := ask_sorted (.new : Reachable accented true _) (c := .directives) rfl
    (e := .schema accented) rfl rfl
  obtain ⟨hunfinished, -⟩ := ask_sorted (.new : Reachable unfinished true _) (c := .types) rfl
    (e := .schema unfinished) rfl rfl
  refine ⟨((htypes _ rfl).2.1 _).mpr ⟨_, _, .cons (hmakes _ _) (.cons (hmakes _ _)
    (.cons (hmakes _ _) .nil)), fun _ _ => trivial, rfl, ?_⟩, (hdirectives rfl).1 rfl, ?_⟩
  · refine isSortedByBytes_iff.mpr ⟨List.perm_append_singleton _ [_, _], by decide, ?_⟩
    intro wanted
    by_cases hz : "z" = wanted
    · subst hz
      rfl
    · simp [List.filter_cons, Entity.listedName, hz]
  · have hwrong : (Record.mk ⟨.type, some "A"⟩ (.ofMembers [("name", .str "A")])).Wrong "kind"
        .enumerator (.missing "kind" ⟨.type, some "A"⟩) := .without (.missing rfl rfl)
    exact (hunfinished _ rfl).2.2 _ ⟨[], _, _, rfl, by simp, .inr ⟨"A", rfl, hwrong⟩⟩

end Session

end Introspection
