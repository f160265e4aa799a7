import Introspection.Proofs.CollectionCalls
/-!
# Entities by name

Types, directives, fields, arguments and input fields are looked up by their names. Of types and
fields with one name the last one in the document is found, of the others the first, whether the
list is sorted or not. A name that nothing has is no fault.
-/

namespace Introspection

open Answer (option positions)

/-! ## Positions by name -/

theorem lookup_map_snd {α β : Type} (f : α → β) (key : String) (members : List (String × α)) :
    (members.map fun member => (member.1, f member.2)).lookup key =
      (members.lookup key).map f := by
  induction members with
  | nil => rfl
  | cons member members ih =>
      rw [List.map_cons, List.lookup_cons, List.lookup_cons, ih]
      cases key == member.1 <;> rfl

/-- The positions that a map shows are those under the names. -/
theorem Answer.positions_eq {α : Type} (map : NameMap α) :
    ∃ found : Json, positions map = .json found ∧ ∀ name,
      found.member? name = (map.lookup name).map fun entry => .num (.integer entry.2) := by
  refine ⟨_, rfl, fun name => ?_⟩
  rw [← lookup_map_snd]
  rfl

/-- What a map has under a name is what stands at the position that it shows. -/
theorem NameMap.find?_of_eq_some_iff {α : Type} {name : α → String} {items : List α}
    {wanted : String} {a : α} :
    (NameMap.of name items).find? wanted = some a ↔
      ∃ position : Nat, (((NameMap.of name items).lookup wanted).map fun entry =>
        Json.num (.integer entry.2)) = some (.num (.integer position)) ∧
          items[position]? = some a := by
  cases h : (NameMap.of name items).lookup wanted with
  | none => simp [find?, h]
  | some entry =>
      obtain ⟨hitem, hfind⟩ := getElem?_of_lookup h
      simp only [hfind, Option.map_some, Option.some.injEq, Json.num.injEq, Number.integer.injEq,
        Int.natCast_inj, exists_eq_left', hitem]

namespace Collection

/-! ## Lookups -/

def lookup? : Collection → Option (String → Call)
  | types => some .typeByName
  | directives => some .directiveByName
  | fields => some .field
  | arguments => some .argument
  | inputFields => some .inputField
  | _ => none

def map? : Collection → Option Call
  | types => some .typesByName
  | fields => some .fieldsByName
  | _ => none

/-- Whether of the entities with one name the last one is found, and not the first one. -/
def findsLast : Collection → Bool
  | types => true
  | fields => true
  | _ => false

/-- The entity that is found by a name among those that are made of the items of a document: the
last one that has the name, or the first one. -/
def Finds (c : Collection) (made : List Entity) (name : String) (found : Entity) : Prop :=
  found.listedName = name ∧ ∃ before after, made = before ++ found :: after ∧
    ∀ other ∈ if c.findsLast then after else before, other.listedName ≠ name

def pick (c : Collection) (named : List Entity) : Option Entity :=
  if c.findsLast then named.getLast? else named.head?

variable {c : Collection}

theorem shows_lookup {lookup : String → Call} (h : c.lookup? = some lookup) (name : String) :
    c.shows (lookup name) = some (option fun l => option .one (c.pick (l.named name))) := by
  cases c <;> cases h <;> rfl

theorem shows_map {map : Call} (h : c.map? = some map) :
    c.shows map = some (option fun l => positions (.of Entity.listedName l.entities)) := by
  cases c <;> cases h <;> rfl

theorem findsLast_of_map {map : Call} (h : c.map? = some map) : c.findsLast = true := by
  cases c <;> cases h <;> rfl

theorem pick_eq_none_iff {entities : List Entity} {name : String} :
    c.pick (entities.filter (·.listedName = name)) = none ↔
      ∀ e ∈ entities, e.listedName ≠ name := by
  unfold pick
  split
  · rw [List.getLast?_eq_none_iff, List.filter_eq_nil_iff]
    simp
  · rw [List.head?_eq_none_iff, List.filter_eq_nil_iff]
    simp

theorem pick_eq_some_iff {made : List Entity} {name : String} {found : Entity} :
    c.pick (made.filter (·.listedName = name)) = some found ↔ c.Finds made name found := by
  unfold pick Finds
  split
  · rw [List.getLast?_filter, List.find?_eq_some_iff_append]
    apply and_congr (by simp)
    -- Turned round, what stands before the last one is what comes after the first one.
    constructor
    · rintro ⟨after, before, hmade, hafter⟩
      refine ⟨before.reverse, after.reverse, ?_, by simpa using hafter⟩
      rw [← List.reverse_reverse made, hmade]
      simp
    · rintro ⟨before, after, rfl, hafter⟩
      exact ⟨after.reverse, before.reverse, by simp, by simpa using hafter⟩
  · rw [List.head?_filter, List.find?_eq_some_iff_append]
    simp

theorem pick_of_map {map : Call} (h : c.map? = some map) (entities : List Entity) (name : String) :
    c.pick (entities.filter (·.listedName = name)) =
      (NameMap.of Entity.listedName entities).find? name := by
  rw [pick, if_pos (findsLast_of_map h), NameMap.find?_of]

/-- The map shows where in the list what is found by a name stands. -/
theorem exists_positions {map : Call} (h : c.map? = some map) (entities : List Entity) :
    ∃ shown : Json, positions (.of Entity.listedName entities) = .json shown ∧ ∀ name,
      (shown.member? name = none ↔ ∀ other ∈ entities, other.listedName ≠ name) ∧
      ∀ found, c.pick (entities.filter (·.listedName = name)) = some found ↔
        ∃ position : Nat, shown.member? name = some (.num (.integer position)) ∧
          entities[position]? = some found := by
  obtain ⟨shown, hshown, hmember⟩ := Answer.positions_eq (.of Entity.listedName entities)
  refine ⟨shown, hshown, fun name => ⟨?_, fun found => ?_⟩⟩
  · rw [hmember, Option.map_eq_none_iff, NameMap.lookup_of_eq_none_iff]
  · rw [hmember, pick_of_map h, NameMap.find?_of_eq_some_iff]

theorem Finds.mem {made : List Entity} {name : String} {found : Entity}
    (h : c.Finds made name found) : found ∈ made := by
  obtain ⟨-, before, after, rfl, -⟩ := h
  simp

/-- Entities with one name stand in the list as in the document. -/
theorem filter_arrange (c : Collection) (made : List Entity) (name : String) :
    (c.arrange made).filter (·.listedName = name) = made.filter (·.listedName = name) := by
  unfold arrange
  split
  · exact filter_sortByName Entity.listedName made name
  · rfl

/-- A name finds nothing in a list, or what it finds in the document. -/
theorem pick_arrange (c : Collection) (made : List Entity) (name : String) :
    (c.pick ((c.arrange made).filter (·.listedName = name)) = none ∧
      ∀ other ∈ c.arrange made, other.listedName ≠ name) ∨
    ∃ found ∈ c.arrange made,
      c.pick ((c.arrange made).filter (·.listedName = name)) = some found ∧
        c.Finds made name found := by
  cases hpick : c.pick ((c.arrange made).filter (·.listedName = name)) with
  | none => exact .inl ⟨rfl, pick_eq_none_iff.mp hpick⟩
  | some found =>
      rw [c.filter_arrange] at hpick
      have hfinds := pick_eq_some_iff.mp hpick
      exact .inr ⟨found, (c.perm_arrange made).mem_iff.mpr hfinds.mem, rfl, hfinds⟩

end Collection

namespace Session

variable {s : Schema} {recording : Bool} {session : Session}

/-- A list, the lookups in it and the map of it fail alike, or they do not apply alike, or they
agree. Then a lookup finds nothing just where nothing in the list has the name, and else the last or
the first of what has the name in the document. The map has just the names of what is in the list,
each with the position in the list of the entity that is looked up by it. -/
theorem ask_byName (hsession : Reachable s recording session) {c : Collection}
    {lookup : String → Call} (hlookup : c.lookup? = some lookup) {e : Entity} {r : Record}
    (he : e.Within s) (hr : c.record? e = some r) (name : String) :
    (∃ fault, session.ask e c.call = some (.error fault) ∧
      session.ask e (lookup name) = some (.error fault) ∧
      ∀ map, c.map? = some map → session.ask e map = some (.error fault)) ∨
    (session.ask e c.call = some (.ok .nothing) ∧
      session.ask e (lookup name) = some (.ok .nothing) ∧
      ∀ map, c.map? = some map → session.ask e map = some (.ok .nothing)) ∨
    ∃ items made entities, r.json.member? c.key = some (.arr items) ∧
      List.Forall₂ c.Makes items made ∧ c.Orders made entities ∧
      session.ask e c.call = some (.ok (.many entities)) ∧
      (session.ask e (lookup name) = some (.ok .nothing) ∧
        (∀ other ∈ entities, other.listedName ≠ name) ∨
      ∃ found ∈ entities, session.ask e (lookup name) = some (.ok (.one found)) ∧
        c.Finds made name found) ∧
      ∀ map, c.map? = some map → ∃ positions, session.ask e map = some (.ok (.json positions)) ∧
        (positions.member? name = none ↔ ∀ other ∈ entities, other.listedName ≠ name) ∧
        ∀ found, session.ask e (lookup name) = some (.ok (.one found)) ↔
          ∃ position : Nat, positions.member? name = some (.num (.integer position)) ∧
            entities[position]? = some found := by
  have hlist := hsession.ask_eq_of_shows he hr c.shows_call
  have hfound := hsession.ask_eq_of_shows he hr (Collection.shows_lookup hlookup name)
  have hmap : ∀ map, c.map? = some map → session.ask e map = some ((c.read r).result.map
      (option fun l => positions (.of Entity.listedName l.entities))) :=
    fun map h => hsession.ask_eq_of_shows he hr (Collection.shows_map h)
  cases hread : (c.read r).result with
  | error fault =>
      rw [hread] at hlist hfound hmap
      exact .inl ⟨fault, hlist, hfound, hmap⟩
  | ok listed =>
      rw [hread] at hlist hfound hmap
      cases listed with
      | none => exact .inr (.inl ⟨hlist, hfound, hmap⟩)
      | some listing =>
          obtain ⟨items, made, hitems, hmade, rfl⟩ := Collection.exists_made_of_result_read hread
          simp only [Except.map, option, Listing.named, Listing.entities_map_mark]
            at hlist hfound hmap
          refine .inr (.inr ⟨items, made, c.arrange made, hitems, hmade,
            Collection.orders_iff.mpr rfl, hlist, ?_, fun map h => ?_⟩)
          · rcases c.pick_arrange made name with ⟨hpick, hnone⟩ | ⟨found, hmem, hpick, hfinds⟩
            · rw [hpick] at hfound
              exact .inl ⟨hfound, hnone⟩
            · rw [hpick] at hfound
              exact .inr ⟨found, hmem, hfound, hfinds⟩
          · obtain ⟨shown, hshown, hmember⟩ := Collection.exists_positions h (c.arrange made)
            rw [hshown] at hmap
            refine ⟨shown, hmap map h, (hmember name).1, fun found => ?_⟩
            rw [hfound, ← (hmember name).2]
            cases c.pick ((c.arrange made).filter (·.listedName = name)) <;> simp

def namesake (isDeprecated : Bool) : Json :=
  .ofMembers [("isDeprecated", .bool isDeprecated), ("name", .str "a")]

def namesakes : TypeDefinition :=
  ⟨⟨.type, "T", .ofMembers [("fields", .arr [namesake false, namesake true])]⟩, .object⟩

theorem ask_byName_namesakes :
    (Session.new true).ask (.type namesakes) (.field "a") =
      some (.ok (.one (.field ⟨⟨.field, "a", namesake true⟩⟩))) ∧
    ∃ positions, (Session.new true).ask (.type namesakes) .fieldsByName =
      some (.ok (.json positions)) ∧ positions.member? "a" = some (.num (.integer 1)) := by
  have hnew : Reachable ⟨⟨⟨.schema, none⟩, .null⟩⟩ true (.new true) := .new
  have hlist : (Session.new true).ask (.type namesakes) (.fields true) = some (.ok (.many
      [.field ⟨⟨.field, "a", namesake false⟩⟩, .field ⟨⟨.field, "a", namesake true⟩⟩])) := by
    have ht : (Entity.type namesakes).Within ⟨⟨⟨.schema, none⟩, .null⟩⟩ := trivial
    rw [hnew.ask_eq ht]
    rfl
  rcases ask_byName hnew (c := .fields) rfl (e := .type namesakes) trivial rfl "a" with
    ⟨fault, h, -⟩ | ⟨h, -⟩ | ⟨items, made, entities, hitems, hmade, horders, h, hfound, hmap⟩
  · cases hlist.symm.trans h
  · cases hlist.symm.trans h
  · cases hlist.symm.trans h
    obtain rfl : _ = made := horders
    rcases hfound with ⟨-, hnone⟩ | ⟨found, -, hfound, hfinds⟩
    · exact absurd rfl (hnone _ (.head _))
    · have hlast : some (Entity.field ⟨⟨.field, "a", namesake true⟩⟩) = some found :=
        Collection.pick_eq_some_iff.mpr hfinds
      cases hlast
      obtain ⟨shown, hshown, -, hposition⟩ := hmap _ rfl
      obtain ⟨position, hposition, hat⟩ := (hposition _).mp hfound
      refine ⟨hfound, shown, hshown, ?_⟩
      match position, hat with
      | 0, hfirst =>
          have hsame : namesake false = namesake true := by simpa using hfirst
          exact absurd hsame (by decide)
      | 1, _ => exact hposition

end Session

end Introspection
