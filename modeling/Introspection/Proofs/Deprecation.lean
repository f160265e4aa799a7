import Introspection.Proofs.CollectionCalls
/-!
# Lists with deprecated entities

Fields and enum values are listed with or without those that are deprecated. Both views come from
one reading of the list, so that they fail alike, and the shorter one is what the longer one has
left when the deprecated entities are left out.
-/

namespace Introspection

def Collection.views? : Collection → Option (Bool → Call)
  | fields => some .fields
  | enumValues => some .enumValues
  | _ => none

namespace Collection

variable {c : Collection} {view : Bool → Call} {item : Json}

theorem shows_views (h : c.views? = some view) (withDeprecated : Bool) :
    c.shows (view withDeprecated) =
      some (Answer.option fun l => .many (l.view withDeprecated)) := by
  cases c <;> cases h <;> rfl

theorem makeable_of_views (h : c.views? = some view) :
    c.Makeable item ↔ ∃ name, item.member? "name" = some (.str name) := by
  cases c <;> cases h <;> exact Iff.rfl

theorem markable_of_views (h : c.views? = some view) :
    c.Markable item ↔ ∃ flag, item.member? "isDeprecated" = some (.bool flag) := by
  cases c <;> cases h <;> exact Iff.rfl

theorem refuses_of_views (h : c.views? = some view) :
    c.Refuses = fun item => (Record.unnamed c.owner item).Wrong "name" .string := by
  cases c <;> cases h <;> rfl

end Collection

theorem Listing.view_map_mark (es : List Entity) (withDeprecated : Bool) :
    Listing.view (es.map fun e => (e, e.mark)) withDeprecated =
      if withDeprecated then es else es.filter (!·.mark) := by
  simp [Listing.view]

namespace Session

variable {s : Schema} {recording : Bool} {session : Session}

/-- An entity that stands in one of these lists answers whether it is deprecated. -/
theorem Reachable.ask_isDeprecated (hsession : Reachable s recording session) {c : Collection}
    {view : Bool → Call} (hview : c.views? = some view) {item : Json} {e : Entity}
    (hmakes : c.Makes item e) (hmark : e.Marked e.mark) :
    session.ask e .isDeprecated = some (.ok (.bool e.mark)) := by
  have hread : ∀ n : Node, n.json.member? "isDeprecated" = some (.bool e.mark) →
      (Answer.bool <$> View.read n.isDeprecated).reading.result = .ok (.bool e.mark) := by
    intro n hn
    rw [View.reading_map, View.reading_read, Reading.result_map, Node.isDeprecated,
      ((n.record.endsJust_bool "isDeprecated").ok e.mark).mpr hn]
    rfl
  cases e with
  | field f =>
      have hf : (Entity.field f).Within s := trivial
      rw [hsession.ask_eq hf]
      exact congrArg some (hread f.toNode hmark)
  | enumValue v =>
      have hv : (Entity.enumValue v).Within s := trivial
      rw [hsession.ask_eq hv]
      exact congrArg some (hread v.toNode hmark)
  | _ => cases c <;> cases hview <;> cases hmakes

/-- A list with deprecated entities is read if and only if each item has a name and says whether
it is deprecated. Then both views are in the order of the list, and the one without the deprecated
entities is the other one without those that answer that they are. Both views fail alike, with the
fault of the first name in the order of the document, and if all items have names with that of
the first entity in the order of the list. -/
theorem ask_views (hsession : Reachable s recording session) {c : Collection}
    {view : Bool → Call} (hview : c.views? = some view) {t : TypeDefinition} {items : List Json}
    (hitems : t.json.member? c.key = some (.arr items)) :
    (∀ withDeprecated, (∃ answer, session.ask (.type t) (view withDeprecated) = some (.ok answer)) ↔
      ∀ item ∈ items, (∃ name, item.member? "name" = some (.str name)) ∧
        ∃ flag, item.member? "isDeprecated" = some (.bool flag)) ∧
    (∀ withDeprecated answer, session.ask (.type t) (view withDeprecated) = some (.ok answer) →
      ∃ made entities, List.Forall₂ c.Makes items made ∧ c.Orders made entities ∧
        session.ask (.type t) (view true) = some (.ok (.many entities)) ∧
        session.ask (.type t) (view false) = some (.ok (.many (entities.filter (!·.mark)))) ∧
        c.Orders (made.filter (!·.mark)) (entities.filter (!·.mark)) ∧
        ∀ e ∈ entities, session.ask e .isDeprecated = some (.ok (.bool e.mark))) ∧
    (∀ withDeprecated fault, session.ask (.type t) (view withDeprecated) = some (.error fault) ↔
      FirstFault (fun item => (Record.unnamed c.owner item).Wrong "name" .string) items fault ∨
      ∃ made entities, List.Forall₂ c.Makes items made ∧ c.Orders made entities ∧
        FirstFault Entity.Unmarked entities fault) := by
  have hr : c.record? (.type t) = some t.record := by cases c <;> cases hview <;> rfl
  have ht : (Entity.type t).Within s := trivial
  have hok : ∀ {withDeprecated : Bool} {answer : Answer},
      session.ask (.type t) (view withDeprecated) = some (.ok answer) ↔
        ∃ listing, c.Lists items listing ∧ .many (listing.view withDeprecated) = answer :=
    hsession.ask_eq_ok_iff ht hr hitems (Collection.shows_views hview _)
  refine ⟨fun withDeprecated => ?_, fun withDeprecated answer h => ?_,
    fun withDeprecated fault => ?_⟩
  · simp only [hok, ← Collection.makeable_of_views hview, ← Collection.markable_of_views hview,
      ← Collection.exists_lists_iff]
    exact ⟨fun ⟨_, listing, h, _⟩ => ⟨listing, h⟩, fun ⟨listing, h⟩ => ⟨_, listing, h, rfl⟩⟩
  · obtain ⟨listing, hlisting, -⟩ := hok.mp h
    obtain ⟨made, hmade, hmarkable, rfl⟩ := Collection.lists_iff.mp hlisting
    have horders : c.Orders made (c.arrange made) := Collection.orders_iff.mpr rfl
    refine ⟨made, c.arrange made, hmade, horders, hok.mpr ⟨_, hlisting, ?_⟩,
      hok.mpr ⟨_, hlisting, ?_⟩, horders.filter _, fun e he => ?_⟩
    · rw [Listing.view_map_mark, if_pos rfl]
    · rw [Listing.view_map_mark, if_neg Bool.false_ne_true]
    · have hmem : e ∈ made := (c.perm_arrange made).mem_iff.mp he
      obtain ⟨item, hmakes⟩ := (exists_forall₂_iff _ _).mp ⟨_, List.Forall₂.flip hmade⟩ e hmem
      exact hsession.ask_isDeprecated hview hmakes (hlisting.marked (List.mem_map_of_mem he))
  · rw [hsession.ask_eq_error_iff ht hr hitems (Collection.shows_views hview _),
      Collection.Fails, Collection.refuses_of_views hview]
    simp only [Collection.orders_iff, exists_and_left, exists_eq_left]

def flagNode (name : String) (flag : Json) : Json :=
  .ofMembers [("isDeprecated", flag), ("name", .str name)]

/-- A type with fields and enum values of one name, of which some are deprecated. -/
def doubled : TypeDefinition :=
  ⟨⟨.type, "E", .ofMembers [("enumValues", .arr [flagNode "b" (.bool true),
    flagNode "a" (.bool false), flagNode "b" (.bool false)])]⟩, .enum⟩

def flagless : TypeDefinition :=
  ⟨⟨.type, "E", .ofMembers [
    ("enumValues", .arr [flagNode "z" .null, .ofMembers [("name", .str "a")]]),
    ("fields", .arr [flagNode "z" .null, .ofMembers [("name", .str "a")]])]⟩, .enum⟩

theorem ask_views_flagless :
    (∃ answer, (Session.new true).ask (.type doubled) (.enumValues false) = some (.ok answer)) ∧
    (Session.new true).ask (.type flagless) (.enumValues false) =
      some (.error (.missing "isDeprecated" ⟨.enumValue, some "a"⟩)) ∧
    (Session.new true).ask (.type flagless) (.fields true) =
      some (.error (.unexpected "isDeprecated" .bool ⟨.field, some "z"⟩)) := by
  have hnew : Reachable ⟨⟨⟨.schema, none⟩, .null⟩⟩ true (.new true) := .new
  obtain ⟨hdoubled, -⟩ := ask_views hnew (c := .enumValues) rfl (t := doubled) rfl
  obtain ⟨-, -, hvalues⟩ := ask_views hnew (c := .enumValues) rfl (t := flagless) rfl
  obtain ⟨-, -, hfields⟩ := ask_views hnew (c := .fields) rfl (t := flagless) rfl
  refine ⟨(hdoubled false).mpr ?_, (hvalues false _).mpr (.inr ?_), (hfields true _).mpr (.inr ?_)⟩
  · simp only [List.forall_mem_cons, List.not_mem_nil, false_implies, implies_true, and_true]
    exact ⟨⟨⟨_, rfl⟩, _, rfl⟩, ⟨⟨_, rfl⟩, _, rfl⟩, ⟨_, rfl⟩, _, rfl⟩
  · refine ⟨[.enumValue ⟨⟨.enumValue, "z", flagNode "z" .null⟩⟩,
      .enumValue ⟨⟨.enumValue, "a", .ofMembers [("name", .str "a")]⟩⟩], _,
      .cons ⟨rfl, rfl, rfl⟩ (.cons ⟨rfl, rfl, rfl⟩ .nil),
      isSortedByBytes_iff.mpr ⟨.swap _ _ _, by decide, fun wanted => ?_⟩,
      [], _, _, rfl, by simp, .without (.missing rfl rfl)⟩
    by_cases ha : "a" = wanted
    · subst ha
      rfl
    · simp [List.filter_cons, Entity.listedName, ha]
  · exact ⟨[.field ⟨⟨.field, "z", flagNode "z" .null⟩⟩,
      .field ⟨⟨.field, "a", .ofMembers [("name", .str "a")]⟩⟩], _,
      .cons ⟨rfl, rfl, rfl⟩ (.cons ⟨rfl, rfl, rfl⟩ .nil), rfl,
      [], _, _, rfl, by simp, .unexpected rfl rfl⟩

end Session

end Introspection
