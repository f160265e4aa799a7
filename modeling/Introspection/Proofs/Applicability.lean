import Introspection.Proofs.CollectionCalls
/-!
# Lists that may not apply

What lists a type has is told by its node alone, whatever its kind: null stands for a list that
does not apply, which is not the same as an empty one. All calls about a list fail alike, or all
find that it does not apply, or all find it, and no other key of the node has a part in that.
-/

namespace Introspection

open Reading

/-! ## What is asked -/

/-- What a call asks of a list: entities in a list or by their names, the one that a name finds,
or whether the list has a name. -/
inductive Inquiry where
  | list
  | map
  | lookup (name : String)
  | test (name : String)

namespace Inquiry

def absent : Inquiry → Answer
  | test _ => .bool false
  | _ => .nothing

/-- What is told of the entities of a list that applies. Lists and maps are told even if there are
no entities. -/
def Tells (entities : List Entity) : Inquiry → Answer → Prop
  | list, answer => ∃ shown, answer = .many shown ∧ shown.Sublist entities
  | map, answer => ∃ members, answer = .json (.obj members)
  | lookup name, answer =>
      (answer = .nothing ∧ ∀ e ∈ entities, e.listedName ≠ name) ∨
        ∃ e ∈ entities, e.listedName = name ∧ answer = .one e
  | test name, answer => ∃ b, answer = .bool b ∧ (b = true ↔ ∃ e ∈ entities, e.listedName = name)

end Inquiry

namespace Collection

def ofType : List Collection := [fields, inputFields, interfaces, possibleTypes, enumValues]

def asks? : Collection → Call → Option Inquiry
  | fields, .fields _ => some .list
  | fields, .fieldsByName => some .map
  | fields, .field name => some (.lookup name)
  | inputFields, .inputFields => some .list
  | inputFields, .requiredInputFields => some .list
  | inputFields, .optionalInputFields => some .list
  | inputFields, .inputField name => some (.lookup name)
  | interfaces, .interfaces => some .list
  | interfaces, .implements name => some (.test name)
  | possibleTypes, .possibleTypes => some .list
  | possibleTypes, .isPossibleType name => some (.test name)
  | enumValues, .enumValues _ => some .list
  | _, _ => none

end Collection

/-! ## What is shown -/

namespace Listing

open Answer (option positions)

variable (listing : Listing)

theorem sublist_marked (mark : Bool) : (listing.marked mark).Sublist listing.entities :=
  List.filter_sublist.map _

theorem sublist_view (withDeprecated : Bool) :
    (listing.view withDeprecated).Sublist listing.entities := by
  cases withDeprecated with
  | false => exact listing.sublist_marked false
  | true => exact .refl _

theorem tells_of_mem_named {pick : List Entity → Option Entity} {name : String}
    (hnone : ∀ named, pick named = none → named = [])
    (hsome : ∀ named e, pick named = some e → e ∈ named) :
    (Inquiry.lookup name).Tells listing.entities (option .one (pick (listing.named name))) := by
  cases hpick : pick (listing.named name) with
  | none =>
      have hnamed := List.filter_eq_nil_iff.mp (hnone _ hpick)
      exact .inl ⟨rfl, fun e he => by simpa using hnamed e he⟩
  | some e =>
      obtain ⟨hmem, hname⟩ := List.mem_filter.mp (hsome _ e hpick)
      exact .inr ⟨e, hmem, by simpa using hname, rfl⟩

theorem tells_test (name : String) :
    (Inquiry.test name).Tells listing.entities (.bool (listing.named name ≠ [])) := by
  refine ⟨_, rfl, ?_⟩
  rw [named, decide_eq_true_eq, ne_eq, List.filter_eq_nil_iff]
  simp

end Listing

namespace Collection

variable {c : Collection} {r : Record}

/-- What a call shows is what it asks for, whether the list applies or not. -/
theorem exists_shows_of_asks? {call : Call} {inquiry : Inquiry}
    (h : c.asks? call = some inquiry) :
    ∃ f, c.shows call = some f ∧ f none = inquiry.absent ∧
      ∀ listing : Listing, inquiry.Tells listing.entities (f (some listing)) := by
  have hfirst : ∀ (listing : Listing) (name : String), (Inquiry.lookup name).Tells
      listing.entities (Answer.option .one (listing.named name).head?) := fun listing name =>
    listing.tells_of_mem_named (fun _ => List.head?_eq_none_iff.mp) fun _ _ => List.mem_of_head?
  have hlast : ∀ (listing : Listing) (name : String), (Inquiry.lookup name).Tells
      listing.entities (Answer.option .one (listing.named name).getLast?) := fun listing name =>
    listing.tells_of_mem_named (fun _ => List.getLast?_eq_none_iff.mp) fun _ _ =>
      List.mem_of_getLast?
  -- One case for each call of the table. Fields are looked up from the end of the list, and input
  -- fields from its beginning.
  cases c <;> cases call <;> cases h
  case fields.fields withDeprecated =>
    exact ⟨_, rfl, rfl, fun listing => ⟨_, rfl, listing.sublist_view withDeprecated⟩⟩
  case fields.fieldsByName => exact ⟨_, rfl, rfl, fun _ => ⟨_, rfl⟩⟩
  case fields.field name => exact ⟨_, rfl, rfl, fun listing => hlast listing name⟩
  case enumValues.enumValues withDeprecated =>
    exact ⟨_, rfl, rfl, fun listing => ⟨_, rfl, listing.sublist_view withDeprecated⟩⟩
  case interfaces.interfaces => exact ⟨_, rfl, rfl, fun _ => ⟨_, rfl, .refl _⟩⟩
  case interfaces.implements name =>
    exact ⟨_, rfl, rfl, fun listing => listing.tells_test name⟩
  case possibleTypes.possibleTypes => exact ⟨_, rfl, rfl, fun _ => ⟨_, rfl, .refl _⟩⟩
  case possibleTypes.isPossibleType name =>
    exact ⟨_, rfl, rfl, fun listing => listing.tells_test name⟩
  case inputFields.inputFields => exact ⟨_, rfl, rfl, fun _ => ⟨_, rfl, .refl _⟩⟩
  case inputFields.requiredInputFields =>
    exact ⟨_, rfl, rfl, fun listing => ⟨_, rfl, listing.sublist_marked true⟩⟩
  case inputFields.optionalInputFields =>
    exact ⟨_, rfl, rfl, fun listing => ⟨_, rfl, listing.sublist_marked false⟩⟩
  case inputFields.inputField name => exact ⟨_, rfl, rfl, fun listing => hfirst listing name⟩

theorem record?_of_mem (h : c ∈ ofType) (t : TypeDefinition) :
    c.record? (.type t) = some t.record := by
  cases c <;> first | rfl | exact absurd h (by decide)

theorem isNullable_of_mem (h : c ∈ ofType) : c.isNullable = true := by
  cases c <;> first | rfl | exact absurd h (by decide)

/-! ## Reading a list that may not apply -/

theorem result_read_eq_ok_none (hc : c.isNullable = true) :
    (c.read r).result = .ok none ↔ r.json.member? c.key = some .null := by
  have hnull := (r.endsJust_listOrNull c.key).ok none
  simp only [Json.ofOption] at hnull
  rw [← hnull, read, Record.readList, if_pos hc, result_bind]
  rcases (r.listOrNull c.key).result with fault | (_ | items)
  · simp [bind, Except.bind]
  · simp [bind, Except.bind, pure]
  · cases hread : (c.readAll items).result <;>
      simp [bind, Except.bind, Except.map, result_map, hread]

theorem result_read_of_wrong (hc : c.isNullable = true) {fault : Fault}
    (h : r.Wrong c.key .listOrNull fault) : (c.read r).result = .error fault := by
  rw [read, Record.readList, if_pos hc, result_bind,
    ((r.endsJust_listOrNull c.key).error fault).mpr h]
  rfl

theorem result_read_of_empty (h : r.json.member? c.key = some (.arr [])) :
    (c.read r).result = .ok (some []) := by
  have hlists : c.Lists [] [] := by
    refine lists_iff.mpr ⟨[], .nil, by simp, ?_⟩
    rw [(List.perm_nil.mp (c.perm_arrange []))]
    rfl
  rw [read_of_items h, result_map, ((c.endsJust_readAll []).ok []).mpr hlists]
  rfl

/-- What is read of a list is told by the place of the record and by what stands under the key of
the list. -/
theorem read_congr {r' : Record} (hc : c.isNullable = true) (hplace : r'.place = r.place)
    (hobject : r.json.isObject = true) (hobject' : r'.json.isObject = true)
    (h : r'.json.member? c.key = r.json.member? c.key) : c.read r' = c.read r := by
  have hlist : r'.listOrNull c.key = r.listOrNull c.key := by
    rw [Record.listOrNull, Record.listOrNull, Record.fetch_congr hplace hobject hobject' h]
    simp only [Record.unexpected, hplace]
  rw [read, read, Record.readList, Record.readList, if_pos hc, if_pos hc, hlist]

end Collection

/-- The record of a type that has been read, which is an object. -/
theorem TypeDefinition.record_of_read {node : Json} {t : TypeDefinition}
    (h : (read node).result = .ok t) :
    t.record = ⟨⟨.type, some t.name⟩, node⟩ ∧ node.isObject = true := by
  obtain ⟨rfl, hstands⟩ := ((endsJust_read node).ok t).mp h
  refine ⟨?_, Json.isObject_of_member? hstands.node.name⟩
  rw [Node.record, hstands.node.owner]

/-! ## Calls in sessions -/

namespace Session

/-- How a list of a type stands in a session, for all calls about it alike. -/
inductive Applies (session : Session) (t : TypeDefinition) (c : Collection) : Prop
  | failed (fault : Fault) (all : ∀ call inquiry, c.asks? call = some inquiry →
      session.ask (.type t) call = some (.error fault))
  | absent (null : t.json.member? c.key = some .null)
      (all : ∀ call inquiry, c.asks? call = some inquiry →
        session.ask (.type t) call = some (.ok inquiry.absent))
  | present (items : List Json) (made entities : List Entity)
      (array : t.json.member? c.key = some (.arr items))
      (makes : List.Forall₂ c.Makes items made) (orders : c.Orders made entities)
      (whole : session.ask (.type t) c.call = some (.ok (.many entities)))
      (all : ∀ call inquiry, c.asks? call = some inquiry → ∃ answer,
        session.ask (.type t) call = some (.ok answer) ∧ inquiry.Tells entities answer)

variable {s : Schema} {recording : Bool} {session : Session} {c : Collection}

/-- All that is found of a list of a type is shown of one reading, the same way in all sessions. -/
theorem exists_ask_eq (hc : c ∈ Collection.ofType) {call : Call} {inquiry : Inquiry}
    (hasks : c.asks? call = some inquiry) :
    ∃ f : Option Listing → Answer, f none = inquiry.absent ∧
      (∀ listing, inquiry.Tells listing.entities (f (some listing))) ∧
      ∀ {s recording session}, Reachable s recording session → ∀ t : TypeDefinition,
        session.ask (.type t) call = some ((c.read t.record).result.map f) := by
  obtain ⟨f, hf, habsent, htells⟩ := Collection.exists_shows_of_asks? hasks
  refine ⟨f, habsent, htells, fun {s} _ _ hsession t => ?_⟩
  have ht : (Entity.type t).Within s := trivial
  exact hsession.ask_eq_of_shows ht (Collection.record?_of_mem hc t) hf

theorem Reachable.ask_of_fault (hsession : Reachable s recording session)
    (hc : c ∈ Collection.ofType) {t : TypeDefinition} {fault : Fault}
    (h : (c.read t.record).result = .error fault) (call : Call) (inquiry : Inquiry)
    (hasks : c.asks? call = some inquiry) :
    session.ask (.type t) call = some (.error fault) := by
  obtain ⟨f, -, -, hask⟩ := exists_ask_eq hc hasks
  rw [hask hsession, h]
  rfl

theorem Reachable.ask_of_null (hsession : Reachable s recording session)
    (hc : c ∈ Collection.ofType) {t : TypeDefinition} (h : t.json.member? c.key = some .null)
    (call : Call) (inquiry : Inquiry) (hasks : c.asks? call = some inquiry) :
    session.ask (.type t) call = some (.ok inquiry.absent) := by
  have hread : (c.read t.record).result = .ok none :=
    (Collection.result_read_eq_ok_none (Collection.isNullable_of_mem hc)).mpr h
  obtain ⟨f, habsent, -, hask⟩ := exists_ask_eq hc hasks
  rw [hask hsession, hread, ← habsent]
  rfl

theorem Reachable.applies (hsession : Reachable s recording session)
    (hc : c ∈ Collection.ofType) (t : TypeDefinition) : session.Applies t c := by
  cases hread : (c.read t.record).result with
  | error fault => exact .failed fault (hsession.ask_of_fault hc hread)
  | ok found =>
      cases found with
      | none =>
          have hnull :=
            (Collection.result_read_eq_ok_none (Collection.isNullable_of_mem hc)).mp hread
          exact .absent hnull (hsession.ask_of_null hc hnull)
      | some listing =>
          have ht : (Entity.type t).Within s := trivial
          obtain ⟨items, made, hitems, hmade, rfl⟩ := Collection.exists_made_of_result_read hread
          refine .present items made (c.arrange made) hitems hmade (Collection.orders_iff.mpr rfl)
            ?_ fun call inquiry hasks => ?_
          · rw [hsession.ask_eq_of_shows ht (Collection.record?_of_mem hc t) c.shows_call, hread]
            simp [Except.map, Answer.option]
          · obtain ⟨f, -, htells, hask⟩ := exists_ask_eq hc hasks
            have hlisting := htells ((c.arrange made).map fun e => (e, e.mark))
            rw [Listing.entities_map_mark] at hlisting
            exact ⟨_, by rw [hask hsession, hread]; rfl, hlisting⟩

/-- Whatever its kind, each list of a type fails for all calls about it with one fault, or does
not apply for any of them, or is answered by all of them. A key that is absent or has another value
than a list or null is told by the error, an empty list is found, and nothing but the name of the
type and the value under the key of the list has a part in the answers. -/
theorem ask_lists_of_type (hsession : Reachable s recording session)
    (hc : c ∈ Collection.ofType) {node : Json} {t : TypeDefinition}
    (ht : (TypeDefinition.read node).result = .ok t) :
    session.Applies t c ∧
    (node.member? c.key = some .null → ∀ call inquiry, c.asks? call = some inquiry →
      session.ask (.type t) call = some (.ok inquiry.absent)) ∧
    (node.member? c.key = none → ∃ fault : Fault,
      fault.toError = ⟨.missingField, "`" ++ c.key ++ "`", some ("__Type `" ++ t.name ++ "`")⟩ ∧
      ∀ call inquiry, c.asks? call = some inquiry →
        session.ask (.type t) call = some (.error fault)) ∧
    (∀ value, node.member? c.key = some value → value ≠ .null → (∀ items, value ≠ .arr items) →
      ∃ fault : Fault, fault.toError = ⟨.unexpectedValue,
          "expected a list or null for `" ++ c.key ++ "`", some ("__Type `" ++ t.name ++ "`")⟩ ∧
        ∀ call inquiry, c.asks? call = some inquiry →
          session.ask (.type t) call = some (.error fault)) ∧
    (node.member? c.key = some (.arr []) → ∀ call inquiry, c.asks? call = some inquiry →
      ∃ answer, session.ask (.type t) call = some (.ok answer) ∧ inquiry.Tells [] answer) ∧
    ∀ {s' recording' session' node' t'}, Reachable s' recording' session' →
      (TypeDefinition.read node').result = .ok t' → t'.name = t.name →
      node'.member? c.key = node.member? c.key →
      ∀ call inquiry, c.asks? call = some inquiry →
        session'.ask (.type t') call = session.ask (.type t) call := by
  have hnullable := Collection.isNullable_of_mem hc
  obtain ⟨hrecord, hobject⟩ := TypeDefinition.record_of_read ht
  have hjson : t.json = node := congrArg Record.json hrecord
  refine ⟨hsession.applies hc t, fun hnull => hsession.ask_of_null hc (hjson ▸ hnull),
    fun habsent => ?missing, fun value hvalue hnull harray => ?other,
    fun hempty call inquiry hasks => ?empty,
    fun {_ _ _ _ t'} hsession' ht' hname hsame call inquiry hasks => ?alike⟩
  case missing =>
    have hwrong : t.record.Wrong c.key .listOrNull (.missing c.key ⟨.type, some t.name⟩) := by
      rw [hrecord]
      exact .without (.missing hobject habsent)
    exact ⟨_, rfl, hsession.ask_of_fault hc (Collection.result_read_of_wrong hnullable hwrong)⟩
  case other =>
    have hshape : Shape.listOrNull.fits value = false := by
      cases value with
      | null => exact absurd rfl hnull
      | arr items => exact absurd rfl (harray items)
      | _ => rfl
    have hwrong : t.record.Wrong c.key .listOrNull
        (.unexpected c.key .listOrNull ⟨.type, some t.name⟩) := by
      rw [hrecord]
      exact .unexpected hvalue hshape
    exact ⟨_, rfl, hsession.ask_of_fault hc (Collection.result_read_of_wrong hnullable hwrong)⟩
  case empty =>
    rw [← hjson] at hempty
    obtain ⟨f, -, htells, hask⟩ := exists_ask_eq hc hasks
    refine ⟨_, ?_, htells []⟩
    rw [hask hsession, Collection.result_read_of_empty hempty]
    rfl
  case alike =>
    obtain ⟨hrecord', hobject'⟩ := TypeDefinition.record_of_read ht'
    have hplace : t'.record.place = t.record.place := by rw [hrecord, hrecord', hname]
    have hread : c.read t'.record = c.read t.record := by
      rw [hrecord] at hplace ⊢
      rw [hrecord'] at hplace ⊢
      exact Collection.read_congr hnullable hplace hobject hobject' hsame
    obtain ⟨f, -, -, hask⟩ := exists_ask_eq hc hasks
    rw [hask hsession, hask hsession', hread]

/-- A type of any kind whose fields do not apply, that has no input fields, whose interfaces are
no list, and that has no key for its possible types. -/
def irregular (kind : TypeKind) : TypeDefinition :=
  ⟨⟨.type, "L", .ofMembers [("fields", .null), ("inputFields", .arr []),
    ("interfaces", .bool true), ("kind", .str kind.name), ("name", .str "L")]⟩, kind⟩

theorem ask_lists_of_type_irregular :
    let ask := (Session.new true).ask (.type (irregular .list))
    (∀ name, ask (.field name) = some (.ok .nothing)) ∧
    (∃ answer, ask .inputFields = some (.ok answer) ∧ Inquiry.list.Tells [] answer) ∧
    (∃ fault : Fault, fault.toError = ⟨.unexpectedValue,
        "expected a list or null for `interfaces`", some "__Type `L`"⟩ ∧
      ∀ name, ask (.implements name) = some (.error fault)) ∧
    (∃ fault : Fault, fault.toError = ⟨.missingField, "`possibleTypes`", some "__Type `L`"⟩ ∧
      ask .possibleTypes = some (.error fault)) ∧
    ∀ name, (Session.new false).ask (.type (irregular .nonNull)) (.implements name) =
      ask (.implements name) := by
  have hnew : ∀ recording, Reachable ⟨⟨⟨.schema, none⟩, .null⟩⟩ recording (.new recording) :=
    fun _ => .new
  have hread : ∀ kind, (TypeDefinition.read (irregular kind).json).result =
      .ok (irregular kind) := fun kind => by cases kind <;> rfl
  have hlists := fun c (hc : c ∈ Collection.ofType) =>
    ask_lists_of_type (hnew true) hc (hread .list)
  obtain ⟨-, hnull, -⟩ := hlists .fields (by decide)
  obtain ⟨-, -, -, -, hempty, -⟩ := hlists .inputFields (by decide)
  obtain ⟨-, -, -, hother, -, hsame⟩ := hlists .interfaces (by decide)
  obtain ⟨-, -, hmissing, -⟩ := hlists .possibleTypes (by decide)
  refine ⟨fun name => hnull rfl _ (.lookup name) rfl, hempty rfl _ .list rfl, ?_, ?_,
    fun name => hsame (hnew false) (hread .nonNull) rfl rfl _ (.test name) rfl⟩
  · obtain ⟨fault, herror, hall⟩ := hother (.bool true) rfl nofun nofun
    exact ⟨fault, herror, fun name => hall _ (.test name) rfl⟩
  · obtain ⟨fault, herror, hall⟩ := hmissing rfl
    exact ⟨fault, herror, hall _ .list rfl⟩

end Session

end Introspection
