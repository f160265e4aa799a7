import Introspection.Proofs.CollectionCalls
/-!
# Required and optional values

Arguments and input fields are read all or none. The values stand in the order of the document, and
those of which the type is outermost a non-null wrapper are set apart from the others. All names are
read before any type, so that a name that cannot be read is found first wherever it stands.
-/

namespace Introspection

open Answer (bool option items)
open Reading

/-! ## Values of a list -/

def InputValue.MadeOf (item : Json) (v : InputValue) : Prop :=
  v.json = item ∧ v.toNode.Stands .inputValue

theorem InputValue.endsJust_read (item : Json) :
    (InputValue.read item).EndsJust (InputValue.MadeOf item)
      ((Record.unnamed .inputValue item).Wrong "name" .string) := by
  refine (endsJust_map (Node.endsJust_read .inputValue item)).congr (fun v => ?_) fun _ => Iff.rfl
  constructor
  · rintro ⟨n, hn, rfl⟩
    exact hn
  · intro hv
    exact ⟨v.toNode, hv, rfl⟩

namespace InputValues

/-- The values that are made of items: one of each, in the order of the document, and divided by
whether the outermost node of the type is a non-null wrapper. -/
structure MadeOf (items : List Json) (values : InputValues) : Prop where
  all : List.Forall₂ InputValue.MadeOf items values.all
  typed : ∀ item ∈ items, ∃ node, item.member? "type" = some node ∧ TypeRef.Accepted node
  required : values.required = values.all.filter (·.json.hasNonNullType)
  optional : values.optional = values.all.filter (!·.json.hasNonNullType)

def Fails (items : List Json) (fault : Fault) : Prop :=
  FirstFault (fun item => (Record.unnamed .inputValue item).Wrong "name" .string) items fault ∨
    ∃ all, List.Forall₂ InputValue.MadeOf items all ∧
      FirstFault (fun v : InputValue => v.record.Untyped) all fault

/-- The nodes of the values are the items, and those of the required and of the optional values
are the items of which the type is required or optional. -/
theorem MadeOf.map_json {items : List Json} {values : InputValues} (h : MadeOf items values) :
    values.all.map (·.json) = items ∧
    values.required.map (·.json) = items.filter (·.hasNonNullType) ∧
    values.optional.map (·.json) = items.filter (!·.hasNonNullType) := by
  have hall : values.all.map (·.json) = items := by
    rw [← List.forall₂_eq_eq_eq, List.forall₂_map_left_iff]
    exact (h.all.imp fun _ _ hv => hv.1).flip
  rw [h.required, h.optional, ← hall, List.filter_map, List.filter_map]
  simp [Function.comp_def]

theorem ofMarked_map (all : List InputValue) :
    ofMarked (all.map fun v => (v, v.json.hasNonNullType)) =
      ⟨all, all.filter (·.json.hasNonNullType), all.filter (!·.json.hasNonNullType)⟩ := by
  simp [ofMarked, List.filter_map, Function.comp_def]

theorem typed_iff {items : List Json} {all : List InputValue}
    (h : List.Forall₂ InputValue.MadeOf items all) :
    (∀ v ∈ all, (Entity.inputValue v).Marked v.json.hasNonNullType) ↔
      ∀ item ∈ items, ∃ node, item.member? "type" = some node ∧ TypeRef.Accepted node := by
  induction h with
  | nil => simp
  | @cons item v _ _ hv _ ih =>
      have hmakes : Collection.inputFields.Makes item (.inputValue v) := hv
      rw [List.forall_mem_cons, List.forall_mem_cons, ih]
      exact and_congr_left' (Entity.marked_mark_iff.trans (Collection.exists_marked_iff hmakes))

theorem endsJust_read (items : List Json) :
    (read items).reading.EndsJust (MadeOf items) (Fails items) := by
  rw [reading_read]
  refine (endsJust_map (endsJust_inTwoPasses InputValue.endsJust_read
    (fun v => Entity.endsJust_readMark (.inputValue v)) items)).congr (fun values => ?_)
    fun _ => Iff.rfl
  have hmarks : ∀ {all : List InputValue} {marked : List (InputValue × Bool)},
      List.Forall₂ (fun v found => found.1 = v ∧ (Entity.inputValue v).Marked found.2) all marked ↔
        (∀ v ∈ all, (Entity.inputValue v).Marked v.json.hasNonNullType) ∧
          marked = all.map fun v => (v, v.json.hasNonNullType) :=
    forall₂_mark_iff fun v b => Entity.Marked.eq_mark (e := .inputValue v) (b := b)
  constructor
  · rintro ⟨_, ⟨all, hall, hmarked⟩, rfl⟩
    obtain ⟨htyped, rfl⟩ := hmarks.mp hmarked
    rw [ofMarked_map]
    exact ⟨hall, (typed_iff hall).mp htyped, rfl, rfl⟩
  · intro h
    refine ⟨_, ⟨values.all, h.all, hmarks.mpr ⟨(typed_iff h.all).mpr h.typed, rfl⟩⟩, ?_⟩
    rw [id_eq, ofMarked_map, ← h.required, ← h.optional]

theorem exists_madeOf_iff {items : List Json} :
    (∃ values, MadeOf items values) ↔
      ∀ item ∈ items, (∃ name, item.member? "name" = some (.str name)) ∧
        ∃ node, item.member? "type" = some node ∧ TypeRef.Accepted node := by
  -- The values and the list of entities come from one reading of the items.
  have hlists := @Collection.exists_lists_iff .inputFields items
  simp only [← (endsJust_read items).ok, reading_read, Reading.result_map]
  simp only [← (Collection.endsJust_readAll .inputFields items).ok, Collection.readAll_inputFields,
    Reading.result_map] at hlists
  refine Iff.trans ?_ hlists
  cases (inTwoPasses InputValue.read id readMark items).result <;> simp [Except.map]

end InputValues

/-! ## Calls about values -/

/-- The calls about a list of input values: for all of them, for the required and for the optional
ones, and for one by its name. -/
structure InputValueCalls where
  all : Call
  required : Call
  optional : Call
  byName : String → Call

def Collection.inputValueCalls? : Collection → Option InputValueCalls
  | arguments => some ⟨.arguments, .requiredArguments, .optionalArguments, .argument⟩
  | inputFields =>
      some ⟨.inputFields, .requiredInputFields, .optionalInputFields, .inputField⟩
  | _ => none

structure InputValueCalls.Tell (calls : InputValueCalls) (session : Session) (e : Entity)
    (found : Except Fault InputValues) : Prop where
  all : session.ask e calls.all = some (found.map fun values => items .inputValue values.all)
  required : session.ask e calls.required =
    some (found.map fun values => items .inputValue values.required)
  optional : session.ask e calls.optional =
    some (found.map fun values => items .inputValue values.optional)
  byName : ∀ name, session.ask e (calls.byName name) =
    some (found.map fun values => option (.one ∘ .inputValue) (values.find? name))

namespace Session

variable {s : Schema} {recording : Bool} {session : Session}

theorem Reachable.find_read (h : Reachable s recording session) (items : List Json) :
    session.find (InputValues.read items) = (InputValues.read items).reading.result :=
  h.find_eq (InputValues.regular_read (r := s.record) items)

/-- A call about a list of input values is answered from one reading of the list. -/
theorem Reachable.ask_inputValues (h : Reachable s recording session) {c : Collection}
    {calls : InputValueCalls} (hcalls : c.inputValueCalls? = some calls) {e : Entity} {r : Record}
    (he : e.Within s) (hr : c.record? e = some r) {items : List Json}
    (hitems : r.json.member? c.key = some (.arr items)) {call : Call} {g : Listing → Answer}
    (hf : c.shows call = some (option g)) {F : InputValues → Answer}
    (hF : ∀ marked, F (.ofMarked marked) = g (.of .inputValue marked)) :
    session.ask e call = some ((session.find (InputValues.read items)).map F) := by
  have hread : c.readAll = Collection.inputFields.readAll := by
    cases c <;> cases hcalls <;> rfl
  rw [h.ask_eq_of_items he hr hitems hf, h.find_read, hread, Collection.readAll_inputFields,
    InputValues.reading_read, ← Reading.result_map, ← Reading.result_map, Functor.map_map,
    Functor.map_map]
  simp only [hF]

theorem Reachable.tell_inputValues (h : Reachable s recording session) {c : Collection}
    {calls : InputValueCalls} (hcalls : c.inputValueCalls? = some calls) {e : Entity} {r : Record}
    (he : e.Within s) (hr : c.record? e = some r) {items : List Json}
    (hitems : r.json.member? c.key = some (.arr items)) :
    calls.Tell session e (session.find (InputValues.read items)) where
  all := by
    have hshows : c.shows calls.all = some (option fun l => .many l.entities) := by
      cases c <;> cases hcalls <;> rfl
    apply h.ask_inputValues hcalls he hr hitems hshows
    simp [Answer.items, InputValues.ofMarked]
  required := by
    have hshows : c.shows calls.required = some (option fun l => .many (l.marked true)) := by
      cases c <;> cases hcalls <;> rfl
    apply h.ask_inputValues hcalls he hr hitems hshows
    simp [Answer.items, InputValues.ofMarked]
  optional := by
    have hshows : c.shows calls.optional = some (option fun l => .many (l.marked false)) := by
      cases c <;> cases hcalls <;> rfl
    apply h.ask_inputValues hcalls he hr hitems hshows
    simp [Answer.items, InputValues.ofMarked]
  byName name := by
    have hshows : c.shows (calls.byName name) =
        some (option fun l => option .one (l.named name).head?) := by
      cases c <;> cases hcalls <;> rfl
    apply h.ask_inputValues hcalls he hr hitems hshows
    intro marked
    exact (Listing.option_head?_named_of Entity.inputValue marked (fun _ => rfl) name).symm

/-- The type of an input value is answered from what is read of its node. -/
theorem Reachable.type_answersQuietly (h : Reachable s recording session) {v : InputValue}
    {node : Json} {ref : TypeRef} (hnode : v.json.member? "type" = some node)
    (hmirrors : TypeRef.Mirrors ref node) :
    session.AnswersQuietly (.inputValue v) .type (.one (.ref ref)) ∧
      session.AnswersQuietly (.inputValue v) .isRequired (bool ref.isNonNull) := by
  have hv : (Entity.inputValue v).Within s := trivial
  have hread : v.record.readType.result = .ok ref :=
    (v.record.endsJust_readType.ok ref).mpr ⟨node, hnode, hmirrors⟩
  constructor
  · refine h.answersQuietly hv rfl (View.plain_map _ v.plain_type) ?_
    rw [View.reading_map, Reading.result_map, v.reading_type_eq, hread]
    rfl
  · have hplain : v.isRequired.Plain := View.plain_bind v.plain_type fun _ => View.plain_pure _
    refine h.answersQuietly hv rfl (View.plain_map _ hplain) ?_
    rw [View.reading_map, InputValue.isRequired, View.reading_bind, Reading.result_map,
      Reading.result_bind, v.reading_type_eq, hread]
    rfl

/-- Input values are read of a list if and only if each item has a name and a type that can be
read. Then they stand in the order of the document and are divided into the required and the
optional ones, and each of them answers of which type it is and whether it is required, and logs
nothing. Else the fault is that of the first name that cannot be read, and if all names can be read
that of the first type. All calls about the list of a field, of a directive or of a type are
answered from the values and end with their fault. -/
theorem find_inputValues (hsession : Reachable s recording session) (items : List Json) :
    ((∃ values, session.find (InputValues.read items) = .ok values) ↔
      ∀ item ∈ items, (∃ name, item.member? "name" = some (.str name)) ∧
        ∃ node, item.member? "type" = some node ∧ TypeRef.Accepted node) ∧
    (∀ values, session.find (InputValues.read items) = .ok values →
      InputValues.MadeOf items values ∧
      ∀ v ∈ values.all, ∃ node ref,
        v.json.member? "type" = some node ∧ TypeRef.Mirrors ref node ∧
        session.AnswersQuietly (.inputValue v) .type (.one (.ref ref)) ∧
        ∃ b, session.AnswersQuietly (.inputValue v) .isRequired (bool b) ∧
          (b = true ↔ v ∈ values.required)) ∧
    (∀ fault, session.find (InputValues.read items) = .error fault ↔
      InputValues.Fails items fault) ∧
    ∀ {c : Collection} {calls : InputValueCalls} {e : Entity} {r : Record},
      c.inputValueCalls? = some calls → e.Within s → c.record? e = some r →
      r.json.member? c.key = some (.arr items) →
      calls.Tell session e (session.find (InputValues.read items)) := by
  have hread := InputValues.endsJust_read items
  rw [hsession.find_read]
  refine ⟨?_, fun values h => ?_, hread.error, fun hcalls he hr hitems => ?_⟩
  · simp only [hread.ok, InputValues.exists_madeOf_iff]
  · have hmade : InputValues.MadeOf items values := (hread.ok values).mp h
    refine ⟨hmade, fun v hv => ?_⟩
    obtain ⟨node, ref, hnode, hmirrors, hmark⟩ :=
      (InputValues.typed_iff hmade.all).mpr hmade.typed v hv
    obtain ⟨htype, hrequired⟩ := hsession.type_answersQuietly hnode hmirrors
    refine ⟨node, ref, hnode, hmirrors, htype, _, hrequired, ?_⟩
    rw [hmade.required, ← hmark, List.mem_filter]
    simp [hv]
  · rw [← hsession.find_read]
    exact hsession.tell_inputValues hcalls he hr hitems

def valueNode (name : String) (type : TypeRef) : Json :=
  .ofMembers [("name", .str name), ("type", type.toJson)]

def twoNames : List Json :=
  [valueNode "a" (.nonNull (.named .scalar "Int")), valueNode "b" (.list (.named .scalar "Int")),
    valueNode "a" (.named .scalar "Int")]

def halves : List Json := [.ofMembers [("name", .str "a")], .ofMembers [("type", .null)]]

def fieldOf (args : List Json) : Field := ⟨⟨.field, "f", .ofMembers [("args", .arr args)]⟩⟩

theorem find_inputValues_twoNames :
    (∃ values, (Session.new true).find (InputValues.read twoNames) = .ok values ∧
      values.required.map (·.json) = [valueNode "a" (.nonNull (.named .scalar "Int"))] ∧
      values.optional.map (·.json) = [valueNode "b" (.list (.named .scalar "Int")),
        valueNode "a" (.named .scalar "Int")]) ∧
    (Session.new true).ask (.field (fieldOf halves)) (.argument "a") =
      some (.error (.missing "name" ⟨.inputValue, none⟩)) := by
  have hnew : Reachable ⟨⟨⟨.schema, none⟩, .null⟩⟩ true (.new true) := .new
  have haccepted : ∀ {ref : TypeRef}, ref.Proper → TypeRef.Accepted ref.toJson := by
    intro ref href
    rw [TypeRef.accepted_iff_mirrors]
    exact ⟨ref, TypeRef.result_read_eq_ok_iff.mp (by rw [TypeRef.read_toJson href]; rfl)⟩
  obtain ⟨hok, hmade, -, -⟩ := find_inputValues hnew twoNames
  obtain ⟨-, -, herror, hcalls⟩ := find_inputValues hnew halves
  constructor
  · have htyped : ∀ item ∈ twoNames, (∃ name, item.member? "name" = some (.str name)) ∧
        ∃ node, item.member? "type" = some node ∧ TypeRef.Accepted node := by
      simp only [twoNames, List.forall_mem_cons, List.not_mem_nil, false_implies, implies_true,
        and_true]
      exact ⟨⟨⟨_, rfl⟩, _, rfl, haccepted rfl⟩, ⟨⟨_, rfl⟩, _, rfl, haccepted rfl⟩,
        ⟨_, rfl⟩, _, rfl, haccepted rfl⟩
    obtain ⟨values, hvalues⟩ := hok.mpr htyped
    obtain ⟨-, hrequired, hoptional⟩ := (hmade values hvalues).1.map_json
    exact ⟨values, hvalues, hrequired, hoptional⟩
  · have hfail := (herror (.missing "name" ⟨.inputValue, none⟩)).mpr (.inl
      ⟨[_], _, [], rfl, ?_, .without (.missing rfl rfl)⟩)
    · have htell := hcalls (c := .arguments) rfl (e := .field (fieldOf halves)) trivial rfl rfl
      rw [htell.byName, hfail]
      rfl
    · rw [List.forall_mem_singleton]
      exact (Record.endsJust_string _ "name").not_error (rfl : _ = some (Json.str "a"))

end Session

end Introspection
