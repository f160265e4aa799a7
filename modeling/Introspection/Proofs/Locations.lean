import Introspection.Proofs.FirstFaults
import Introspection.Proofs.SessionCalls
import Mathlib.Data.Set.List
/-!
# Locations of directives

The items under `locations` are read in two ways: as known locations, and as names, known or not.
A location may be written as a key with null under it, as a kind may; such an item is a location
that has no name. The two ways agree where every item is a string. A name that is not known is one
of the names, and the fault of the locations.
-/

namespace Introspection

open Reading

/-! ## Items -/

namespace DirectiveLocation

/-- The ways in which a location is written: as its name, or as an object whose one key is the
name, with null under it. -/
inductive WrittenAs (location : DirectiveLocation) : Json → Prop
  | name : location.WrittenAs (.str location.name)
  | key : location.WrittenAs (.obj [(location.name, .null)])

variable {location : DirectiveLocation} {json : Json}

theorem read?_eq_some_iff : read? json = some location ↔ location.WrittenAs json := by
  constructor
  · intro h
    obtain ⟨name, hname, hlocation⟩ := Option.bind_eq_some_iff.mp h
    obtain rfl := name_of_ofName? hlocation
    rcases Json.enumerator?_eq_some_iff.mp hname with rfl | rfl
    · exact .name
    · exact .key
  · intro h
    cases h with
    | name => exact ofName?_name location
    | key => exact ofName?_name location

theorem read?_eq_none_iff :
    read? json = none ↔ ∀ location : DirectiveLocation, ¬ location.WrittenAs json := by
  simp only [Option.eq_none_iff_forall_ne_some, ne_eq, read?_eq_some_iff]

theorem writtenAs_str_iff {name : String} :
    location.WrittenAs (.str name) ↔ location.name = name := by
  constructor
  · rintro ⟨⟩
    rfl
  · rintro rfl
    exact .name

/-- Strings are written for just the locations that have them for their names. -/
theorem forall₂_writtenAs_str_iff {locations : List DirectiveLocation} {names : List String} :
    List.Forall₂ WrittenAs locations (names.map .str) ↔ locations.map name = names := by
  simp only [List.forall₂_map_right_iff, writtenAs_str_iff]
  rw [← List.forall₂_map_left_iff (R := Eq), List.forall₂_eq_eq_eq]

theorem name_injective : Function.Injective name := fun a b h =>
  Option.some.inj ((ofName?_name a).symm.trans (h ▸ ofName?_name b))

/-- Items that are strings have no other names than those of the locations that they are. -/
theorem eq_map_name_of_writtenAs {locations : List DirectiveLocation} {items : List Json}
    (h : List.Forall₂ WrittenAs locations items) (hstr : ∀ item ∈ items, ∃ s, item = .str s) :
    items = (locations.map name).map .str := by
  induction h with
  | nil => rfl
  | cons hwritten _ ih =>
      obtain ⟨⟨s, rfl⟩, hrest⟩ := List.forall_mem_cons.mp hstr
      cases hwritten
      rw [ih hrest, List.map_cons, List.map_cons]

end DirectiveLocation

theorem Json.string?_eq_some_iff {json : Json} {s : String} :
    json.string? = some s ↔ json = .str s := by
  cases json <;> simp [string?]

theorem Json.string?_eq_none_iff {json : Json} :
    json.string? = none ↔ ∀ s, json ≠ .str s := by
  simp only [Option.eq_none_iff_forall_ne_some, ne_eq, string?_eq_some_iff]

/-! ## Lists of items -/

namespace Record

/-- Why a record has no list of locations without a refused item. The first item that is refused
is told by the fault. -/
def Unlisted (r : Record) (refused : Json → Prop) (fault : Fault) : Prop :=
  r.Wrong "locations" .listOrNull fault ∨
    r.json.member? "locations" = some .null ∧ fault = .unexpected "locations" .list r.place ∨
    ∃ items, r.json.member? "locations" = some (.arr items) ∧
      FirstFault (fun item f => refused item ∧ f = .unknownLocation item r.place) items fault

variable (r : Record)

theorem endsJust_items {α : Type} {read? : Json → Option α} {V : Json → α → Prop}
    {refused : Json → Prop} (hsome : ∀ item a, read? item = some a ↔ V item a)
    (hnone : ∀ item, read? item = none ↔ refused item) :
    (r.list "locations" >>= fun items => items.mapM fun item =>
        require (.unknownLocation item r.place) (read? item)).EndsJust
      (fun found => ∃ items, r.json.member? "locations" = some (.arr items) ∧
        List.Forall₂ V items found) (r.Unlisted refused) := by
  refine (endsJust_bind (r.endsJust_list "locations") fun items _ => endsJust_mapM fun item _ =>
    endsJust_require.congr (hsome item) fun f => and_congr_left' (hnone item)).congr
    (fun _ => Iff.rfl) fun _ => or_assoc

theorem endsJust_readLocations : r.readLocations.EndsJust
    (fun locations => ∃ items, r.json.member? "locations" = some (.arr items) ∧
      List.Forall₂ DirectiveLocation.WrittenAs locations items)
    (r.Unlisted fun item => ∀ location : DirectiveLocation, ¬ location.WrittenAs item) := by
  refine (r.endsJust_items (fun _ _ => DirectiveLocation.read?_eq_some_iff) fun _ =>
    DirectiveLocation.read?_eq_none_iff).congr (fun locations => ?_) fun _ => Iff.rfl
  exact exists_congr fun items => and_congr_right fun _ => ⟨List.Forall₂.flip, List.Forall₂.flip⟩

theorem endsJust_readLocationNames : r.readLocationNames.EndsJust
    (fun names => r.json.member? "locations" = some (.arr (names.map .str)))
    (r.Unlisted fun item => ∀ s, item ≠ .str s) := by
  refine (r.endsJust_items (fun _ _ => Json.string?_eq_some_iff) fun _ =>
    Json.string?_eq_none_iff).congr (fun names => ?_) fun _ => Iff.rfl
  have hnames : ∀ items : List Json,
      List.Forall₂ (fun item s => item = .str s) items names ↔ items = names.map .str := by
    intro items
    rw [← List.forall₂_map_right_iff (R := Eq), List.forall₂_eq_eq_eq]
  simp only [hnames, exists_eq_right]

/-- A list has no locations just for the first of its items that is refused. -/
theorem unlisted_iff_firstFault {r : Record} {refused : Json → Prop} {items : List Json}
    (h : r.json.member? "locations" = some (.arr items)) (fault : Fault) :
    r.Unlisted refused fault ↔
      FirstFault (fun item f => refused item ∧ f = .unknownLocation item r.place) items fault := by
  constructor
  · rintro (hwrong | ⟨hnull, -⟩ | ⟨others, hothers, hfault⟩)
    · exact absurd hwrong ((r.endsJust_listOrNull "locations").not_error (a := some items) h fault)
    · cases h.symm.trans hnull
    · cases h.symm.trans hothers
      exact hfault
  · exact fun hfault => .inr (.inr ⟨items, h, hfault⟩)

/-- Where all items are strings, the locations are those with these names. The first string that
is the name of no location is told by the fault. -/
theorem endsJust_readLocations_of_names {r : Record} {names : List String}
    (h : r.json.member? "locations" = some (.arr (names.map .str))) : r.readLocations.EndsJust
      (fun locations => locations.map (·.name) = names)
      (FirstFault (fun name fault => (∀ location : DirectiveLocation, location.name ≠ name) ∧
        fault = .unknownLocation (.str name) r.place) names) := by
  refine r.endsJust_readLocations.congr (fun locations => ?_) fun fault => ?_
  · simp only [h, Option.some_inj, Json.arr.injEq, exists_eq_left',
      DirectiveLocation.forall₂_writtenAs_str_iff]
  · rw [unlisted_iff_firstFault h, firstFault_map]
    simp only [DirectiveLocation.writtenAs_str_iff, ne_eq]

end Record

theorem Directive.record_of_read {node : Json} {d : Directive}
    (h : (read node).result = .ok d) : d.record = ⟨⟨.directive, some d.name⟩, node⟩ := by
  obtain ⟨rfl, hstands⟩ := (@Directive.ends_read (fun _ => true) node).of_ok h
  rw [Node.record, hstands.owner]

/-! ## Locations in sessions -/

namespace Session

variable {s : Schema} {recording : Bool} {session : Session}

theorem Reachable.find_locations (h : Reachable s recording session) (d : Directive) :
    session.find d.locations = d.record.readLocations.result := by
  rw [h.find_eq (d.regular_locations (r := s.record)), Directive.locations, View.reading_memo,
    View.reading_read]

theorem Reachable.find_locationNames (h : Reachable s recording session) (d : Directive) :
    session.find d.locationNames = d.record.readLocationNames.result := by
  rw [h.find_eq (d.regular_locationNames (r := s.record)), Directive.locationNames,
    View.reading_memo, View.reading_read]

/-- Whether a directive has a location is told by the names of its locations. -/
theorem Reachable.find_hasLocation (h : Reachable s recording session) (d : Directive)
    (location : DirectiveLocation) : session.find (d.hasLocation location) =
      d.record.readLocationNames.result.map fun names => decide (location.name ∈ names) := by
  have hregular : (d.hasLocation location).Regular s.record fun _ => True :=
    View.regular_bind d.regular_locationNames fun _ _ => View.regular_pure trivial
  rw [h.find_eq hregular, Directive.hasLocation, bind_pure_comp, View.reading_map,
    Reading.result_map, Directive.locationNames, View.reading_memo, View.reading_read]
  simp only [List.contains_eq_mem]

/-- Locations that are found are those that the items are, in their order. The names are then those
of the locations, and the directive has just these locations, if and only if all items are strings;
an item that writes a location as a key ends both with an error. -/
theorem find_locationNames_of_locations {later : Session} (hsession : Reachable s recording session)
    (hlater : Reachable s recording later) {d : Directive} {locations : List DirectiveLocation}
    (h : session.find d.locations = .ok locations) :
    ∃ items, d.json.member? "locations" = some (.arr items) ∧
      List.Forall₂ DirectiveLocation.WrittenAs locations items ∧
      ((later.find d.locationNames = .ok (locations.map (·.name)) ∧
          ∀ location, later.find (d.hasLocation location) = .ok (decide (location ∈ locations))) ↔
        ∀ item ∈ items, ∃ s, item = .str s) ∧
      ∀ fault, FirstFault (fun item f => (∀ s, item ≠ .str s) ∧
          f = .unknownLocation item d.record.place) items fault →
        later.find d.locationNames = .error fault ∧
        ∀ location, later.find (d.hasLocation location) = .error fault := by
  rw [hsession.find_locations, d.record.endsJust_readLocations.ok] at h
  obtain ⟨items, hitems, hwritten⟩ := h
  have hnames := d.record.endsJust_readLocationNames
  refine ⟨items, hitems, hwritten, ⟨fun ⟨hfound, _⟩ => ?_, fun hstr => ?_⟩, fun fault hfault => ?_⟩
  · -- Names that are found are told by the items themselves, whatever the locations are.
    rw [hlater.find_locationNames, hnames.ok] at hfound
    cases hitems.symm.trans hfound
    intro item hitem
    obtain ⟨name, -, rfl⟩ := List.mem_map.mp hitem
    exact ⟨name, rfl⟩
  · have hread : d.record.readLocationNames.result = .ok (locations.map (·.name)) := by
      rw [hnames.ok, ← DirectiveLocation.eq_map_name_of_writtenAs hwritten hstr]
      exact hitems
    refine ⟨by rw [hlater.find_locationNames, hread], fun location => ?_⟩
    rw [hlater.find_hasLocation, hread, Except.map]
    simp only [List.mem_map_of_injective DirectiveLocation.name_injective]
  · have hread := (hnames.error fault).mpr (.inr (.inr ⟨items, hitems, hfault⟩))
    refine ⟨by rw [hlater.find_locationNames, hread], fun location => ?_⟩
    rw [hlater.find_hasLocation, hread]
    rfl

def custom (items : List Json) : Directive :=
  ⟨⟨.directive, "custom", .ofMembers [("args", .arr []), ("description", .null),
    ("locations", .arr items), ("name", .str "custom")]⟩⟩

theorem find_locationNames_of_locations_custom :
    (Session.new true).find (custom [.str "QUERY", .str "FIELD"]).locationNames =
      .ok ["QUERY", "FIELD"] ∧
    ∀ location, (Session.new true).find
      ((custom [.str "QUERY", .obj [("FIELD", .null)]]).hasLocation location) =
        .error (.unknownLocation (.obj [("FIELD", .null)]) ⟨.directive, some "custom"⟩) := by
  have hnew : Reachable ⟨⟨⟨.schema, none⟩, .null⟩⟩ true (.new true) := .new
  have hfound : ∀ item, DirectiveLocation.field.WrittenAs item →
      (Session.new true).find (custom [.str "QUERY", item]).locations = .ok [.query, .field] := by
    intro item hitem
    rw [hnew.find_locations, (Record.endsJust_readLocations _).ok]
    exact ⟨_, rfl, .cons .name (.cons hitem .nil)⟩
  obtain ⟨items, hitems, -, hagree, -⟩ :=
    find_locationNames_of_locations hnew hnew (hfound _ .name)
  obtain ⟨others, hothers, -, -, hfault⟩ :=
    find_locationNames_of_locations hnew hnew (hfound _ .key)
  cases hitems
  cases hothers
  refine ⟨(hagree.mpr (by simp)).1, (hfault _ ?_).2⟩
  exact ⟨[.str "QUERY"], _, [], rfl, by simp, nofun, rfl⟩

/-- The item is told to be a location by the one accessor, and to be no known one by the others. -/
theorem find_locations_keyed :
    let keyed := custom [.obj [("FIELD", .null)]]
    (Directive.read keyed.json).result = .ok keyed ∧
    (Session.new true).find keyed.locations = .ok [.field] ∧
    (Session.new true).find keyed.locationNames ≠ .ok [DirectiveLocation.field.name] ∧
    ∀ location, ∃ fault, (Session.new true).find (keyed.hasLocation location) = .error fault ∧
      fault.toError = ⟨.unexpectedValue, "unknown directive location \x7b\"FIELD\":null\x7d",
        some "__Directive `custom`"⟩ := by
  intro keyed
  have hnew : Reachable ⟨⟨⟨.schema, none⟩, .null⟩⟩ true (.new true) := .new
  have hnames := keyed.record.endsJust_readLocationNames
  let fault := Fault.unknownLocation (.obj [("FIELD", .null)]) ⟨.directive, some "custom"⟩
  have hread : keyed.record.readLocationNames.result = .error fault :=
    (hnames.error _).mpr (.inr (.inr ⟨_, rfl, [], _, [], rfl, by simp, nofun, rfl⟩))
  refine ⟨rfl, ?_, ?_, fun location => ⟨fault, ?_, ?_⟩⟩
  · rw [hnew.find_locations, keyed.record.endsJust_readLocations.ok]
    exact ⟨_, rfl, .cons .key .nil⟩
  · rw [hnew.find_locationNames, hread]
    exact nofun
  · rw [hnew.find_hasLocation, hread]
    rfl
  · decide

/-- Names that are found are the items, all of which are strings. The directive then has just the
locations with these names. The locations are found if and only if all of the names are known, and
else the error tells the first one that is not. Without names no location is told to be there. -/
theorem find_locations_of_locationNames {later : Session} (hsession : Reachable s recording session)
    (hlater : Reachable s recording later) {node : Json} {d : Directive}
    (hd : (Directive.read node).result = .ok d) :
    (∀ names, session.find d.locationNames = .ok names ↔
      node.member? "locations" = some (.arr (names.map .str))) ∧
    (∀ names, session.find d.locationNames = .ok names →
      (∀ location, later.find (d.hasLocation location) = .ok (decide (location.name ∈ names))) ∧
      ((∃ locations, later.find d.locations = .ok locations) ↔
        ∀ name ∈ names, ∃ location : DirectiveLocation, location.name = name) ∧
      (∀ locations, later.find d.locations = .ok locations ↔ locations.map (·.name) = names) ∧
      ((¬ ∀ name ∈ names, ∃ location : DirectiveLocation, location.name = name) →
        ∃ before name after fault, names = before ++ name :: after ∧
          (∀ known ∈ before, ∃ location : DirectiveLocation, location.name = known) ∧
          (∀ location : DirectiveLocation, location.name ≠ name) ∧
          later.find d.locations = .error fault ∧
          fault.toError = ⟨.unexpectedValue, "unknown directive location " ++ Json.quote name,
            some ("__Directive `" ++ d.name ++ "`")⟩)) ∧
    ∀ fault, session.find d.locationNames = .error fault →
      ∀ location, later.find (d.hasLocation location) = .error fault := by
  have hrecord := Directive.record_of_read hd
  have hnames := d.record.endsJust_readLocationNames
  have hjson : d.record.json = node := congrArg Record.json hrecord
  rw [hjson] at hnames
  refine ⟨fun names => ?_, fun names hfound => ?_, fun fault hfault location => ?_⟩
  · rw [hsession.find_locationNames, hnames.ok]
  · rw [hsession.find_locationNames] at hfound
    have hitems := (hnames.ok names).mp hfound
    rw [← hjson] at hitems
    have hread := Record.endsJust_readLocations_of_names hitems
    rw [hlater.find_locations]
    have hknown : (∃ locations, d.record.readLocations.result = .ok locations) ↔
        ∀ name ∈ names, ∃ location : DirectiveLocation, location.name = name := by
      simp only [hread.ok]
      exact Set.ext_iff.mp (Set.range_list_map DirectiveLocation.name) names
    refine ⟨fun location => ?_, hknown, hread.ok, fun hunknown => ?_⟩
    · rw [hlater.find_hasLocation, hfound]
      rfl
    · cases hresult : d.record.readLocations.result with
      | ok locations => exact absurd (hknown.mp ⟨locations, hresult⟩) hunknown
      | error fault =>
          obtain ⟨before, name, after, hsplit, hbefore, hname, rfl⟩ :=
            (hread.error fault).mp hresult
          refine ⟨before, name, after, _, hsplit, fun known hmem => ?_, hname, rfl, ?_⟩
          · by_contra hnone
            exact hbefore known hmem _ ⟨not_exists.mp hnone, rfl⟩
          · rw [hrecord]
            rfl
  · rw [hsession.find_locationNames] at hfault
    rw [hlater.find_hasLocation, hfault]
    rfl

theorem find_locations_of_locationNames_newer :
    let session := Session.new true
    let newer := custom [.str "FIELD", .str "FRAGMENT_VARIABLE_DEFINITION", .str "field"]
    session.find (newer.hasLocation .field) = .ok true ∧
    session.find (newer.hasLocation .query) = .ok false ∧
    (∃ fault, session.find newer.locations = .error fault ∧ fault.toError = ⟨.unexpectedValue,
      "unknown directive location \"FRAGMENT_VARIABLE_DEFINITION\"",
      some "__Directive `custom`"⟩) ∧
    session.find (custom [.str "FIELD", .str "FIELD"]).locations = .ok [.field, .field] ∧
    session.find ((custom [.str "FIELD", .num (.integer 1)]).hasLocation .field) =
      .error (.unknownLocation (.num (.integer 1)) ⟨.directive, some "custom"⟩) := by
  intro session newer
  have hnew : Reachable ⟨⟨⟨.schema, none⟩, .null⟩⟩ true session := .new
  have hread : ∀ items, (Directive.read (custom items).json).result = .ok (custom items) :=
    fun _ => rfl
  obtain ⟨hnames, hfound, -⟩ := find_locations_of_locationNames hnew hnew (hread
    [.str "FIELD", .str "FRAGMENT_VARIABLE_DEFINITION", .str "field"])
  obtain ⟨hhas, -, -, hunknown⟩ :=
    hfound ["FIELD", "FRAGMENT_VARIABLE_DEFINITION", "field"] ((hnames _).mpr rfl)
  obtain ⟨htwice, hfoundTwice, -⟩ := find_locations_of_locationNames hnew hnew (hread
    [.str "FIELD", .str "FIELD"])
  obtain ⟨-, -, hlocations, -⟩ := hfoundTwice ["FIELD", "FIELD"] ((htwice _).mpr rfl)
  obtain ⟨-, -, hfails⟩ := find_locations_of_locationNames hnew hnew (hread
    [.str "FIELD", .num (.integer 1)])
  have hnone : ∀ location : DirectiveLocation,
      location.name ≠ "FRAGMENT_VARIABLE_DEFINITION" := by
    intro location
    cases location <;> decide
  refine ⟨hhas .field, hhas .query, ?_, (hlocations _).mpr rfl, hfails _ ?_ _⟩
  swap
  · rw [hnew.find_locationNames]
    rfl
  obtain ⟨before, name, after, fault, hsplit, hbefore, hname, hfault, herror⟩ :=
    hunknown fun hall => by
      obtain ⟨location, hlocation⟩ := hall "FRAGMENT_VARIABLE_DEFINITION" (by simp)
      exact hnone location hlocation
  rcases before with _ | ⟨first, _ | ⟨second, before⟩⟩
  · cases hsplit
    exact absurd rfl (hname .field)
  · cases hsplit
    exact ⟨fault, hfault, herror⟩
  · obtain ⟨-, h⟩ := List.cons.inj hsplit
    obtain ⟨rfl, -⟩ := List.cons.inj h
    obtain ⟨location, hlocation⟩ := hbefore "FRAGMENT_VARIABLE_DEFINITION" (by simp)
    exact absurd hlocation (hnone location)

end Session

end Introspection
