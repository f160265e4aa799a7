import Introspection.Proofs.Regular
import Introspection.Proofs.Readings
/-!
# What accessors log

Without memory, an accessor logs nothing but the line of the fault that it fails with. There are
two kinds of exceptions. The types and the directives of a schema are counted in a line when they
have been read, and an optional key that is absent is told in a line.
-/

namespace Introspection

/-! ## Plain views -/

def View.Plain {α : Type} (view : View α) : Prop := view.reading.Plain

namespace View

variable {α β : Type}

theorem plain_pure (a : α) : View.Plain (pure a) := Reading.plain_pure a

theorem plain_read {reading : Reading α} (h : reading.Plain) : (View.read reading).Plain := by
  unfold View.Plain
  rw [reading_read]
  exact h

theorem plain_memo {slot : Slot} {record : Record} {fill : View slot.Content}
    (h : fill.Plain) : (View.memo slot record fill).Plain := by
  unfold View.Plain
  rw [reading_memo]
  exact h

theorem plain_bind {view : View α} {next : α → View β} (hv : view.Plain)
    (hnext : ∀ a, (next a).Plain) : (view >>= next).Plain := by
  unfold View.Plain
  rw [reading_bind]
  exact Reading.plain_bind hv hnext

theorem plain_map {view : View α} (f : α → β) (hv : view.Plain) : (f <$> view).Plain := by
  unfold View.Plain
  rw [reading_map]
  exact Reading.plain_map f hv

theorem plain_optional (record : Record) (key : String) {readAll : List Json → View α}
    (h : ∀ items, (readAll items).Plain) : (record.optional key readAll).Plain := by
  refine plain_bind (plain_read (record.plain_listOrNull key)) fun found => ?_
  cases found with
  | none => exact plain_pure none
  | some items => exact plain_map some (h items)

end View

open View

theorem Node.plain_casings (n : Node) : n.casings.Plain := plain_memo (plain_pure _)

theorem Node.plain_type (n : Node) : n.type.Plain :=
  plain_memo (View.plain_read n.record.plain_readType)

theorem InputValues.plain_split (values : List InputValue) : (split values).Plain := by
  induction values with
  | nil => exact plain_pure _
  | cons value values ih =>
      exact plain_bind value.plain_type fun _ => plain_bind ih fun _ => plain_pure _

theorem InputValues.plain_read (items : List Json) : (read items).Plain :=
  plain_bind (View.plain_read (Reading.plain_mapM InputValue.plain_read items)) fun all =>
    plain_bind (plain_split all) fun _ => plain_pure _

theorem Node.plain_arguments (n : Node) : n.arguments.Plain :=
  plain_memo (plain_bind (View.plain_read (n.record.plain_list "args")) InputValues.plain_read)

namespace TypeDefinition

variable (t : TypeDefinition)

theorem plain_fieldList : t.fieldList.Plain :=
  plain_memo (plain_optional t.record "fields" fun items =>
    View.plain_read (Field.plain_readAll items))

theorem plain_fields (withDeprecated : Bool) : (t.fields withDeprecated).Plain :=
  plain_bind t.plain_fieldList fun _ => plain_pure _

theorem plain_fieldsByName : t.fieldsByName.Plain :=
  plain_memo (plain_bind (t.plain_fields true) fun _ => plain_pure _)

theorem plain_inputFieldList : t.inputFieldList.Plain :=
  plain_memo (plain_optional t.record "inputFields" InputValues.plain_read)

theorem plain_refs (key : String) : (t.refs key).Plain :=
  plain_optional t.record key fun items => View.plain_read (TypeRef.plain_readAll items)

theorem plain_interfaces : t.interfaces.Plain := plain_memo (t.plain_refs "interfaces")

theorem plain_possibleTypes : t.possibleTypes.Plain := plain_memo (t.plain_refs "possibleTypes")

theorem plain_enumValueList : t.enumValueList.Plain :=
  plain_memo (plain_optional t.record "enumValues" fun items =>
    View.plain_read (EnumValue.plain_readAll items))

end TypeDefinition

theorem Directive.plain_locations (d : Directive) : d.locations.Plain :=
  plain_memo (View.plain_read d.record.plain_readLocations)

theorem Directive.plain_locationNames (d : Directive) : d.locationNames.Plain :=
  plain_memo (View.plain_read d.record.plain_readLocationNames)

theorem Schema.plain_isRootTypeName (s : Schema) (name : String) :
    (s.isRootTypeName name).Plain := by
  refine plain_bind (View.plain_read s.plain_readQueryRootName) fun query => ?_
  split
  · exact plain_pure true
  · exact plain_bind (View.plain_read s.plain_readMutationRootName) fun _ => plain_pure _

/-! ## Counted lists -/

open Reading in

/-- Reading a list whose length is then logged: the line of the fault, or that of the length. -/
theorem Record.read_counted (r : Record) (key : String) {α β : Type} {read : Json → Reading α}
    (hread : ∀ json, (read json).Plain) (line : Nat → LogLine) (f : List α → β) :
    (∃ fault, (do
        let as ← (← r.list key).mapM read
        note (line as.length)
        pure (f as) : Reading β) = ⟨fault.line?.toList, .error fault⟩) ∨
      ∃ items as, r.json.member? key = some (.arr items) ∧ (do
        let as ← (← r.list key).mapM read
        note (line as.length)
        pure (f as) : Reading β) = ⟨[line items.length], .ok (f as)⟩ := by
  have hplain : (do (← r.list key).mapM read : Reading (List α)).Plain :=
    Reading.plain_bind (r.plain_list key) (plain_mapM hread)
  rw [← bind_assoc, bind_eq, andThen]
  cases hr : (do (← r.list key).mapM read : Reading (List α)).result with
  | error fault =>
      refine .inl ⟨fault, ?_⟩
      rw [log_of_error hplain hr]
  | ok as =>
      obtain ⟨items, hitems, has⟩ := result_bind_eq_ok.mp hr
      refine .inr ⟨items, as, result_list_eq_ok.mp hitems, ?_⟩
      rw [log_of_ok hplain hr, (result_mapM_eq_ok.mp has).length_eq]
      rfl

namespace Slot

def listKey : Slot → String
  | directives => "directives"
  | _ => "types"

def countLine : Slot → Nat → LogLine
  | directives => .readDirectives
  | _ => .readTypes

theorem reading_of_isCounted {slot : Slot} (h : slot.isCounted = true) (r : Record) :
    (∃ fault, (slot.fill r).reading = ⟨fault.line?.toList, .error fault⟩) ∨
      ∃ items content, r.json.member? slot.listKey = some (.arr items) ∧
        (slot.fill r).reading = ⟨[slot.countLine items.length], .ok content⟩ := by
  cases slot <;> cases h <;> rw [fill, View.reading_read]
  · rcases r.read_counted "types" TypeDefinition.plain_read .readTypes (sortByName (·.name)) with
      hfail | ⟨items, types, hitems, hread⟩
    · exact .inl hfail
    · exact .inr ⟨items, _, hitems, hread⟩
  · rcases r.read_counted "directives" Directive.plain_read .readDirectives
      (sortByName (·.name)) with hfail | ⟨items, directives, hitems, hread⟩
    · exact .inl hfail
    · exact .inr ⟨items, _, hitems, hread⟩

theorem plain_fill {slot : Slot} (h : slot.isCounted = false) (hmap : slot ≠ typesByName)
    (r : Record) : (slot.fill r).Plain := by
  cases slot with
  | types => cases h
  | directives => cases h
  | typesByName => exact absurd rfl hmap
  | fields => exact plain_optional r "fields" fun items =>
      View.plain_read (Field.plain_readAll items)
  | fieldsByName =>
      refine plain_bind (plain_memo (plain_optional r "fields" fun items => ?_)) fun _ =>
        plain_pure _
      exact View.plain_read (Field.plain_readAll items)
  | inputFields => exact plain_optional r "inputFields" InputValues.plain_read
  | interfaces => exact plain_optional r "interfaces" fun items =>
      View.plain_read (TypeRef.plain_readAll items)
  | possibleTypes => exact plain_optional r "possibleTypes" fun items =>
      View.plain_read (TypeRef.plain_readAll items)
  | enumValues => exact plain_optional r "enumValues" fun items =>
      View.plain_read (EnumValue.plain_readAll items)
  | locations => exact View.plain_read r.plain_readLocations
  | locationNames => exact View.plain_read r.plain_readLocationNames
  | arguments =>
      exact plain_bind (View.plain_read (r.plain_list "args")) InputValues.plain_read
  | type => exact View.plain_read r.plain_readType
  | casings => exact plain_pure _

/-- The map by name is read from the types, and logs what they log. -/
theorem log_fill_typesByName (r : Record) :
    (fill typesByName r).reading.log = (fill types r).reading.log := by
  have hfill : fill typesByName r = (do pure (.of (·.name) (← (Schema.mk r).types))) := rfl
  rw [hfill, View.reading_bind, Schema.types, View.reading_memo, Reading.bind_eq, Reading.andThen]
  split
  · exact List.append_nil _
  · rfl

end Slot

end Introspection
