import Introspection.Proofs.Direct
import Introspection.Proofs.Plain
/-!
# How cells are filled

Each cell is filled in one way, whoever asks it first: `Cell.fill`. An access is regular if it
asks every cell together with that filling, and asks for the counted lists of one schema only.
-/

namespace Introspection

universe u

/-! ## The filling of a cell -/

def Slot.fill : (slot : Slot) → (r : Record) → View slot.Content
  | types, r => .read (Schema.mk r).readTypes
  | typesByName, r => do pure (.of (·.name) (← (Schema.mk r).types))
  | directives, r => .read (Schema.mk r).readDirectives
  | fields, r => r.optional "fields" fun items => .read (Field.readAll items)
  | fieldsByName, r => do
      let found ← .memo .fields r (r.optional "fields" fun items => .read (Field.readAll items))
      pure ((found.map (·.view true)).map (.of (·.name)))
  | inputFields, r => r.optional "inputFields" InputValues.read
  | interfaces, r => r.optional "interfaces" fun items => .read (TypeRef.readAll items)
  | possibleTypes, r => r.optional "possibleTypes" fun items => .read (TypeRef.readAll items)
  | enumValues, r => r.optional "enumValues" fun items => .read (EnumValue.readAll items)
  | locations, r => .read r.readLocations
  | locationNames, r => .read r.readLocationNames
  | arguments, r => do InputValues.read (← .read (r.list "args"))
  | type, r => .read r.readType
  | casings, r => pure (.of (r.place.name.getD ""))

def Slot.isCounted : Slot → Bool
  | types | directives => true
  | _ => false

def Cell.fill (cell : Cell) : View cell.Content := cell.slot.fill cell.record

def LogLine.isCount : LogLine → Bool
  | readTypes _ | readDirectives _ => true
  | _ => false

theorem Fault.isCount_of_line? {fault : Fault} {line : LogLine} (h : line ∈ fault.line?) :
    line.isCount = false := by
  cases fault <;> simp only [Fault.line?, Option.mem_def, Option.some.injEq, reduceCtorEq] at h
  all_goals subst h; rfl

def Reading.Uncounted {α : Type} (r : Reading α) : Prop := ∀ line ∈ r.log, line.isCount = false

theorem Reading.uncounted_of_plain {α : Type} {r : Reading α} (h : r.Plain) : r.Uncounted := by
  intro line hline
  cases hr : r.result with
  | ok a =>
      rw [log_of_ok h hr] at hline
      exact absurd hline List.not_mem_nil
  | error fault =>
      rw [log_of_error h hr, Option.mem_toList] at hline
      exact Fault.isCount_of_line? hline

theorem Reading.uncounted_bind {α β : Type} {r : Reading α} {next : α → Reading β}
    (hr : r.Uncounted) (hnext : ∀ a, (next a).Uncounted) : (r >>= next).Uncounted := by
  intro line hline
  rw [bind_eq, andThen] at hline
  split at hline
  · rcases List.mem_append.mp hline with h | h
    · exact hr line h
    · exact hnext _ line h
  · exact hr line hline

theorem Reading.uncounted_attempt {α : Type} {r : Reading α} (h : r.Uncounted) :
    r.attempt.Uncounted := h

theorem Reading.uncounted_missing {α : Type} (key : String) (place : Place)
    (result : Except Fault α) : (Reading.mk [.missing key place] result).Uncounted := by
  intro line hline
  rw [List.mem_singleton.mp hline]
  rfl

/-! ## Regular accesses -/

/-- An access that asks every cell with its filling, and for the counted lists of one record
only; its answer satisfies `P`. -/
inductive Access.Regular (r : Record) : {α : Type} → (α → Prop) → Access α → Prop
  | done {α : Type} {P : α → Prop} {a : α} (answer : P a) : Regular r P (.done a)
  | note {α : Type} {P : α → Prop} {line : LogLine} {next : Access α}
      (uncounted : line.isCount = false) (rest : Regular r P next) : Regular r P (.note line next)
  | memo {α : Type} {P : α → Prop} (cell : Cell) {next : Except Fault cell.Content → Access α}
      (uncounted : cell.slot.isCounted = false)
      (fill : Regular r (fun _ => True) cell.fill.run)
      (rest : ∀ found, Regular r P (next found)) : Regular r P (.memo cell cell.fill.run next)
  | counted {α : Type} {P : α → Prop} (cell : Cell) {next : Except Fault cell.Content → Access α}
      (counted : cell.slot.isCounted = true) (own : cell.record = r)
      (rest : ∀ found, Regular r P (next found)) : Regular r P (.memo cell cell.fill.run next)

namespace Access

variable {r : Record} {α β : Type} {P : α → Prop} {Q : β → Prop}

theorem Regular.weaken {Q : α → Prop} {access : Access α} (ha : access.Regular r P)
    (h : ∀ a, P a → Q a) : access.Regular r Q := by
  induction ha with
  | done answer => exact .done (h _ answer)
  | note uncounted _ ih => exact .note uncounted (ih h)
  | memo cell uncounted fill _ _ ih => exact .memo cell uncounted fill fun found => ih found h
  | counted cell counted own _ ih => exact .counted cell counted own fun found => ih found h

theorem regular_bind {access : Access α} {next : α → Access β} (ha : access.Regular r P)
    (hnext : ∀ a, P a → (next a).Regular r Q) : (access >>= next).Regular r Q := by
  induction ha with
  | done answer => exact hnext _ answer
  | note uncounted _ ih => exact .note uncounted (ih hnext)
  | memo cell uncounted fill _ _ ih => exact .memo cell uncounted fill fun found => ih found hnext
  | counted cell counted own _ ih => exact .counted cell counted own fun found => ih found hnext

theorem regular_notes {log : List LogLine} (h : ∀ line ∈ log, line.isCount = false) :
    (notes log).Regular r fun _ => True := by
  induction log with
  | nil => exact .done trivial
  | cons line log ih =>
      exact .note (h line List.mem_cons_self)
        (ih fun other hother => h other (List.mem_cons_of_mem line hother))

theorem regular_ofReading {reading : Reading α} (h : reading.Uncounted)
    {P : Except Fault α → Prop} (hP : P reading.result) : (ofReading reading).Regular r P :=
  regular_bind (regular_notes h) fun _ _ => .done hP

theorem regular_mapM {ι : Type u} {f : ι → Access α} {items : List ι}
    (h : ∀ i ∈ items, (f i).Regular r fun _ => True) :
    (items.mapM f).Regular r fun _ => True := by
  induction items with
  | nil =>
      rw [List.mapM_nil]
      exact .done trivial
  | cons i items ih =>
      rw [List.mapM_cons]
      exact regular_bind (h i List.mem_cons_self) fun _ _ =>
        regular_bind (ih fun j hj => h j (List.mem_cons_of_mem i hj)) fun _ _ => .done trivial

end Access

def View.Regular {α : Type} (r : Record) (P : α → Prop) (view : View α) : Prop :=
  view.run.Regular r fun found => ∀ a, found = .ok a → P a

namespace View

variable {r : Record} {α β : Type} {P : α → Prop} {Q : β → Prop}

theorem regular_pure {a : α} (h : P a) : (pure a : View α).Regular r P :=
  .done fun b hb => by cases hb; exact h

theorem regular_bind {view : View α} {next : α → View β} (hv : view.Regular r P)
    (hnext : ∀ a, P a → (next a).Regular r Q) : (view >>= next).Regular r Q := by
  unfold Regular
  rw [ExceptT.run_bind]
  refine Access.regular_bind hv fun found hfound => ?_
  cases found with
  | ok a => exact hnext a (hfound a rfl)
  | error fault => exact .done fun b hb => by cases hb

theorem regular_map {f : α → β} {view : View α} (hv : view.Regular r P)
    (hf : ∀ a, P a → Q (f a)) : (f <$> view).Regular r Q := by
  rw [← bind_pure_comp]
  exact regular_bind hv fun a ha => regular_pure (hf a ha)

theorem regular_read {reading : Reading α} (h : reading.Uncounted)
    (hP : ∀ a, reading.result = .ok a → P a) : (View.read reading).Regular r P :=
  Access.regular_ofReading h hP

theorem regular_lift {access : Access α} (h : access.Regular r P) :
    View.Regular r P (ExceptT.lift access) := by
  unfold Regular
  rw [ExceptT.run_lift, ← bind_pure_comp]
  exact Access.regular_bind h fun a ha => .done fun b hb => by cases hb; exact ha

theorem regular_mapM {ι : Type u} {f : ι → View α} {items : List ι}
    (h : ∀ i ∈ items, (f i).Regular r fun _ => True) :
    (items.mapM f).Regular r fun _ => True := by
  induction items with
  | nil =>
      rw [List.mapM_nil]
      exact regular_pure trivial
  | cons i items ih =>
      rw [List.mapM_cons]
      exact regular_bind (h i List.mem_cons_self) fun _ _ =>
        regular_bind (ih fun j hj => h j (List.mem_cons_of_mem i hj)) fun _ _ =>
          regular_pure trivial

theorem regular_memo (slot : Slot) {record : Record} {fill : View slot.Content}
    (same : slot.fill record = fill) (uncounted : slot.isCounted = false)
    (regular : fill.Regular r fun _ => True) :
    (View.memo slot record fill).Regular r fun _ => True := by
  subst same
  exact .memo ⟨slot, record⟩ uncounted (regular.weaken fun _ _ => trivial) fun _ =>
    .done fun _ _ => trivial

theorem regular_counted (slot : Slot) {fill : View slot.Content} (same : slot.fill r = fill)
    (counted : slot.isCounted = true) : (View.memo slot r fill).Regular r fun _ => True := by
  subst same
  exact .counted ⟨slot, r⟩ counted rfl fun _ => .done fun _ _ => trivial

theorem regular_plain {reading : Reading α} (h : reading.Plain) :
    (View.read reading).Regular r fun _ => True :=
  regular_read (Reading.uncounted_of_plain h) fun _ _ => trivial

end View

end Introspection
