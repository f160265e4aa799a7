import Introspection.Transcript
/-!
# Access without memory

An access that is not run in a session has a value and logs lines as if every cell that it asks
were empty. A view is then a reading, and the reading of a view that goes through several others
is put together from theirs.
-/

namespace Introspection

namespace Access

variable {α β : Type}

/-- The value of an access when every cell that it asks is filled for it. -/
def value {α : Type} : Access α → α
  | done answer => answer
  | note _ rest => rest.value
  | memo _ fill rest => (rest fill.value).value

def lines {α : Type} : Access α → List LogLine
  | done _ => []
  | note line rest => line :: rest.lines
  | memo _ fill rest => fill.lines ++ (rest fill.value).lines

theorem bind_eq (access : Access α) (next : α → Access β) :
    access >>= next = access.bind next := rfl

@[simp] theorem value_pure (a : α) : (pure a : Access α).value = a := rfl

@[simp] theorem lines_pure (a : α) : (pure a : Access α).lines = [] := rfl

@[simp] theorem value_bind (access : Access α) (next : α → Access β) :
    (access >>= next).value = (next access.value).value := by
  rw [bind_eq]
  induction access with
  | done answer => rfl
  | note line rest ih => exact ih next
  | memo cell fill rest _ ih => exact ih fill.value next

@[simp] theorem lines_bind (access : Access α) (next : α → Access β) :
    (access >>= next).lines = access.lines ++ (next access.value).lines := by
  rw [bind_eq]
  induction access with
  | done answer => rfl
  | note line rest ih => exact congrArg (line :: ·) (ih next)
  | memo cell fill rest _ ih =>
      rw [bind, lines, lines, ih, List.append_assoc]
      rfl

@[simp] theorem value_map (f : α → β) (access : Access α) :
    (f <$> access).value = f access.value := by
  rw [← bind_pure_comp, value_bind, value_pure]

@[simp] theorem lines_map (f : α → β) (access : Access α) :
    (f <$> access).lines = access.lines := by
  rw [← bind_pure_comp, lines_bind, lines_pure, List.append_nil]

@[simp] theorem lines_notes (log : List LogLine) : (notes log).lines = log := by
  induction log with
  | nil => rfl
  | cons line log ih => rw [notes, lines, ih]

@[simp] theorem value_ofReading (reading : Reading α) :
    (ofReading reading).value = reading.result := by
  rw [ofReading, value_bind, value_pure]

@[simp] theorem lines_ofReading (reading : Reading α) :
    (ofReading reading).lines = reading.log := by
  rw [ofReading, lines_bind, lines_notes, lines_pure, List.append_nil]

end Access

namespace View

variable {α β : Type}

def reading (view : View α) : Reading α := ⟨view.run.lines, view.run.value⟩

@[simp] theorem reading_pure (a : α) : (pure a : View α).reading = pure a := rfl

@[simp] theorem reading_bind (view : View α) (next : α → View β) :
    (view >>= next).reading = view.reading >>= fun a => (next a).reading := by
  rw [reading, ExceptT.run_bind, Access.lines_bind, Access.value_bind, Reading.bind_eq,
    Reading.andThen]
  cases h : view.run.value with
  | ok a => simp only [reading, h]
  | error fault =>
      simp only [reading, h, Access.lines_pure, Access.value_pure, List.append_nil]

@[simp] theorem reading_map (f : α → β) (view : View α) :
    (f <$> view).reading = f <$> view.reading := by
  rw [← bind_pure_comp, ← bind_pure_comp, reading_bind]
  rfl

@[simp] theorem reading_read (reading : Reading α) : (View.read reading).reading = reading := by
  rw [View.reading, View.read, ExceptT.run_mk, Access.lines_ofReading, Access.value_ofReading]

@[simp] theorem reading_memo (slot : Slot) (record : Record) (fill : View slot.Content) :
    (View.memo slot record fill).reading = fill.reading := by
  rw [View.reading, View.memo, ExceptT.run_mk, Access.lines, Access.value, Access.lines,
    Access.value, List.append_nil]
  rfl

end View

end Introspection
