import Introspection.Slot
import Std.Data.DHashMap
/-!
# Access to a document

What an accessor does with a document is a tree: it logs lines, asks cells, and answers. A cell
is asked together with what would fill it, which is an access of its own and may ask further
cells. Run in a session, a cell that has been filled is not filled again; one that could not be
filled is tried anew each time it is asked.
-/

namespace Introspection

inductive Access : Type → Type 1 where
  | done {α : Type} (answer : α) : Access α
  | note {α : Type} (line : LogLine) (rest : Access α) : Access α
  | memo {α : Type} (cell : Cell) (fill : Access (Except Fault cell.Content))
      (rest : Except Fault cell.Content → Access α) : Access α

namespace Access

variable {α β : Type}

def bind {α β : Type} : Access α → (α → Access β) → Access β
  | done answer, next => next answer
  | note line rest, next => note line (rest.bind next)
  | memo cell fill rest, next => memo cell fill fun found => (rest found).bind next

instance : Monad Access where
  pure := done
  bind := bind

theorem bind_done (access : Access α) : access.bind done = access := by
  induction access with
  | done answer => rfl
  | note line rest ih => exact congrArg (note line) ih
  | memo cell fill rest _ ih => exact congrArg (memo cell fill) (funext ih)

theorem bind_assoc {γ : Type} (access : Access α) (f : α → Access β) (g : β → Access γ) :
    (access.bind f).bind g = access.bind fun a => (f a).bind g := by
  induction access with
  | done answer => rfl
  | note line rest ih => exact congrArg (note line) (ih f)
  | memo cell fill rest _ ih => exact congrArg (memo cell fill) (funext fun found => ih found f)

instance : LawfulMonad Access :=
  LawfulMonad.mk' Access bind_done (fun _ _ => rfl) bind_assoc

def notes : List LogLine → Access Unit
  | [] => done ()
  | line :: lines => note line (notes lines)

/-- The outcome of a reading that is not kept. -/
def ofReading (reading : Reading α) : Access (Except Fault α) := do
  notes reading.log
  pure reading.result

end Access

/-- An access that ends with the first fault. -/
abbrev View (α : Type) := ExceptT Fault Access α

namespace View

def read {α : Type} (reading : Reading α) : View α := .mk (.ofReading reading)

/-- The content of a cell, which is filled by a view if it has not been filled before. -/
def memo (slot : Slot) (record : Record) (fill : View slot.Content) : View slot.Content :=
  .mk (.memo ⟨slot, record⟩ fill.run .done)

end View

structure Session where
  recording : Bool
  kept : Std.DHashMap Cell Cell.Content
  log : Array LogLine

namespace Session

def new (recording : Bool) : Session := ⟨recording, ∅, #[]⟩

def logged (s : Session) (line : LogLine) : Session :=
  if s.recording then { s with log := s.log.push line } else s

def keep (s : Session) (cell : Cell) (content : cell.Content) : Session :=
  { s with kept := s.kept.insert cell content }

end Session

def Access.run {α : Type} : Access α → Session → α × Session
  | done answer, s => (answer, s)
  | note line rest, s => rest.run (s.logged line)
  | memo cell fill rest, s =>
      match s.kept.get? cell with
      | some content => (rest (.ok content)).run s
      | none =>
          match fill.run s with
          | (.ok content, s) => (rest (.ok content)).run (s.keep cell content)
          | (.error fault, s) => (rest (.error fault)).run s

end Introspection
