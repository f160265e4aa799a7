import Introspection.Log
/-!
# Readings

A reading is what came of reading a part of a document: a value or a fault, and the lines that
were logged on the way. A fault is logged where it arises and ends the reading.
-/

namespace Introspection

structure Reading (α : Type) where
  log : List LogLine
  result : Except Fault α

namespace Reading

variable {α β : Type}

def andThen (r : Reading α) (next : α → Reading β) : Reading β :=
  match r.result with
  | .ok a =>
      let rest := next a
      ⟨r.log ++ rest.log, rest.result⟩
  | .error fault => ⟨r.log, .error fault⟩

instance : Monad Reading where
  pure a := ⟨[], .ok a⟩
  bind := andThen

theorem bind_eq (r : Reading α) (next : α → Reading β) : r >>= next = r.andThen next := rfl

theorem andThen_assoc {γ : Type} (r : Reading α) (f : α → Reading β) (g : β → Reading γ) :
    (r.andThen f).andThen g = r.andThen fun a => (f a).andThen g := by
  obtain ⟨log, result⟩ := r
  cases result with
  | error fault => rfl
  | ok a =>
      simp only [andThen]
      cases (f a).result with
      | error fault => rfl
      | ok b => simp only [List.append_assoc]

theorem andThen_pure (r : Reading α) : r.andThen pure = r := by
  obtain ⟨log, result⟩ := r
  cases result with
  | error fault => rfl
  | ok a => exact congrArg (Reading.mk · (.ok a)) (List.append_nil log)

instance : LawfulMonad Reading :=
  LawfulMonad.mk' Reading andThen_pure (fun _ _ => rfl) andThen_assoc

def note (line : LogLine) : Reading Unit := ⟨[line], .ok ()⟩

/-- Ends with a fault, which is logged if faults like it are. -/
def fail (fault : Fault) : Reading α := ⟨fault.line?.toList, .error fault⟩

def require (fault : Fault) : Option α → Reading α
  | some a => pure a
  | none => fail fault

/-- The value if there is one; what was logged stays logged. -/
def attempt (r : Reading α) : Reading (Option α) := ⟨r.log, .ok r.result.toOption⟩

end Reading

end Introspection
