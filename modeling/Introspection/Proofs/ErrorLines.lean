import Introspection.Fault
import Introspection.Log
/-!
# What an error tells of its log line

An error has a kind, a message and a context, and a line that was logged for it has the key and
the place of the failed lookup. All but three sorts of errors are logged, and the line can be told
from the error: the message names the key and the context is the place.
-/

namespace Introspection

namespace Error

/-- The errors without a line: of a node that is no object, of a wrapper around null, and of a
location that is not known. -/
def Unlogged (e : Error) : Prop :=
  (e.kind = .unexpectedValue ∧ e.message = "expected an object") ∨
  (e.kind = .missingField ∧ e.message = "`ofType`" ∧
    ∃ kind : TypeKind, e.context = some (kind.name ++ " type reference")) ∨
  (e.kind = .unexpectedValue ∧ ∃ value : Json,
    e.message = "unknown directive location " ++ value.text)

/-- An error whose lines in a log are these: none if it is one of the errors without a line, and
else the one that has its key and its context. -/
def LoggedAs (e : Error) (log : List String) : Prop :=
  (e.Unlogged → log = []) ∧
  (¬ e.Unlogged →
    (∃ key context, e = ⟨.missingField, "`" ++ key ++ "`", some context⟩ ∧
      log = ["TRACE missing `" ++ key ++ "` on " ++ context]) ∨
    (∃ (shape : Shape) (key context : String),
      e = ⟨.unexpectedValue, "expected " ++ shape.text ++ " for " ++ ("`" ++ key ++ "`"),
        some context⟩ ∧
      log = ["TRACE unexpected value for `" ++ key ++ "` on " ++ context]))

theorem loggedAs_nil {e : Error} (h : e.Unlogged) : e.LoggedAs [] :=
  ⟨fun _ => rfl, fun hlogged => absurd h hlogged⟩

end Error

/-! ## Texts that differ -/

theorem Owner.exists_head?_text (owner : Owner) :
    ∃ c, owner.text.toList.head? = some c ∧ c.isUpper = false := by
  cases owner <;> exact ⟨_, rfl, rfl⟩

theorem TypeKind.exists_head?_name (kind : TypeKind) :
    ∃ c, kind.name.toList.head? = some c ∧ c.isUpper = true := by
  cases kind <;> exact ⟨_, rfl, rfl⟩

theorem head?_toList_append {s t : String} {c : Char} (h : s.toList.head? = some c) :
    (s ++ t).toList.head? = some c := by
  rw [String.toList_append, List.head?_append, h, Option.some_or]

theorem Place.exists_head?_text (place : Place) :
    ∃ c, place.text.toList.head? = some c ∧ c.isUpper = false := by
  obtain ⟨c, hc, hlower⟩ := place.owner.exists_head?_text
  refine ⟨c, ?_, hlower⟩
  unfold Place.text
  split
  · apply head?_toList_append
    apply head?_toList_append
    exact head?_toList_append hc
  · exact hc

/-- No node is called like a type reference: its place begins with the name of its owner. -/
theorem Place.text_ne_reference (place : Place) (kind : TypeKind) :
    place.text ≠ kind.name ++ " type reference" := by
  intro h
  obtain ⟨c, hc, hlower⟩ := place.exists_head?_text
  obtain ⟨d, hd, hupper⟩ := kind.exists_head?_name
  rw [h, head?_toList_append hd] at hc
  cases hc
  rw [hupper] at hlower
  cases hlower

theorem Shape.lt_length_text (shape : Shape) : 2 < shape.text.length := by
  cases shape <;> decide

/-- A message that names the key is longer than the one that an object was expected. -/
theorem Shape.message_ne_object (shape : Shape) (key : String) :
    "expected " ++ shape.text ++ " for " ++ ("`" ++ key ++ "`") ≠ "expected an object" := by
  intro h
  have hshape := shape.lt_length_text
  have hlength := congrArg String.length h
  simp only [String.length_append] at hlength
  have hwords : "expected ".length = 9 ∧ " for ".length = 5 ∧ "`".length = 1 ∧
      "expected an object".length = 18 := by decide
  omega

theorem Shape.message_ne_location (shape : Shape) (key text : String) :
    "expected " ++ shape.text ++ " for " ++ ("`" ++ key ++ "`") ≠
      "unknown directive location " ++ text := by
  intro h
  have hexpected : "expected ".toList.head? = some 'e' := rfl
  have hunknown : "unknown directive location ".toList.head? = some 'u' := rfl
  have hhead := congrArg (fun s : String => s.toList.head?) h
  rw [head?_toList_append hunknown, head?_toList_append (head?_toList_append
    (head?_toList_append hexpected))] at hhead
  cases hhead

/-! ## Faults -/

namespace Fault

theorem not_unlogged_missing (key : String) (place : Place) :
    ¬ (missing key place).toError.Unlogged := by
  rintro (⟨hkind, _⟩ | ⟨_, _, kind, hcontext⟩ | ⟨hkind, _⟩)
  · cases hkind
  · exact place.text_ne_reference kind (Option.some.inj hcontext)
  · cases hkind

theorem not_unlogged_unexpected (key : String) (shape : Shape) (place : Place) :
    ¬ (unexpected key shape place).toError.Unlogged := by
  rintro (⟨_, hmessage⟩ | ⟨hkind, _⟩ | ⟨_, value, hmessage⟩)
  · exact shape.message_ne_object key hmessage
  · cases hkind
  · exact shape.message_ne_location key value.text hmessage

/-- The error of a fault tells what is logged for the fault. -/
theorem loggedAs_line? (fault : Fault) :
    fault.toError.LoggedAs (fault.line?.toList.map LogLine.text) := by
  cases fault with
  | missing key place =>
      constructor
      · intro h
        exact absurd h (not_unlogged_missing key place)
      · intro _
        exact .inl ⟨key, place.text, rfl, rfl⟩
  | unexpected key shape place =>
      constructor
      · intro h
        exact absurd h (not_unlogged_unexpected key shape place)
      · intro _
        exact .inr ⟨shape, key, place.text, rfl, rfl⟩
  | notObject place => exact Error.loggedAs_nil (.inl ⟨rfl, rfl⟩)
  | wrapsNull kind => exact Error.loggedAs_nil (.inr (.inl ⟨rfl, rfl, kind, rfl⟩))
  | unknownLocation value place => exact Error.loggedAs_nil (.inr (.inr ⟨rfl, value, rfl⟩))

end Fault

end Introspection
