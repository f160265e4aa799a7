import Introspection.Proofs.CallLines
/-!
# Single calls in sessions

In every session that calls on a schema lead to, a call has the outcome that it has without
memory. One that logs nothing without memory leaves the log of the session as it is.
-/

namespace Introspection

open LogLine

namespace Session

def find {α : Type} (session : Session) (view : View α) : Except Fault α :=
  (view.run.run session).1

def logAfter {α : Type} (session : Session) (view : View α) : Array LogLine :=
  (view.run.run session).2.log

def ask (session : Session) (e : Entity) (call : Call) : Option (Except Fault Answer) :=
  (e.ask call).map session.find

def AnswersQuietly (session : Session) (e : Entity) (call : Call) (answer : Answer) : Prop :=
  ∃ view, e.ask call = some view ∧ session.find view = .ok answer ∧
    session.logAfter view = session.log

variable {s : Schema} {recording : Bool} {session : Session}

theorem recording_of_reachable (h : Reachable s recording session) :
    recording = false → session.recording = false := by
  rintro rfl
  induction h with
  | new => rfl
  | clear _ ih => exact ih
  | call _ _ _ ih => exact (Access.log_run_of_not_recording _ ih).2

/-- What a view finds in a session is what is read without memory. -/
theorem Reachable.find_eq (h : Reachable s recording session) {α : Type} {r : Record}
    {P : α → Prop} {view : View α} (hview : view.Regular r P) :
    session.find view = view.reading.result :=
  View.run_eq_result hview h.sound

/-- A view that logs nothing without memory logs nothing in any session. -/
theorem Reachable.logAfter_eq (h : Reachable s recording session) {view : View Answer}
    (hview : view.Orderly s) (hlog : view.reading.log = []) :
    session.logAfter view = session.log := by
  cases recording with
  | false => exact (Access.log_run_of_not_recording _ (recording_of_reachable h rfl)).1
  | true =>
      obtain ⟨seen, hseen⟩ := h.remembers
      have hrun := (View.run_of_remembers hview hseen).2
      rw [hlog, novel, List.append_nil] at hrun
      exact Array.toList_inj.mp hrun

variable {e : Entity} {call : Call} {view : View Answer}

/-- What is asked in a session is what is read without memory. -/
theorem Reachable.ask_eq (h : Reachable s recording session) (he : e.Within s) :
    session.ask e call = (e.ask call).map (·.reading.result) := by
  rw [ask]
  cases hview : e.ask call with
  | none => rfl
  | some view =>
      rw [Option.map_some, Option.map_some, h.find_eq (Entity.orderly_ask he hview)]

/-- A plain call that succeeds is answered quietly. -/
theorem Reachable.answersQuietly (h : Reachable s recording session) (he : e.Within s)
    (hview : e.ask call = some view) (hplain : view.Plain) {answer : Answer}
    (hok : view.reading.result = .ok answer) : session.AnswersQuietly e call answer := by
  have horderly := Entity.orderly_ask he hview
  refine ⟨view, hview, ?_, ?_⟩
  · rw [h.find_eq horderly, hok]
  · exact h.logAfter_eq horderly (Reading.log_of_ok hplain hok)

end Session

end Introspection
