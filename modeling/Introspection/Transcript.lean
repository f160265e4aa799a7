import Introspection.Description
/-!
# Transcripts

A step is a chain of calls that begins at the schema. The steps of a transcript are taken in one
session, and what each of them logs stands with its outcome.
-/

namespace Introspection

abbrev Chain := List Call

/-- What became of a chain: it was answered, a call failed, or a call did not apply. -/
inductive Outcome where
  | answered (value : Json)
  | failed (fault : Fault)
  | refused

def Answer.follow : Answer → Chain → View (Option Json)
  | answer, [] => some <$> answer.render
  | answer, call :: rest =>
      match answer.ask call with
      | none => pure none
      | some view => do (← view).follow rest

def Schema.follow (s : Schema) (chain : Chain) : Access Outcome := do
  match ← ((Answer.one (.schema s)).follow chain).run with
  | .ok (some value) => pure (.answered value)
  | .ok none => pure .refused
  | .error fault => pure (.failed fault)

structure Entry where
  outcome : Outcome
  log : List LogLine

/-- Takes a step in a session, whose log then holds the lines of the step. -/
def Schema.take (s : Schema) (chain : Chain) (session : Session) : Entry × Session :=
  let (outcome, session) := (s.follow chain).run { session with log := #[] }
  (⟨outcome, session.log.toList⟩, session)

def Schema.takeAll (s : Schema) : List Chain → Session → List Entry
  | [], _ => []
  | chain :: chains, session =>
      let (entry, session) := s.take chain session
      entry :: s.takeAll chains session

/-- What was logged before the first step, and the steps; or the fault that left no schema. -/
structure Transcript where
  opening : List LogLine
  entries : Except Fault (List Entry)

def Transcript.of (recording : Bool) (document : Json) (chains : List Chain) : Transcript :=
  let created := Schema.create document
  { opening := if recording then created.log else []
    entries := created.result.map fun s => s.takeAll chains (.new recording) }

end Introspection
