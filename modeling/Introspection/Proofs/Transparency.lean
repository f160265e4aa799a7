import Introspection.Proofs.Chains
import Mathlib.Data.List.Forall2
/-!
# What is kept does not show in answers

A session is sound if each cell that it keeps holds what filling the cell anew would give. Runs of
regular accesses keep sessions sound and have the value that they have without memory. So the
outcome of a step is the same whatever steps were taken before it in its session.
-/

namespace Introspection

/-! ## Runs -/

namespace Access

variable {α β : Type}

theorem run_bind (access : Access α) (next : α → Access β) (session : Session) :
    (access >>= next).run session = (next (access.run session).1).run (access.run session).2 := by
  rw [bind_eq]
  induction access generalizing session with
  | done answer => rfl
  | note line rest ih => exact ih next _
  | memo cell fill rest _ ih =>
      simp only [bind, run]
      cases session.kept.get? cell with
      | some content => exact ih _ next session
      | none =>
          dsimp only
          rcases fill.run session with ⟨_ | content, after⟩
          · exact ih _ next after
          · exact ih _ next (after.keep cell content)

/-- To ask a cell and go on is to ask it, and then to go on. -/
theorem memo_eq_bind (cell : Cell) (fill : Access (Except Fault cell.Content))
    (next : Except Fault cell.Content → Access α) :
    memo cell fill next = memo cell fill done >>= next := rfl

@[simp] theorem run_notes (lines : List LogLine) (session : Session) :
    (notes lines).run session = ((), lines.foldl Session.logged session) := by
  induction lines generalizing session with
  | nil => rfl
  | cons line lines ih => exact ih _

@[simp] theorem run_ofReading (reading : Reading α) (session : Session) :
    (ofReading reading).run session =
      (reading.result, reading.log.foldl Session.logged session) := by
  rw [ofReading, run_bind, run_notes]
  rfl

end Access

/-! ## Sound sessions -/

namespace Session

/-- Each cell that is kept holds what filling it anew would give. -/
def Sound (session : Session) : Prop :=
  ∀ cell content, session.kept.get? cell = some content → cell.fill.run.value = .ok content

@[simp] theorem kept_logged (session : Session) (line : LogLine) :
    (session.logged line).kept = session.kept := by
  unfold logged
  split <;> rfl

@[simp] theorem kept_foldl_logged (lines : List LogLine) (session : Session) :
    (lines.foldl logged session).kept = session.kept := by
  induction lines generalizing session with
  | nil => rfl
  | cons line lines ih => rw [List.foldl_cons, ih, kept_logged]

theorem sound_new (recording : Bool) : (new recording).Sound := by
  intro cell content h
  rw [new, Std.DHashMap.get?_empty] at h
  cases h

theorem sound_of_kept {session other : Session} (h : session.Sound)
    (hkept : other.kept = session.kept) : other.Sound := by
  intro cell content hcell
  rw [hkept] at hcell
  exact h cell content hcell

theorem sound_keep {session : Session} (h : session.Sound) {cell : Cell}
    {content : cell.Content} (hfill : cell.fill.run.value = .ok content) :
    (session.keep cell content).Sound := by
  intro other found hfound
  rw [keep, Std.DHashMap.get?_insert] at hfound
  split at hfound
  case isTrue heq =>
      obtain rfl := eq_of_beq heq
      rw [hfill, ← Option.some.inj hfound]
      rfl
  case isFalse => exact h other found hfound

end Session

/-- The length of a counted list is logged as it is read; the cell is filled by one reading. -/
theorem Slot.fill_of_isCounted {slot : Slot} (h : slot.isCounted = true) (r : Record) :
    ∃ reading, slot.fill r = .read reading := by
  cases slot <;> simp only [isCounted, Bool.false_eq_true] at h
  · exact ⟨_, rfl⟩
  · exact ⟨_, rfl⟩

/-- Runs of an access in sound sessions have its value without memory, and stay sound. -/
def Access.Transparent {α : Type} (access : Access α) : Prop :=
  ∀ session : Session, session.Sound →
    (access.run session).1 = access.value ∧ (access.run session).2.Sound

namespace Access

open Session

variable {r : Record} {α : Type} {P : α → Prop}

theorem transparent_ofReading (reading : Reading α) : (ofReading reading).Transparent := by
  intro session hs
  rw [run_ofReading, value_ofReading]
  exact ⟨rfl, sound_of_kept hs (kept_foldl_logged reading.log session)⟩

theorem transparent_fill_of_isCounted {slot : Slot} (h : slot.isCounted = true) (r : Record) :
    (slot.fill r).run.Transparent := by
  obtain ⟨reading, hreading⟩ := Slot.fill_of_isCounted h r
  rw [hreading]
  exact transparent_ofReading reading

theorem transparent_bind {β : Type} {access : Access α} {next : α → Access β}
    (ha : access.Transparent) (hnext : (next access.value).Transparent) :
    (access >>= next).Transparent := by
  intro session hs
  obtain ⟨hvalue, hafter⟩ := ha session hs
  rw [run_bind, value_bind, hvalue]
  exact hnext _ hafter

/-- A cell is asked with its filling, so what is found is the same whether it was kept or not. -/
theorem transparent_ask {cell : Cell} (hfill : cell.fill.run.Transparent) :
    (memo cell cell.fill.run done).Transparent := by
  intro session hs
  rw [run]
  cases hkept : session.kept.get? cell with
  | some content => exact ⟨(hs cell content hkept).symm, hs⟩
  | none =>
      obtain ⟨hvalue, hafter⟩ := hfill session hs
      dsimp only
      rcases hrun : cell.fill.run.run session with ⟨fault | content, after⟩
      · rw [hrun] at hvalue hafter
        exact ⟨hvalue, hafter⟩
      · rw [hrun] at hvalue hafter
        exact ⟨hvalue, sound_keep hafter hvalue.symm⟩

theorem transparent_of_regular {access : Access α} (ha : access.Regular r P) :
    access.Transparent := by
  induction ha with
  | done answer => exact fun session hs => ⟨rfl, hs⟩
  | note uncounted _ ih =>
      exact fun session hs => ih _ (sound_of_kept hs (kept_logged session _))
  | memo cell uncounted _ _ ihfill ih =>
      -- A kept cell goes on with the answer that the induction has for its filling.
      rw [memo_eq_bind]
      exact transparent_bind (transparent_ask ihfill) (ih _)
  | counted cell counted _ _ ih =>
      have hfill := transparent_fill_of_isCounted counted cell.record
      rw [memo_eq_bind]
      exact transparent_bind (transparent_ask hfill) (ih _)

end Access

/-- What a view finds in a sound session is what its reading finds. -/
theorem View.run_eq_result {α : Type} {r : Record} {P : α → Prop} {view : View α}
    (hview : view.Regular r P) {session : Session} (hs : session.Sound) :
    (view.run.run session).1 = view.reading.result :=
  (Access.transparent_of_regular hview session hs).1

/-! ## Reachable sessions -/

/-- The sessions that calls on a schema, and on answers that stay within it, lead to. The log is
cleared between steps. -/
inductive Session.Reachable (s : Schema) (recording : Bool) : Session → Prop
  | new : Reachable s recording (.new recording)
  | clear {session : Session} (before : Reachable s recording session) :
      Reachable s recording { session with log := #[] }
  | call {session : Session} {answer : Answer} {call : Call} {view : View Answer}
      (before : Reachable s recording session) (own : answer.Within s)
      (asked : answer.ask call = some view) : Reachable s recording (view.run.run session).2

theorem Session.Reachable.sound {s : Schema} {recording : Bool} {session : Session}
    (h : Reachable s recording session) : session.Sound := by
  induction h with
  | new => exact sound_new recording
  | clear _ ih => exact sound_of_kept ih rfl
  | call _ own asked ih =>
      exact (Access.transparent_of_regular (Answer.orderly_ask own asked) _ ih).2

/-! ## Steps -/

namespace Schema

variable (s : Schema)

def outcome (chain : Chain) : Outcome := (s.follow chain).value

theorem take_of_sound (chain : Chain) {session : Session} (hs : session.Sound) :
    (s.take chain session).1.outcome = s.outcome chain ∧ (s.take chain session).2.Sound :=
  Access.transparent_of_regular (regular_follow chain) _ (Session.sound_of_kept hs rfl)

theorem map_outcome_takeAll (chains : List Chain) {session : Session} (hs : session.Sound) :
    (s.takeAll chains session).map Entry.outcome = chains.map s.outcome := by
  induction chains generalizing session with
  | nil => rfl
  | cons chain chains ih =>
      obtain ⟨houtcome, hafter⟩ := s.take_of_sound chain hs
      rw [takeAll, List.map_cons, List.map_cons, houtcome, ih hafter]

end Schema

namespace Transcript

def outcomes (transcript : Transcript) : Except Fault (List Outcome) :=
  transcript.entries.map fun entries => entries.map (·.outcome)

theorem outcomes_of {document : Json} {s : Schema} (h : (Schema.create document).result = .ok s)
    (recording : Bool) (chains : List Chain) :
    (Transcript.of recording document chains).outcomes = .ok (chains.map s.outcome) := by
  have hrun := s.map_outcome_takeAll chains (Session.sound_new recording)
  rw [outcomes, Transcript.of, h]
  exact congrArg Except.ok hrun

/-- The steps of a session turn out as each of them does alone with a new schema of the same
document, whatever was asked, found or not found before it. -/
theorem outcomes_eq_outcomes_alone {document : Json}
    (h : ∃ s, (Schema.create document).result = .ok s) (recording : Bool)
    (chains : List Chain) :
    ∃ outcomes, (Transcript.of recording document chains).outcomes = .ok outcomes ∧
      List.Forall₂ (fun chain outcome =>
        (Transcript.of recording document [chain]).outcomes = .ok [outcome]) chains outcomes := by
  obtain ⟨s, hs⟩ := h
  refine ⟨chains.map s.outcome, outcomes_of hs recording chains, ?_⟩
  induction chains with
  | nil => exact .nil
  | cons chain chains ih => exact .cons (outcomes_of hs recording [chain]) ih

def unnamedType : Json :=
  .ofMembers [("data", .ofMembers [("__schema", .ofMembers
    [("directives", .arr []), ("types", .arr [.ofMembers [("kind", .str "OBJECT")]])])])]

theorem outcomes_eq_outcomes_alone_unnamedType :
    (∃ s, (Schema.create unnamedType).result = .ok s) ∧
      ∃ outcomes, (Transcript.of true unnamedType
          [[.types], [.directives, .length], [.types]]).outcomes = .ok outcomes ∧
        List.Forall₂ (fun chain outcome =>
          (Transcript.of true unnamedType [chain]).outcomes = .ok [outcome])
            [[.types], [.directives, .length], [.types]] outcomes :=
  have h : ∃ s, (Schema.create unnamedType).result = .ok s := ⟨_, rfl⟩
  ⟨h, outcomes_eq_outcomes_alone h true _⟩

end Transcript

end Introspection
