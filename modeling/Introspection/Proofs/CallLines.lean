import Introspection.Proofs.ErrorLines
import Introspection.Proofs.LogOnce
import Introspection.Proofs.PlainCalls
/-!
# The lines of single calls

Whatever has been asked before, a call that fails logs the line of its error or nothing, as the
error tells. A call that succeeds logs nothing but the count of a list that it is the first to
read, or that an optional key is absent.
-/

namespace Introspection

open LogLine

/-! ## Reachable sessions -/

variable {s : Schema} {session : Session} {seen : List LogLine}

theorem Session.Reachable.remembers (h : Session.Reachable s true session) :
    ∃ seen, session.Remembers s.record seen := by
  induction h with
  | new => exact ⟨[], remembers_new s.record⟩
  | clear _ ih =>
      obtain ⟨seen, hseen⟩ := ih
      exact ⟨seen, hseen.of_kept rfl rfl⟩
  | call _ own asked ih =>
      obtain ⟨seen, hseen⟩ := ih
      have hview := Answer.orderly_ask own asked
      exact ⟨_, (Access.sparing_of_regular hview _ seen hseen).1⟩

/-- What a view finds and logs in a session is told by its reading. -/
theorem View.run_of_remembers {view : View Answer} (hview : view.Orderly s)
    (h : session.Remembers s.record seen) :
    (view.run.run session).1 = view.reading.result ∧
      (view.run.run session).2.log.toList =
        session.log.toList ++ novel seen view.reading.log := by
  have hlog := Access.sparing_of_regular hview session seen h
  exact ⟨run_eq_result hview h.sound, hlog.2⟩

/-- A count has been seen exactly if its list is kept. -/
theorem Session.Remembers.novel_countLine (h : session.Remembers s.record seen) {slot : Slot}
    (hslot : slot.isCounted = true) {content : slot.Content} {n : Nat}
    (hfill : (slot.fill s.record).reading = ⟨[slot.countLine n], .ok content⟩) :
    (session.kept.get? ⟨slot, s.record⟩ ≠ none → novel seen [slot.countLine n] = []) ∧
      (session.kept.get? ⟨slot, s.record⟩ = none →
        novel seen [slot.countLine n] = [slot.countLine n]) := by
  constructor
  · intro hkept
    obtain ⟨found, hfound⟩ := Option.ne_none_iff_exists'.mp hkept
    apply novel_of_seen
    have hquiet := h.quiet _ found hfound
    rwa [show (Cell.fill ⟨slot, s.record⟩).reading.log = [slot.countLine n] from
      congrArg Reading.log hfill] at hquiet
  · intro hkept
    have hnew := h.not_mem_of_not_kept hslot hkept n
    rw [novel, isRepeated, decide_eq_false hnew, Bool.and_false]
    rfl

/-! ## Calls that succeed -/

/-- The lines of a call that succeeds. If it goes through a counted list, there is the count of
the list unless the list is kept. If it looks up an optional key, there is the line of the key
where the key is absent. Else there are none. -/
structure Entity.Notes (e : Entity) (call : Call) (session : Session) (log : List LogLine) :
    Prop where
  kept : ∀ cell, e.countedCell? call = some cell → session.kept.get? cell ≠ none → log = []
  first : ∀ cell, e.countedCell? call = some cell → session.kept.get? cell = none →
    ∃ items, cell.record.json.member? cell.slot.listKey = some (.arr items) ∧
      log = [cell.slot.countLine items.length]
  absent : ∀ record key, e.optionalKey? call = some (record, key) → record.Lacks key →
    log = [.missing key record.place]
  present : ∀ record key, e.optionalKey? call = some (record, key) → ¬ record.Lacks key → log = []
  plain : e.countedCell? call = none → e.optionalKey? call = none → log = []

theorem Entity.record_of_counted {e : Entity} (he : e.Within s) {call : Call} {cell : Cell}
    (h : e.countedCell? call = some cell) : cell.record = s.record := by
  unfold countedCell? at h
  split at h <;> cases h <;> cases he <;> rfl

/-- A call through a counted list that succeeds has read the list. -/
theorem Entity.counted_of_ok {e : Entity} {call : Call} {view : View Answer}
    (h : e.ask call = some view) {cell : Cell} (hcell : e.countedCell? call = some cell)
    {answer : Answer} (hok : view.reading.result = .ok answer) :
    ∃ items content, cell.record.json.member? cell.slot.listKey = some (.arr items) ∧
      cell.fill.reading = ⟨[cell.slot.countLine items.length], .ok content⟩ ∧
      view.reading.log = [cell.slot.countLine items.length] := by
  obtain ⟨hslot, f, hview⟩ := reading_ask_of_counted h hcell
  rcases Slot.reading_of_isCounted hslot cell.record with
    ⟨fault, hfail⟩ | ⟨items, content, hitems, hfill⟩
  · rw [hview, Reading.result_map, Cell.fill, hfail] at hok
    cases hok
  · refine ⟨items, content, hitems, hfill, ?_⟩
    rw [hview, Reading.log_map, Cell.fill, hfill]

theorem Entity.notes_of_ok {e : Entity} (he : e.Within s) {call : Call} {view : View Answer}
    (h : e.ask call = some view) (htext : e.showsSchema call = false)
    (hseen : session.Remembers s.record seen) {answer : Answer}
    (hok : view.reading.result = .ok answer) :
    e.Notes call session (novel seen view.reading.log) where
  kept cell hcell hkept := by
    obtain ⟨items, content, _, hfill, hlog⟩ := counted_of_ok h hcell hok
    obtain ⟨hslot, _⟩ := reading_ask_of_counted h hcell
    obtain ⟨slot, record⟩ := cell
    obtain rfl := record_of_counted he hcell
    rw [hlog]
    exact (hseen.novel_countLine hslot hfill).1 hkept
  first cell hcell hkept := by
    obtain ⟨items, content, hitems, hfill, hlog⟩ := counted_of_ok h hcell hok
    obtain ⟨hslot, _⟩ := reading_ask_of_counted h hcell
    refine ⟨items, hitems, ?_⟩
    obtain ⟨slot, record⟩ := cell
    obtain rfl := record_of_counted he hcell
    rw [hlog]
    exact (hseen.novel_countLine hslot hfill).2 hkept
  absent record key hkey hlacks := by
    obtain ⟨found, hread⟩ := reading_ask_of_lacks h hkey hlacks
    rw [hread]
    apply novel_of_uncounted
    intro line hline
    rw [List.mem_singleton.mp hline]
    rfl
  present record key hkey hlacks := by
    rw [Reading.log_of_ok (plain_ask_of_not_lacks h hkey hlacks) hok]
    rfl
  plain hcounted hkey := by
    rw [Reading.log_of_ok (plain_ask h hcounted hkey htext) hok]
    rfl

/-! ## Calls that fail -/

/-- A call that fails logs without memory the line of its fault and nothing else. -/
theorem Entity.log_of_error {e : Entity} {call : Call} {view : View Answer}
    (h : e.ask call = some view) (htext : e.showsSchema call = false) {fault : Fault}
    (hfault : view.reading.result = .error fault) : view.reading.log = fault.line?.toList := by
  cases hcell : e.countedCell? call with
  | some cell =>
      obtain ⟨hslot, f, hview⟩ := reading_ask_of_counted h hcell
      rw [hview, Reading.result_map, Cell.fill] at hfault
      rw [hview, Reading.log_map, Cell.fill]
      rcases Slot.reading_of_isCounted hslot cell.record with ⟨other, hfail⟩ | ⟨_, _, _, hfill⟩
      · rw [hfail] at hfault ⊢
        cases hfault
        rfl
      · rw [hfill] at hfault
        cases hfault
  | none =>
      cases hkey : e.optionalKey? call with
      | none => exact Reading.log_of_error (plain_ask h hcell hkey htext) hfault
      | some found =>
          obtain ⟨record, key⟩ := found
          by_cases hlacks : record.Lacks key
          · obtain ⟨answer, hread⟩ := reading_ask_of_lacks h hkey hlacks
            rw [hread] at hfault
            cases hfault
          · exact Reading.log_of_error (plain_ask_of_not_lacks h hkey hlacks) hfault

theorem Fault.loggedAs_novel (fault : Fault) (seen : List LogLine) :
    fault.toError.LoggedAs ((novel seen fault.line?.toList).map LogLine.text) := by
  rw [novel_of_uncounted fun line hline => Fault.isCount_of_line? (Option.mem_toList.mp hline)]
  exact fault.loggedAs_line?

/-! ## New schemas -/

namespace Schema

variable {document : Json}

theorem log_readRoots (s : Schema) : s.readRoots.log =
    faultLines s.readQueryRootName.result ++ faultLines s.readMutationRootName.result := by
  have hquery : s.readQueryRootName.log = _ := s.plain_readQueryRootName
  have hmutation : s.readMutationRootName.log = _ := s.plain_readMutationRootName
  rw [← hquery, ← hmutation, ← List.append_nil s.readMutationRootName.log]
  rfl

theorem log_create_of_error {fault : Fault} (h : (create document).result = .error fault) :
    (create document).log = fault.line?.toList := by
  rw [result_create] at h
  have hlog := Reading.log_of_error (plain_read document) h
  rw [create, Reading.bind_eq, Reading.andThen, h]
  exact hlog

theorem log_create_of_ok (h : (create document).result = .ok s) :
    (create document).log =
      faultLines s.readQueryRootName.result ++ faultLines s.readMutationRootName.result ++
        [.created s.readQueryRootName.result.toOption
          s.readMutationRootName.result.toOption.join] := by
  rw [result_create] at h
  have hlog := Reading.log_of_ok (plain_read document) h
  rw [← log_readRoots, create, Reading.bind_eq, Reading.andThen, h, hlog]
  rfl

/-- Creating a schema and each call on what is reached from it log what their outcome tells. An
error has its own line or none, and what a call notes on its success depends on the document and
on the lists that are kept. -/
theorem lines_of_calls (document : Json) :
    (∀ fault, (create document).result = .error fault →
      fault.toError.LoggedAs ((create document).log.map LogLine.text)) ∧
    ∀ s, (create document).result = .ok s →
      (create document).log =
        faultLines s.readQueryRootName.result ++ faultLines s.readMutationRootName.result ++
          [.created s.readQueryRootName.result.toOption
            s.readMutationRootName.result.toOption.join] ∧
      ∀ session, Session.Reachable s true session →
        ∀ (e : Entity) (call : Call) (view : View Answer), e.Within s →
          e.ask call = some view → e.showsSchema call = false →
          ∃ log, (view.run.run session).2.log.toList = session.log.toList ++ log ∧
            (∀ fault, (view.run.run session).1 = .error fault →
              fault.toError.LoggedAs (log.map LogLine.text)) ∧
            (∀ answer, (view.run.run session).1 = .ok answer → e.Notes call session log) := by
  constructor
  · intro fault h
    rw [log_create_of_error h]
    exact fault.loggedAs_line?
  · intro s h
    refine ⟨log_create_of_ok h, ?_⟩
    intro session hsession e call view he hask htext
    obtain ⟨seen, hseen⟩ := hsession.remembers
    obtain ⟨hresult, hlog⟩ := View.run_of_remembers (Entity.orderly_ask he hask) hseen
    rw [hresult]
    refine ⟨novel seen view.reading.log, hlog, ?_, ?_⟩
    · intro fault hfault
      rw [Entity.log_of_error hask htext hfault]
      exact fault.loggedAs_novel seen
    · intro answer hok
      exact Entity.notes_of_ok he hask htext hseen hok

theorem lines_of_calls_unnamedType :
    ∃ s view fault, (create Transcript.unnamedType).result = .ok s ∧
      (Entity.schema s).ask .types = some view ∧
      (view.run.run (.new true)).1 = .error fault ∧
      ∃ log, (view.run.run (.new true)).2.log.toList = [] ++ log ∧
        fault.toError.LoggedAs (log.map LogLine.text) := by
  obtain ⟨s, hs⟩ : ∃ s, (create Transcript.unnamedType).result = .ok s := ⟨_, rfl⟩
  obtain ⟨_, hcalls⟩ := (lines_of_calls Transcript.unnamedType).2 s hs
  have hask : (Entity.schema s).ask .types = some (Answer.items .type <$> s.types) := rfl
  have hown : (Entity.schema s).Within s := rfl
  obtain ⟨log, hlog, hfault, _⟩ := hcalls _ .new _ _ _ hown hask rfl
  have hresult := (View.run_of_remembers (Entity.orderly_ask hown hask)
    (Session.remembers_new s.record)).1
  have hmissing := hresult.trans (show _ = .error (.missing "name" ⟨.type, none⟩) by cases hs; rfl)
  exact ⟨s, _, _, hs, hask, hmissing, log, hlog, hfault _ hmissing⟩

end Schema

end Introspection
