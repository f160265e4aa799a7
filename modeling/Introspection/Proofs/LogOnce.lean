import Introspection.Proofs.Novelty
import Introspection.Proofs.PlainViews
import Introspection.Proofs.Transparency
/-!
# What a session logs

A cell that is kept is not filled again, so what its filling would log is left out. Only the
counted lists log anything when they have been read. The log of a step in a session is therefore
that of the same step in a new session without the counts that earlier steps have logged.
-/

namespace Introspection

open LogLine

/-! ## What fillings log -/

theorem Slot.isCount_countLine (slot : Slot) (n : Nat) : (slot.countLine n).isCount = true := by
  cases slot <;> rfl

theorem Slot.isCount_of_isCounted {slot : Slot} (hslot : slot.isCounted = true) {r : Record}
    {content : slot.Content} (h : (slot.fill r).reading.result = .ok content) {line : LogLine}
    (hline : line ∈ (slot.fill r).reading.log) : line.isCount = true := by
  rcases reading_of_isCounted hslot r with ⟨fault, hread⟩ | ⟨items, found, _, hread⟩
  · rw [hread] at h
    cases h
  · rw [hread] at hline
    rw [List.mem_singleton.mp hline]
    exact slot.isCount_countLine items.length

theorem Slot.isCount_of_ok {slot : Slot} {r : Record} {content : slot.Content}
    (h : (slot.fill r).reading.result = .ok content) {line : LogLine}
    (hline : line ∈ (slot.fill r).reading.log) : line.isCount = true := by
  cases hslot : slot.isCounted with
  | true => exact isCount_of_isCounted hslot h hline
  | false =>
      by_cases hmap : slot = typesByName
      · subst hmap
        rw [log_fill_typesByName] at hline
        obtain ⟨types, htypes, _⟩ := Reading.result_bind_eq_ok.mp
          ((congrArg Reading.result (View.reading_bind _ _)).symm.trans h)
        have hcounted : Slot.types.isCounted = true := rfl
        exact isCount_of_isCounted hcounted htypes hline
      · rw [Reading.log_of_ok (plain_fill hslot hmap r) h] at hline
        exact absurd hline List.not_mem_nil

/-- A count tells of which of the counted slots it is. -/
theorem Slot.eq_of_isCount {slot other : Slot} (hslot : slot.isCounted = true)
    (hother : other.isCounted = true) {r : Record} {n : Nat}
    (h : slot.countLine n ∈ (other.fill r).reading.log) : other = slot := by
  rcases reading_of_isCounted hother r with ⟨fault, hread⟩ | ⟨items, content, _, hread⟩
  · rw [hread, Option.mem_toList] at h
    have hcount := Fault.isCount_of_line? h
    cases slot <;> cases hslot <;> cases hcount
  · rw [hread] at h
    have hline := List.mem_singleton.mp h
    cases slot <;> cases hslot <;> cases other <;> cases hother <;> first | rfl | cases hline

/-! ## Sessions and what has been seen -/

namespace Session

variable {session : Session} {r : Record} {seen : List LogLine}

/-- Filling a cell anew that is kept would log nothing but counts that have been seen. -/
def Quiet (session : Session) (seen : List LogLine) : Prop :=
  ∀ cell content, session.kept.get? cell = some content →
    ∀ line ∈ cell.fill.reading.log, line.isCount = true ∧ line ∈ seen

/-- Each count that has been seen is that of a list of the record that is kept. -/
def Counted (session : Session) (r : Record) (seen : List LogLine) : Prop :=
  ∀ line ∈ seen, line.isCount = true → ∃ slot : Slot, slot.isCounted = true ∧
    line ∈ (slot.fill r).reading.log ∧ session.kept.get? ⟨slot, r⟩ ≠ none

structure Remembers (session : Session) (r : Record) (seen : List LogLine) : Prop where
  recording : session.recording = true
  sound : session.Sound
  quiet : session.Quiet seen
  counted : session.Counted r seen

theorem Quiet.append (h : session.Quiet seen) (lines : List LogLine) :
    session.Quiet (seen ++ lines) := by
  intro cell content hcell line hline
  obtain ⟨hcount, hseen⟩ := h cell content hcell line hline
  exact ⟨hcount, List.mem_append_left lines hseen⟩

theorem Quiet.keep (h : session.Quiet seen) {cell : Cell} {content : cell.Content}
    (hfill : cell.fill.reading.result = .ok content)
    (hlines : ∀ line ∈ cell.fill.reading.log, line ∈ seen) :
    (session.keep cell content).Quiet seen := by
  intro other found hother line hline
  rw [Session.keep, Std.DHashMap.get?_insert] at hother
  split at hother
  case isTrue heq =>
      obtain rfl := eq_of_beq heq
      exact ⟨Slot.isCount_of_ok hfill hline, hlines line hline⟩
  case isFalse => exact h other found hother line hline

theorem Counted.append (h : session.Counted r seen) {lines : List LogLine}
    (hlines : session.Counted r lines) : session.Counted r (seen ++ lines) := by
  intro line hline hcount
  rcases List.mem_append.mp hline with hseen | hnew
  · exact h line hseen hcount
  · exact hlines line hnew hcount

theorem Counted.keep (h : session.Counted r seen) (cell : Cell) (content : cell.Content) :
    (session.keep cell content).Counted r seen := by
  intro line hline hcount
  obtain ⟨slot, hslot, hmem, hkept⟩ := h line hline hcount
  refine ⟨slot, hslot, hmem, ?_⟩
  rw [Session.keep, Std.DHashMap.get?_insert]
  split
  · exact Option.some_ne_none _
  · exact hkept

theorem counted_of_uncounted {lines : List LogLine}
    (h : ∀ line ∈ lines, line.isCount = false) : session.Counted r lines := by
  intro line hline hcount
  rw [h line hline] at hcount
  cases hcount

theorem remembers_new (r : Record) : (new true).Remembers r [] where
  recording := rfl
  sound := sound_new true
  quiet := by
    intro cell content h
    rw [new, Std.DHashMap.get?_empty] at h
    cases h
  counted := fun line h => absurd h List.not_mem_nil

theorem Remembers.of_kept {other : Session} (h : session.Remembers r seen)
    (hrecording : other.recording = session.recording) (hkept : other.kept = session.kept) :
    other.Remembers r seen where
  recording := hrecording.trans h.recording
  sound := sound_of_kept h.sound hkept
  quiet := by unfold Quiet; rw [hkept]; exact h.quiet
  counted := by unfold Counted; rw [hkept]; exact h.counted

theorem Remembers.append (h : session.Remembers r seen) {lines : List LogLine}
    (hlines : session.Counted r lines) : session.Remembers r (seen ++ lines) where
  recording := h.recording
  sound := h.sound
  quiet := h.quiet.append lines
  counted := h.counted.append hlines

theorem Remembers.keep (h : session.Remembers r seen) {cell : Cell} {content : cell.Content}
    (hfill : cell.fill.reading.result = .ok content)
    (hlines : ∀ line ∈ cell.fill.reading.log, line ∈ seen) :
    (session.keep cell content).Remembers r seen where
  recording := h.recording
  sound := sound_keep h.sound hfill
  quiet := h.quiet.keep hfill hlines
  counted := h.counted.keep cell content

/-- When a counted list is kept, its count is seen. -/
theorem Remembers.keep_counted (h : session.Remembers r seen) {slot : Slot}
    (hslot : slot.isCounted = true) {content : slot.Content} {line : LogLine}
    (hfill : (slot.fill r).reading = ⟨[line], .ok content⟩) :
    (session.keep ⟨slot, r⟩ content).Remembers r (seen ++ [line]) where
  recording := h.recording
  sound := sound_keep h.sound (congrArg Reading.result hfill)
  quiet := by
    refine (h.quiet.append [line]).keep (congrArg Reading.result hfill) fun other hother => ?_
    rw [show (Cell.fill ⟨slot, r⟩).reading.log = [line] from congrArg Reading.log hfill] at hother
    exact List.mem_append_right seen hother
  counted := by
    refine (h.counted.keep ⟨slot, r⟩ content).append fun other hother _ => ⟨slot, hslot, ?_, ?_⟩
    · rw [hfill]
      exact hother
    · rw [Session.keep, Std.DHashMap.get?_insert_self]
      exact Option.some_ne_none content

/-- The count of a list that is not kept has not been seen. -/
theorem Remembers.not_mem_of_not_kept (h : session.Remembers r seen) {slot : Slot}
    (hslot : slot.isCounted = true) (hkept : session.kept.get? ⟨slot, r⟩ = none) (n : Nat) :
    slot.countLine n ∉ seen := by
  intro hseen
  obtain ⟨other, hother, hmem, hsome⟩ :=
    h.counted _ hseen (Slot.isCount_countLine slot n)
  obtain rfl := Slot.eq_of_isCount hslot hother hmem
  exact hsome hkept

@[simp] theorem recording_logged (session : Session) (line : LogLine) :
    (session.logged line).recording = session.recording := by
  unfold logged
  split <;> rfl

@[simp] theorem recording_foldl_logged (lines : List LogLine) (session : Session) :
    (lines.foldl logged session).recording = session.recording := by
  induction lines generalizing session with
  | nil => rfl
  | cons line lines ih => rw [List.foldl_cons, ih, recording_logged]

theorem log_logged (h : session.recording = true) (line : LogLine) :
    (session.logged line).log.toList = session.log.toList ++ [line] := by
  rw [logged, if_pos h]
  exact Array.toList_push

theorem log_foldl_logged (h : session.recording = true) (lines : List LogLine) :
    (lines.foldl logged session).log.toList = session.log.toList ++ lines := by
  induction lines generalizing session with
  | nil => rw [List.foldl_nil, List.append_nil]
  | cons line lines ih =>
      rw [List.foldl_cons, ih ((recording_logged session line).trans h), log_logged h,
        List.append_assoc, List.singleton_append]

end Session

/-! ## Runs -/

/-- A run in a session that has seen some lines logs the lines of the access, but for the counts
that have been seen, and has then seen them as well. -/
def Access.Sparing {α : Type} (r : Record) (access : Access α) : Prop :=
  ∀ (session : Session) (seen : List LogLine), session.Remembers r seen →
    (access.run session).2.Remembers r (seen ++ access.lines) ∧
      (access.run session).2.log.toList = session.log.toList ++ novel seen access.lines

namespace Access

open Session

variable {r : Record} {α β : Type} {P : α → Prop}

theorem sparing_bind {access : Access α} {next : α → Access β} (hvalue : access.Transparent)
    (ha : access.Sparing r) (hnext : (next access.value).Sparing r) :
    (access >>= next).Sparing r := by
  intro session seen h
  obtain ⟨hafter, hlog⟩ := ha session seen h
  obtain ⟨hend, hrest⟩ := hnext _ _ hafter
  rw [run_bind, (hvalue session h.sound).1, lines_bind, ← List.append_assoc,
    List.append_assoc seen, novel_append, hrest, hlog, List.append_assoc]
  rw [List.append_assoc] at hend
  exact ⟨hend, rfl⟩

theorem sparing_note {line : LogLine} {rest : Access α} (hline : line.isCount = false)
    (hrest : rest.Sparing r) : (note line rest).Sparing r := by
  intro session seen h
  have huncounted : ∀ other ∈ [line], other.isCount = false := by
    intro other hother
    rw [List.mem_singleton.mp hother]
    exact hline
  have hlogged : (session.logged line).Remembers r (seen ++ [line]) :=
    (h.append (counted_of_uncounted huncounted)).of_kept (recording_logged session line)
      (kept_logged session line)
  obtain ⟨hend, hlog⟩ := hrest _ _ hlogged
  rw [lines, ← List.singleton_append, novel_append, novel_of_uncounted huncounted,
    ← List.append_assoc, ← List.append_assoc, ← log_logged h.recording]
  exact ⟨hend, hlog⟩

/-- What a kept cell would log has been seen. -/
theorem sparing_ask_of_kept {cell : Cell} {content : cell.Content} {session : Session}
    {seen : List LogLine} (h : session.Remembers r seen)
    (hkept : session.kept.get? cell = some content) :
    session.Remembers r (seen ++ cell.fill.run.lines) ∧ novel seen cell.fill.run.lines = [] := by
  have hseen := h.quiet cell content hkept
  refine ⟨h.append fun line hline hcount => ?_, novel_of_seen hseen⟩
  exact h.counted line (hseen line hline).2 hcount

/-- Filling a cell is as sparing as what fills it, and a cell that is kept is more so. -/
theorem sparing_ask {cell : Cell} (hvalue : cell.fill.run.Transparent)
    (hfill : cell.fill.run.Sparing r) : (memo cell cell.fill.run done).Sparing r := by
  intro session seen h
  rw [lines, lines, List.append_nil, run]
  cases hkept : session.kept.get? cell with
  | some content =>
      obtain ⟨hseen, hlines⟩ := sparing_ask_of_kept h hkept
      rw [hlines, List.append_nil]
      exact ⟨hseen, rfl⟩
  | none =>
      obtain ⟨hafter, hlog⟩ := hfill session seen h
      obtain ⟨hfound, _⟩ := hvalue session h.sound
      dsimp only
      rcases hrun : cell.fill.run.run session with ⟨fault | content, after⟩
      -- A filling that failed leaves the cell empty, but its lines have been seen.
      · rw [hrun] at hafter hlog
        exact ⟨hafter, hlog⟩
      · rw [hrun] at hafter hlog hfound
        refine ⟨hafter.keep hfound.symm fun line hline => ?_, hlog⟩
        exact List.mem_append_right seen hline

/-- A counted list that is not kept has not been counted, so its count is logged as it is read. -/
theorem log_fill_of_isCounted {slot : Slot} (hslot : slot.isCounted = true) {session : Session}
    {seen : List LogLine} (h : session.Remembers r seen)
    (hkept : session.kept.get? ⟨slot, r⟩ = none) :
    ((slot.fill r).run.run session).1 = (slot.fill r).reading.result ∧
      ((slot.fill r).run.run session).2.Remembers r seen ∧
      ((slot.fill r).run.run session).2.log.toList =
        session.log.toList ++ novel seen (slot.fill r).reading.log := by
  obtain ⟨reading, hfill⟩ := Slot.fill_of_isCounted hslot r
  have hread : (slot.fill r).reading = reading := by rw [hfill, View.reading_read]
  have hrun : (slot.fill r).run.run session =
      (reading.result, reading.log.foldl logged session) := by
    rw [hfill]
    exact run_ofReading reading session
  have hnovel : novel seen reading.log = reading.log := by
    rcases Slot.reading_of_isCounted hslot r with ⟨fault, hfail⟩ | ⟨items, _, _, hok⟩
    · obtain rfl := hread.symm.trans hfail
      exact novel_of_uncounted fun line hline =>
        Fault.isCount_of_line? (Option.mem_toList.mp hline)
    · obtain rfl := hread.symm.trans hok
      have hnew : (slot.countLine items.length).isRepeated seen = false := by
        rw [isRepeated, decide_eq_false (h.not_mem_of_not_kept hslot hkept _), Bool.and_false]
      rw [novel, hnew]
      rfl
  rw [hrun, hread, hnovel]
  refine ⟨rfl, ?_, log_foldl_logged h.recording _⟩
  exact h.of_kept (recording_foldl_logged _ _) (kept_foldl_logged _ _)

theorem sparing_ask_of_isCounted {slot : Slot} (hslot : slot.isCounted = true) (r : Record) :
    (memo ⟨slot, r⟩ (slot.fill r).run done).Sparing r := by
  intro session seen h
  rw [lines, lines, List.append_nil, run]
  cases hkept : session.kept.get? ⟨slot, r⟩ with
  | some content =>
      obtain ⟨hseen, hlines⟩ := sparing_ask_of_kept h hkept
      have hnone : novel seen (slot.fill r).run.lines = [] := hlines
      rw [hnone, List.append_nil]
      exact ⟨hseen, rfl⟩
  | none =>
      obtain ⟨hresult, hafter, hlog⟩ := log_fill_of_isCounted hslot h hkept
      have hlines : (slot.fill r).run.lines = (slot.fill r).reading.log := rfl
      dsimp only
      rcases hrun : (slot.fill r).run.run session with ⟨found, after⟩
      rw [hrun] at hresult hafter hlog
      rw [hlines]
      rcases Slot.reading_of_isCounted hslot r with ⟨fault, hfail⟩ | ⟨items, content, _, hok⟩
      · rw [hfail] at hresult hlog ⊢
        subst hresult
        have huncounted : ∀ line ∈ fault.line?.toList, line.isCount = false :=
          fun line hline => Fault.isCount_of_line? (Option.mem_toList.mp hline)
        exact ⟨hafter.append (counted_of_uncounted huncounted), hlog⟩
      · rw [hok] at hresult hlog ⊢
        subst hresult
        exact ⟨hafter.keep_counted hslot hok, hlog⟩

theorem sparing_of_regular {access : Access α} (ha : access.Regular r P) :
    access.Sparing r := by
  induction ha with
  | done answer =>
      intro session seen h
      rw [lines, List.append_nil, novel, List.append_nil]
      exact ⟨h, rfl⟩
  | note uncounted _ ih => exact sparing_note uncounted ih
  | memo cell uncounted fill _ ihfill ih =>
      rw [memo_eq_bind]
      have hfill := transparent_of_regular fill
      exact sparing_bind (transparent_ask hfill) (sparing_ask hfill ihfill) (ih _)
  | counted cell counted own _ ih =>
      -- The cell is one of the schema's own, of which the session remembers what was counted.
      subst own
      rw [memo_eq_bind]
      have hfill := transparent_fill_of_isCounted counted cell.record
      exact sparing_bind (transparent_ask hfill) (sparing_ask_of_isCounted counted _) (ih _)

end Access

/-! ## Sessions that record nothing -/

namespace Session

theorem logged_of_not_recording {session : Session} (h : session.recording = false)
    (line : LogLine) : session.logged line = session := by
  rw [logged, h]
  rfl

end Session

theorem Access.log_run_of_not_recording {α : Type} (access : Access α) {session : Session}
    (h : session.recording = false) :
    (access.run session).2.log = session.log ∧ (access.run session).2.recording = false := by
  induction access generalizing session with
  | done answer => exact ⟨rfl, h⟩
  | note line rest ih =>
      rw [run, Session.logged_of_not_recording h]
      exact ih h
  | memo cell fill rest ihfill ih =>
      rw [run]
      cases session.kept.get? cell with
      | some content => exact ih _ h
      | none =>
          obtain ⟨hlog, hrecording⟩ := ihfill h
          dsimp only
          rcases hrun : fill.run session with ⟨fault | content, after⟩ <;>
            rw [hrun] at hlog hrecording
          · obtain ⟨hrest, hafter⟩ := ih (.error fault) hrecording
            exact ⟨hrest.trans hlog, hafter⟩
          · have hkeep : (after.keep cell content).recording = false := hrecording
            obtain ⟨hrest, hafter⟩ := ih (.ok content) hkeep
            exact ⟨hrest.trans hlog, hafter⟩

/-! ## Steps -/

namespace Schema

variable (s : Schema)

def lines (chain : Chain) : List LogLine := (s.follow chain).lines

variable {s} {session : Session} {seen : List LogLine}

theorem take_of_remembers (h : session.Remembers s.record seen) (chain : Chain) :
    (s.take chain session).1.log = novel seen (s.lines chain) ∧
      (s.take chain session).2.Remembers s.record (seen ++ s.lines chain) := by
  have hclear : Session.Remembers { session with log := #[] } s.record seen := h.of_kept rfl rfl
  obtain ⟨hafter, hlog⟩ := Access.sparing_of_regular (regular_follow chain) _ _ hclear
  exact ⟨hlog, hafter⟩

theorem length_takeAll (chains : List Chain) (session : Session) :
    (s.takeAll chains session).length = chains.length := by
  induction chains generalizing session with
  | nil => rfl
  | cons chain chains ih => simp only [takeAll, List.length_cons, ih]

theorem flatMap_log_take_takeAll (h : session.Remembers s.record seen) (chains : List Chain)
    (i : Nat) : ((s.takeAll chains session).take i).flatMap (·.log) =
      novel seen ((chains.take i).flatMap s.lines) := by
  induction chains generalizing session seen i with
  | nil => rw [takeAll, List.take_nil, List.take_nil]; rfl
  | cons chain chains ih =>
      cases i with
      | zero => rfl
      | succ i =>
          obtain ⟨hlog, hafter⟩ := take_of_remembers h chain
          rw [takeAll, List.take_succ_cons, List.take_succ_cons, List.flatMap_cons,
            List.flatMap_cons, novel_append, hlog, ih hafter]

theorem flatMap_log_takeAll (h : session.Remembers s.record seen) (chains : List Chain) :
    (s.takeAll chains session).flatMap (·.log) = novel seen (chains.flatMap s.lines) := by
  have htake := flatMap_log_take_takeAll h chains chains.length
  rwa [← length_takeAll chains session, List.take_length, length_takeAll, List.take_length] at htake

theorem getElem?_takeAll (h : session.Remembers s.record seen) {chains : List Chain} {i : Nat}
    {chain : Chain} (hchain : chains[i]? = some chain) :
    ∃ entry, (s.takeAll chains session)[i]? = some entry ∧
      entry.log = novel (seen ++ (chains.take i).flatMap s.lines) (s.lines chain) := by
  induction chains generalizing session seen i with
  | nil => cases hchain
  | cons first chains ih =>
      -- The later steps start from what the first one has left behind, and seen.
      obtain ⟨hlog, hafter⟩ := take_of_remembers h first
      cases i with
      | zero =>
          obtain rfl : first = chain := Option.some.inj hchain
          refine ⟨(s.take first session).1, rfl, ?_⟩
          rw [hlog, List.take_zero, List.flatMap_nil, List.append_nil]
      | succ i =>
          obtain ⟨entry, hentry, heq⟩ := ih hafter hchain
          refine ⟨entry, hentry, ?_⟩
          rw [heq, List.take_succ_cons, List.flatMap_cons, List.append_assoc]

/-- A count that a step logs is that of a list that can be read from the schema. -/
theorem eq_countLine_of_mem_lines {chain : Chain} {line : LogLine} (h : line ∈ s.lines chain)
    (hline : line.isCount = true) :
    ∃ (slot : Slot) (items : List Json) (content : slot.Content), slot.isCounted = true ∧
      s.record.json.member? slot.listKey = some (.arr items) ∧
      line = slot.countLine items.length ∧
      (slot.fill s.record).reading.result = .ok content := by
  obtain ⟨_, hafter⟩ := take_of_remembers (Session.remembers_new s.record) chain
  obtain ⟨slot, hslot, hmem, _⟩ := hafter.counted line (List.mem_append_right [] h) hline
  rcases Slot.reading_of_isCounted hslot s.record with
    ⟨fault, hfail⟩ | ⟨items, content, hitems, hok⟩
  · rw [hfail, Option.mem_toList] at hmem
    rw [Fault.isCount_of_line? hmem] at hline
    cases hline
  · rw [hok] at hmem
    exact ⟨slot, items, content, hslot, hitems, List.mem_singleton.mp hmem, by rw [hok]⟩

theorem readTypes_of_mem_lines {chain : Chain} {n : Nat} (h : .readTypes n ∈ s.lines chain) :
    ∃ items types, s.record.json.member? "types" = some (.arr items) ∧ items.length = n ∧
      s.readTypes.result = .ok types := by
  obtain ⟨slot, items, content, hslot, hitems, hline, hok⟩ := eq_countLine_of_mem_lines h rfl
  cases slot <;> cases hslot
  · refine ⟨items, content, hitems, (LogLine.readTypes.inj hline).symm, ?_⟩
    rwa [Slot.fill, View.reading_read] at hok
  · cases hline

theorem readDirectives_of_mem_lines {chain : Chain} {n : Nat}
    (h : .readDirectives n ∈ s.lines chain) :
    ∃ items directives, s.record.json.member? "directives" = some (.arr items) ∧
      items.length = n ∧ s.readDirectives.result = .ok directives := by
  obtain ⟨slot, items, content, hslot, hitems, hline, hok⟩ := eq_countLine_of_mem_lines h rfl
  cases slot <;> cases hslot
  · cases hline
  · refine ⟨items, content, hitems, (LogLine.readDirectives.inj hline).symm, ?_⟩
    rwa [Slot.fill, View.reading_read] at hok

end Schema

namespace Transcript

open Schema

variable {document : Json} {s : Schema}

theorem entries_of (h : (Schema.create document).result = .ok s) (recording : Bool)
    (chains : List Chain) : (Transcript.of recording document chains).entries =
      .ok (s.takeAll chains (.new recording)) := by
  rw [Transcript.of, h]
  rfl

/-- The steps of a session log what each of them logs alone with a new schema, but for the counts
that earlier steps have logged; other lines are logged each time they arise. So a count is logged
once at most, and only of a list of the document that can be read. -/
theorem logs_eq_logs_alone_without_repeats (h : (Schema.create document).result = .ok s)
    (chains : List Chain) :
    ∃ entries, (Transcript.of true document chains).entries = .ok entries ∧
      entries.length = chains.length ∧
      (∀ i chain, chains[i]? = some chain → ∃ entry alone, entries[i]? = some entry ∧
        (Transcript.of true document [chain]).entries = .ok [alone] ∧
        entry.log = alone.log.filter
          (fun line => !line.isRepeated ((entries.take i).flatMap (·.log))) ∧
        entry.log.filter (!·.isCount) = (s.lines chain).filter (!·.isCount)) ∧
      (∀ n, .readTypes n ∈ entries.flatMap (·.log) →
        (entries.flatMap (·.log)).count (.readTypes n) = 1 ∧
        ∃ items types, document.at? ["data", "__schema", "types"] = some (.arr items) ∧
          items.length = n ∧ s.readTypes.result = .ok types) ∧
      (∀ n, .readDirectives n ∈ entries.flatMap (·.log) →
        (entries.flatMap (·.log)).count (.readDirectives n) = 1 ∧
        ∃ items directives,
          document.at? ["data", "__schema", "directives"] = some (.arr items) ∧
          items.length = n ∧ s.readDirectives.result = .ok directives) ∧
      (Transcript.of false document chains).outcomes =
        (Transcript.of true document chains).outcomes := by
  have hnew := Session.remembers_new s.record
  have hall := flatMap_log_takeAll hnew chains
  refine ⟨_, entries_of h true chains, length_takeAll chains _, ?_, ?_, ?_, ?_⟩
  · intro i chain hchain
    obtain ⟨entry, hentry, hlog⟩ := getElem?_takeAll hnew hchain
    obtain ⟨halone, _⟩ := take_of_remembers hnew chain
    refine ⟨entry, (s.take chain (.new true)).1, hentry, entries_of h true [chain], ?_, ?_⟩
    · rw [hlog, halone, flatMap_log_take_takeAll hnew, novel_eq_filter]
      simp only [isRepeated, mem_novel_nil, List.nil_append]
    · rw [hlog, filter_novel_uncounted]
  · intro n hn
    rw [hall] at hn ⊢
    obtain ⟨chain, _, hline⟩ := List.mem_flatMap.mp (mem_of_mem_novel hn)
    obtain ⟨items, types, hitems, hlength, htypes⟩ := readTypes_of_mem_lines hline
    exact ⟨count_novel_eq_one rfl hn, items, types, (at?_of_create h "types").trans hitems,
      hlength, htypes⟩
  · intro n hn
    rw [hall] at hn ⊢
    obtain ⟨chain, _, hline⟩ := List.mem_flatMap.mp (mem_of_mem_novel hn)
    obtain ⟨items, directives, hitems, hlength, hdirectives⟩ := readDirectives_of_mem_lines hline
    exact ⟨count_novel_eq_one rfl hn, items, directives,
      (at?_of_create h "directives").trans hitems, hlength, hdirectives⟩
  · rw [outcomes_of h, outcomes_of h]

theorem logs_eq_logs_alone_without_repeats_unnamedType :
    ∃ s entries, (Schema.create unnamedType).result = .ok s ∧
      (Transcript.of true unnamedType
        [[.directives], [.types], [.directives, .length]]).entries = .ok entries ∧
      ∃ entry alone, entries[2]? = some entry ∧
        (Transcript.of true unnamedType [[.directives, .length]]).entries = .ok [alone] ∧
        entry.log = alone.log.filter
          fun line => !line.isRepeated ((entries.take 2).flatMap (·.log)) := by
  have h : ∃ s, (Schema.create unnamedType).result = .ok s := ⟨_, rfl⟩
  obtain ⟨s, hs⟩ := h
  obtain ⟨entries, hentries, _, hlogs, _⟩ := logs_eq_logs_alone_without_repeats hs
    [[.directives], [.types], [.directives, .length]]
  obtain ⟨entry, alone, hentry, halone, hlog, _⟩ := hlogs 2 _ rfl
  exact ⟨s, entries, hs, hentries, entry, alone, hentry, halone, hlog⟩

end Transcript

end Introspection
