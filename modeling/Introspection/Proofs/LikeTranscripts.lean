import Introspection.Proofs.LikeSteps
/-!
# Transcripts of alike documents

The steps of a session on one document and those of a session on an alike one log the same and
turn out the same, but for the JSON of the nodes that they ask for.
-/

namespace Introspection

open Role

namespace Schema

/-! ## Steps without memory -/

variable {R : Role → Json → Json → Prop} {s s' : Schema}

def outcomeOf : Except Fault (Option Json) → Outcome
  | .ok (some value) => .answered value
  | .ok none => .refused
  | .error fault => .failed fault

theorem lines_eq_log (s : Schema) (chain : Chain) :
    s.lines chain = ((Answer.one (.schema s)).follow chain).reading.log := by
  rw [lines, follow, Access.lines_bind]
  split <;> exact List.append_nil _

theorem outcome_eq_outcomeOf (s : Schema) (chain : Chain) :
    s.outcome chain = outcomeOf ((Answer.one (.schema s)).follow chain).reading.result := by
  rw [outcome, follow, Access.value_bind, View.reading]
  split <;> rename_i hfound <;> rw [hfound] <;> rfl

/-- Two entries of a chain with the same lines, and with the same outcome or with the alike nodes
that the chain asks for. -/
structure EntriesAgree (R : Role → Json → Json → Prop) (s s' : Schema) (chain : Chain)
    (entry entry' : Entry) : Prop where
  log : entry.log = entry'.log
  outcome : entry.outcome = entry'.outcome ∨ ∃ role v w, s.Shows s' chain role v w ∧ R role v w ∧
    entry.outcome = .answered v ∧ entry'.outcome = .answered w

inductive AllAgree (R : Role → Json → Json → Prop) (s s' : Schema) :
    List Chain → List Entry → List Entry → Prop
  | nil : AllAgree R s s' [] [] []
  | cons {chain : Chain} {chains : List Chain} {entry entry' : Entry}
      {entries entries' : List Entry} (first : s.EntriesAgree R s' chain entry entry')
      (rest : AllAgree R s s' chains entries entries') :
      AllAgree R s s' (chain :: chains) (entry :: entries) (entry' :: entries')

theorem alike_step (hR : IsLikeness R) (h : s.Alike R s') (chain : Chain) :
    s.EntriesAgree R s' chain ⟨s.outcome chain, s.lines chain⟩
      ⟨s'.outcome chain, s'.lines chain⟩ := by
  obtain ⟨hlog, hfound⟩ := Answer.alike_follow hR chain Reaches.schema Reaches.schema
    (.one (.schema h))
  refine ⟨?_, ?_⟩
  · rw [lines_eq_log, lines_eq_log, hlog]
  · rw [outcome_eq_outcomeOf, outcome_eq_outcomeOf]
    rcases hfound with hsame | ⟨role, v, w, hshows, hvw, hv, hw⟩
    · exact .inl (congrArg outcomeOf hsame)
    · exact .inr ⟨role, v, w, hshows, hvw, congrArg outcomeOf hv, congrArg outcomeOf hw⟩

/-! ## Steps in sessions -/

/-- Two sessions that have seen the same, or that record nothing. -/
inductive InStep (s s' : Schema) (session session' : Session) : Prop
  | recording {seen : List LogLine} (left : session.Remembers s.record seen)
      (right : session'.Remembers s'.record seen)
  | silent (left : session.Sound) (right : session'.Sound) (off : session.recording = false)
      (off' : session'.recording = false)

theorem log_take_of_not_recording {session : Session} (h : session.recording = false)
    (chain : Chain) : (s.take chain session).1.log = [] ∧
      (s.take chain session).2.recording = false := by
  obtain ⟨hlog, hafter⟩ := Access.log_run_of_not_recording (s.follow chain)
    (show Session.recording { session with log := #[] } = false from h)
  exact ⟨congrArg Array.toList hlog, hafter⟩

variable {session session' : Session}

/-- A step keeps two sessions in step, and its entries in them agree. -/
theorem InStep.take (hR : IsLikeness R) (h : s.Alike R s') (hstep : s.InStep s' session session')
    (chain : Chain) :
    s.EntriesAgree R s' chain (s.take chain session).1 (s'.take chain session').1 ∧
      s.InStep s' (s.take chain session).2 (s'.take chain session').2 := by
  obtain ⟨hlines, houtcome⟩ := alike_step hR h chain
  dsimp only at hlines houtcome
  cases hstep with
  | recording left right =>
      obtain ⟨hlog, hafter⟩ := take_of_remembers left chain
      obtain ⟨hlog', hafter'⟩ := take_of_remembers right chain
      rw [← hlines] at hlog' hafter'
      rw [← (s.take_of_sound chain left.sound).1, ← (s'.take_of_sound chain right.sound).1]
        at houtcome
      exact ⟨⟨hlog.trans hlog'.symm, houtcome⟩, .recording hafter hafter'⟩
  | silent left right off off' =>
      obtain ⟨hvalue, hsound⟩ := s.take_of_sound chain left
      obtain ⟨hvalue', hsound'⟩ := s'.take_of_sound chain right
      obtain ⟨hlog, hoff⟩ := s.log_take_of_not_recording off chain
      obtain ⟨hlog', hoff'⟩ := s'.log_take_of_not_recording off' chain
      rw [← hvalue, ← hvalue'] at houtcome
      exact ⟨⟨hlog.trans hlog'.symm, houtcome⟩, .silent hsound hsound' hoff hoff'⟩

theorem InStep.takeAll (hR : IsLikeness R) (h : s.Alike R s')
    (hstep : s.InStep s' session session') (chains : List Chain) :
    AllAgree R s s' chains (s.takeAll chains session) (s'.takeAll chains session') := by
  induction chains generalizing session session' with
  | nil => exact .nil
  | cons chain chains ih =>
      obtain ⟨hentry, hafter⟩ := hstep.take hR h chain
      exact .cons hentry (ih hafter)

theorem inStep_new (s s' : Schema) (recording : Bool) :
    s.InStep s' (.new recording) (.new recording) := by
  cases recording with
  | true => exact .recording (Session.remembers_new _) (Session.remembers_new _)
  | false => exact .silent (Session.sound_new false) (Session.sound_new false) rfl rfl

end Schema

/-! ## Transcripts -/

namespace Transcript

/-- Two transcripts of the same chains. No schema could be created and the fault is the same, or
the entries agree one by one. -/
def Agree (R : Role → Json → Json → Prop) (document document' : Json) (chains : List Chain)
    (t t' : Transcript) : Prop :=
  t.opening = t'.opening ∧
    ((∃ fault, t.entries = .error fault ∧ t'.entries = .error fault) ∨
      ∃ s s' entries entries', (Schema.create document).result = .ok s ∧
        (Schema.create document').result = .ok s' ∧ t.entries = .ok entries ∧
        t'.entries = .ok entries' ∧ Schema.AllAgree R s s' chains entries entries')

theorem agree_of_alike {R : Role → Json → Json → Prop} (hR : IsLikeness R)
    {document document' : Json} (h : R (.node .document) document document') (recording : Bool)
    (chains : List Chain) : Agree R document document' chains
      (Transcript.of recording document chains) (Transcript.of recording document' chains) := by
  obtain ⟨hlog, hresult⟩ := Schema.alike_create hR h
  refine ⟨by rw [Transcript.of, Transcript.of, hlog], ?_⟩
  generalize hs : (Schema.create document).result = found,
    hs' : (Schema.create document').result = found' at hresult
  cases hresult with
  | error fault =>
      refine .inl ⟨fault, ?_, ?_⟩
      · rw [Transcript.of, hs]
        rfl
      · rw [Transcript.of, hs']
        rfl
  | @ok s s' halike =>
      have hentries := (Schema.inStep_new s s' recording).takeAll hR halike chains
      exact .inr ⟨s, s', _, _, rfl, rfl, entries_of hs recording chains,
        entries_of hs' recording chains, hentries⟩

/-- Transcripts that agree are the same if no chain asks for the JSON of nodes that differ. -/
theorem Agree.eq {R : Role → Json → Json → Prop} {document document' : Json} {chains : List Chain}
    {t t' : Transcript} (h : Agree R document document' chains t t')
    (hshown : ∀ s s', (Schema.create document).result = .ok s →
      (Schema.create document').result = .ok s' → ∀ chain ∈ chains, ∀ role v w,
        s.Shows s' chain role v w → R role v w → v = w) : t = t' := by
  obtain ⟨opening, entries⟩ := t
  obtain ⟨opening', entries'⟩ := t'
  obtain ⟨hopening, hentries⟩ := h
  obtain rfl : opening = opening' := hopening
  refine congrArg (Transcript.mk opening) ?_
  rcases hentries with ⟨fault, hfault, hfault'⟩ | ⟨s, s', all, all', hs, hs', hall, hall', hagree⟩
  · exact hfault.trans hfault'.symm
  · refine hall.trans (Eq.trans (congrArg Except.ok ?_) hall'.symm)
    have hchains := hshown s s' hs hs'
    clear hall hall' hshown
    induction hagree with
    | nil => rfl
    | @cons chain chains entry entry' rest rest' first _ ih =>
        obtain ⟨hfirst, hrest⟩ := List.forall_mem_cons.mp hchains
        obtain ⟨outcome, log⟩ := entry
        obtain ⟨outcome', log'⟩ := entry'
        obtain ⟨hlog, houtcome⟩ := first
        obtain rfl : log = log' := hlog
        rw [ih hrest]
        rcases houtcome with hsame | ⟨role, v, w, hshows, hvw, hv, hw⟩
        · obtain rfl : outcome = outcome' := hsame
          rfl
        · obtain rfl : outcome = .answered v := hv
          obtain rfl : outcome' = .answered w := hw
          rw [hfirst role v w hshows hvw]

end Transcript

end Introspection
