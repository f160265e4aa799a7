import Introspection.Proofs.Readings
import Introspection.Proofs.Direct
/-!
# Readings that turn out alike

Two readings, of different parts or of different documents, are alike if they log the same lines
and end in the same fault or in related values. Without memory the same is said of views and of
accesses.
-/

namespace Introspection

inductive Fault.Agree {α β : Type} (S : α → β → Prop) : Except Fault α → Except Fault β → Prop
  | ok {a : α} {b : β} (related : S a b) : Agree S (.ok a) (.ok b)
  | error (fault : Fault) : Agree S (.error fault) (.error fault)

structure Reading.Alike {α β : Type} (S : α → β → Prop) (r : Reading α) (r' : Reading β) :
    Prop where
  log : r.log = r'.log
  result : Fault.Agree S r.result r'.result

section

variable {α : Type u} {β : Type v} {γ : Type w} {δ : Type x} {S : α → β → Prop} {T : γ → δ → Prop}
  {found : Option α} {found' : Option β}

theorem rel_map {f : α → γ} {g : β → δ} (h : Option.Rel S found found')
    (hfg : ∀ a b, S a b → T (f a) (g b)) : Option.Rel T (found.map f) (found'.map g) := by
  cases h with
  | none => exact .none
  | some related => exact .some (hfg _ _ related)

theorem rel_bind {f : α → Option γ} {g : β → Option δ} (h : Option.Rel S found found')
    (hfg : ∀ a b, S a b → Option.Rel T (f a) (g b)) :
    Option.Rel T (found.bind f) (found'.bind g) := by
  cases h with
  | none => exact .none
  | some related => exact hfg _ _ related

end

/-- Sequences of related items are alike in every sense of likeness that steps keep. -/
theorem forall₂_mapM {m : Type → Type v} [Monad m] [LawfulMonad m]
    {Like : ∀ {γ δ : Type}, (γ → δ → Prop) → m γ → m δ → Prop}
    (hpure : ∀ {γ δ : Type} {T : γ → δ → Prop} {c : γ} {d : δ}, T c d → Like T (pure c) (pure d))
    (hbind : ∀ {γ δ γ' δ' : Type} {T : γ → δ → Prop} {T' : γ' → δ' → Prop} {x : m γ} {y : m δ}
      {f : γ → m γ'} {g : δ → m δ'}, Like T x y → (∀ c d, T c d → Like T' (f c) (g d)) →
        Like T' (x >>= f) (y >>= g))
    {ι κ : Type u} {α β : Type} {P : ι → κ → Prop} {S : α → β → Prop} {f : ι → m α} {g : κ → m β}
    {items : List ι} {items' : List κ} (hitems : List.Forall₂ P items items')
    (h : ∀ i j, P i j → Like S (f i) (g j)) :
    Like (List.Forall₂ S) (items.mapM f) (items'.mapM g) := by
  induction hitems with
  | nil =>
      rw [List.mapM_nil, List.mapM_nil]
      exact hpure .nil
  | cons hij _ ih =>
      rw [List.mapM_cons, List.mapM_cons]
      exact hbind (h _ _ hij) fun a b hab => hbind ih fun as bs hrest => hpure (.cons hab hrest)

namespace Reading

variable {α β γ δ : Type} {S : α → β → Prop} {T : γ → δ → Prop} {r : Reading α} {r' : Reading β}

theorem alike_pure {a : α} {b : β} (h : S a b) : Alike S (pure a) (pure b) := ⟨rfl, .ok h⟩

theorem alike_fail {fault fault' : Fault} (h : fault = fault') :
    Alike S (fail fault) (fail fault') := by
  subst h
  exact ⟨rfl, .error fault⟩

theorem alike_note (line : LogLine) : Alike (fun _ _ => True) (note line) (note line) :=
  ⟨rfl, .ok trivial⟩

theorem alike_of_eq {r r' : Reading α} (h : r = r') : Alike Eq r r' := by
  subst h
  refine ⟨rfl, ?_⟩
  cases r.result with
  | ok a => exact .ok rfl
  | error fault => exact .error fault

theorem Alike.eq {r r' : Reading α} (h : Alike Eq r r') : r = r' := by
  obtain ⟨log, result⟩ := r
  obtain ⟨log', result'⟩ := r'
  obtain ⟨hlog, hresult⟩ := h
  cases hlog
  cases hresult with
  | ok related => rw [related]
  | error fault => rfl

theorem Alike.imp {S' : α → β → Prop} (h : Alike S r r') (hS : ∀ a b, S a b → S' a b) :
    Alike S' r r' := by
  obtain ⟨log, result⟩ := r
  obtain ⟨log', result'⟩ := r'
  obtain ⟨hlog, hresult⟩ := h
  cases hresult with
  | ok related => exact ⟨hlog, .ok (hS _ _ related)⟩
  | error fault => exact ⟨hlog, .error fault⟩

theorem alike_bind {next : α → Reading γ} {next' : β → Reading δ} (h : Alike S r r')
    (hnext : ∀ a b, S a b → Alike T (next a) (next' b)) :
    Alike T (r >>= next) (r' >>= next') := by
  obtain ⟨log, result⟩ := r
  obtain ⟨log', result'⟩ := r'
  obtain ⟨hlog, hresult⟩ := h
  cases hlog
  cases hresult with
  | ok related =>
      obtain ⟨hrest, hend⟩ := hnext _ _ related
      exact ⟨congrArg (log ++ ·) hrest, hend⟩
  | error fault => exact ⟨rfl, .error fault⟩

theorem bind_of_ok {a : α} (h : r.result = .ok a) (next : α → Reading γ) :
    r >>= next = ⟨r.log ++ (next a).log, (next a).result⟩ := by
  rw [bind_eq, andThen, h]

theorem bind_of_error {fault : Fault} (h : r.result = .error fault) (next : α → Reading γ) :
    r >>= next = ⟨r.log, .error fault⟩ := by
  rw [bind_eq, andThen, h]

theorem alike_map {f : α → γ} {g : β → δ} (h : Alike S r r') (hfg : ∀ a b, S a b → T (f a) (g b)) :
    Alike T (f <$> r) (g <$> r') := by
  rw [← bind_pure_comp, ← bind_pure_comp]
  exact alike_bind h fun a b hab => alike_pure (hfg a b hab)

/-- What is read of the items of two lists is related item by item. -/
theorem alike_mapM {ι κ : Type u} {P : ι → κ → Prop} {read : ι → Reading α} {read' : κ → Reading β}
    {items : List ι} {items' : List κ} (hitems : List.Forall₂ P items items')
    (h : ∀ i j, P i j → Alike S (read i) (read' j)) :
    Alike (List.Forall₂ S) (items.mapM read) (items'.mapM read') :=
  forall₂_mapM alike_pure alike_bind hitems h

end Reading

/-! ## Access without memory -/

structure Access.Alike {α β : Type} (S : α → β → Prop) (access : Access α) (access' : Access β) :
    Prop where
  lines : access.lines = access'.lines
  value : S access.value access'.value

def View.Alike {α β : Type} (S : α → β → Prop) (view : View α) (view' : View β) : Prop :=
  Reading.Alike S view.reading view'.reading

namespace Access

variable {α β γ δ : Type} {S : α → β → Prop} {T : γ → δ → Prop}

theorem alike_pure {a : α} {b : β} (h : S a b) : Alike S (pure a) (pure b) := ⟨rfl, h⟩

theorem alike_bind {access : Access α} {access' : Access β} {next : α → Access γ}
    {next' : β → Access δ} (h : access.Alike S access')
    (hnext : ∀ a b, S a b → (next a).Alike T (next' b)) :
    (access >>= next).Alike T (access' >>= next') := by
  obtain ⟨hlines, hvalue⟩ := hnext _ _ h.value
  constructor
  · rw [lines_bind, lines_bind, h.lines, hlines]
  · rw [value_bind, value_bind]
    exact hvalue

theorem alike_mapM {ι κ : Type u} {P : ι → κ → Prop} {f : ι → Access α} {g : κ → Access β}
    {items : List ι} {items' : List κ} (hitems : List.Forall₂ P items items')
    (h : ∀ i j, P i j → (f i).Alike S (g j)) :
    (items.mapM f).Alike (List.Forall₂ S) (items'.mapM g) :=
  forall₂_mapM alike_pure alike_bind hitems h

theorem alike_mapM_eq {ι κ : Type u} {P : ι → κ → Prop} {f : ι → Access α} {g : κ → Access α}
    {items : List ι} {items' : List κ} (hitems : List.Forall₂ P items items')
    (h : ∀ i j, P i j → (f i).Alike Eq (g j)) : (items.mapM f).Alike Eq (items'.mapM g) := by
  obtain ⟨hlines, hvalue⟩ := alike_mapM hitems h
  rw [List.forall₂_eq_eq_eq] at hvalue
  exact ⟨hlines, hvalue⟩

end Access

namespace View

variable {α β γ δ : Type} {S : α → β → Prop} {T : γ → δ → Prop}

theorem Alike.run {view : View α} {view' : View β} (h : view.Alike S view') :
    Access.Alike (Fault.Agree S) view.run view'.run := ⟨h.log, h.result⟩

theorem alike_pure {a : α} {b : β} (h : S a b) : Alike S (pure a) (pure b) :=
  Reading.alike_pure h

theorem alike_read {reading : Reading α} {reading' : Reading β} (h : reading.Alike S reading') :
    Alike S (View.read reading) (View.read reading') := by
  unfold View.Alike
  rwa [reading_read, reading_read]

/-- Two cells need not be one for what fills them to be alike. -/
theorem alike_memo (slot : Slot) {record record' : Record} {fill fill' : View slot.Content}
    {S : slot.Content → slot.Content → Prop} (h : fill.Alike S fill') :
    Alike S (View.memo slot record fill) (View.memo slot record' fill') := by
  unfold View.Alike
  rwa [reading_memo, reading_memo]

theorem alike_bind {view : View α} {view' : View β} {next : α → View γ} {next' : β → View δ}
    (h : view.Alike S view') (hnext : ∀ a b, S a b → (next a).Alike T (next' b)) :
    Alike T (view >>= next) (view' >>= next') := by
  unfold View.Alike
  rw [reading_bind, reading_bind]
  exact Reading.alike_bind h hnext

theorem alike_map {view : View α} {view' : View β} {f : α → γ} {g : β → δ}
    (h : view.Alike S view') (hfg : ∀ a b, S a b → T (f a) (g b)) :
    Alike T (f <$> view) (g <$> view') := by
  unfold View.Alike
  rw [reading_map, reading_map]
  exact Reading.alike_map h hfg

theorem alike_lift {access : Access α} {access' : Access β} (h : access.Alike S access') :
    Alike S (ExceptT.lift access : View α) (ExceptT.lift access') := by
  constructor
  · rw [reading, reading, ExceptT.run_lift, ExceptT.run_lift]
    simp only [Access.lines_map]
    exact h.lines
  · rw [reading, reading, ExceptT.run_lift, ExceptT.run_lift]
    simp only [Access.value_map]
    exact .ok h.value

theorem alike_mapM {ι κ : Type u} {P : ι → κ → Prop} {f : ι → View α} {g : κ → View β}
    {items : List ι} {items' : List κ} (hitems : List.Forall₂ P items items')
    (h : ∀ i j, P i j → (f i).Alike S (g j)) :
    Alike (List.Forall₂ S) (items.mapM f) (items'.mapM g) :=
  forall₂_mapM alike_pure alike_bind hitems h

end View

end Introspection
