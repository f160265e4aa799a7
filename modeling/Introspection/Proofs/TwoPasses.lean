import Introspection.Proofs.FirstFaults
import Introspection.Proofs.PlainViews
/-!
# Lists that are read in two passes

The first pass makes something of each item. What is made is arranged, and the second pass reads
a mark of each: whether it is deprecated, or whether it is required. So an item that cannot be
made is found before any mark that cannot be read.
-/

namespace Introspection

open Reading

namespace Reading

variable {α β : Type}

/-- Reads items in a first pass, and in a second one the marks of what has been made of them. -/
def inTwoPasses (read : Json → Reading α) (arrange : List α → List α) (mark : α → Reading Bool)
    (items : List Json) : Reading (List (α × Bool)) := do
  let made ← items.mapM read
  (arrange made).mapM fun a => (a, ·) <$> mark a

section

variable {read : Json → Reading α} {arrange : List α → List α} {mark : α → Reading Bool}
  {V : Json → α → Prop} {P : Json → Fault → Prop} {M : α → Bool → Prop} {S : α → Fault → Prop}

/-- The values of both passes, and the faults of the second one if the first one has none. -/
theorem endsJust_inTwoPasses (hread : ∀ item, (read item).EndsJust (V item) (P item))
    (hmark : ∀ a, (mark a).EndsJust (M a) (S a)) (items : List Json) :
    (inTwoPasses read arrange mark items).EndsJust
      (fun marked => ∃ made, List.Forall₂ V items made ∧
        List.Forall₂ (fun a found => found.1 = a ∧ M a found.2) (arrange made) marked)
      (fun fault => FirstFault P items fault ∨
        ∃ made, List.Forall₂ V items made ∧ FirstFault S (arrange made) fault) := by
  refine endsJust_bind (endsJust_mapM fun item _ => hread item) fun made _ => ?_
  apply endsJust_mapM
  intro a _
  refine (endsJust_map (hmark a)).congr (fun found => ?_) (fun _ => Iff.rfl)
  constructor
  · rintro ⟨b, hb, rfl⟩
    exact ⟨rfl, hb⟩
  · obtain ⟨first, b⟩ := found
    rintro ⟨rfl, hb⟩
    exact ⟨b, hb, rfl⟩

end

/-- A line that is logged does not show in the result. -/
theorem result_note (reading : Reading α) (line : α → LogLine) (f : α → β) :
    (do
      let a ← reading
      note (line a)
      pure (f a) : Reading β).result = (f <$> reading).result := by
  rw [result_bind, result_map]
  cases reading.result <;> rfl

theorem mapM_map_right (f : α → β) {ι : Type} (read : ι → Reading α) (items : List ι) :
    (items.mapM fun item => f <$> read item) = List.map f <$> items.mapM read := by
  induction items with
  | nil => simp
  | cons item items ih => simp [ih]

/-- What is made may be wrapped before it is marked or after that. -/
theorem inTwoPasses_map {wrap : α → β} {read : Json → Reading α} {arrange : List α → List α}
    {arrange' : List β → List β} {mark : α → Reading Bool} {mark' : β → Reading Bool}
    (harrange : ∀ as, arrange' (as.map wrap) = (arrange as).map wrap)
    (hmark : ∀ a, mark' (wrap a) = mark a) (items : List Json) :
    inTwoPasses (fun item => wrap <$> read item) arrange' mark' items =
      List.map (Prod.map wrap id) <$> inTwoPasses read arrange mark items := by
  rw [inTwoPasses, inTwoPasses, mapM_map_right, bind_map_left, map_bind]
  congr 1
  funext made
  rw [harrange, List.mapM_map, ← mapM_map_right]
  simp [Function.comp_def, hmark]

/-- The second pass leaves the items and their order as they are. -/
theorem map_mark {γ : Type} (mark : α → Reading Bool) (f : List α → List (α × Bool) → γ)
    (items : List α) :
    (fun marked => f (marked.map (·.1)) marked) <$> items.mapM (fun a => (a, ·) <$> mark a) =
      f items <$> items.mapM fun a => (a, ·) <$> mark a := by
  induction items generalizing f with
  | nil => rfl
  | cons item items ih =>
      rw [List.mapM_cons, map_bind, map_bind, bind_map_left, bind_map_left]
      congr 1
      funext b
      have hrest := ih fun as marked => f (item :: as) ((item, b) :: marked)
      simpa only [bind_pure_comp, Functor.map_map, List.map_cons] using hrest

theorem map_fst_inTwoPasses_pure (read : Json → Reading α) (arrange : List α → List α) (b : Bool)
    (items : List Json) :
    List.map (·.1) <$> inTwoPasses read arrange (fun _ => pure b) items =
      arrange <$> items.mapM read := by
  simp [inTwoPasses, List.mapM_pure, Function.comp_def]

end Reading

/-! ## Deprecated items -/

namespace Deprecatables

variable {α : Type} (isDeprecated : α → Reading Bool)

def ofMarked (marked : List (α × Bool)) : Deprecatables α where
  all := marked.map (·.1)
  active := (marked.filter (!·.2)).map (·.1)

theorem activeOf_eq (items : List α) :
    activeOf isDeprecated items =
      (fun marked => (ofMarked marked).active) <$>
        items.mapM fun a => (a, ·) <$> isDeprecated a := by
  induction items with
  | nil => rfl
  | cons item items ih =>
      rw [activeOf, ih, List.mapM_cons, map_bind, bind_map_left]
      congr 1
      funext deprecated
      rw [bind_map_left, map_bind]
      simp only [map_pure, bind_pure_comp]
      cases deprecated <;> rfl

theorem ofAll_eq (items : List α) :
    ofAll isDeprecated items = ofMarked <$> items.mapM fun a => (a, ·) <$> isDeprecated a := by
  rw [ofAll, activeOf_eq, bind_map_left, bind_pure_comp]
  exact (map_mark isDeprecated (fun all marked =>
    Deprecatables.mk all (ofMarked marked).active) items).symm

end Deprecatables

theorem Field.readAll_eq (items : List Json) :
    Field.readAll items =
      Deprecatables.ofMarked <$> inTwoPasses Field.read id (·.isDeprecated) items := by
  simp only [Field.readAll, Deprecatables.ofAll_eq, inTwoPasses, map_bind, id_eq]

theorem EnumValue.readAll_eq (items : List Json) :
    EnumValue.readAll items = Deprecatables.ofMarked <$>
      inTwoPasses EnumValue.read (sortByName (·.name)) (·.isDeprecated) items := by
  simp only [EnumValue.readAll, Deprecatables.ofAll_eq, inTwoPasses, map_bind]

/-! ## Required values -/

theorem Node.reading_type_eq (n : Node) : n.type.reading = n.record.readType := by
  rw [type, View.reading_memo, View.reading_read]

namespace InputValues

def ofMarked (marked : List (InputValue × Bool)) : InputValues where
  all := marked.map (·.1)
  required := (marked.filter (·.2)).map (·.1)
  optional := (marked.filter (!·.2)).map (·.1)

def readMark (value : InputValue) : Reading Bool := TypeRef.isNonNull <$> value.record.readType

theorem reading_split (values : List InputValue) :
    (split values).reading =
      (fun marked => ((ofMarked marked).required, (ofMarked marked).optional)) <$>
        values.mapM fun value => (value, ·) <$> readMark value := by
  induction values with
  | nil => rfl
  | cons value values ih =>
      rw [split, View.reading_bind, value.reading_type_eq, List.mapM_cons, map_bind,
        bind_map_left, readMark, bind_map_left]
      congr 1
      funext ref
      rw [View.reading_bind, ih, map_bind, bind_map_left]
      simp only [View.reading_pure, map_pure, bind_pure_comp]
      cases ref.isNonNull <;> rfl

theorem reading_read (items : List Json) :
    (read items).reading = ofMarked <$> inTwoPasses InputValue.read id readMark items := by
  rw [read, View.reading_bind, View.reading_read, inTwoPasses, map_bind]
  congr 1
  funext all
  rw [View.reading_bind, reading_split, bind_map_left]
  simp only [View.reading_pure, bind_pure_comp, id_eq]
  exact (map_mark readMark (fun all marked =>
    InputValues.mk all (ofMarked marked).required (ofMarked marked).optional) all).symm

end InputValues

end Introspection
