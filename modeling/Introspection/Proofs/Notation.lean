import Introspection.Proofs.Stripping
import Mathlib.Data.List.TakeWhile
/-!
# The notation of type references

A reference is written with a bracket for each list around it, then the name of its type, then a
mark for each wrapper from the innermost on. Where the name has no such character, the text can be
read again, and so it tells the wrappers and the name. It does not tell the kind.
-/

namespace Introspection

/-! ## Marks -/

def notationMarks : List Char := ['[', ']', '!']

def MarkFree (name : String) : Prop := ∀ c ∈ name.toList, c ∉ notationMarks

namespace Wrapper

def mark : Wrapper → Char
  | list => ']'
  | nonNull => '!'

def ofMark? (c : Char) : Option Wrapper :=
  if c = ']' then some list else if c = '!' then some nonNull else none

theorem mark_mem (w : Wrapper) : w.mark ∈ notationMarks := by
  cases w <;> decide

theorem mark_ne_bracket (w : Wrapper) : w.mark ≠ '[' := by
  cases w <;> decide

theorem ofMark?_eq_some_iff {c : Char} {w : Wrapper} : ofMark? c = some w ↔ c = w.mark := by
  constructor
  · intro h
    unfold ofMark? at h
    split at h
    · cases h
      assumption
    · split at h
      · cases h
        assumption
      · cases h
  · rintro rfl
    cases w <;> rfl

theorem mapM_ofMark?_eq_some_iff {marks : List Char} {wrappers : List Wrapper} :
    marks.mapM ofMark? = some wrappers ↔ marks = wrappers.map mark := by
  induction marks generalizing wrappers with
  | nil => cases wrappers <;> simp
  | cons c marks ih =>
      cases wrappers with
      | nil => simp [List.mapM_cons, Option.bind_eq_some_iff]
      | cons w wrappers => simp [List.mapM_cons, Option.bind_eq_some_iff, ih, ofMark?_eq_some_iff]

end Wrapper

namespace TypeRef

/-! ## Writing -/

/-- The notation of wrappers around a type with a name. -/
def written (wrappers : List Wrapper) (name : String) : List Char :=
  List.replicate (wrappers.count .list) '[' ++ (name.toList ++ (wrappers.map Wrapper.mark).reverse)

theorem toList_text (r : TypeRef) : r.text.toList = written r.wrappers r.namedType := by
  induction r with
  | named kind name => simp [text, written, wrappers, namedType]
  | list inner ih =>
      simp [text, ih, written, wrappers, namedType, Wrapper.mark, List.replicate_succ]
  | nonNull inner ih => simp [text, ih, written, wrappers, namedType, Wrapper.mark]

theorem eq_of_wrappers_eq {a b : TypeRef} (hwrappers : a.wrappers = b.wrappers)
    (hunwrap : a.unwrap = b.unwrap) : a = b := by
  induction a generalizing b with
  | named kind name =>
      cases b with
      | named => exact hunwrap
      | _ => cases hwrappers
  | list inner ih =>
      cases b with
      | list other => exact congrArg list (ih (List.cons.inj hwrappers).2 hunwrap)
      | _ => cases hwrappers
  | nonNull inner ih =>
      cases b with
      | nonNull other => exact congrArg nonNull (ih (List.cons.inj hwrappers).2 hunwrap)
      | _ => cases hwrappers

/-! ## Reading -/

/-- Reads wrappers and the name of a type from their notation. There has to be a bracket at the
beginning for each list that is marked after the name. -/
def readNotation (text : String) : Option (List Wrapper × String) := do
  let inner := text.toList.dropWhile (· = '[')
  let marked ← (inner.dropWhile (· ∉ notationMarks)).mapM Wrapper.ofMark?
  let name := String.ofList (inner.takeWhile (· ∉ notationMarks))
  if (text.toList.takeWhile (· = '[')).length = marked.count .list then
    some (marked.reverse, name)
  else none

/-- A list is cut where its first elements that all satisfy a condition end. -/
theorem takeWhile_dropWhile_append {α : Type} (p : α → Bool) {before after : List α}
    (hbefore : ∀ a ∈ before, p a = true) (hafter : ∀ a ∈ after, p a = false) :
    (before ++ after).takeWhile p = before ∧ (before ++ after).dropWhile p = after := by
  rw [List.takeWhile_append_of_pos hbefore, List.dropWhile_append_of_pos hbefore]
  cases after with
  | nil => simp
  | cons a after =>
      have ha : ¬ p a = true := by simp [hafter a]
      rw [List.takeWhile_cons_of_neg ha, List.dropWhile_cons_of_neg ha, List.append_nil]
      exact ⟨rfl, rfl⟩

theorem written_of_readNotation {text : String} {wrappers : List Wrapper} {name : String}
    (h : readNotation text = some (wrappers, name)) :
    MarkFree name ∧ text.toList = written wrappers name := by
  obtain ⟨marked, hmarked, h⟩ := Option.bind_eq_some_iff.mp h
  dsimp only at h
  split at h
  case isFalse => cases h
  case isTrue hlength =>
    cases h
    rw [Wrapper.mapM_ofMark?_eq_some_iff] at hmarked
    have hopened : text.toList.takeWhile (· = '[') =
        List.replicate (marked.count .list) '[' := by
      refine List.eq_replicate_iff.mpr ⟨hlength, fun c hc => ?_⟩
      simpa using List.mem_takeWhile_imp hc
    constructor
    · intro c hc
      rw [String.toList_ofList] at hc
      simpa using List.mem_takeWhile_imp hc
    · rw [written, String.toList_ofList, List.count_reverse, List.map_reverse,
        List.reverse_reverse, ← hmarked, List.takeWhile_append_dropWhile, ← hopened,
        List.takeWhile_append_dropWhile]

theorem readNotation_of_written {text : String} {wrappers : List Wrapper} {name : String}
    (hfree : MarkFree name) (htext : text.toList = written wrappers name) :
    readNotation text = some (wrappers, name) := by
  have hmarks : ∀ c ∈ (wrappers.map Wrapper.mark).reverse, c ∈ notationMarks ∧ c ≠ '[' := by
    intro c hc
    obtain ⟨w, -, rfl⟩ := List.mem_map.mp (List.mem_reverse.mp hc)
    exact ⟨w.mark_mem, w.mark_ne_bracket⟩
  have hbrackets : ∀ c ∈ List.replicate (wrappers.count .list) '[', decide (c = '[') = true := by
    simp
  have hrest : ∀ c ∈ name.toList ++ (wrappers.map Wrapper.mark).reverse,
      decide (c = '[') = false := by
    intro c hc
    rcases List.mem_append.mp hc with hname | hmark
    · have hbracket : c ≠ '[' := fun h => hfree c hname (h ▸ by decide)
      simp [hbracket]
    · simp [(hmarks c hmark).2]
  have hletters : ∀ c ∈ name.toList, decide (c ∉ notationMarks) = true := by
    intro c hc
    simp [hfree c hc]
  have hmarked : ∀ c ∈ (wrappers.map Wrapper.mark).reverse,
      decide (c ∉ notationMarks) = false := by
    intro c hc
    simp [(hmarks c hc).1]
  -- The text is cut after the brackets, and what follows them is cut after the name.
  obtain ⟨hopened, hinner⟩ := takeWhile_dropWhile_append (· = '[') hbrackets hrest
  obtain ⟨hname, hafter⟩ := takeWhile_dropWhile_append (· ∉ notationMarks) hletters hmarked
  have hread : (wrappers.map Wrapper.mark).reverse.mapM Wrapper.ofMark? =
      some wrappers.reverse := by
    rw [Wrapper.mapM_ofMark?_eq_some_iff, List.map_reverse]
  rw [readNotation, htext, written]
  simp only [hopened, hinner, hname, hafter, hread]
  simp

/-- What is read is just what is written with a name that has no marks. -/
theorem readNotation_eq_some_iff {text : String} {wrappers : List Wrapper} {name : String} :
    readNotation text = some (wrappers, name) ↔
      MarkFree name ∧ text.toList = written wrappers name :=
  ⟨written_of_readNotation, fun h => readNotation_of_written h.1 h.2⟩

theorem readNotation_text {r : TypeRef} (h : MarkFree r.namedType) :
    readNotation r.text = some (r.wrappers, r.namedType) :=
  readNotation_eq_some_iff.mpr ⟨h, r.toList_text⟩

/-- References to types with names that have no marks are written alike if and only if they have
the same wrappers in the same order and name the same type, so that they can differ in the kind of
the type only. The wrappers and the name can be read from the text. -/
theorem text_eq_text_iff {a b : TypeRef} (ha : MarkFree a.namedType)
    (hb : MarkFree b.namedType) :
    (a.text = b.text ↔ a.wrappers = b.wrappers ∧ a.namedType = b.namedType) ∧
    (a = b ↔ a.text = b.text ∧ a.namedKind = b.namedKind) ∧
    readNotation a.text = some (a.wrappers, a.namedType) := by
  have hread := readNotation_text ha
  have htext : a.text = b.text ↔ a.wrappers = b.wrappers ∧ a.namedType = b.namedType := by
    constructor
    · intro h
      rw [h, readNotation_text hb] at hread
      exact Prod.mk.inj (Option.some.inj hread.symm)
    · rintro ⟨hwrappers, hname⟩
      rw [← String.toList_inj, toList_text, toList_text, hwrappers, hname]
  refine ⟨htext, ⟨?_, ?_⟩, hread⟩
  · rintro rfl
    exact ⟨rfl, rfl⟩
  · rintro ⟨h, hkind⟩
    obtain ⟨hwrappers, hname⟩ := htext.mp h
    refine eq_of_wrappers_eq hwrappers ?_
    rw [unwrap_eq_named, unwrap_eq_named, hkind, hname]

theorem text_eq_text_iff_idLists :
    MarkFree "ID" ∧
    readNotation "[[ID]!]!!" = some ([.nonNull, .nonNull, .list, .nonNull, .list], "ID") ∧
    (list (nonNull (named .scalar "ID"))).text = (list (nonNull (named .enum "ID"))).text ∧
    (list (nonNull (named .scalar "ID"))).text ≠ (nonNull (list (named .scalar "ID"))).text := by
  have hfree : MarkFree "ID" := by simp [MarkFree, notationMarks]
  have hread := (text_eq_text_iff (a := doublyRequired) (b := doublyRequired) hfree hfree).2.2
  obtain ⟨hkinds, -⟩ := text_eq_text_iff (a := list (nonNull (named .scalar "ID")))
    (b := list (nonNull (named .enum "ID"))) hfree hfree
  obtain ⟨horder, -⟩ := text_eq_text_iff (a := list (nonNull (named .scalar "ID")))
    (b := nonNull (list (named .scalar "ID"))) hfree hfree
  refine ⟨hfree, hread, hkinds.mpr ⟨rfl, rfl⟩, fun h => ?_⟩
  cases (horder.mp h).1

end TypeRef

end Introspection
