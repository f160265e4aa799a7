import Introspection.Naming.Words
import Mathlib.Data.List.DropRight
import Mathlib.Data.List.Forall2
import Mathlib.Data.String.Basic
/-!
# Words by underscores

The words of a name are what stands between the underscores, once an underscore has been put
wherever a word begins between two neighbours. The one pass over the bytes of a name cuts them out
at the ends of whole characters, and loses nothing but the underscores.
-/

namespace Introspection

open String (utf8Len)

/-- A name with an underscore between any two neighbours at the second of which a word begins. -/
def underscored : List Char → List Char
  | c :: next :: rest =>
      if isBoundary c next then c :: '_' :: underscored (next :: rest)
      else c :: underscored (next :: rest)
  | name => name

theorem underscored_cons (c : Char) (rest : List Char) :
    underscored (c :: rest) = c :: (underscored (c :: rest)).tail := by
  cases rest with
  | nil => rfl
  | cons next rest =>
      rw [underscored]
      split <;> rfl

theorem isBoundary_underscore_right (c : Char) : isBoundary c '_' = false := by
  have hupper : '_'.isUpper = false := by decide
  have hdigit : '_'.isDigit = false := by decide
  simp [isBoundary, hupper, hdigit]

/-! ## Splitting -/

/-- After a character the pass goes on as splitting does in what comes after that character once
the underscores have been put in. -/
theorem wordsFrom_some (prev : Char) (word rest : List Char) :
    wordsFrom (some prev) word rest =
      List.splitOnPPrepend (· == '_') (underscored (prev :: rest)).tail word := by
  induction rest generalizing prev word with
  | nil => rfl
  | cons c rest ih =>
      have hrest := underscored_cons c rest
      by_cases hc : c = '_'
      · subst hc
        have htail : (underscored (prev :: '_' :: rest)).tail = underscored ('_' :: rest) := by
          simp [underscored, isBoundary_underscore_right]
        rw [htail, hrest, List.splitOnPPrepend_cons_pos (by simp), wordsFrom, if_pos rfl, ih]
        rfl
      · by_cases hboundary : isBoundary prev c = true
        · have htail : (underscored (prev :: c :: rest)).tail = '_' :: underscored (c :: rest) := by
            simp [underscored, hboundary]
          rw [htail, List.splitOnPPrepend_cons_pos (by simp), hrest,
            ← List.splitOnPPrepend_nil_right, List.splitOnPPrepend_cons_neg (by simpa using hc),
            wordsFrom, if_neg hc, Option.any_some, if_pos hboundary, ih]
        · have htail : (underscored (prev :: c :: rest)).tail = underscored (c :: rest) := by
            simp [underscored, hboundary]
          rw [htail, hrest, List.splitOnPPrepend_cons_neg (by simpa using hc), wordsFrom,
            if_neg hc, Option.any_some, if_neg hboundary, ih]

theorem wordsFrom_none (name : List Char) :
    wordsFrom none [] name = (underscored name).splitOn '_' := by
  rw [List.splitOn_eq_splitOnP, ← List.splitOnPPrepend_nil_right]
  cases name with
  | nil => rfl
  | cons c rest =>
      rw [underscored_cons, wordsFrom, Option.any_none]
      by_cases hc : c = '_'
      · rw [if_pos hc, List.splitOnPPrepend_cons_pos (by simpa using hc), wordsFrom_some]
        rfl
      · rw [if_neg hc, List.splitOnPPrepend_cons_neg (by simpa using hc), wordsFrom_some]
        rfl

theorem trimEmpty_eq_rdropWhile (words : List (List Char)) :
    trimEmpty words = words.rdropWhile List.isEmpty := rfl

/-- The words are what stands between underscores, without the empty words at the end. -/
theorem wordsOf_eq_splitOn (name : List Char) :
    wordsOf name = ((underscored name).splitOn '_').rdropWhile List.isEmpty := by
  rw [wordsOf, wordsFrom_none, trimEmpty_eq_rdropWhile]

/-! ## Joining -/

theorem flatten_wordsFrom (prev : Option Char) (word rest : List Char) :
    (wordsFrom prev word rest).flatten = word.reverse ++ rest.filter (· ≠ '_') := by
  induction rest generalizing prev word with
  | nil => simp [wordsFrom]
  | cons c rest ih =>
      rw [wordsFrom]
      split
      · next hc => simp [ih, hc]
      · next hc =>
          split
          · simp [ih, hc]
          · simp [ih, hc]

/-- Trimming takes away only empty words, so what is nothing for an empty word stays the same. -/
theorem flatMap_trimEmpty {f : List Char → List Char} (h : f [] = []) (words : List (List Char)) :
    (trimEmpty words).flatMap f = words.flatMap f := by
  have hblank : (words.rtakeWhile List.isEmpty).flatMap f = [] := by
    rw [List.flatMap_eq_nil_iff]
    intro word hword
    rw [List.isEmpty_iff.mp (List.mem_rtakeWhile_imp hword), h]
  have hwords : words.rdropWhile List.isEmpty ++ words.rtakeWhile List.isEmpty = words :=
    List.rdropWhile_append_rtakeWhile
  calc (trimEmpty words).flatMap f
    _ = (words.rdropWhile List.isEmpty).flatMap f ++
          (words.rtakeWhile List.isEmpty).flatMap f := by
      rw [trimEmpty_eq_rdropWhile, hblank, List.append_nil]
    _ = words.flatMap f := by rw [← List.flatMap_append, hwords]

theorem flatten_wordsOf (name : List Char) :
    (wordsOf name).flatten = name.filter (· ≠ '_') := by
  rw [wordsOf, ← List.flatMap_id, flatMap_trimEmpty rfl, List.flatMap_id, flatten_wordsFrom]
  rfl

/-! ## Cutting -/

/-- A range that lies in a text, and that begins and ends between whole characters of it. -/
structure ByteRange.FitsIn (range : ByteRange) (text : String) : Prop where
  ordered : range.start ≤ range.stop
  bounded : range.stop ≤ text.utf8ByteSize
  start : (⟨range.start⟩ : String.Pos.Raw).IsValid text
  stop : (⟨range.stop⟩ : String.Pos.Raw).IsValid text

/-- A range that holds a word of a name, with the characters before and after it left out. -/
def ByteRange.Cuts (range : ByteRange) (name : String) (word : List Char) : Prop :=
  ∃ before after, name = String.ofList (before ++ word ++ after) ∧
    range = ⟨utf8Len before, utf8Len before + utf8Len word⟩

namespace ByteRange

variable {range : ByteRange} {name : String} {word : List Char}

theorem Cuts.slice_eq (h : range.Cuts name word) : range.slice name = String.ofList word := by
  obtain ⟨before, after, rfl, rfl⟩ := h
  exact String.extract_of_valid before word after

theorem isValid_utf8Len (before after : List Char) :
    (⟨utf8Len before⟩ : String.Pos.Raw).IsValid (String.ofList (before ++ after)) := by
  apply String.Pos.Raw.isValid_iff_exists_append.mpr
  exact ⟨String.ofList before, String.ofList after, String.ofList_append,
    (String.rawEndPos_ofList before).symm⟩

theorem Cuts.fitsIn (h : range.Cuts name word) : range.FitsIn name := by
  obtain ⟨before, after, rfl, rfl⟩ := h
  have hstart := isValid_utf8Len before (word ++ after)
  have hstop := isValid_utf8Len (before ++ word) after
  rw [← List.append_assoc] at hstart
  rw [String.utf8Len_append] at hstop
  exact ⟨Nat.le_add_right _ _, hstop.le_utf8ByteSize, hstart, hstop⟩

end ByteRange

/-- The pass over the bytes is in step with the one over the characters: the word so far begins
where the one says, and the other holds its characters. -/
theorem forall₂_cuts (name : String) (prev : Option Char) (before word rest : List Char)
    (h : name = String.ofList (before ++ word.reverse ++ rest)) :
    List.Forall₂ (ByteRange.Cuts · name)
      (rangesFrom prev (utf8Len before) (utf8Len before + utf8Len word.reverse) rest)
      (wordsFrom prev word rest) := by
  induction rest generalizing prev before word with
  | nil => exact .cons ⟨before, [], h, rfl⟩ .nil
  | cons c rest ih =>
      have hcut : ByteRange.Cuts ⟨utf8Len before, utf8Len before + utf8Len word.reverse⟩ name
          word.reverse := ⟨before, c :: rest, h, rfl⟩
      rw [rangesFrom, wordsFrom]
      split
      · have hrest := ih (some c) (before ++ word.reverse ++ [c]) [] (by simp [h])
        simp only [String.utf8Len_append, String.utf8Len_cons, String.utf8Len_nil,
          List.reverse_nil, Nat.zero_add, Nat.add_zero] at hrest
        exact .cons hcut hrest
      · split
        · have hrest := ih (some c) (before ++ word.reverse) [c] (by simp [h])
          simp only [String.utf8Len_append, String.utf8Len_cons, String.utf8Len_nil,
            List.reverse_cons, List.reverse_nil, List.nil_append, Nat.zero_add] at hrest
          exact .cons hcut hrest
        · have hrest := ih (some c) before (c :: word) (by simp [h])
          simp only [String.utf8Len_append, String.utf8Len_cons, String.utf8Len_nil,
            List.reverse_cons, Nat.zero_add, ← Nat.add_assoc] at hrest
          exact hrest

theorem forall₂_cuts_wordRanges (name : String) :
    List.Forall₂ (ByteRange.Cuts · name) (wordRanges name) (wordsFrom none [] name.toList) := by
  apply forall₂_cuts name none [] [] name.toList
  simp

theorem map_slice_wordRanges (name : String) :
    (wordRanges name).map (·.slice name) = (wordsFrom none [] name.toList).map String.ofList := by
  rw [← List.forall₂_eq_eq_eq, List.forall₂_map_left_iff, List.forall₂_map_right_iff]
  exact (forall₂_cuts_wordRanges name).imp fun _ _ h => h.slice_eq

/-- The words that are cut out of the bytes are the words of the characters. -/
theorem nameWords_eq_map_wordsOf (name : String) :
    nameWords name = (wordsOf name.toList).map String.ofList := by
  have hempty : String.isEmpty ∘ String.ofList = List.isEmpty := by
    funext word
    rw [Function.comp_apply, Bool.eq_iff_iff, String.isEmpty_iff, String.ofList_eq_empty_iff,
      List.isEmpty_iff]
  rw [nameWords, map_slice_wordRanges, ← List.map_reverse, List.dropWhile_map, ← List.map_reverse,
    hempty]
  rfl

theorem fitsIn_wordRanges {name : String} {range : ByteRange} (h : range ∈ wordRanges name) :
    range.FitsIn name := by
  have hcuts := (forall₂_cuts_wordRanges name).imp fun _ _ h => And.intro h.fitsIn h
  exact ((List.forall₂_and_left _ _).mp hcuts).1 range h

/-- The words of a name are the parts between the underscores of the name with an underscore at
every boundary, less the empty ones at the end. Each range that is cut out fits in the name. The
words together are the name without its underscores. -/
theorem nameWords_eq_split_underscored (name : String) :
    nameWords name =
      (((underscored name.toList).splitOn '_').rdropWhile List.isEmpty).map String.ofList ∧
    (∀ range ∈ wordRanges name, range.FitsIn name) ∧
    String.join (nameWords name) = String.ofList (name.toList.filter (· ≠ '_')) := by
  refine ⟨?_, fun range => fitsIn_wordRanges, ?_⟩
  · rw [nameWords_eq_map_wordsOf, wordsOf_eq_splitOn]
  · rw [← String.toList_inj, String.toList_join, nameWords_eq_map_wordsOf, List.flatMap_map,
      String.toList_ofList, ← flatten_wordsOf]
    simp [List.flatMap]

theorem nameWords_eq_split_underscored_wide :
    nameWords "__éTag2Go_" = ["", "", "éTag", "2Go"] ∧
      ByteRange.FitsIn ⟨2, 7⟩ "__éTag2Go_" ∧
      String.join (nameWords "__éTag2Go_") = "éTag2Go" := by
  obtain ⟨hwords, hfits, hjoin⟩ := nameWords_eq_split_underscored "__éTag2Go_"
  exact ⟨hwords.trans (by decide), hfits ⟨2, 7⟩ (by decide), hjoin.trans (by decide)⟩

end Introspection
