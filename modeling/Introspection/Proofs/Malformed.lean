import Introspection.Error
import Introspection.Proofs.Stopping
import Mathlib.Data.List.DropRight
/-!
# Sources that are not JSON

The error of a source that is not JSON tells a line and a column. Both are told twice, and they are
those of one offset in the bytes of the source, which is where reading stopped.
-/

namespace Introspection

theorem length_toList_loop (bytes : ByteArray) (i : Nat) (read : List UInt8) :
    (ByteArray.toList.loop bytes i read).length = read.length + (bytes.size - i) := by
  fun_induction ByteArray.toList.loop bytes i read with
  | case1 i read h ih =>
      rw [ih, List.length_cons]
      omega
  | case2 i read h =>
      rw [List.length_reverse]
      omega

theorem length_toList_toByteArray (source : String) :
    source.toByteArray.toList.length = source.utf8ByteSize := by
  rw [ByteArray.toList, length_toList_loop, List.length_nil, Nat.zero_add, Nat.sub_zero,
    String.size_toByteArray]

namespace Position

/-- A position is that of an offset in some bytes: its line counts the line breaks in front of the
offset, and its column the bytes since the line began, behind the last of them or at the start. -/
structure Marks (place : Position) (bytes : List UInt8) (offset : Nat) : Prop where
  within : offset ≤ bytes.length
  line : place.line = 1 + (bytes.take offset).count lineBreak
  column : ∃ start, start + place.column = offset ∧
    (start = 0 ∨ bytes[start - 1]? = some lineBreak) ∧ lineBreak ∉ (bytes.take offset).drop start

/-- The last line of some bytes stands behind a line break or in front of all. -/
theorem exists_line (passed : List UInt8) : ∃ lines line, passed = lines ++ line ∧
    (lines = [] ∨ ∃ before, lines = before ++ [lineBreak]) ∧ lineBreak ∉ line ∧
    (after passed).column = line.length := by
  refine ⟨passed.rdropWhile (· != lineBreak), passed.rtakeWhile (· != lineBreak),
    List.rdropWhile_append_rtakeWhile.symm, ?_, fun hmem => ?_, ?_⟩
  · by_cases hlines : passed.rdropWhile (· != lineBreak) = []
    · exact .inl hlines
    · have hlast : (passed.rdropWhile (· != lineBreak)).getLast hlines = lineBreak := by
        simpa using List.rdropWhile_last_not _ passed hlines
      have hsplit := (List.dropLast_append_getLast hlines).symm
      rw [hlast] at hsplit
      exact .inr ⟨_, hsplit⟩
  · simpa using List.mem_rtakeWhile_imp hmem
  · rw [List.rtakeWhile, List.length_reverse]
    rfl

theorem marks_after {bytes : List UInt8} {offset : Nat} (h : offset ≤ bytes.length) :
    (after (bytes.take offset)).Marks bytes offset where
  within := h
  line := rfl
  column := by
    obtain ⟨lines, line, hpassed, hlines, hline, hcolumn⟩ := exists_line (bytes.take offset)
    have hlength : lines.length + line.length = offset := by
      rw [← List.length_append, ← hpassed, List.length_take, Nat.min_eq_left h]
    refine ⟨lines.length, by rw [hcolumn, hlength], ?_, by rwa [hpassed, List.drop_left]⟩
    rcases hlines with rfl | ⟨before, rfl⟩
    · exact .inl rfl
    · right
      rw [List.length_append, List.length_singleton] at hlength ⊢
      have hbreak : (bytes.take offset)[before.length]? = some lineBreak := by
        rw [hpassed, List.append_assoc, List.getElem?_append_right (Nat.le_refl _), Nat.sub_self]
        rfl
      rwa [List.getElem?_take_of_lt (by omega)] at hbreak

end Position

/-! ## Errors -/

/-- Reading a source stops for a reason at an offset in its bytes. -/
def Reason.StopsAt (reason : Reason) (source : String) (offset : Nat) : Prop :=
  ∃ read left taken, source.toList = read ++ left ∧ reason.Stops left taken ∧
    offset = width read + taken

namespace Failure

variable {f : Failure} {source : String}

/-- The bytes that are unread are bytes of the source, and so the offset is in the source. -/
theorem StopsIn.stopsAt (h : f.StopsIn source.toList) :
    f.reason.StopsAt source (source.utf8ByteSize - f.unread) := by
  obtain ⟨left, taken, ⟨read, hread⟩, hstops, htaken⟩ := h
  refine ⟨read, left, taken, hread.symm, hstops, ?_⟩
  rw [← width_toList, ← hread, width_append, ← htaken]
  omega

theorem marks_position (f : Failure) (source : String) :
    (f.position source).Marks source.toByteArray.toList (source.utf8ByteSize - f.unread) := by
  apply Position.marks_after
  rw [length_toList_toByteArray]
  exact Nat.sub_le _ _

end Failure

/-- A source is parsed, or its error tells the line and the column of an offset in the source, in
the message as in the context. At this offset the reason for the error can be seen. -/
theorem Json.parse_ok_or_stopsAt (source : String) :
    (∃ json, parse source = .ok json) ∨
    ∃ (reason : Reason) (place : Position) (offset : Nat),
      parse source = .error ⟨.malformed,
        reason.text ++ " at line " ++ toString place.line ++ " column " ++ toString place.column,
        some ("line " ++ toString place.line ++ ", column " ++ toString place.column)⟩ ∧
      place.Marks source.toByteArray.toList offset ∧ reason.StopsAt source offset := by
  unfold parse
  cases h : read source with
  | ok json => exact .inl ⟨json, rfl⟩
  | error f =>
      exact .inr ⟨f.reason, f.position source, source.utf8ByteSize - f.unread, rfl,
        f.marks_position source, (Reader.stopsIn_document h).stopsAt⟩

example : Json.parse "[null,\n é]" = .error ⟨.malformed, "expected value at line 2 column 2",
    some "line 2, column 2"⟩ := by
  cbv

end Introspection
