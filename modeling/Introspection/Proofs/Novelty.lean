import Introspection.Proofs.Filling
/-!
# Counts that have not been seen

A log without repeated counts: each line that tells the length of a list stands once, and not at
all if it has been seen before. All other lines stay as often as they occur.
-/

namespace Introspection

namespace LogLine

def isRepeated (seen : List LogLine) (line : LogLine) : Bool :=
  line.isCount && decide (line ∈ seen)

/-- A log without the counts that it repeats, or that have been seen before it. -/
def novel (seen : List LogLine) : List LogLine → List LogLine
  | [] => []
  | line :: rest =>
      if line.isRepeated seen then novel (seen ++ [line]) rest
      else line :: novel (seen ++ [line]) rest

theorem isRepeated_of_uncounted {line : LogLine} (h : line.isCount = false)
    (seen : List LogLine) : line.isRepeated seen = false := by
  rw [isRepeated, h, Bool.false_and]

theorem isRepeated_iff {seen : List LogLine} {line : LogLine} :
    line.isRepeated seen = true ↔ line.isCount = true ∧ line ∈ seen := by
  rw [isRepeated, Bool.and_eq_true, decide_eq_true_iff]

theorem novel_append (seen xs ys : List LogLine) :
    novel seen (xs ++ ys) = novel seen xs ++ novel (seen ++ xs) ys := by
  induction xs generalizing seen with
  | nil => rw [List.nil_append, List.append_nil, novel, List.nil_append]
  | cons line xs ih =>
      rw [List.cons_append, novel, novel, ih, List.append_assoc, List.singleton_append]
      split
      · rfl
      · rw [List.cons_append]

theorem novel_of_uncounted {seen xs : List LogLine} (h : ∀ line ∈ xs, line.isCount = false) :
    novel seen xs = xs := by
  induction xs generalizing seen with
  | nil => rfl
  | cons line xs ih =>
      rw [novel, isRepeated_of_uncounted (h line List.mem_cons_self),
        ih fun other hother => h other (List.mem_cons_of_mem line hother)]
      rfl

theorem novel_of_seen {seen xs : List LogLine}
    (h : ∀ line ∈ xs, line.isCount = true ∧ line ∈ seen) : novel seen xs = [] := by
  induction xs generalizing seen with
  | nil => rfl
  | cons line xs ih =>
      rw [novel, isRepeated_iff.mpr (h line List.mem_cons_self), if_pos rfl]
      refine ih fun other hother => ?_
      obtain ⟨hcount, hseen⟩ := h other (List.mem_cons_of_mem line hother)
      exact ⟨hcount, List.mem_append_left _ hseen⟩

/-- Lines seen before a log take away from what it has without them. -/
theorem novel_append_seen (seen xs ys : List LogLine) :
    novel (seen ++ xs) ys = (novel xs ys).filter fun line => !line.isRepeated seen := by
  induction ys generalizing xs with
  | nil => rfl
  | cons line ys ih =>
      rw [novel, novel, List.append_assoc, ih]
      have hsplit : line.isRepeated (seen ++ xs) =
          (line.isRepeated seen || line.isRepeated xs) := by
        unfold isRepeated
        rw [← Bool.and_or_distrib_left, ← Bool.decide_or]
        simp only [List.mem_append]
      rw [hsplit]
      cases hxs : line.isRepeated xs with
      | true => rw [Bool.or_true, if_pos rfl, if_pos rfl]
      | false =>
          rw [Bool.or_false, if_neg Bool.false_ne_true, List.filter_cons]
          cases hseen : line.isRepeated seen <;> rfl

theorem novel_eq_filter (seen xs : List LogLine) :
    novel seen xs = (novel [] xs).filter fun line => !line.isRepeated seen := by
  have h := novel_append_seen seen [] xs
  rwa [List.append_nil] at h

theorem mem_of_mem_novel {seen xs : List LogLine} {line : LogLine}
    (h : line ∈ novel seen xs) : line ∈ xs := by
  induction xs generalizing seen with
  | nil => exact h
  | cons other xs ih =>
      rw [novel] at h
      split at h
      · exact List.mem_cons_of_mem other (ih h)
      · rcases List.mem_cons.mp h with rfl | h
        · exact List.mem_cons_self
        · exact List.mem_cons_of_mem other (ih h)

theorem mem_novel_or_seen {seen xs : List LogLine} {line : LogLine} (h : line ∈ xs) :
    line ∈ novel seen xs ∨ line ∈ seen := by
  induction xs generalizing seen with
  | nil => exact absurd h List.not_mem_nil
  | cons other xs ih =>
      rw [novel]
      by_cases hother : line = other
      · subst hother
        split
        · exact .inr (isRepeated_iff.mp ‹_›).2
        · exact .inl List.mem_cons_self
      · have hrest : line ∈ novel (seen ++ [other]) xs ∨ line ∈ seen := by
          rcases ih ((List.mem_cons.mp h).resolve_left hother) with hnovel | hseen
          · exact .inl hnovel
          · rcases List.mem_append.mp hseen with hseen | hseen
            · exact .inr hseen
            · exact absurd (List.mem_singleton.mp hseen) hother
        split
        · exact hrest
        · exact hrest.imp_left (List.mem_cons_of_mem other)

theorem mem_novel_nil {xs : List LogLine} {line : LogLine} :
    line ∈ novel [] xs ↔ line ∈ xs :=
  ⟨mem_of_mem_novel, fun h => (mem_novel_or_seen h).resolve_right List.not_mem_nil⟩

theorem not_mem_novel_of_isRepeated {seen xs : List LogLine} {line : LogLine}
    (h : line.isRepeated seen = true) : line ∉ novel seen xs := by
  intro hmem
  rw [novel_eq_filter, List.mem_filter, h] at hmem
  exact Bool.false_ne_true hmem.2

/-- In a log without repeated counts no count stands twice. -/
theorem count_novel_le_one {line : LogLine} (hline : line.isCount = true)
    (seen xs : List LogLine) : (novel seen xs).count line ≤ 1 := by
  induction xs generalizing seen with
  | nil => exact Nat.zero_le 1
  | cons other xs ih =>
      rw [novel]
      split
      · exact ih _
      · by_cases hsame : other = line
        · subst hsame
          have hrepeated : other.isRepeated (seen ++ [other]) = true :=
            isRepeated_iff.mpr ⟨hline, List.mem_append_right seen List.mem_cons_self⟩
          have hrest := List.count_eq_zero_of_not_mem
            (@not_mem_novel_of_isRepeated _ xs _ hrepeated)
          simp only [List.count_cons_self, hrest]
          omega
        · rw [List.count_cons_of_ne hsame]
          exact ih _

theorem count_novel_eq_one {line : LogLine} (hline : line.isCount = true)
    {seen xs : List LogLine} (h : line ∈ novel seen xs) : (novel seen xs).count line = 1 := by
  have hle := count_novel_le_one hline seen xs
  have hpos := List.count_pos_iff.mpr h
  omega

/-- Lines that are no counts stay as often as they occur. -/
theorem filter_novel_uncounted (seen xs : List LogLine) :
    (novel seen xs).filter (fun line => !line.isCount) = xs.filter fun line => !line.isCount := by
  induction xs generalizing seen with
  | nil => rfl
  | cons line xs ih =>
      rw [novel, List.filter_cons]
      split
      · rw [ih, (isRepeated_iff.mp ‹_›).1]
        rfl
      · rw [List.filter_cons, ih]

end LogLine

end Introspection
