import Introspection.Naming.Casing
import Introspection.Proofs.WordSplit
/-!
# Upper snake case as a normal form

To join the words of a name by underscores is to put back the underscores that they were split at,
but for those at the end. An ASCII name in `UPPER_SNAKE` has no small letters, so nothing is put
in when it is split again.
-/

namespace Introspection

open List (rdropWhile_concat_pos rdropWhile_concat_neg)

/-! ## Joining the words -/

theorem underscore_not_mem_of_mem_wordsFrom {prev : Option Char} {word rest : List Char}
    (hword : '_' ∉ word) : ∀ w ∈ wordsFrom prev word rest, '_' ∉ w := by
  induction rest generalizing prev word with
  | nil => simpa [wordsFrom] using hword
  | cons c rest ih =>
      rw [wordsFrom]
      split
      · exact List.forall_mem_cons.mpr ⟨by simpa using hword, ih List.not_mem_nil⟩
      · next hc =>
          split
          · exact List.forall_mem_cons.mpr ⟨by simpa using hword, ih (by simpa [eq_comm] using hc)⟩
          · exact ih (by simpa [eq_comm] using ⟨hc, hword⟩)

/-- After the first word each one follows an underscore. -/
theorem intercalate_cons (word : List Char) (words : List (List Char)) :
    ['_'].intercalate (word :: words) = word ++ words.flatMap ('_' :: ·) := by
  induction words generalizing word with
  | nil => simp
  | cons next words ih => simp [List.intercalate_cons_cons, ih]

theorem intercalate_concat {words : List (List Char)} (h : words ≠ []) (word : List Char) :
    ['_'].intercalate (words ++ [word]) = ['_'].intercalate words ++ '_' :: word := by
  cases words with
  | nil => exact absurd rfl h
  | cons first words => simp [intercalate_cons]

theorem exists_intercalate_concat_eq (words : List (List Char)) (front : List Char) (c : Char) :
    ∃ before, ['_'].intercalate (words ++ [front ++ [c]]) = before ++ [c] := by
  by_cases hwords : words = []
  · subst hwords
    exact ⟨front, List.intercalate_singleton⟩
  · exact ⟨['_'].intercalate words ++ '_' :: front, by simp [intercalate_concat hwords]⟩

/-- To drop the empty words at the end is to drop the underscores at the end, where no word has an
underscore in it. -/
theorem intercalate_trimEmpty {words : List (List Char)} (h : ∀ word ∈ words, '_' ∉ word) :
    ['_'].intercalate (trimEmpty words) = (['_'].intercalate words).rdropWhile (· == '_') := by
  rw [trimEmpty_eq_rdropWhile]
  induction words using List.reverseRecOn with
  | nil => rfl
  | append_singleton words word ih =>
      have hwords := ih fun w hw => h w (List.mem_append_left _ hw)
      rcases List.eq_nil_or_concat word with rfl | ⟨front, c, rfl⟩
      · -- An empty word adds an underscore at the end, unless it stands alone.
        rw [rdropWhile_concat_pos _ _ _ rfl, hwords]
        by_cases hnil : words = []
        · subst hnil
          rfl
        · rw [intercalate_concat hnil, rdropWhile_concat_pos _ _ _ rfl]
      · have hc : c ≠ '_' := by
          rintro rfl
          exact h (front.concat '_') (by simp) (by simp)
        obtain ⟨before, hbefore⟩ := exists_intercalate_concat_eq words front c
        rw [List.concat_eq_append, rdropWhile_concat_neg _ _ _ (by simp), hbefore,
          rdropWhile_concat_neg _ _ _ (by simpa using hc)]

theorem upperSnakeWords_eq_flatMap (words : List (List Char)) :
    upperSnakeWords words = (['_'].intercalate words).flatMap upperCase := by
  have hunderscore : upperCase '_' = ['_'] := rfl
  cases words with
  | nil => rfl
  | cons word words =>
      rw [upperSnakeWords, List.map_cons, intercalate_cons, intercalate_cons,
        List.flatMap_append, List.flatMap_map, List.flatMap_assoc]
      simp only [List.flatMap_cons, hunderscore, List.singleton_append]

theorem upperSnakeWords_wordsOf (name : List Char) : upperSnakeWords (wordsOf name) =
    ((underscored name).rdropWhile (· == '_')).flatMap upperCase := by
  rw [upperSnakeWords_eq_flatMap, wordsOf,
    intercalate_trimEmpty (underscore_not_mem_of_mem_wordsFrom List.not_mem_nil), wordsFrom_none,
    List.intercalate_splitOn]

/-! ## ASCII names -/

/-- A name with ASCII characters, but no small letters, and with no underscore at its end. -/
structure IsUpperSnake (name : List Char) : Prop where
  ascii : ∀ c ∈ name, c.toNat < 128
  noSmall : ∀ c ∈ name, c.isLower = false
  noEnd : name.getLast? ≠ some '_'

theorem underscored_of_noSmall {name : List Char} (h : ∀ c ∈ name, c.isLower = false) :
    underscored name = name := by
  fun_induction underscored name with
  | case1 c next rest hboundary ih => simp [isBoundary, h] at hboundary
  | case2 c next rest _ ih => rw [ih fun d hd => h d (List.mem_cons_of_mem c hd)]
  | case3 => rfl

theorem mem_underscored {name : List Char} {c : Char} (h : c ∈ underscored name) :
    c = '_' ∨ c ∈ name := by
  fun_induction underscored name with
  | case1 d next rest _ ih => grind
  | case2 d next rest _ ih => grind
  | case3 => exact .inr h

theorem flatMap_upperCase {name : List Char} (h : ∀ c ∈ name, c.toNat < 128) :
    name.flatMap upperCase = name.map Char.toUpper := by
  rw [List.map_eq_flatMap]
  exact List.flatMap_congr fun c hc => if_pos (h c hc)

/-- What is so of all ASCII characters is decided by trying all of them. -/
theorem forall_ascii {p : Char → Prop} (h : ∀ n < 128, p (Char.ofNat n)) {c : Char}
    (hc : c.toNat < 128) : p c := by
  simpa only [Char.ofNat_toNat] using h c.toNat hc

theorem toUpper_lt {c : Char} (h : c.toNat < 128) : c.toUpper.toNat < 128 :=
  forall_ascii (p := fun c => c.toUpper.toNat < 128) (by decide) h

theorem isLower_toUpper {c : Char} (h : c.toNat < 128) : c.toUpper.isLower = false :=
  forall_ascii (p := fun c => c.toUpper.isLower = false) (by decide) h

theorem toUpper_eq_self {c : Char} (h : c.toNat < 128) (hc : c.isLower = false) : c.toUpper = c :=
  forall_ascii (p := fun c => c.isLower = false → c.toUpper = c) (by decide) h hc

theorem toUpper_ne_underscore {c : Char} (h : c.toNat < 128) (hc : c ≠ '_') : c.toUpper ≠ '_' :=
  forall_ascii (p := fun c => c ≠ '_' → c.toUpper ≠ '_') (by decide) h hc

/-- A name that is in upper snake case stays as it is. -/
theorem IsUpperSnake.upperSnakeWords_eq {name : List Char} (h : IsUpperSnake name) :
    upperSnakeWords (wordsOf name) = name := by
  have htrim : name.rdropWhile (· == '_') = name := by
    rw [List.rdropWhile_eq_self_iff]
    intro hne hlast
    apply h.noEnd
    rw [List.getLast?_eq_some_getLast hne, eq_of_beq hlast]
  have hupper : name.map Char.toUpper = name.map id := by
    apply List.map_congr_left
    intro c hc
    exact toUpper_eq_self (h.ascii c hc) (h.noSmall c hc)
  rw [upperSnakeWords_wordsOf, underscored_of_noSmall h.noSmall, htrim,
    flatMap_upperCase h.ascii, hupper, List.map_id]

/-- An ASCII name is brought into upper snake case. -/
theorem isUpperSnake_upperSnakeWords {name : List Char} (h : ∀ c ∈ name, c.toNat < 128) :
    IsUpperSnake (upperSnakeWords (wordsOf name)) := by
  have hascii : ∀ c ∈ (underscored name).rdropWhile (· == '_'), c.toNat < 128 := by
    intro c hc
    rcases mem_underscored ((List.rdropWhile_prefix _ _).subset hc) with rfl | hname
    · decide
    · exact h c hname
  rw [upperSnakeWords_wordsOf, flatMap_upperCase hascii]
  refine ⟨?_, ?_, ?_⟩
  · exact List.forall_mem_map.mpr fun c hc => toUpper_lt (hascii c hc)
  · exact List.forall_mem_map.mpr fun c hc => isLower_toUpper (hascii c hc)
  · intro hlast
    rw [List.getLast?_map, Option.map_eq_some_iff] at hlast
    obtain ⟨c, hc, hupper⟩ := hlast
    obtain ⟨hne, rfl⟩ := List.mem_getLast?_eq_getLast hc
    refine toUpper_ne_underscore (hascii _ (List.getLast_mem hne)) (fun heq => ?_) hupper
    exact List.rdropWhile_last_not _ _ hne (beq_iff_eq.mpr heq)

/-- A name in upper snake case is what is left of the name with an underscore at every boundary
when those at the end are dropped, in capitals. Of an ASCII name it has no small letters and no
underscore at the end, and stays as it is when it is brought into upper snake case again. -/
theorem upperSnakeCase_normal_form (name : String) :
    upperSnakeCase name = String.ofList
      (((underscored name.toList).rdropWhile (· == '_')).flatMap upperCase) ∧
    ((∀ c ∈ name.toList, c.toNat < 128) →
      IsUpperSnake (upperSnakeCase name).toList ∧
      upperSnakeCase (upperSnakeCase name) = upperSnakeCase name) := by
  refine ⟨by rw [upperSnakeCase, upperSnakeWords_wordsOf], fun hascii => ?_⟩
  have hnormal : IsUpperSnake (upperSnakeCase name).toList := by
    rw [upperSnakeCase, String.toList_ofList]
    exact isUpperSnake_upperSnakeWords hascii
  refine ⟨hnormal, ?_⟩
  rw [upperSnakeCase, hnormal.upperSnakeWords_eq, String.ofList_toList]

theorem upperSnakeCase_normal_form_prefixed :
    upperSnakeCase "__get2Http__url_" = "__GET_2HTTP__URL" ∧
      IsUpperSnake (upperSnakeCase "__get2Http__url_").toList ∧
      upperSnakeCase "__GET_2HTTP__URL" = "__GET_2HTTP__URL" := by
  obtain ⟨hcased, hnormal⟩ := upperSnakeCase_normal_form "__get2Http__url_"
  have hname : upperSnakeCase "__get2Http__url_" = "__GET_2HTTP__URL" := hcased.trans (by decide)
  obtain ⟨hsnake, hagain⟩ := hnormal (by simp)
  rw [hname] at hagain
  exact ⟨hname, hsnake, hagain⟩

end Introspection
