import Introspection.Json.Reader
import Mathlib.Data.String.Basic
/-!
# Where reading stops

A text that is not JSON is read up to a place where its reason can be seen: the text ends there, or
the next character is one that the reason refuses, or what was read last is. Each reader leaves an
end of the text, or it stops at such a place in it.
-/

namespace Introspection

/-! ## Widths -/

theorem width_eq_utf8Len (s : List Char) : width s = String.utf8Len s := by
  induction s with
  | nil => rfl
  | cons c rest ih => rw [width, ih, String.utf8Len_cons, Nat.add_comm]

theorem width_append (s t : List Char) : width (s ++ t) = width s + width t := by
  simp only [width_eq_utf8Len, String.utf8Len_append]

theorem width_toList (s : String) : width s.toList = s.utf8ByteSize := by
  rw [width_eq_utf8Len, String.utf8Len_toList]

theorem lt_width_cons (c : Char) (rest : List Char) : width rest < width (c :: rest) := by
  have := c.utf8Size_pos
  rw [width]
  omega

/-! ## Reasons -/

open Reader

namespace Reason

def isEnd : Reason → Bool
  | endInValue | endInString | endInList | endInObject => true
  | _ => false

/-- Whether a character cannot come next, where the reason is told of the next character. -/
def refuses : Reason → Char → Bool
  | noValue, c => !isBlank c && !c.isDigit && ['[', '{', '"', 'n', 't', 'f', '-'].all (c != ·)
  | noColon, c => !isBlank c && c != ':'
  | noListEnd, c => !isBlank c && c != ',' && c != ']'
  | noObjectEnd, c => !isBlank c && c != ',' && c != '}'
  | noKey, c => !isBlank c && c != '"' && c != '}'
  | trailingComma, c => c == ']' || c == '}'
  | trailingCharacters, c => !isBlank c
  | badNumber, c => !c.isDigit
  | badEscape, c => c != 'u' && (letterEscape? c).isNone
  | controlCharacter, c => c.toNat < 0x20
  | missingSurrogate, c => c != '\\'
  | tooDeep, c => c == '[' || c == '{'
  | _, _ => false

end Reason

inductive Reader.BeginsWithUnit : List Char → Nat → List Char → Prop
  | digits {a b c d : Char} {x y z w : Nat} {rest : List Char} (first : hexDigit? a = some x)
      (second : hexDigit? b = some y) (third : hexDigit? c = some z)
      (fourth : hexDigit? d = some w) :
      BeginsWithUnit (a :: b :: c :: d :: rest) (((x * 16 + y) * 16 + z) * 16 + w) rest

def Reader.literals : List (List Char) :=
  [['n', 'u', 'l', 'l'], ['t', 'r', 'u', 'e'], ['f', 'a', 'l', 's', 'e']]

/-- A reason to stop can be seen in what is left of a text. The number is that of the bytes which
are left and yet counted as read. -/
inductive Reason.Stops : Reason → List Char → Nat → Prop
  /-- The text ends although more has to follow. -/
  | ended {reason : Reason} {left : List Char} (h : reason.isEnd = true) :
      Stops reason left (width left)
  /-- The first byte of a character that cannot stand there is counted. -/
  | refused {reason : Reason} {c : Char} {rest : List Char} (h : reason.refuses c = true) :
      Stops reason (c :: rest) 1
  /-- A word begins like one that stands for a value and goes on otherwise. -/
  | otherLetter {word read rest : List Char} {letter c : Char} (literal : word ∈ literals)
      (begins : read ++ [letter] <+: word) (other : c ≠ letter) :
      Stops noLiteral (read ++ c :: rest) (width read + 1)
  /-- A number goes on after a leading zero. -/
  | leadingZero {c : Char} {rest : List Char} (digit : c.isDigit = true) :
      Stops badNumber ('0' :: c :: rest) 2
  /-- A number is read and is too large. -/
  | tooLarge {c : Char} {number rest : List Char} (digit : c.isDigit = true) :
      Stops numberOutOfRange (c :: number ++ rest) (width (c :: number))
  /-- Four bytes are no unit. -/
  | noUnit {left : List Char} (le : 4 ≤ width left)
      (none : ∀ unit rest, ¬ BeginsWithUnit left unit rest) : Stops badEscape left 4
  /-- A low surrogate comes first. -/
  | lowFirst {left rest : List Char} {unit : Nat} (read : BeginsWithUnit left unit rest)
      (low : isLowSurrogate unit = true) : Stops loneSurrogate left 4
  /-- After a high surrogate another unit follows than a low one. -/
  | highTwice {left rest rest' : List Char} {high unit : Nat}
      (first : BeginsWithUnit left high ('\\' :: 'u' :: rest))
      (isHigh : isHighSurrogate high = true) (second : BeginsWithUnit rest unit rest')
      (other : isLowSurrogate unit = false) : Stops loneSurrogate left 10
  /-- After a high surrogate an escape of another kind follows. -/
  | noUnitEscape {c : Char} {rest : List Char} (other : c ≠ 'u') :
      Stops missingSurrogate ('\\' :: c :: rest) 2

namespace Failure

def StopsIn (f : Failure) (s : List Char) : Prop :=
  ∃ left taken, left <:+ s ∧ f.reason.Stops left taken ∧ f.unread + taken = width left

variable {s t : List Char} {reason : Reason}

theorem StopsIn.of_suffix {f : Failure} (h : f.StopsIn t) (hsuffix : t <:+ s) : f.StopsIn s := by
  obtain ⟨left, taken, hleft, hstops, htaken⟩ := h
  exact ⟨left, taken, hleft.trans hsuffix, hstops, htaken⟩

theorem stopsIn_before (read : List Char) {rest : List Char}
    (h : reason.Stops (read ++ rest) (width read)) (hsuffix : read ++ rest <:+ s) :
    (before reason rest).StopsIn s := by
  refine ⟨_, _, hsuffix, h, ?_⟩
  rw [width_append, Nat.add_comm]
  rfl

theorem stopsIn_past (read : List Char) {c : Char} {rest : List Char}
    (h : reason.Stops (read ++ c :: rest) (width read + 1)) (hsuffix : read ++ c :: rest <:+ s) :
    (past reason (c :: rest)).StopsIn s := by
  refine ⟨_, _, hsuffix, h, ?_⟩
  have hlt := lt_width_cons c rest
  rw [width_append]
  simp only [past]
  omega

theorem stopsIn_end (h : reason.isEnd = true) (s : List Char) : (before reason []).StopsIn s :=
  stopsIn_before [] (.ended h) List.nil_suffix

theorem stopsIn_refused {c : Char} {rest : List Char} (h : reason.refuses c = true)
    (hsuffix : c :: rest <:+ s) : (past reason (c :: rest)).StopsIn s :=
  stopsIn_past [] (.refused h) hsuffix

end Failure

namespace Reader

/-- A reader leaves an end of a text, or it stops in the text. -/
def EndsIn {α : Type} {p : List Char → Prop} (s : List Char) :
    Except Failure (α × Subtype p) → Prop
  | .ok (_, rest) => rest.1 <:+ s
  | .error f => f.StopsIn s

variable {α β : Type} {s t : List Char}

section

variable {p : List Char → Prop} {step : Except Failure (α × Subtype p)}

theorem EndsIn.suffix {a : α} {rest : Subtype p} (h : EndsIn s step)
    (hstep : step = .ok (a, rest)) : rest.1 <:+ s := by
  rwa [hstep] at h

theorem EndsIn.stopsIn {f : Failure} (h : EndsIn s step) (hstep : step = .error f) :
    f.StopsIn s := by
  rwa [hstep] at h

theorem EndsIn.of_suffix (h : EndsIn t step) (hsuffix : t <:+ s) : EndsIn s step := by
  cases hstep : step with
  | ok found => exact (h.suffix hstep).trans hsuffix
  | error f => exact (h.stopsIn hstep).of_suffix hsuffix

end

theorem endsIn_map {m n : Nat} {f : α → β} {le : m ≤ n} {step : Step α m} (h : EndsIn s step) :
    EndsIn s (step.map f le) := by
  cases step with
  | ok found => exact h
  | error f => exact h

/-! ## Blanks -/

theorem unblank_suffix (s : List Char) : unblank s <:+ s := List.dropWhile_suffix isBlank

theorem suffix_of_unblank {c : Char} {rest : List Char} (h : unblank s = c :: rest) :
    c :: rest <:+ s := h ▸ unblank_suffix s

theorem rest_suffix_of_unblank {c : Char} {rest : List Char} (h : unblank s = c :: rest) :
    rest <:+ s := (List.suffix_cons c rest).trans (suffix_of_unblank h)

theorem isBlank_of_unblank {c : Char} {rest : List Char} (h : unblank s = c :: rest) :
    isBlank c = false := by
  have hhead := List.head?_dropWhile_not isBlank s
  rw [show s.dropWhile isBlank = c :: rest from h] at hhead
  simpa using hhead

theorem stopsIn_unblank {reason : Reason} (hsome : unblank s ≠ [])
    (h : ∀ c rest, unblank s = c :: rest → isBlank c = false → reason.refuses c = true) :
    (Failure.past reason (unblank s)).StopsIn s := by
  obtain ⟨c, rest, hrest⟩ := List.exists_cons_of_ne_nil hsome
  have hrefused := h c rest hrest (isBlank_of_unblank hrest)
  rw [hrest]
  exact Failure.stopsIn_refused hrefused (suffix_of_unblank hrest)

theorem ne_of_unblank {c d : Char} {rest : List Char} (h : unblank s = c :: rest)
    (hd : ∀ rest, unblank s = d :: rest → False) : c ≠ d := by
  rintro rfl
  exact hd rest h

/-! ## Strings -/

theorem BeginsWithUnit.suffix {unit : Nat} {rest : List Char} (h : BeginsWithUnit s unit rest) :
    rest <:+ s := by
  cases h
  exact List.suffix_append [_, _, _, _] rest

theorem utf8Size_of_hexDigit? {c : Char} {x : Nat} (h : hexDigit? c = some x) :
    c.utf8Size = 1 := by
  unfold hexDigit? at h
  split_ifs at h with hc hc hc
  all_goals exact Char.utf8Size_eq_one_iff.mpr (UInt32.le_trans hc.2 (by decide))

theorem BeginsWithUnit.width_eq {unit : Nat} {rest : List Char} (h : BeginsWithUnit s unit rest) :
    width s = width rest + 4 := by
  cases h with
  | digits first second third fourth =>
      simp only [width, utf8Size_of_hexDigit? first, utf8Size_of_hexDigit? second,
        utf8Size_of_hexDigit? third, utf8Size_of_hexDigit? fourth]
      omega

theorem beginsWithUnit_of_hexUnit {unit : Nat} {rest : Rest s.length}
    (h : hexUnit s = .ok (unit, rest)) : BeginsWithUnit s unit rest := by
  unfold hexUnit at h
  split at h
  · split at h
    · cases h
      exact .digits ‹_› ‹_› ‹_› ‹_›
    · cases h
  · cases h

theorem hexUnit_eq_error {f : Failure} (h : hexUnit s = .error f) :
    f = badUnit s ∧ ∀ unit rest, ¬ BeginsWithUnit s unit rest := by
  unfold hexUnit at h
  split at h
  · split at h
    · cases h
    · rename_i hnone
      cases h
      refine ⟨rfl, ?_⟩
      rintro _ _ (⟨first, second, third, fourth⟩)
      exact hnone _ _ _ _ first second third fourth
  · rename_i hnone
    cases h
    refine ⟨rfl, ?_⟩
    rintro _ _ (⟨first, second, third, fourth⟩)
    exact hnone _ _ _ _ _ rfl

theorem stopsIn_badUnit (h : ∀ unit rest, ¬ BeginsWithUnit s unit rest) :
    (badUnit s).StopsIn s := by
  unfold badUnit
  split
  · exact ⟨s, width s, List.suffix_rfl, .ended rfl, Nat.zero_add _⟩
  · exact ⟨s, 4, List.suffix_rfl, .noUnit (by omega) h, by simp only; omega⟩

theorem endsIn_hexUnit (s : List Char) : EndsIn s (hexUnit s) := by
  cases h : hexUnit s with
  | ok found => exact (beginsWithUnit_of_hexUnit h).suffix
  | error f =>
      obtain ⟨rfl, hnone⟩ := hexUnit_eq_error h
      exact stopsIn_badUnit hnone

theorem endsIn_lowSurrogate {high : Nat} (hunit : BeginsWithUnit s high t)
    (hhigh : isHighSurrogate high = true) : EndsIn s (lowSurrogate high t) := by
  unfold lowSurrogate
  split
  · rename_i rest
    have hsuffix : rest <:+ s := (List.suffix_append ['\\', 'u'] rest).trans hunit.suffix
    split
    · rename_i heq
      exact ((endsIn_hexUnit rest).stopsIn heq).of_suffix hsuffix
    · rename_i low rest' lt heq
      have hlow : BeginsWithUnit rest low rest' := beginsWithUnit_of_hexUnit heq
      split
      · exact hlow.suffix.trans hsuffix
      · rename_i hother
        refine ⟨s, 10, List.suffix_rfl, .highTwice hunit hhigh hlow (by simpa using hother), ?_⟩
        have hwidth := hunit.width_eq
        have hslash : '\\'.utf8Size = 1 := rfl
        have hletter : 'u'.utf8Size = 1 := rfl
        rw [width, width, hlow.width_eq] at hwidth
        simp only [Failure.before]
        omega
  · exact Failure.stopsIn_end rfl s
  · exact Failure.stopsIn_end rfl s
  · rename_i rest hletter hsome
    obtain ⟨c, rest, rfl⟩ := List.exists_cons_of_ne_nil (fun h : rest = [] => hsome (h ▸ rfl))
    have hc : c ≠ 'u' := fun h => hletter rest (h ▸ rfl)
    exact Failure.stopsIn_past ['\\'] (.noUnitEscape hc) hunit.suffix
  · rename_i hletter hnil hsome hslash
    obtain ⟨c, rest, rfl⟩ := List.exists_cons_of_ne_nil hnil
    have hc : c ≠ '\\' := fun h => hslash rest (h ▸ rfl)
    exact Failure.stopsIn_refused (by simpa [Reason.refuses] using hc) hunit.suffix

theorem endsIn_unicodeEscape (s : List Char) : EndsIn s (unicodeEscape s) := by
  unfold unicodeEscape
  split
  · rename_i heq
    exact (endsIn_hexUnit s).stopsIn heq
  · rename_i unit rest lt heq
    have hunit : BeginsWithUnit s unit rest := beginsWithUnit_of_hexUnit heq
    split
    · rename_i hlow
      exact ⟨s, 4, List.suffix_rfl, .lowFirst hunit hlow, hunit.width_eq.symm⟩
    · split
      · rename_i hhigh
        exact endsIn_map (endsIn_lowSurrogate hunit hhigh)
      · exact hunit.suffix

theorem endsIn_escape (s : List Char) : EndsIn s (escape s) := by
  unfold escape
  split
  · exact Failure.stopsIn_end rfl []
  · rename_i rest
    exact endsIn_map ((endsIn_unicodeEscape rest).of_suffix (List.suffix_cons 'u' rest))
  · rename_i c rest hletter
    split
    · exact List.suffix_cons c rest
    · rename_i hnone
      have hc : c ≠ 'u' := hletter
      exact Failure.stopsIn_refused (by simp [Reason.refuses, hnone, hc]) List.suffix_rfl

theorem endsIn_string {bound : Nat} (read s : List Char) (lt : s.length < bound) :
    EndsIn s (string read s lt) := by
  fun_induction string read s lt with
  | case1 => exact Failure.stopsIn_end rfl []
  | case2 => exact List.suffix_cons _ _
  | case3 read rest _ failure heq =>
      exact ((endsIn_escape rest).stopsIn heq).of_suffix (List.suffix_cons '\\' rest)
  | case4 read rest _ c rest' _ heq _ ih =>
      exact ih.of_suffix (((endsIn_escape rest).suffix heq).trans (List.suffix_cons '\\' rest))
  | case5 read c rest _ _ _ hcontrol =>
      -- Reading has passed the character, so that all its bytes count; it has only one.
      have hrefused : Reason.controlCharacter.refuses c = true := by
        simpa [Reason.refuses] using hcontrol
      have hsize : c.utf8Size = 1 := by
        apply Char.utf8Size_eq_one_iff.mpr
        rw [UInt32.le_iff_toNat_le]
        exact Nat.le_trans (Nat.le_of_lt hcontrol) (by decide)
      refine Failure.stopsIn_before [c] ?_ List.suffix_rfl
      rw [width, hsize]
      exact .refused hrefused
  | case6 read c rest _ _ _ _ _ ih => exact ih.of_suffix (List.suffix_cons c rest)

/-! ## Numbers -/

theorem stopsIn_tooLarge {c : Char} {digits rest : List Char} (hc : c.isDigit = true)
    (h : rest <:+ digits) : (Failure.before .numberOutOfRange rest).StopsIn (c :: digits) := by
  obtain ⟨number, rfl⟩ := h
  exact Failure.stopsIn_before (c :: number) (.tooLarge hc) List.suffix_rfl

def digitsLeft {bound : Nat} : Except (Tail bound) (Nat × Tail bound) → List Char
  | .ok (_, rest) => rest.1
  | .error rest => rest.1

theorem digitsLeft_suffix (n : Nat) (s : List Char) : digitsLeft (exponentDigits n s) <:+ s := by
  fun_induction exponentDigits n s with
  | case1 => exact List.suffix_rfl
  | case2 n d digits _ _ _ e rest _ heq ih =>
      rw [heq] at ih
      exact ih.trans (List.suffix_cons d digits)
  | case3 n d digits _ _ _ rest _ heq ih =>
      rw [heq] at ih
      exact ih.trans (List.suffix_cons d digits)
  | case4 n d digits => exact List.suffix_cons d digits
  | case5 => exact List.suffix_rfl

theorem exponentSign_suffix (s : List Char) : (exponentSign s).2.1 <:+ s := by
  unfold exponentSign
  split
  · exact List.suffix_cons _ _
  · exact List.suffix_cons _ _
  · exact List.suffix_rfl

section

variable {c : Char} {digits : List Char} (hc : c.isDigit = true)
include hc

/-- Where a number is too large, reading has passed its first digit. -/
theorem endsIn_finite (negative : Bool) (significand : Nat) (exponent : Int) {bound : Nat}
    {rest : Tail bound} (h : rest.1 <:+ digits) :
    EndsIn (c :: digits) (finite negative significand exponent rest) := by
  unfold finite
  split
  · exact h.trans (List.suffix_cons c digits)
  · exact stopsIn_tooLarge hc h

theorem endsIn_exponent (negative : Bool) (significand : Nat) (scale : Int) {s : List Char}
    (hs : s <:+ digits) : EndsIn (c :: digits) (exponent negative significand scale s) := by
  unfold exponent
  rcases hsplit : exponentSign s with ⟨down, written, le⟩
  have hwritten : written <:+ digits := by
    have hsign := (exponentSign_suffix s).trans hs
    rwa [hsplit] at hsign
  cases written with
  | nil => exact Failure.stopsIn_end rfl _
  | cons d rest =>
      have hleft := (digitsLeft_suffix 0 (d :: rest)).trans hwritten
      dsimp only
      split
      · split
        · rename_i heq
          rw [heq] at hleft
          exact endsIn_finite hc negative significand _ hleft
        · rename_i rest' _ heq
          rw [heq] at hleft
          split
          · exact stopsIn_tooLarge hc hleft
          · exact ((List.dropWhile_suffix _).trans hleft).trans (List.suffix_cons c digits)
      · rename_i hdigit
        refine Failure.stopsIn_refused ?_ (hwritten.trans (List.suffix_cons c digits))
        simpa [Reason.refuses] using hdigit

theorem endsIn_exponentPart (negative : Bool) (significand : Nat) (scale : Int) {s : List Char}
    (hs : s <:+ digits) : EndsIn (c :: digits) (exponentPart negative significand scale s) := by
  unfold exponentPart
  split
  · rename_i letter rest
    split
    · have hrest := (List.suffix_cons letter rest).trans hs
      split
      · rename_i heq
        exact (endsIn_exponent hc _ _ _ hrest).stopsIn heq
      · rename_i heq
        exact (endsIn_exponent hc _ _ _ hrest).suffix heq
    · exact endsIn_finite hc negative significand scale hs
  · exact endsIn_finite hc negative significand scale hs

theorem endsIn_fraction (negative : Bool) (significand : Nat) (scale : Int) {s : List Char}
    (hs : s <:+ digits) : EndsIn (c :: digits) (fraction negative significand scale s) := by
  unfold fraction
  dsimp only
  split
  · rename_i hnone
    cases s with
    | nil => exact Failure.stopsIn_end rfl _
    | cons d rest =>
        have hdigit : d.isDigit = false := by simpa [List.takeWhile_cons] using hnone
        refine Failure.stopsIn_refused ?_ (hs.trans (List.suffix_cons c digits))
        simp [Reason.refuses, hdigit]
  · have hrest := (List.dropWhile_suffix Char.isDigit).trans hs
    split
    · rename_i heq
      exact (endsIn_exponentPart hc _ _ _ hrest).stopsIn heq
    · rename_i heq
      exact (endsIn_exponentPart hc _ _ _ hrest).suffix heq

theorem endsIn_afterDigits (negative : Bool) (significand excess : Nat) {s : List Char}
    (hs : s <:+ digits) : EndsIn (c :: digits) (afterDigits negative significand excess s) := by
  unfold afterDigits
  split
  · rename_i rest
    have hrest := (List.suffix_cons '.' rest).trans hs
    split
    · rename_i heq
      exact (endsIn_fraction hc _ _ _ hrest).stopsIn heq
    · rename_i heq
      exact (endsIn_fraction hc _ _ _ hrest).suffix heq
  · split
    · exact hs.trans (List.suffix_cons c digits)
    · exact endsIn_exponentPart hc negative significand excess hs

end

theorem endsIn_number (negative : Bool) (s : List Char) : EndsIn s (number negative s) := by
  unfold number
  split
  · exact Failure.stopsIn_end rfl []
  · rename_i c rest
    split
    · rename_i hc
      exact Failure.stopsIn_refused (by simpa [Reason.refuses] using hc) List.suffix_rfl
    · rename_i hc
      have hdigit : c.isDigit = true := by simpa using hc
      have hrest := List.dropWhile_suffix Char.isDigit (l := rest)
      split
      · rename_i hzero
        obtain ⟨rfl, hany⟩ := hzero
        cases rest with
        | nil => cases hany
        | cons d rest =>
            exact Failure.stopsIn_past ['0'] (.leadingZero hany) List.suffix_rfl
      · dsimp only
        split
        · rename_i heq
          exact (endsIn_afterDigits hdigit _ _ _ hrest).stopsIn heq
        · rename_i heq
          exact (endsIn_afterDigits hdigit _ _ _ hrest).suffix heq

/-! ## Values -/

theorem endsIn_literal {value : Json} {word read letters : List Char} (hword : word ∈ literals)
    (hread : read ++ letters = word) {bound : Nat} (s : List Char) (lt : s.length < bound) :
    EndsIn (read ++ s) (literal value letters s lt) := by
  induction letters generalizing read s with
  | nil => exact List.suffix_append read s
  | cons l letters ih =>
      cases s with
      | nil => exact Failure.stopsIn_end rfl _
      | cons c rest =>
          -- The letters that agree go over to what was read, where the reason tells them.
          change EndsIn _ (if c = l then literal value letters rest (Nat.lt_of_succ_lt lt)
            else .error (.past .noLiteral (c :: rest)))
          split
          · rename_i hc
            subst hc
            have hnext : (read ++ [c]) ++ letters = word := by simpa using hread
            have hrest := ih hnext rest (Nat.lt_of_succ_lt lt)
            rwa [List.append_assoc] at hrest
          · rename_i hc
            have hbegins : read ++ [l] <+: word := ⟨letters, by simpa using hread⟩
            exact Failure.stopsIn_past read (.otherLetter hword hbegins hc) List.suffix_rfl

theorem endsIn_word {value : Json} {first : Char} {letters rest : List Char}
    (hword : first :: letters ∈ literals) (h : unblank s = first :: rest) {bound : Nat}
    (lt : rest.length < bound) : EndsIn s (literal value letters rest lt) := by
  have hread : [first] ++ letters = first :: letters := rfl
  exact (endsIn_literal hword hread rest lt).of_suffix (suffix_of_unblank h)

theorem stopsIn_noKey (hnil : unblank s = [] → False)
    (hquote : ∀ next, unblank s = '"' :: next → False)
    (hclose : ∀ rest, unblank s = '}' :: rest → False) :
    (Failure.past .noKey (unblank s)).StopsIn s := by
  refine stopsIn_unblank hnil fun c rest hrest hblank => ?_
  simp [Reason.refuses, hblank, ne_of_unblank hrest hquote, ne_of_unblank hrest hclose]

section

variable {inner : ValueReader} (hinner : ∀ s, EndsIn s (inner s))
include hinner

theorem endsIn_moreItems {bound : Nat} (read : List Json) (s : List Char) (lt : s.length < bound) :
    EndsIn s (moreItems inner read s lt) := by
  fun_induction moreItems inner read s lt with
  | case1 read s => exact Failure.stopsIn_end rfl s
  | case2 read s _ rest hclose =>
      exact rest_suffix_of_unblank hclose
  | case3 read s => exact Failure.stopsIn_end rfl s
  | case4 read s _ rest hcomma rest' hclose =>
      exact Failure.stopsIn_refused rfl
        ((suffix_of_unblank hclose).trans (rest_suffix_of_unblank hcomma))
  | case5 read s _ rest hcomma failure _ _ heq =>
      exact ((hinner _).stopsIn heq).of_suffix
        ((unblank_suffix rest).trans (rest_suffix_of_unblank hcomma))
  | case6 read s _ rest hcomma value rest' _ _ _ heq _ ih =>
      have hrest := ((hinner _).suffix heq).trans (unblank_suffix rest)
      exact ih.of_suffix (hrest.trans (rest_suffix_of_unblank hcomma))
  | case7 read s _ hnil hclose hcomma =>
      refine stopsIn_unblank hnil fun c rest hrest hblank => ?_
      simp [Reason.refuses, hblank, ne_of_unblank hrest hcomma, ne_of_unblank hrest hclose]

theorem endsIn_items (s : List Char) : EndsIn s (items inner s) := by
  unfold items
  split
  · exact Failure.stopsIn_end rfl s
  · rename_i rest hclose
    exact rest_suffix_of_unblank hclose
  · split
    · rename_i heq
      exact ((hinner _).stopsIn heq).of_suffix (unblank_suffix s)
    · rename_i value rest _ heq
      have hrest := ((hinner _).suffix heq).trans (unblank_suffix s)
      exact (endsIn_moreItems hinner [value] rest _).of_suffix hrest

theorem endsIn_member (s : List Char) : EndsIn s (member inner s) := by
  unfold member
  split
  · rename_i heq
    exact (endsIn_string _ _ _).stopsIn heq
  · rename_i key rest lt heq
    have hrest : rest <:+ s := (endsIn_string _ _ _).suffix heq
    split
    · rename_i rest' hcolon
      exact endsIn_map ((hinner rest').of_suffix ((rest_suffix_of_unblank hcolon).trans hrest))
    · exact Failure.stopsIn_end rfl s
    · rename_i hcolon hnil
      refine Failure.StopsIn.of_suffix (stopsIn_unblank hnil fun c _ h hblank => ?_) hrest
      simp [Reason.refuses, hblank, ne_of_unblank h hcolon]

theorem endsIn_moreMembers {bound : Nat} (read : List (String × Json)) (s : List Char)
    (lt : s.length < bound) : EndsIn s (moreMembers inner read s lt) := by
  fun_induction moreMembers inner read s lt with
  | case1 read s => exact Failure.stopsIn_end rfl s
  | case2 read s _ rest hclose => exact rest_suffix_of_unblank hclose
  | case3 read s => exact Failure.stopsIn_end rfl s
  | case4 read s _ rest hcomma next hquote failure heq =>
      exact ((endsIn_member hinner next).stopsIn heq).of_suffix
        ((rest_suffix_of_unblank hquote).trans (rest_suffix_of_unblank hcomma))
  | case5 read s _ rest hcomma next hquote key value rest' _ heq _ ih =>
      have hrest' := ((endsIn_member hinner next).suffix heq).trans (rest_suffix_of_unblank hquote)
      exact ih.of_suffix (hrest'.trans (rest_suffix_of_unblank hcomma))
  | case6 read s _ rest hcomma rest' hclose =>
      exact Failure.stopsIn_refused rfl
        ((suffix_of_unblank hclose).trans (rest_suffix_of_unblank hcomma))
  | case7 read s _ rest hcomma hnil hquote hclose =>
      exact (stopsIn_noKey hnil hquote hclose).of_suffix (rest_suffix_of_unblank hcomma)
  | case8 read s _ hnil hclose hcomma =>
      refine stopsIn_unblank hnil fun c rest hrest hblank => ?_
      simp [Reason.refuses, hblank, ne_of_unblank hrest hcomma, ne_of_unblank hrest hclose]

theorem endsIn_members (s : List Char) : EndsIn s (members inner s) := by
  unfold members
  split
  · exact Failure.stopsIn_end rfl s
  · rename_i rest hclose
    exact rest_suffix_of_unblank hclose
  · rename_i next hquote
    split
    · rename_i heq
      exact ((endsIn_member hinner next).stopsIn heq).of_suffix (rest_suffix_of_unblank hquote)
    · rename_i key value rest _ heq
      have hrest := ((endsIn_member hinner next).suffix heq).trans (rest_suffix_of_unblank hquote)
      exact (endsIn_moreMembers hinner [(key, value)] rest _).of_suffix hrest
  · rename_i hnil hclose hquote
    exact stopsIn_noKey hnil hquote hclose

end

theorem endsIn_scalarOr {nested : (c : Char) → (rest : List Char) → Step Json (rest.length + 1)}
    (hnested : ∀ c rest, c = '[' ∨ c = '{' → EndsIn (c :: rest) (nested c rest)) (s : List Char) :
    EndsIn s (scalarOr nested s) := by
  unfold scalarOr
  split
  · exact Failure.stopsIn_end rfl s
  · rename_i c rest hrest
    have hsuffix := suffix_of_unblank hrest
    have hrestSuffix := rest_suffix_of_unblank hrest
    dsimp only
    split_ifs with hopen hquote hn ht hf hminus hdigit
    · exact endsIn_map ((hnested c rest hopen).of_suffix hsuffix)
    · exact endsIn_map ((endsIn_string [] rest _).of_suffix hrestSuffix)
    · exact endsIn_word (by decide) (hn ▸ hrest) _
    · exact endsIn_word (by decide) (ht ▸ hrest) _
    · exact endsIn_word (by decide) (hf ▸ hrest) _
    · exact endsIn_map ((endsIn_number true rest).of_suffix hrestSuffix)
    · exact endsIn_map ((endsIn_number false (c :: rest)).of_suffix hsuffix)
    · refine Failure.stopsIn_refused ?_ hsuffix
      simp_all [Reason.refuses, isBlank_of_unblank hrest]

theorem endsIn_value (depth : Nat) (s : List Char) : EndsIn s (value depth s) := by
  -- The readers of lists and objects take the reader for one level less, at every text.
  induction depth generalizing s with
  | zero =>
      refine endsIn_scalarOr (fun c rest hc => ?_) s
      refine Failure.stopsIn_refused ?_ List.suffix_rfl
      simpa [Reason.refuses] using hc
  | succ depth ih =>
      refine endsIn_scalarOr (fun c rest hc => ?_) s
      have hrest := List.suffix_cons c rest
      split
      · exact endsIn_map ((endsIn_items ih rest).of_suffix hrest)
      · exact endsIn_map ((endsIn_members ih rest).of_suffix hrest)

/-- A text that is not JSON is refused at a place in it where the reason can be seen. -/
theorem stopsIn_document {source : List Char} {f : Failure} (h : document source = .error f) :
    f.StopsIn source := by
  unfold document at h
  split at h
  · rename_i heq
    cases h
    exact (endsIn_value _ _).stopsIn heq
  · rename_i json rest lt heq
    have hrest : rest <:+ source := (endsIn_value _ _).suffix heq
    split at h
    · cases h
    · rename_i hnil
      cases h
      exact (stopsIn_unblank hnil fun c _ _ hblank => by
        simp [Reason.refuses, hblank]).of_suffix hrest

end Reader
end Introspection
