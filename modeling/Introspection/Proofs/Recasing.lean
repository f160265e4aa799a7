import Introspection.Proofs.SpecReadings
import Introspection.Proofs.Transparency
import Introspection.Proofs.WordSplit
/-!
# Casings by position

Which case a character of a name gets is told by its position alone: by whether it is the first
letter, and whether a word begins there. So nothing but underscores is lost, and `camelCase` and
`PascalCase` differ in the first letter only.
-/

namespace Introspection

/-- Whether a word begins at a position of a name: at the front, after an underscore, and at a
boundary between neighbours. -/
def startsWord (name : List Char) : Nat → Bool
  | 0 => true
  | i + 1 =>
      match name[i]?, name[i + 1]? with
      | some prev, some c => prev = '_' || isBoundary prev c
      | _, _ => false

def firstLetter (name : List Char) : Nat := name.findIdx (· ≠ '_')

/-- What characters from some position on are mapped to by their positions; underscores are left
out. -/
def mapLetters (map : Nat → Char → List Char) (i : Nat) : List Char → List Char
  | [] => []
  | c :: rest => (if c = '_' then [] else map i c) ++ mapLetters map (i + 1) rest

def pascalAt (name : List Char) (i : Nat) (c : Char) : List Char :=
  if startsWord name i then upperCase c else lowerCase c

def camelAt (name : List Char) (i : Nat) (c : Char) : List Char :=
  if i = firstLetter name then lowerCase c else pascalAt name i c

/-! ## Word by word -/

def beginsAfter (prev : Option Char) (c : Char) : Bool :=
  prev.all (· = '_') || prev.any (isBoundary · c)

def recasedAfter (prev : Option Char) : List Char → List Char
  | [] => []
  | c :: rest =>
      (if c = '_' then [] else if beginsAfter prev c then upperCase c else lowerCase c) ++
        recasedAfter (some c) rest

theorem pascalWords_cons (word : List Char) (words : List (List Char)) :
    pascalWords (word :: words) = capitalize word ++ pascalWords words := List.flatMap_cons

theorem capitalize_append {word : List Char} (h : word ≠ []) (more : List Char) :
    capitalize (word ++ more) = capitalize word ++ more.flatMap lowerCase := by
  cases word with
  | nil => exact absurd rfl h
  | cons c word => simp [capitalize]

/-- The words from a character on are capitalized as its letters are recased. The word so far is
empty just where a word begins anyway. -/
theorem pascalWords_wordsFrom (prev : Option Char) (word rest : List Char)
    (h : word = [] ↔ prev.all (· = '_') = true) :
    pascalWords (wordsFrom prev word rest) = capitalize word.reverse ++ recasedAfter prev rest := by
  induction rest generalizing prev word with
  | nil => simp [wordsFrom, pascalWords, recasedAfter]
  | cons c rest ih =>
      rw [wordsFrom, recasedAfter]
      by_cases hc : c = '_'
      · rw [if_pos hc, if_pos hc, pascalWords_cons, ih (some c) [] (by simp [hc])]
        rfl
      · rw [if_neg hc, if_neg hc]
        by_cases hboundary : prev.any (isBoundary · c) = true
        · have hbegins : beginsAfter prev c = true := by rw [beginsAfter, hboundary, Bool.or_true]
          rw [if_pos hboundary, if_pos hbegins, pascalWords_cons, ih (some c) [c] (by simp [hc])]
          simp [capitalize]
        · -- The character joins the word so far, which it begins if there is none.
          rw [if_neg hboundary, ih (some c) (c :: word) (by simp [hc]), List.reverse_cons]
          by_cases hword : word = []
          · have hbegins : beginsAfter prev c = true := by
              rw [beginsAfter, h.mp hword, Bool.true_or]
            rw [if_pos hbegins, hword]
            simp [capitalize]
          · have hbegins : ¬ beginsAfter prev c = true := by
              rw [beginsAfter, Bool.or_eq_true, not_or]
              exact ⟨mt h.mpr hword, hboundary⟩
            rw [if_neg hbegins, capitalize_append (by simpa using hword)]
            simp

theorem pascalWords_wordsOf (name : List Char) :
    pascalWords (wordsOf name) = recasedAfter none name := by
  rw [pascalWords, wordsOf, flatMap_trimEmpty rfl, ← pascalWords,
    pascalWords_wordsFrom none [] name (by simp)]
  rfl

/-- Words without letters give nothing in either case. Other words give the same but for the
first letter. -/
theorem camelWords_eq (words : List (List Char)) :
    (words.flatten = [] ∧ camelWords words = [] ∧ pascalWords words = []) ∨
      ∃ c letters tail, words.flatten = c :: letters ∧
        camelWords words = lowerCase c ++ tail ∧ pascalWords words = upperCase c ++ tail := by
  induction words with
  | nil => exact .inl ⟨rfl, rfl, rfl⟩
  | cons word words ih =>
      cases word with
      | nil => exact ih
      | cons c word =>
          refine .inr ⟨c, word ++ words.flatten, word.flatMap lowerCase ++ pascalWords words,
            rfl, ?_, ?_⟩
          · simp [camelWords]
          · simp [pascalWords, capitalize]

/-! ## Position by position -/

theorem startsWord_append (before after : List Char) (c : Char) :
    startsWord (before ++ c :: after) before.length = beginsAfter before.getLast? c := by
  rcases List.eq_nil_or_concat before with rfl | ⟨before, prev, rfl⟩
  · rfl
  · simp [startsWord, beginsAfter]

theorem mapLetters_pascalAt_append (before rest : List Char) :
    mapLetters (pascalAt (before ++ rest)) before.length rest =
      recasedAfter before.getLast? rest := by
  induction rest generalizing before with
  | nil => rfl
  | cons c rest ih =>
      have hrest := ih (before ++ [c])
      rw [List.length_append, List.length_singleton, List.append_assoc, List.singleton_append,
        List.getLast?_concat] at hrest
      rw [mapLetters, hrest, recasedAfter, pascalAt, startsWord_append]

theorem mapLetters_pascalAt (name : List Char) :
    mapLetters (pascalAt name) 0 name = recasedAfter none name :=
  mapLetters_pascalAt_append [] name

section

variable {map map' : Nat → Char → List Char} {i : Nat} {before : List Char}

theorem mapLetters_append (map : Nat → Char → List Char) (i : Nat) (before after : List Char) :
    mapLetters map i (before ++ after) =
      mapLetters map i before ++ mapLetters map (i + before.length) after := by
  induction before generalizing i with
  | nil => rfl
  | cons c before ih =>
      rw [List.cons_append, mapLetters, mapLetters, ih, List.append_assoc, List.length_cons,
        Nat.add_right_comm, Nat.add_assoc]

theorem mapLetters_of_blank (h : ∀ u ∈ before, u = '_') : mapLetters map i before = [] := by
  induction before generalizing i with
  | nil => rfl
  | cons u before ih =>
      obtain ⟨hu, hbefore⟩ := List.forall_mem_cons.mp h
      rw [mapLetters, if_pos hu, ih hbefore]
      rfl

theorem mapLetters_congr (h : ∀ j, i ≤ j → map j = map' j) (rest : List Char) :
    mapLetters map i rest = mapLetters map' i rest := by
  induction rest generalizing i with
  | nil => rfl
  | cons c rest ih =>
      rw [mapLetters, mapLetters, h i (Nat.le_refl i),
        ih fun j hj => h j (Nat.le_of_succ_le hj)]

/-! ## The first letter -/

theorem firstLetter_append (hbefore : ∀ u ∈ before, u = '_') {c : Char} (hc : c ≠ '_')
    (after : List Char) : firstLetter (before ++ c :: after) = before.length := by
  have hblank : before.findIdx (· ≠ '_') = before.length := by
    rw [List.findIdx_eq_length]
    intro u hu
    simpa using hbefore u hu
  rw [firstLetter, List.findIdx_append, hblank, if_neg (Nat.lt_irrefl _), List.findIdx_cons]
  simp [hc]

theorem pascalAt_length_of_blank (hbefore : ∀ u ∈ before, u = '_') (c : Char)
    (after : List Char) : pascalAt (before ++ c :: after) before.length c = upperCase c := by
  have hlast : before.getLast?.all (· = '_') = true := by
    rw [Option.all_eq_true]
    exact fun u hu => decide_eq_true (hbefore u (List.mem_of_getLast? hu))
  rw [pascalAt, startsWord_append, beginsAfter, hlast, Bool.true_or, if_pos rfl]

/-- Behind the first letter both casings are the same. -/
theorem exists_mapLetters_eq (hbefore : ∀ u ∈ before, u = '_') {c : Char} (hc : c ≠ '_')
    (after : List Char) {name : List Char} (hname : name = before ++ c :: after) :
    ∃ tail, mapLetters (camelAt name) 0 name = lowerCase c ++ tail ∧
      mapLetters (pascalAt name) 0 name = upperCase c ++ tail := by
  have hfirst : firstLetter name = before.length := by
    rw [hname, firstLetter_append hbefore hc]
  have hpascal : pascalAt name before.length c = upperCase c := by
    rw [hname, pascalAt_length_of_blank hbefore]
  have hcamel : camelAt name before.length c = lowerCase c := by
    rw [camelAt, hfirst, if_pos rfl]
  have hbehind : ∀ j, before.length + 1 ≤ j → camelAt name j = pascalAt name j := by
    intro j hj
    funext d
    rw [camelAt, hfirst, if_neg (Nat.ne_of_gt hj)]
  have hsplit : ∀ map, mapLetters map 0 name =
      map before.length c ++ mapLetters map (before.length + 1) after := by
    intro map
    rw [hname, mapLetters_append, mapLetters_of_blank hbefore, List.nil_append, Nat.zero_add,
      mapLetters, if_neg hc]
  refine ⟨mapLetters (pascalAt name) (before.length + 1) after, ?_, ?_⟩
  · rw [hsplit, hcamel, mapLetters_congr hbehind]
  · rw [hsplit, hpascal]

end

/-- By words as by positions, one tail follows the first letter in either casing. So it is the
tail that is known from `PascalCase`. -/
theorem camelWords_wordsOf (name : List Char) :
    camelWords (wordsOf name) = mapLetters (camelAt name) 0 name := by
  have hpascal := (pascalWords_wordsOf name).trans (mapLetters_pascalAt name).symm
  rcases camelWords_eq (wordsOf name) with
    ⟨hflat, hcamel, -⟩ | ⟨c, letters, tail, hflat, hcamel, htail⟩
  · rw [flatten_wordsOf, List.filter_eq_nil_iff] at hflat
    rw [hcamel, mapLetters_of_blank fun u hu => by simpa using hflat u hu]
  · rw [flatten_wordsOf, List.filter_eq_cons_iff] at hflat
    obtain ⟨before, after, hname, hbefore, hc, -⟩ := hflat
    obtain ⟨tail', hcamel', hpascal'⟩ :=
      exists_mapLetters_eq (fun u hu => by simpa using hbefore u hu) (by simpa using hc) after hname
    rw [htail, hpascal'] at hpascal
    rw [hcamel, hcamel', List.append_cancel_left hpascal]

/-! ## Entities -/

namespace Entity

def node? : Entity → Option Node
  | type t => some t.toNode
  | field f => some f.toNode
  | inputValue v => some v.toNode
  | enumValue v => some v.toNode
  | directive d => some d.toNode
  | _ => none

def nameAnswers (name : String) : List (Call × Answer) :=
  [(.name, .string name), (.camelCase, .string (camelCase name)),
    (.pascalCase, .string (pascalCase name)), (.upperSnakeCase, .string (upperSnakeCase name)),
    (.casings, .strings [camelCase name, pascalCase name, upperSnakeCase name])]

theorem exists_result_of_nameAnswers {n : Node} {call : Call} {answer : Answer}
    (h : (call, answer) ∈ nameAnswers n.name) :
    ∃ view, n.ask call = some view ∧ view.reading.result = .ok answer := by
  simp only [nameAnswers, List.mem_cons, List.not_mem_nil, or_false, Prod.mk.injEq] at h
  rcases h with ⟨rfl, rfl⟩ | ⟨rfl, rfl⟩ | ⟨rfl, rfl⟩ | ⟨rfl, rfl⟩ | ⟨rfl, rfl⟩ <;>
    refine ⟨_, rfl, ?_⟩
  · rfl
  all_goals
    rw [View.reading_map, n.reading_casings]
    rfl

/-- An entity passes the calls about its name on to its node. -/
theorem ask_of_nameAnswers {e : Entity} {n : Node} (hn : e.node? = some n) {call : Call}
    {answer : Answer} (h : (call, answer) ∈ nameAnswers n.name) : e.ask call = n.ask call := by
  simp only [nameAnswers, List.mem_cons, List.not_mem_nil, or_false, Prod.mk.injEq] at h
  rcases h with ⟨rfl, -⟩ | ⟨rfl, -⟩ | ⟨rfl, -⟩ | ⟨rfl, -⟩ | ⟨rfl, -⟩ <;>
    cases e <;> cases hn <;> rfl

theorem within_of_node? {e : Entity} {n : Node} (hn : e.node? = some n) (s : Schema) :
    e.Within s := by
  cases e with
  | schema => cases hn
  | _ => trivial

theorem run_nameAnswers {s : Schema} {recording : Bool} {session : Session}
    (hsession : Session.Reachable s recording session) {e : Entity} {n : Node}
    (hn : e.node? = some n) {call : Call} {answer : Answer}
    (h : (call, answer) ∈ nameAnswers n.name) :
    ∃ view, e.ask call = some view ∧ (view.run.run session).1 = .ok answer := by
  obtain ⟨view, hask, hresult⟩ := exists_result_of_nameAnswers h
  have hasked : e.ask call = some view := (ask_of_nameAnswers hn h).trans hask
  have hrun := View.run_eq_result (orderly_ask (within_of_node? hn s) hasked) hsession.sound
  exact ⟨view, hasked, hrun.trans hresult⟩

end Entity

/-- Both casings of a name map its letters by their positions, and differ in the first letter at
most. The casings that are made at once are these, and so are those that an entity answers, in
whatever session it is asked. -/
theorem casings_by_position (name : String) :
    pascalCase name = String.ofList (mapLetters (pascalAt name.toList) 0 name.toList) ∧
    camelCase name = String.ofList (mapLetters (camelAt name.toList) 0 name.toList) ∧
    ((∀ u ∈ name.toList, u = '_') → camelCase name = "" ∧ pascalCase name = "") ∧
    (∀ before c after, name.toList = before ++ c :: after → (∀ u ∈ before, u = '_') → c ≠ '_' →
      ∃ tail, camelCase name = String.ofList (lowerCase c ++ tail) ∧
        pascalCase name = String.ofList (upperCase c ++ tail)) ∧
    Casings.of name = ⟨camelCase name, pascalCase name, upperSnakeCase name⟩ ∧
    ∀ s recording session, Session.Reachable s recording session →
      ∀ (e : Entity) (n : Node), e.node? = some n → n.name = name →
        ∀ call answer, (call, answer) ∈ Entity.nameAnswers name →
          ∃ view, e.ask call = some view ∧ (view.run.run session).1 = .ok answer := by
  have hpascal : pascalCase name =
      String.ofList (mapLetters (pascalAt name.toList) 0 name.toList) := by
    rw [pascalCase, pascalWords_wordsOf, mapLetters_pascalAt]
  have hcamel : camelCase name =
      String.ofList (mapLetters (camelAt name.toList) 0 name.toList) := by
    rw [camelCase, camelWords_wordsOf]
  refine ⟨hpascal, hcamel, fun hblank => ?_, fun before c after hname hbefore hc => ?_, rfl, ?_⟩
  · rw [hcamel, hpascal, mapLetters_of_blank hblank, mapLetters_of_blank hblank]
    exact ⟨rfl, rfl⟩
  · obtain ⟨tail, hcamelTail, hpascalTail⟩ := exists_mapLetters_eq hbefore hc after hname
    exact ⟨tail, by rw [hcamel, hcamelTail], by rw [hpascal, hpascalTail]⟩
  · rintro s recording session hsession e n hn rfl call answer h
    exact Entity.run_nameAnswers hsession hn h

def sharpValue : EnumValue := ⟨⟨.enumValue, "__ßaX2_ID", .null⟩⟩

theorem casings_by_position_sharpValue :
    (camelCase "__" = "" ∧ pascalCase "__" = "") ∧
      (∃ tail, camelCase sharpValue.name = String.ofList ('ß' :: tail) ∧
        pascalCase sharpValue.name = String.ofList ('S' :: 'S' :: tail)) ∧
      ∃ view, (Entity.enumValue sharpValue).ask .pascalCase = some view ∧
        (view.run.run (.new true)).1 = .ok (.string "SSaX2Id") := by
  have hname : sharpValue.name.toList = ['_', '_'] ++ 'ß' :: "aX2_ID".toList := by decide
  have hpascal : pascalCase sharpValue.name = "SSaX2Id" := by decide
  obtain ⟨-, -, hblank, -⟩ := casings_by_position "__"
  obtain ⟨-, -, -, htail, -, hentity⟩ := casings_by_position sharpValue.name
  obtain ⟨tail, hcamel, hsharp⟩ := htail _ _ _ hname (by simp) (by decide)
  refine ⟨hblank (by simp), ⟨tail, hcamel, hsharp⟩, ?_⟩
  rw [← hpascal]
  exact hentity ⟨⟨⟨.schema, none⟩, .null⟩⟩ true _ .new _ _ rfl rfl _ _ (.tail _ (.tail _ (.head _)))

end Introspection
