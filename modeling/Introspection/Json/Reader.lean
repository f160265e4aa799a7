import Introspection.Json.Basic
import Introspection.Json.Reader.Text
import Introspection.Json.Reader.Number
/-!
# Reading JSON

`read` takes a text for one value with blanks around it. Lists and objects may stand in each
other 127 deep; a reader for what they hold is handed to the readers of lists and objects.
-/

namespace Introspection.Reader

def isBlank (c : Char) : Bool := c == ' ' || c == '\n' || c == '\t' || c == '\r'

def unblank (s : List Char) : List Char := s.dropWhile isBlank

theorem length_unblank_le (s : List Char) : (unblank s).length ≤ s.length :=
  (List.dropWhile_sublist isBlank).length_le

theorem length_lt_of_unblank {s rest : List Char} {c : Char} (h : unblank s = c :: rest) :
    rest.length < s.length := by
  have := length_unblank_le s
  rw [h, List.length_cons] at this
  omega

theorem length_le_of_unblank {s rest : List Char} (h : unblank s = rest) :
    rest.length ≤ s.length := h ▸ length_unblank_le s

theorem length_cons_le_of_unblank {s rest : List Char} {c : Char} (h : unblank s = c :: rest) :
    (c :: rest).length ≤ s.length := length_le_of_unblank h

theorem length_rest_le_of_unblank {s rest : List Char} {c : Char} (h : unblank s = c :: rest) :
    rest.length ≤ s.length := Nat.le_of_lt (length_lt_of_unblank h)

abbrev ValueReader := (s : List Char) → Step Json s.length

/-- Reads the other letters of a literal. -/
def literal (value : Json) (letters : List Char) {bound : Nat} (s : List Char)
    (lt : s.length < bound) : Step Json bound :=
  match letters, s with
  | [], s => .ok (value, ⟨s, lt⟩)
  | _ :: _, [] => .error (.before .endInValue [])
  | l :: letters, c :: rest =>
      if c = l then literal value letters rest (Nat.lt_of_succ_lt lt)
      else .error (.past .noLiteral (c :: rest))

/-- Reads a list after one of its items; `read` holds the items so far, the last one first. -/
def moreItems (inner : ValueReader) {bound : Nat} (read : List Json) (s : List Char)
    (lt : s.length < bound) : Step (List Json) bound :=
  match h : unblank s with
  | [] => .error (.before .endInList [])
  | ']' :: rest =>
      .ok (read.reverse, ⟨rest, Nat.lt_trans (length_lt_of_unblank h) lt⟩)
  | ',' :: rest =>
      match h' : unblank rest with
      | [] => .error (.before .endInValue [])
      | ']' :: rest' => .error (.past .trailingComma (']' :: rest'))
      | next =>
          match inner next with
          | .error failure => .error failure
          | .ok (value, ⟨rest', lt'⟩) =>
              have shorter : rest'.length < s.length := by
                have := length_unblank_le rest
                have := length_lt_of_unblank h
                rw [h'] at *
                omega
              moreItems inner (value :: read) rest' (Nat.lt_trans shorter lt)
  | rest => .error (.past .noListEnd rest)
termination_by s.length

def items (inner : ValueReader) (s : List Char) : Step (List Json) s.length :=
  match h : unblank s with
  | [] => .error (.before .endInList [])
  | ']' :: rest => .ok ([], ⟨rest, length_lt_of_unblank h⟩)
  | next =>
      match inner next with
      | .error failure => .error failure
      | .ok (value, ⟨rest, lt⟩) =>
          moreItems inner [value] rest
            (Nat.lt_of_lt_of_le lt (length_le_of_unblank h))

/-- Reads a member of an object after the quote that opens its key. -/
def member (inner : ValueReader) (s : List Char) : Step (String × Json) (s.length + 1) :=
  match string [] s (Nat.lt_succ_self _) with
  | .error failure => .error failure
  | .ok (key, ⟨rest, lt⟩) =>
      match h : unblank rest with
      | ':' :: rest' =>
          (inner rest').map (key, ·)
            (Nat.le_of_lt (Nat.lt_trans (length_lt_of_unblank h) lt))
      | [] => .error (.before .endInObject [])
      | rest' => .error (.past .noColon rest')

/-- Reads an object after one of its members, of which `read` holds those so far. -/
def moreMembers (inner : ValueReader) {bound : Nat} (read : List (String × Json))
    (s : List Char) (lt : s.length < bound) : Step (List (String × Json)) bound :=
  match h : unblank s with
  | [] => .error (.before .endInObject [])
  | '}' :: rest => .ok (read, ⟨rest, Nat.lt_trans (length_lt_of_unblank h) lt⟩)
  | ',' :: rest =>
      match h' : unblank rest with
      | [] => .error (.before .endInValue [])
      | '"' :: next =>
          match member inner next with
          | .error failure => .error failure
          | .ok ((key, value), ⟨rest', lt'⟩) =>
              have shorter : rest'.length < s.length := by
                have := length_lt_of_unblank h
                have := length_lt_of_unblank h'
                omega
              moreMembers inner (insertMember key value read) rest' (Nat.lt_trans shorter lt)
      | '}' :: rest' => .error (.past .trailingComma ('}' :: rest'))
      | rest' => .error (.past .noKey rest')
  | rest => .error (.past .noObjectEnd rest)
termination_by s.length

def members (inner : ValueReader) (s : List Char) :
    Step (List (String × Json)) s.length :=
  match h : unblank s with
  | [] => .error (.before .endInObject [])
  | '}' :: rest => .ok ([], ⟨rest, length_lt_of_unblank h⟩)
  | '"' :: next =>
      match member inner next with
      | .error failure => .error failure
      | .ok ((key, value), ⟨rest, lt⟩) =>
          moreMembers inner [(key, value)] rest (by
            have := length_lt_of_unblank h
            omega)
  | rest => .error (.past .noKey rest)

/-- Reads a value; at a bracket or brace, `nested` reads what it opens. -/
def scalarOr (nested : (c : Char) → (rest : List Char) → Step Json (rest.length + 1))
    (s : List Char) : Step Json s.length :=
  match h : unblank s with
  | [] => .error (.before .endInValue [])
  | c :: rest =>
      have lt := length_lt_of_unblank h
      if c = '[' ∨ c = '{' then (nested c rest).map id lt
      else if c = '"' then (string [] rest (Nat.lt_succ_self _)).map .str lt
      else if c = 'n' then literal .null ['u', 'l', 'l'] rest lt
      else if c = 't' then literal (.bool true) ['r', 'u', 'e'] rest lt
      else if c = 'f' then literal (.bool false) ['a', 'l', 's', 'e'] rest lt
      else if c = '-' then (number true rest).map .num (length_rest_le_of_unblank h)
      else if c.isDigit then
        (number false (c :: rest)).map .num (length_cons_le_of_unblank h)
      else .error (.past .noValue (c :: rest))

/-- Reads a value in which lists and objects stand at most this deep. -/
def value : Nat → ValueReader
  | 0 => scalarOr fun c rest => .error (.past .tooDeep (c :: rest))
  | depth + 1 => scalarOr fun c rest =>
      if c = '[' then (items (value depth) rest).map .arr (Nat.le_succ _)
      else (members (value depth) rest).map .obj (Nat.le_succ _)

def depthLimit : Nat := 127

def document (source : List Char) : Except Failure Json :=
  match value depthLimit source with
  | .error failure => .error failure
  | .ok (json, ⟨rest, _⟩) =>
      match unblank rest with
      | [] => .ok json
      | rest => .error (.past .trailingCharacters rest)

end Introspection.Reader

namespace Introspection.Json

def read (source : String) : Except Failure Json := Reader.document source.toList

end Introspection.Json
