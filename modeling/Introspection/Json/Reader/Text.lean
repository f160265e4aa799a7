import Introspection.Json.Reader.Failure
/-!
# Reading strings

A string runs to the next quote. A backslash begins an escape; a character outside the basic
plane is escaped as a high and a low surrogate, which only stand together.
-/

namespace Introspection.Reader

def hexDigit? (c : Char) : Option Nat :=
  if '0' ≤ c ∧ c ≤ '9' then some (c.toNat - '0'.toNat)
  else if 'a' ≤ c ∧ c ≤ 'f' then some (c.toNat - 'a'.toNat + 10)
  else if 'A' ≤ c ∧ c ≤ 'F' then some (c.toNat - 'A'.toNat + 10)
  else none

/-- Four bytes were taken for hexadecimal digits and are none, or the text ended within them. -/
def badUnit (s : List Char) : Failure :=
  if width s < 4 then ⟨.endInString, 0⟩ else ⟨.badEscape, width s - 4⟩

def hexUnit (s : List Char) : Step Nat s.length :=
  match s with
  | a :: b :: c :: d :: rest =>
      match hexDigit? a, hexDigit? b, hexDigit? c, hexDigit? d with
      | some a, some b, some c, some d =>
          .ok (((a * 16 + b) * 16 + c) * 16 + d,
            ⟨rest, by simp only [List.length_cons]; omega⟩)
      | _, _, _, _ => .error (badUnit (a :: b :: c :: d :: rest))
  | s => .error (badUnit s)

def isHighSurrogate (unit : Nat) : Bool := 0xD800 ≤ unit && unit ≤ 0xDBFF

def isLowSurrogate (unit : Nat) : Bool := 0xDC00 ≤ unit && unit ≤ 0xDFFF

def joinSurrogates (high low : Nat) : Char :=
  Char.ofNat (0x10000 + (high - 0xD800) * 0x400 + (low - 0xDC00))

def lowSurrogate (high : Nat) (s : List Char) : Step Char s.length :=
  match s with
  | '\\' :: 'u' :: rest =>
      match hexUnit rest with
      | .error failure => .error failure
      | .ok (low, ⟨rest', lt⟩) =>
          if isLowSurrogate low then
            .ok (joinSurrogates high low, ⟨rest', by simp only [List.length_cons]; omega⟩)
          else .error (.before .loneSurrogate rest')
  | [] => .error (.before .endInString [])
  | ['\\'] => .error (.before .endInString [])
  | '\\' :: rest => .error (.past .missingSurrogate rest)
  | rest => .error (.past .missingSurrogate rest)

def unicodeEscape (s : List Char) : Step Char s.length :=
  match hexUnit s with
  | .error failure => .error failure
  | .ok (unit, ⟨rest, lt⟩) =>
      if isLowSurrogate unit then .error (.before .loneSurrogate rest)
      else if isHighSurrogate unit then (lowSurrogate unit rest).map id (Nat.le_of_lt lt)
      else .ok (Char.ofNat unit, ⟨rest, lt⟩)

def letterEscape? : Char → Option Char
  | '"' => some '"'
  | '\\' => some '\\'
  | '/' => some '/'
  | 'b' => some '\x08'
  | 'f' => some '\x0c'
  | 'n' => some '\n'
  | 'r' => some '\r'
  | 't' => some '\t'
  | _ => none

def escape (s : List Char) : Step Char s.length :=
  match s with
  | [] => .error (.before .endInString [])
  | 'u' :: rest =>
      (unicodeEscape rest).map id (by simp only [List.length_cons]; omega)
  | c :: rest =>
      match letterEscape? c with
      | some meant => .ok (meant, ⟨rest, by simp only [List.length_cons]; omega⟩)
      | none => .error (.past .badEscape (c :: rest))

/-- Reads a string after its opening quote; `read` holds its characters so far, the last one
first. -/
def string {bound : Nat} (read : List Char) (s : List Char) (lt : s.length < bound) :
    Step String bound :=
  match s with
  | [] => .error (.before .endInString [])
  | '"' :: rest =>
      .ok (String.ofList read.reverse, ⟨rest, by simp only [List.length_cons] at lt; omega⟩)
  | '\\' :: rest =>
      match escape rest with
      | .error failure => .error failure
      | .ok (c, ⟨rest', lt'⟩) =>
          string (c :: read) rest' (by simp only [List.length_cons] at lt; omega)
  | c :: rest =>
      if c.toNat < 0x20 then .error (.before .controlCharacter rest)
      else string (c :: read) rest (by simp only [List.length_cons] at lt; omega)
termination_by s.length
decreasing_by
  · simp only [List.length_cons]; omega
  · simp only [List.length_cons]; omega

end Introspection.Reader
