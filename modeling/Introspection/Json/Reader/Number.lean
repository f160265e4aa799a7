import Introspection.Json.Basic
import Introspection.Json.Reader.Failure
/-!
# Reading numbers

A number without fraction and exponent is an integer if it fits 64 bits, unsigned or, after a
minus sign, signed; minus zero is not. Every other number is a double: the digits that fit an
unsigned word give its significand, the rest only count for the power of ten that scales it.
-/

namespace Introspection.Reader

abbrev Tail (bound : Nat) := { s : List Char // s.length ≤ bound }

def digitValue (c : Char) : Nat := c.toNat - '0'.toNat

/-- Takes digits into a number while it stays below `2 ^ 64`; the others are left. -/
def absorb (n : Nat) : List Char → Nat × List Char
  | [] => (n, [])
  | d :: digits =>
      let next := 10 * n + digitValue d
      if next < Nat.pow 2 64 then absorb next digits else (n, d :: digits)

def powerOfTen (n : Nat) : Float := Float.ofScientific 1 false n

/-- `significand * 10 ^ exponent` in doubles, with one rounding for the significand and one for
the power that it is multiplied or divided by; `none` if that is infinite. Powers that no double
holds divide in two steps, and the second always ends at zero below `-616`. -/
def scaled? (significand : Nat) (exponent : Int) : Option Float :=
  let f := significand.toUInt64.toFloat
  let n := exponent.natAbs
  if significand = 0 then some f
  else if 0 ≤ exponent then
    if 308 < n then none
    else
      let product := f * powerOfTen n
      if product.isInf then none else some product
  else if n ≤ 308 then some (f / powerOfTen n)
  else if n ≤ 616 then some (f / powerOfTen 308 / powerOfTen (n - 308))
  else some 0

def ofDouble (negative : Bool) (f : Float) : Number :=
  .double (if negative then -f else f).toBits

/-- The number of a text without fraction and exponent whose digits fit an unsigned word. -/
def ofDigits (negative : Bool) (n : Nat) : Number :=
  if negative then
    if 0 < n ∧ n ≤ Nat.pow 2 63 then .integer (-n) else ofDouble true n.toUInt64.toFloat
  else .integer n

/-- The digits of an exponent. They have to stay below `2 ^ 31`; the failure tells what is left
after the digit that does not. -/
def exponentDigits (n : Nat) (s : List Char) :
    Except (Tail s.length) (Nat × Tail s.length) :=
  match s with
  | [] => .ok (n, ⟨[], Nat.le_refl _⟩)
  | c :: rest =>
      if c.isDigit then
        let next := 10 * n + digitValue c
        if next < Nat.pow 2 31 then
          match exponentDigits next rest with
          | .ok (e, ⟨rest', le⟩) => .ok (e, ⟨rest', Nat.le_succ_of_le le⟩)
          | .error ⟨rest', le⟩ => .error ⟨rest', Nat.le_succ_of_le le⟩
        else .error ⟨rest, Nat.le_succ _⟩
      else .ok (n, ⟨c :: rest, Nat.le_refl _⟩)

def finite (negative : Bool) (significand : Nat) (exponent : Int) {bound : Nat}
    (rest : Tail bound) : Except Failure (Number × Tail bound) :=
  match scaled? significand exponent with
  | some f => .ok (ofDouble negative f, rest)
  | none => .error (.before .numberOutOfRange rest.1)

def exponentSign (s : List Char) : Bool × Tail s.length :=
  match s with
  | '+' :: rest => (false, ⟨rest, Nat.le_succ _⟩)
  | '-' :: rest => (true, ⟨rest, Nat.le_succ _⟩)
  | s => (false, ⟨s, Nat.le_refl _⟩)

/-- Reads an exponent after its letter. One that is too large for a word makes any significand
but zero infinite, or zero if it is negative. -/
def exponent (negative : Bool) (significand : Nat) (scale : Int) (s : List Char) :
    Except Failure (Number × Tail s.length) :=
  let (down, ⟨digits, le⟩) := exponentSign s
  match digits with
  | [] => .error (.before .endInValue [])
  | c :: rest =>
      if c.isDigit then
        match exponentDigits 0 (c :: rest) with
        | .ok (e, ⟨rest', le'⟩) =>
            finite negative significand (if down then scale - e else scale + e)
              ⟨rest', Nat.le_trans le' le⟩
        | .error ⟨rest', le'⟩ =>
            if significand ≠ 0 ∧ ¬ down then .error (.before .numberOutOfRange rest')
            else
              .ok (ofDouble negative 0, ⟨rest'.dropWhile Char.isDigit,
                Nat.le_trans (List.dropWhile_sublist _).length_le (Nat.le_trans le' le)⟩)
      else .error (.past .badNumber (c :: rest))

def exponentPart (negative : Bool) (significand : Nat) (scale : Int) (s : List Char) :
    Except Failure (Number × Tail s.length) :=
  match s with
  | c :: rest =>
      if c = 'e' ∨ c = 'E' then
        match exponent negative significand scale rest with
        | .error failure => .error failure
        | .ok (n, ⟨rest', le⟩) => .ok (n, ⟨rest', Nat.le_succ_of_le le⟩)
      else finite negative significand scale ⟨c :: rest, Nat.le_refl _⟩
  | [] => finite negative significand scale ⟨[], Nat.le_refl _⟩

def fraction (negative : Bool) (significand : Nat) (scale : Int) (s : List Char) :
    Except Failure (Number × Tail s.length) :=
  let digits := s.takeWhile Char.isDigit
  if digits.isEmpty then
    .error (.past (if s.isEmpty then .endInValue else .badNumber) s)
  else
    let (significand, excess) := absorb significand digits
    let scale := scale - (digits.length - excess.length)
    match exponentPart negative significand scale (s.dropWhile Char.isDigit) with
    | .error failure => .error failure
    | .ok (n, ⟨rest, le⟩) => .ok (n, ⟨rest, Nat.le_trans le (List.dropWhile_sublist _).length_le⟩)

/-- Reads what follows the digits before the point: `excess` of them did not fit. -/
def afterDigits (negative : Bool) (significand excess : Nat) (s : List Char) :
    Except Failure (Number × Tail s.length) :=
  match s with
  | '.' :: rest =>
      match fraction negative significand excess rest with
      | .error failure => .error failure
      | .ok (n, ⟨rest', le⟩) => .ok (n, ⟨rest', Nat.le_succ_of_le le⟩)
  | s =>
      if excess = 0 ∧ s.head? ≠ some 'e' ∧ s.head? ≠ some 'E' then
        .ok (ofDigits negative significand, ⟨s, Nat.le_refl _⟩)
      else exponentPart negative significand excess s

/-- Reads a number after its sign. -/
def number (negative : Bool) (s : List Char) : Step Number s.length :=
  match s with
  | [] => .error (.before .endInValue [])
  | c :: rest =>
      if ¬ c.isDigit then .error (.past .badNumber (c :: rest))
      else if c = '0' ∧ (rest.head?.any Char.isDigit) then .error (.past .badNumber rest)
      else
        let (significand, excess) := absorb (digitValue c) (rest.takeWhile Char.isDigit)
        match afterDigits negative significand excess.length (rest.dropWhile Char.isDigit) with
        | .error failure => .error failure
        | .ok (n, ⟨rest', le⟩) =>
            .ok (n, ⟨rest',
              Nat.lt_succ_of_le (Nat.le_trans le (List.dropWhile_sublist _).length_le)⟩)

end Introspection.Reader
