/-!
# Shortest decimals of doubles

A finite double stands for every real number that rounds to it. `shortest` names the double by
the decimal with the fewest digits among those numbers, and of these by the one nearest to the
double. The search runs on exact natural numbers: the double is `significand * 2 ^ exponent`, its
neighbours are half a gap away, and a grid of decimals has spacing `10 ^ spacing`.
-/

namespace Introspection

/-- The number `coefficient * 10 ^ exponent`. -/
structure Decimal where
  coefficient : Nat
  exponent : Int
  deriving DecidableEq

/-- The magnitude `significand * 2 ^ exponent` of a finite double. The gap below it is half the
gap above it when `narrow` holds. -/
structure Binary where
  significand : Nat
  exponent : Int
  narrow : Bool
  deriving DecidableEq

namespace Binary

def ofBits (bits : UInt64) : Binary :=
  let fraction := bits.toNat % Nat.pow 2 52
  let scale : Nat := bits.toNat / Nat.pow 2 52 % Nat.pow 2 11
  if scale = 0 then ⟨fraction, -1074, false⟩
  else ⟨Nat.pow 2 52 + fraction, Int.subNatNat scale 1075, decide (fraction = 0 ∧ 1 < scale)⟩

/-- Four times the significand, and the ends of the interval that rounds to the double in the
same unit. -/
def middle (b : Binary) : Nat := 4 * b.significand

def low (b : Binary) : Nat := b.middle - if b.narrow then 1 else 2

def high (b : Binary) : Nat := b.middle + 2

/-- The factors that bring a point of the decimal grid and a binary number to one unit. -/
def decimalUnit (b : Binary) (spacing : Int) : Nat :=
  Nat.pow 10 spacing.toNat * Nat.pow 2 (2 - b.exponent).toNat

def binaryUnit (b : Binary) (spacing : Int) : Nat :=
  Nat.pow 2 (b.exponent - 2).toNat * Nat.pow 10 (-spacing).toNat

/-- Whether a point of the grid rounds to the double; the ends do when the significand is
even. -/
def rounds (b : Binary) (spacing : Int) (point : Nat) : Bool :=
  let here := point * b.decimalUnit spacing
  let low := b.low * b.binaryUnit spacing
  let high := b.high * b.binaryUnit spacing
  if b.significand % 2 = 0 then low ≤ here && here ≤ high else low < here && here < high

/-- The last point of the grid that is not above the double. -/
def floor (b : Binary) (spacing : Int) : Nat :=
  b.middle * b.binaryUnit spacing / b.decimalUnit spacing

/-- The point of the grid that is nearest to the double among those that round to it; a tie goes
to the even one. -/
def onGrid? (b : Binary) (spacing : Int) : Option Decimal :=
  let below := b.floor spacing
  let above := b.middle * b.binaryUnit spacing - below * b.decimalUnit spacing
  let beneath := (below + 1) * b.decimalUnit spacing - b.middle * b.binaryUnit spacing
  match b.rounds spacing below, b.rounds spacing (below + 1) with
  | true, true =>
      if above < beneath ∨ above = beneath ∧ below % 2 = 0 then some ⟨below, spacing⟩
      else some ⟨below + 1, spacing⟩
  | true, false => some ⟨below, spacing⟩
  | false, true => some ⟨below + 1, spacing⟩
  | false, false => none

/-- The exponent of the first digit of a double other than zero. -/
def leading (b : Binary) : Int :=
  (Nat.toDigits 10 (b.floor (-330))).length - 331

end Binary

namespace Decimal

def digits (d : Decimal) : List Char := Nat.toDigits 10 d.coefficient

/-- The same number without the zeros that end its coefficient. -/
def normalize (d : Decimal) : Decimal :=
  let zeros := (d.digits.reverse.takeWhile (· = '0')).length
  ⟨d.coefficient / Nat.pow 10 zeros, d.exponent + zeros⟩

/-- The shortest decimal that reads back as the double. Seventeen digits always do. -/
def shortest (b : Binary) : Decimal :=
  if b.significand = 0 then ⟨0, 0⟩
  else
    match (List.range 17).findSome? fun (n : Nat) => b.onGrid? (b.leading - n) with
    | some d => d.normalize
    | none => ⟨b.significand, 0⟩

/-- How decimals are written: from `least` to `greatest` the exponent of the first digit leaves
the number in plain form, which has a digit after the point. -/
structure Layout where
  least : Int
  greatest : Int
  point : String
  mark : String
  plus : String
  minus : String

private def zeros (n : Nat) : List Char := List.replicate n '0'

private def exponentText (layout : Layout) (exponent : Int) : String :=
  layout.mark ++ (if exponent < 0 then layout.minus else layout.plus) ++ toString exponent.natAbs

def write (layout : Layout) (d : Decimal) : String :=
  let digits := d.digits
  let first := d.exponent + digits.length - 1
  if first < layout.least ∨ layout.greatest < first then
    let fraction := digits.drop 1
    String.ofList (digits.take 1) ++
      (if fraction.isEmpty then "" else layout.point ++ String.ofList fraction) ++
      exponentText layout first
  else if 0 ≤ d.exponent then
    String.ofList (digits ++ zeros d.exponent.toNat) ++ layout.point ++ "0"
  else if 0 ≤ first then
    let whole := first.toNat + 1
    String.ofList (digits.take whole) ++ layout.point ++ String.ofList (digits.drop whole)
  else
    "0" ++ layout.point ++ String.ofList (zeros (-first - 1).toNat ++ digits)

end Decimal

end Introspection
