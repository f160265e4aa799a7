import Introspection.Json.Basic
import Introspection.Decimal.Shortest
/-!
# Printing JSON

Values are printed without blanks, members in the order of their keys. Inside a string only the
quote, the backslash and the characters below the blank are escaped.
-/

namespace Introspection

namespace Number

/-- Doubles keep a digit after the point and turn to an exponent from `1e16` and below `1e-5`. -/
def layout : Decimal.Layout := ⟨-5, 15, ".", "e", "+", "-"⟩

def text : Number → String
  | .integer value => toString value
  | .double bits =>
      (if Nat.pow 2 63 ≤ bits.toNat then "-" else "") ++
        (Decimal.shortest (Binary.ofBits bits)).write layout

end Number

namespace Json

private def lowerHexDigit (n : Nat) : Char := (Nat.toDigits 16 n).headD '0'

def escape (c : Char) : List Char :=
  match c with
  | '"' => ['\\', '"']
  | '\\' => ['\\', '\\']
  | '\x08' => ['\\', 'b']
  | '\x0c' => ['\\', 'f']
  | '\n' => ['\\', 'n']
  | '\r' => ['\\', 'r']
  | '\t' => ['\\', 't']
  | c =>
      if c.toNat < 0x20 then
        ['\\', 'u', '0', '0', lowerHexDigit (c.toNat / 16), lowerHexDigit (c.toNat % 16)]
      else [c]

def quote (s : String) : String :=
  "\"" ++ String.ofList (s.toList.flatMap escape) ++ "\""

mutual

def write (out : String) : Json → String
  | .null => out ++ "null"
  | .bool true => out ++ "true"
  | .bool false => out ++ "false"
  | .num n => out ++ n.text
  | .str s => out ++ quote s
  | .arr items => writeItems (out ++ "[") "" items ++ "]"
  | .obj members => writeMembers (out ++ "\x7b") "" members ++ "\x7d"

def writeItems (out separator : String) : List Json → String
  | [] => out
  | item :: rest => writeItems (write (out ++ separator) item) "," rest

def writeMembers (out separator : String) : List (String × Json) → String
  | [] => out
  | (key, value) :: rest =>
      writeMembers (write (out ++ separator ++ quote key ++ ":") value) "," rest

end

def text (json : Json) : String := write "" json

end Json

end Introspection
