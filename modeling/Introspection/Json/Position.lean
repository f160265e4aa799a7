/-!
# Positions in a source text

A position is a line, counted from one, and a column, which is the number of bytes since the line
began. The end of a line belongs to it, so a position just after a line break is the next line's
column zero.
-/

namespace Introspection

structure Position where
  line : Nat
  column : Nat
  deriving DecidableEq

namespace Position

def lineBreak : UInt8 := 10

def after (passed : List UInt8) : Position where
  line := 1 + passed.count lineBreak
  column := (passed.reverse.takeWhile (· != lineBreak)).length

def ofOffset (source : String) (offset : Nat) : Position :=
  after (source.toByteArray.toList.take offset)

end Position

/-- The number of bytes that characters take. -/
def width : List Char → Nat
  | [] => 0
  | c :: rest => c.utf8Size + width rest

end Introspection
