/-!
# Words of a name

An underscore ends a word and is dropped. A word also ends between a small ASCII letter and an
ASCII capital or digit. Empty words stay where they are, except at the end of the name. The words
are cut out of the bytes of the name, or taken as lists of its characters.
-/

namespace Introspection

/-- Whether a word begins at the second of two neighbours. -/
def isBoundary (prev next : Char) : Bool :=
  prev.isLower && (next.isUpper || next.isDigit)

/-- The words from here on: `prev` is the character before, and `word` holds the word so far,
the last character first. -/
def wordsFrom (prev : Option Char) (word : List Char) : List Char → List (List Char)
  | [] => [word.reverse]
  | c :: rest =>
      if c = '_' then word.reverse :: wordsFrom (some c) [] rest
      else if prev.any (isBoundary · c) then word.reverse :: wordsFrom (some c) [c] rest
      else wordsFrom (some c) (c :: word) rest

def trimEmpty (words : List (List Char)) : List (List Char) :=
  (words.reverse.dropWhile List.isEmpty).reverse

def wordsOf (name : List Char) : List (List Char) := trimEmpty (wordsFrom none [] name)

/-! ## Ranges of bytes -/

structure ByteRange where
  start : Nat
  stop : Nat
  deriving DecidableEq

def ByteRange.slice (range : ByteRange) (text : String) : String :=
  String.Pos.Raw.extract text ⟨range.start⟩ ⟨range.stop⟩

/-- The ranges of the words from here on: `prev` is the character before, the word so far begins
at `start`, and the next character at `offset`. -/
def rangesFrom (prev : Option Char) (start offset : Nat) : List Char → List ByteRange
  | [] => [⟨start, offset⟩]
  | c :: rest =>
      let next := offset + c.utf8Size
      if c = '_' then ⟨start, offset⟩ :: rangesFrom (some c) next next rest
      else if prev.any (isBoundary · c) then ⟨start, offset⟩ :: rangesFrom (some c) offset next rest
      else rangesFrom (some c) start next rest

/-- The ranges of all words of a name, with the empty ones at its end. -/
def wordRanges (name : String) : List ByteRange := rangesFrom none 0 0 name.toList

def nameWords (name : String) : List String :=
  (((wordRanges name).map (·.slice name)).reverse.dropWhile String.isEmpty).reverse

end Introspection
