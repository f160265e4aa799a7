import Introspection.Json.Position
/-!
# Why a text is not JSON

A failure tells the reason and how many bytes of the text were still unread, so that it stands at
a place inside the text whatever the text is.
-/

namespace Introspection

inductive Reason where
  | endInValue
  | endInString
  | endInList
  | endInObject
  | noValue
  | noLiteral
  | noColon
  | noListEnd
  | noObjectEnd
  | noKey
  | trailingComma
  | trailingCharacters
  | badNumber
  | numberOutOfRange
  | badEscape
  | controlCharacter
  | loneSurrogate
  | missingSurrogate
  | tooDeep
  deriving DecidableEq

namespace Reason

def text : Reason → String
  | endInValue => "EOF while parsing a value"
  | endInString => "EOF while parsing a string"
  | endInList => "EOF while parsing a list"
  | endInObject => "EOF while parsing an object"
  | noValue => "expected value"
  | noLiteral => "expected ident"
  | noColon => "expected `:`"
  | noListEnd => "expected `,` or `]`"
  | noObjectEnd => "expected `,` or `\x7d`"
  | noKey => "key must be a string"
  | trailingComma => "trailing comma"
  | trailingCharacters => "trailing characters"
  | badNumber => "invalid number"
  | numberOutOfRange => "number out of range"
  | badEscape => "invalid escape"
  | controlCharacter => "control character (\\u0000-\\u001F) found while parsing a string"
  | loneSurrogate => "lone leading surrogate in hex escape"
  | missingSurrogate => "unexpected end of hex escape"
  | tooDeep => "recursion limit exceeded"

end Reason

structure Failure where
  reason : Reason
  unread : Nat
  deriving DecidableEq

namespace Failure

/-- A failure in front of what is left. -/
def before (reason : Reason) (rest : List Char) : Failure := ⟨reason, width rest⟩

/-- A failure that counts the next byte of what is left as read, where there is one. -/
def past (reason : Reason) (rest : List Char) : Failure := ⟨reason, width rest - 1⟩

def position (f : Failure) (source : String) : Position :=
  .ofOffset source (source.utf8ByteSize - f.unread)

end Failure

abbrev Rest (bound : Nat) := { s : List Char // s.length < bound }

/-- A step of reading: something read and what is left after it. -/
abbrev Step (α : Type) (bound : Nat) := Except Failure (α × Rest bound)

namespace Step

/-- Loosens the bound of a step and changes what was read. -/
def map {α β : Type} {m n : Nat} (f : α → β) (le : m ≤ n) : Step α m → Step β n
  | .error failure => .error failure
  | .ok (a, ⟨rest, lt⟩) => .ok (f a, ⟨rest, Nat.lt_of_lt_of_le lt le⟩)

end Step

end Introspection
