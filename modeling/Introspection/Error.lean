import Introspection.Json.Printer
import Introspection.Json.Reader
/-!
# Errors

An error has a kind, a message and, in most cases, the context that it arose in. Its text begins
with the kind and can leave the context out.
-/

namespace Introspection

inductive ErrorKind where
  | missingField
  | unexpectedValue
  | malformed
  deriving DecidableEq

namespace ErrorKind

def name : ErrorKind → String
  | missingField => "MissingField"
  | unexpectedValue => "UnexpectedValue"
  | malformed => "Syntax"

def ofName? (name : String) : Option ErrorKind :=
  [missingField, unexpectedValue, malformed].find? (·.name = name)

def title : ErrorKind → String
  | missingField => "Missing Field"
  | unexpectedValue => "Unexpected Value"
  | malformed => "Syntax Error"

end ErrorKind

structure Error where
  kind : ErrorKind
  message : String
  context : Option String
  deriving DecidableEq

namespace Error

/-- The text of an error, over two lines if the context is part of it. -/
def print (e : Error) (withContext : Bool) : String :=
  let line := e.kind.title ++ ": " ++ e.message
  match e.context with
  | some context => if withContext then line ++ "\n  in " ++ context else line
  | none => line

def text (e : Error) : String := e.print true

def block (e : Error) : String := "\n" ++ e.text ++ "\n"

def toJson (e : Error) : Json :=
  .ofMembers [("context", .ofOption .str e.context), ("error", .str e.kind.name),
    ("message", .str e.message), ("text", .str e.text)]

end Error

/-- The error of a source that is not JSON: its message and its context tell the same position. -/
def Failure.toError (source : String) (f : Failure) : Error :=
  let position := f.position source
  let line := toString position.line
  let column := toString position.column
  ⟨.malformed, f.reason.text ++ " at line " ++ line ++ " column " ++ column,
    some ("line " ++ line ++ ", column " ++ column)⟩

def Json.parse (source : String) : Except Error Json :=
  (Json.read source).mapError (·.toError source)

end Introspection
