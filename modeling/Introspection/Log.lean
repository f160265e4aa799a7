import Introspection.Fault
import Introspection.Text.Quoted
/-!
# Log lines

A lookup that fails is logged with its key and the place where it failed. So are the lists that a
schema reads, with their lengths, and the roots of a new schema.
-/

namespace Introspection

inductive LogLine where
  | missing (key : String) (place : Place)
  | unexpected (key : String) (place : Place)
  | readTypes (count : Nat)
  | readDirectives (count : Nat)
  | created (query mutation : Option String)
  deriving DecidableEq

def quotedOption : Option String → String
  | some name => "Some(" ++ quoted name ++ ")"
  | none => "None"

namespace LogLine

def text : LogLine → String
  | missing key place => "TRACE missing `" ++ key ++ "` on " ++ place.text
  | unexpected key place => "TRACE unexpected value for `" ++ key ++ "` on " ++ place.text
  | readTypes count => "TRACE read " ++ toString count ++ " types"
  | readDirectives count => "TRACE read " ++ toString count ++ " directives"
  | created query mutation =>
      "DEBUG created schema view (query: " ++ quotedOption query ++ ", mutation: " ++
        quotedOption mutation ++ ")"

end LogLine

def Fault.line? : Fault → Option LogLine
  | missing key place => some (.missing key place)
  | unexpected key _ place => some (.unexpected key place)
  | notObject _ => none
  | wrapsNull _ => none
  | unknownLocation _ _ => none

end Introspection
