import Introspection.Naming.CaseTable
/-!
# The case of characters

A character is mapped by itself, whatever stands around it, to one or more characters.
-/

namespace Introspection

def mapCase (sequences : List (Char × String)) (runs : List CaseRun) (c : Char) : List Char :=
  match sequences.lookup c with
  | some mapped => mapped.toList
  | none =>
      match runs.find? (·.covers c.toNat) with
      | some run => [Char.ofNat (c.toNat + run.shift).toNat]
      | none => [c]

def upperCase (c : Char) : List Char :=
  if c.toNat < 128 then [c.toUpper] else mapCase upperSequences upperRuns c

def lowerCase (c : Char) : List Char :=
  if c.toNat < 128 then [c.toLower] else mapCase lowerSequences lowerRuns c

end Introspection
