import Introspection.Naming.CharCase
import Introspection.Naming.Words
/-!
# Casings of a name

The words of a name are joined in three ways: `camelCase`, `PascalCase` and `UPPER_SNAKE`.
-/

namespace Introspection

def capitalize : List Char → List Char
  | [] => []
  | c :: rest => upperCase c ++ rest.flatMap lowerCase

def pascalWords (words : List (List Char)) : List Char := words.flatMap capitalize

/-- The first word that is not empty has small letters only. -/
def camelWords : List (List Char) → List Char
  | [] => []
  | [] :: rest => camelWords rest
  | word :: rest => word.flatMap lowerCase ++ pascalWords rest

def upperSnakeWords (words : List (List Char)) : List Char :=
  ['_'].intercalate (words.map (·.flatMap upperCase))

def camelCase (name : String) : String := String.ofList (camelWords (wordsOf name.toList))

def pascalCase (name : String) : String := String.ofList (pascalWords (wordsOf name.toList))

def upperSnakeCase (name : String) : String := String.ofList (upperSnakeWords (wordsOf name.toList))

structure Casings where
  camelCase : String
  pascalCase : String
  upperSnakeCase : String
  deriving DecidableEq

def Casings.toList (casings : Casings) : List String :=
  [casings.camelCase, casings.pascalCase, casings.upperSnakeCase]

/-- Splits the name once for all three casings. -/
def Casings.of (name : String) : Casings :=
  let words := wordsOf name.toList
  ⟨String.ofList (camelWords words), String.ofList (pascalWords words),
    String.ofList (upperSnakeWords words)⟩

end Introspection
