import Introspection.Entity.Accessors
/-!
# Schemas

A schema is the `__schema` node of an introspection result. Its roots are looked up each time they
are asked for; its types and directives are read once, in the order of their names. Of types with
one name the last one is found by it, of directives the first.
-/

namespace Introspection

structure Schema where
  record : Record
  deriving DecidableEq

namespace Schema

variable (s : Schema)

def readQueryRootName : Reading String := do
  let root ← s.record.object "queryType" .queryType
  root.string "name"

def readMutationRootName : Reading (Option String) := do
  match ← s.record.fetch "mutationType" with
  | .null => pure none
  | root => some <$> (Record.unnamed .mutationType root).string "name"

def readSubscriptionRootName : Reading (Option String) := do
  match ← s.record.find? "subscriptionType" with
  | none => pure none
  | some root => some <$> (Record.unnamed .subscriptionType root).string "name"

/-- The names of the roots as far as they can be read. -/
def readRoots : Reading (Option String × Option String) := do
  let query ← s.readQueryRootName.attempt
  let mutation ← s.readMutationRootName.attempt
  pure (query, mutation.join)

def read (document : Json) : Reading Schema := do
  let data ← (Record.unnamed .document document).object "data" .data
  let record ← data.object "__schema" .schema
  pure ⟨record⟩

/-- Reads a schema and logs its roots. -/
def create (document : Json) : Reading Schema := do
  let schema ← read document
  let (query, mutation) ← schema.readRoots
  Reading.note (.created query mutation)
  pure schema

def queryRootName : View String := .read s.readQueryRootName

def mutationRootName : View (Option String) := .read s.readMutationRootName

def subscriptionRootName : View (Option String) := .read s.readSubscriptionRootName

/-- Whether a name is that of the query or mutation root. The mutation root is only looked up for
names that the query root does not have. -/
def isRootTypeName (name : String) : View Bool := do
  if (← s.queryRootName) = name then pure true
  else pure ((← s.mutationRootName) == some name)

def readTypes : Reading (List TypeDefinition) := do
  let types ← (← s.record.list "types").mapM TypeDefinition.read
  Reading.note (.readTypes types.length)
  pure (sortByName (·.name) types)

def types : View (List TypeDefinition) := .memo .types s.record (.read s.readTypes)

def typesByName : View (NameMap TypeDefinition) :=
  .memo .typesByName s.record do pure (.of (·.name) (← s.types))

def typeByName? (name : String) : View (Option TypeDefinition) := do
  pure ((← s.typesByName).find? name)

def readDirectives : Reading (List Directive) := do
  let directives ← (← s.record.list "directives").mapM Directive.read
  Reading.note (.readDirectives directives.length)
  pure (sortByName (·.name) directives)

def directives : View (List Directive) := .memo .directives s.record (.read s.readDirectives)

def directiveByName? (name : String) : View (Option Directive) := do
  pure (findByName? (·.name) (← s.directives) name)

/-- The text that shows how the schema is built; roots that cannot be read are left out. -/
def structureText : View String := do
  let (query, mutation) ← .read s.readRoots
  pure ("Schema \x7b query_type: " ++ quotedOption query ++ ", mutation_type: " ++
    quotedOption mutation ++ ", .. \x7d")

end Schema

end Introspection
