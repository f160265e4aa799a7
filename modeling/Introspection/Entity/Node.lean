import Introspection.Record
import Introspection.Naming.Casing
/-!
# Named nodes

Every type, field, input value, enum value and directive is a node of the document with a name,
which is read before anything else and then stands in what is told of the node.
-/

namespace Introspection

structure Node where
  owner : Owner
  name : String
  json : Json
  deriving DecidableEq

namespace Node

def read (owner : Owner) (json : Json) : Reading Node := do
  let name ← (Record.unnamed owner json).string "name"
  pure ⟨owner, name, json⟩

variable (n : Node)

def record : Record := ⟨⟨n.owner, some n.name⟩, n.json⟩

def structureText : String := n.owner.text ++ "(" ++ quoted n.name ++ ")"

end Node

/-- Sorts by names in the order of their bytes; equal names keep their order. -/
def sortByName {α : Type} (name : α → String) (items : List α) : List α :=
  items.mergeSort fun a b => decide (name a ≤ name b)

/-- Items under their names, each with its position; of two with one name the later one stands. -/
abbrev NameMap (α : Type) := List (String × α × Nat)

def NameMap.of {α : Type} (name : α → String) (items : List α) : NameMap α :=
  items.zipIdx.foldl (fun map (item, position) => insertMember (name item) (item, position) map) []

def NameMap.find? {α : Type} (map : NameMap α) (name : String) : Option α :=
  (map.lookup name).map (·.1)

def findByName? {α : Type} (name : α → String) (items : List α) (wanted : String) : Option α :=
  items.find? (name · = wanted)

end Introspection
