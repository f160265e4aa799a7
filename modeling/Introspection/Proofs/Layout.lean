import Introspection.Call
/-!
# The layout of an introspection result

Each value of an introspection result has a role: it is a node that is read by certain keys, a
list of such nodes, or a leaf that is read as a whole. The role of a node fixes its keys and the
roles of what stands under them. Other keys, and what they hold, have no role.
-/

namespace Introspection

/-- What a value of an introspection result is read as. -/
inductive Role where
  | leaf (shape : Shape)
  | node (owner : Owner)
  | reference
  | nodes (owner : Owner) (shape : Shape)
  | references
  deriving DecidableEq

/-- The keys that a node is read by, with the roles of their values. -/
def Owner.keys : Owner → List (String × Role)
  | document => [("data", .node .data)]
  | data => [("__schema", .node .schema)]
  | schema =>
      [("queryType", .node .queryType), ("mutationType", .node .mutationType),
        ("subscriptionType", .node .subscriptionType), ("types", .nodes .type .list),
        ("directives", .nodes .directive .list)]
  | queryType | mutationType | subscriptionType => [("name", .leaf .string)]
  | type =>
      [("kind", .leaf .enumerator), ("name", .leaf .string),
        ("description", .leaf .stringOrNull), ("specifiedByURL", .leaf .stringOrNull),
        ("fields", .nodes .field .listOrNull), ("inputFields", .nodes .inputValue .listOrNull),
        ("interfaces", .references), ("possibleTypes", .references),
        ("enumValues", .nodes .enumValue .listOrNull)]
  | field =>
      [("name", .leaf .string), ("description", .leaf .stringOrNull),
        ("args", .nodes .inputValue .list), ("type", .reference),
        ("isDeprecated", .leaf .bool), ("deprecationReason", .leaf .stringOrNull)]
  | inputValue =>
      [("name", .leaf .string), ("description", .leaf .stringOrNull), ("type", .reference),
        ("defaultValue", .leaf .stringOrNull)]
  | enumValue =>
      [("name", .leaf .string), ("description", .leaf .stringOrNull),
        ("isDeprecated", .leaf .bool), ("deprecationReason", .leaf .stringOrNull)]
  | directive =>
      [("name", .leaf .string), ("description", .leaf .stringOrNull),
        ("locations", .leaf .list), ("args", .nodes .inputValue .list),
        ("isRepeatable", .leaf .boolOrNull)]

def Owner.isNamed : Owner → Bool
  | type | field | inputValue | enumValue | directive => true
  | _ => false

namespace Role

def keys : Role → List (String × Role)
  | node owner => owner.keys
  | reference =>
      [("kind", .leaf .enumerator), ("name", .leaf .string), ("ofType", .reference)]
  | _ => []

def shape : Role → Shape
  | leaf shape => shape
  | node _ => .object
  | reference => .object
  | nodes _ shape => shape
  | references => .listOrNull

/-- How errors call a value in a role: a named node by its name, where that can be read. -/
def place : Role → Json → Place
  | node owner, v =>
      ⟨owner, if owner.isNamed then (v.member? "name").bind Json.string? else none⟩
  | _, _ => ⟨.type, none⟩

/-- A value in a role that is, or has below it, another value in its role. -/
inductive Holds (role : Role) (v : Json) : Role → Json → Prop
  | self : Holds role v role v
  | member {above below : Role} {w x : Json} {key : String} (holds : Holds role v above w)
      (known : above.keys.lookup key = some below) (found : w.member? key = some x) :
      Holds role v below x
  | node {owner : Owner} {shape : Shape} {items : List Json} {x : Json}
      (holds : Holds role v (.nodes owner shape) (.arr items)) (mem : x ∈ items) :
      Holds role v (.node owner) x
  | reference {items : List Json} {x : Json} (holds : Holds role v .references (.arr items))
      (mem : x ∈ items) : Holds role v .reference x

theorem Holds.trans {role above below : Role} {v w x : Json} (h : role.Holds v above w)
    (hbelow : above.Holds w below x) : role.Holds v below x := by
  induction hbelow with
  | self => exact h
  | member _ known found ih => exact ih.member known found
  | node _ mem ih => exact ih.node mem
  | reference _ mem ih => exact ih.reference mem

/-- What is read of a node by some of its keys: the node, and what stands under the keys. -/
def Reads (role : Role) (keys : List String) (v : Json) (below : Role) (w : Json) : Prop :=
  (below = role ∧ w = v) ∨ ∃ key ∈ keys, ∃ under x, role.keys.lookup key = some under ∧
    v.member? key = some x ∧ under.Holds x below w

theorem Reads.holds {role below : Role} {keys : List String} {v w : Json}
    (h : role.Reads keys v below w) : role.Holds v below w := by
  rcases h with ⟨rfl, rfl⟩ | ⟨key, _, under, x, hknown, hfound, hbelow⟩
  · exact .self
  · exact (Holds.self.member hknown hfound).trans hbelow

end Role

theorem Owner.keys_name {owner : Owner} (h : owner.isNamed = true) :
    (Role.node owner).keys.lookup "name" = some (.leaf .string) := by
  cases owner <;> first | rfl | cases h

theorem Owner.keys_description {owner : Owner} (h : owner.isNamed = true) :
    (Role.node owner).keys.lookup "description" = some (.leaf .stringOrNull) := by
  cases owner <;> first | rfl | cases h

/-! ## Calls -/

def Call.keys : Call → List String
  | queryRootName => ["queryType"]
  | mutationRootName => ["mutationType"]
  | subscriptionRootName => ["subscriptionType"]
  | isRootTypeName _ => ["queryType", "mutationType"]
  | types | typesByName | typeByName _ => ["types"]
  | directives | directiveByName _ => ["directives"]
  | description => ["description"]
  | isDeprecated => ["isDeprecated"]
  | deprecationReason => ["deprecationReason"]
  | arguments | requiredArguments | optionalArguments | argument _ => ["args"]
  | specifiedByUrl => ["specifiedByURL"]
  | fields _ | fieldsByName | field _ => ["fields"]
  | inputFields | requiredInputFields | optionalInputFields | inputField _ => ["inputFields"]
  | interfaces | implements _ => ["interfaces"]
  | possibleTypes | isPossibleType _ => ["possibleTypes"]
  | enumValues _ => ["enumValues"]
  | type | hasSubfields | isRequired => ["type"]
  | defaultValue => ["defaultValue"]
  | locations | locationNames | hasLocation _ => ["locations"]
  | isRepeatable => ["isRepeatable"]
  | _ => []

end Introspection
