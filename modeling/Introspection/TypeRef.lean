import Introspection.Record
/-!
# Type references

A reference is a chain of wrappers around a named type. A document writes it as nested nodes, each
with a kind and either a name or the node it wraps; in the notation of schemas a list stands in
brackets and a mark follows what is not null.
-/

namespace Introspection

inductive TypeRef where
  | named (kind : TypeKind) (name : String)
  | list (inner : TypeRef)
  | nonNull (inner : TypeRef)
  deriving DecidableEq

namespace TypeRef

/-- The wrapper that a kind stands for, if it is no kind of named types. -/
def wrapper? : TypeKind → Option (TypeRef → TypeRef)
  | .list => some .list
  | .nonNull => some .nonNull
  | _ => none

def read (json : Json) : Reading TypeRef := do
  let record := Record.unnamed .type json
  let kind ← record.kind
  match wrapper? kind with
  | some wrap =>
      let ⟨inner, _⟩ ← record.member "ofType"
      if inner = .null then .fail (.wrapsNull kind)
      else
        let wrapped ← read inner
        pure (wrap wrapped)
  | none =>
      let name ← record.string "name"
      pure (.named kind name)
termination_by sizeOf json
decreasing_by exact Json.sizeOf_lt_of_member? ‹_›

def kind : TypeRef → TypeKind
  | named kind _ => kind
  | list _ => .list
  | nonNull _ => .nonNull

def name? : TypeRef → Option String
  | named _ name => some name
  | _ => none

def ofType? : TypeRef → Option TypeRef
  | named _ _ => none
  | list inner => some inner
  | nonNull inner => some inner

def isList : TypeRef → Bool
  | list _ => true
  | _ => false

def isNonNull : TypeRef → Bool
  | nonNull _ => true
  | _ => false

def unwrap : TypeRef → TypeRef
  | named kind name => named kind name
  | list inner => inner.unwrap
  | nonNull inner => inner.unwrap

def unwrapList : TypeRef → TypeRef
  | list inner => inner.unwrapList
  | ref => ref

def unwrapNonNull : TypeRef → TypeRef
  | nonNull inner => inner.unwrapNonNull
  | ref => ref

def namedKind (ref : TypeRef) : TypeKind := ref.unwrap.kind

def namedType : TypeRef → String
  | named _ name => name
  | list inner => inner.namedType
  | nonNull inner => inner.namedType

def hasSubfields (ref : TypeRef) : Bool := ref.namedKind.hasSubfields

/-- The kinds from the outermost wrapper to the named type. -/
def chain : TypeRef → List TypeKind
  | named kind _ => [kind]
  | list inner => .list :: inner.chain
  | nonNull inner => .nonNull :: inner.chain

/-- The reference in the notation of schemas. -/
def text : TypeRef → String
  | named _ name => name
  | list inner => "[" ++ inner.text ++ "]"
  | nonNull inner => inner.text ++ "!"

def structureText : TypeRef → String
  | named kind name => "Named(" ++ kind.label ++ ", " ++ quoted name ++ ")"
  | list inner => "ListType(" ++ inner.structureText ++ ")"
  | nonNull inner => "NonNullType(" ++ inner.structureText ++ ")"

end TypeRef

end Introspection
