import Introspection.Call
/-!
# Answers

An answer is nothing, one entity or a list of entities, where a plain value counts as an entity.
Calls on an answer give the next one; nothing answers every call with nothing.
-/

namespace Introspection

inductive Entity where
  | schema (schema : Schema)
  | type (type : TypeDefinition)
  | field (field : Field)
  | inputValue (value : InputValue)
  | enumValue (value : EnumValue)
  | directive (directive : Directive)
  | ref (ref : TypeRef)
  | plain (json : Json)

inductive Answer where
  | nothing
  | one (entity : Entity)
  | many (entities : List Entity)

namespace Answer

def string (s : String) : Answer := .one (.plain (.str s))

def bool (b : Bool) : Answer := .one (.plain (.bool b))

def json (value : Json) : Answer := .one (.plain value)

def kind (kind : TypeKind) : Answer := string kind.name

def strings (ss : List String) : Answer := .many (ss.map fun s => .plain (.str s))

def option {α : Type} (write : α → Answer) : Option α → Answer
  | none => .nothing
  | some a => write a

def items {α : Type} (entity : α → Entity) (as : List α) : Answer := .many (as.map entity)

def positions {α : Type} (map : NameMap α) : Answer :=
  json (.obj (map.map fun (name, _, position) => (name, .num (.integer position))))

end Answer

open Answer (string bool strings option items positions)

def Schema.ask (s : Schema) : Call → Option (View Answer)
  | .queryRootName => some (string <$> s.queryRootName)
  | .mutationRootName => some (option string <$> s.mutationRootName)
  | .subscriptionRootName => some (option string <$> s.subscriptionRootName)
  | .isRootTypeName name => some (bool <$> s.isRootTypeName name)
  | .types => some (items .type <$> s.types)
  | .typesByName => some (positions <$> s.typesByName)
  | .typeByName name => some (option (.one ∘ .type) <$> s.typeByName? name)
  | .directives => some (items .directive <$> s.directives)
  | .directiveByName name => some (option (.one ∘ .directive) <$> s.directiveByName? name)
  | .json => some (pure (.json s.record.json))
  | .structureText => some (string <$> s.structureText)
  | _ => none

/-- What every named entity answers. -/
def Node.ask (n : Node) : Call → Option (View Answer)
  | .name => some (pure (string n.name))
  | .description => some (option string <$> n.description)
  | .camelCase => some ((string ∘ Casings.camelCase) <$> n.casings)
  | .pascalCase => some ((string ∘ Casings.pascalCase) <$> n.casings)
  | .upperSnakeCase => some ((string ∘ Casings.upperSnakeCase) <$> n.casings)
  | .casings => some ((strings ∘ Casings.toList) <$> n.casings)
  | .json => some (pure (.json n.json))
  | .nodeText => some (pure (string n.structureText))
  | _ => none

/-- What fields and directives answer about their arguments. -/
def Node.askArguments (n : Node) : Call → Option (View Answer)
  | .arguments => some ((items .inputValue ∘ InputValues.all) <$> n.arguments)
  | .requiredArguments => some ((items .inputValue ∘ InputValues.required) <$> n.arguments)
  | .optionalArguments => some ((items .inputValue ∘ InputValues.optional) <$> n.arguments)
  | .argument name => some ((option (.one ∘ .inputValue) ∘ (·.find? name)) <$> n.arguments)
  | call => n.ask call

def TypeDefinition.ask (t : TypeDefinition) : Call → Option (View Answer)
  | .kind => some (pure (.kind t.kind))
  | .isKind kind => if kind.isNamed then some (pure (bool (t.kind == kind))) else none
  | .isBuiltin => some (pure (bool t.isBuiltin))
  | .specifiedByUrl => some (option string <$> t.specifiedByUrl)
  | .fields withDeprecated => some (option (items .field) <$> t.fields withDeprecated)
  | .fieldsByName => some (option positions <$> t.fieldsByName)
  | .field name => some (option (.one ∘ .field) <$> t.field? name)
  | .inputFields =>
      some (option (items .inputValue ∘ InputValues.all) <$> t.inputFieldList)
  | .requiredInputFields =>
      some (option (items .inputValue ∘ InputValues.required) <$> t.inputFieldList)
  | .optionalInputFields =>
      some (option (items .inputValue ∘ InputValues.optional) <$> t.inputFieldList)
  | .inputField name => some (option (.one ∘ .inputValue) <$> t.inputField? name)
  | .interfaces => some (option (items .ref) <$> t.interfaces)
  | .implements name => some (bool <$> t.implements name)
  | .possibleTypes => some (option (items .ref) <$> t.possibleTypes)
  | .isPossibleType name => some (bool <$> t.isPossibleType name)
  | .enumValues withDeprecated => some (option (items .enumValue) <$> t.enumValues withDeprecated)
  | call => t.toNode.ask call

def Field.ask (f : Field) : Call → Option (View Answer)
  | .type => some ((.one ∘ .ref) <$> f.type)
  | .hasSubfields => some (bool <$> f.hasSubfields)
  | .isDeprecated => some (bool <$> View.read f.isDeprecated)
  | .deprecationReason => some (option string <$> f.deprecationReason)
  | call => f.toNode.askArguments call

def InputValue.ask (v : InputValue) : Call → Option (View Answer)
  | .type => some ((.one ∘ .ref) <$> v.type)
  | .defaultValue => some (option string <$> v.defaultValue)
  | .isRequired => some (bool <$> v.isRequired)
  | call => v.toNode.ask call

def EnumValue.ask (v : EnumValue) : Call → Option (View Answer)
  | .isDeprecated => some (bool <$> View.read v.isDeprecated)
  | .deprecationReason => some (option string <$> v.deprecationReason)
  | call => v.toNode.ask call

def Directive.ask (d : Directive) : Call → Option (View Answer)
  | .locations => some ((strings ∘ List.map DirectiveLocation.name) <$> d.locations)
  | .locationNames => some (strings <$> d.locationNames)
  | .hasLocation location => some (bool <$> d.hasLocation location)
  | .isRepeatable => some (bool <$> d.isRepeatable)
  | .isBuiltin => some (pure (bool d.isBuiltin))
  | call => d.toNode.askArguments call

/-- What a type reference answers, which takes no access to the document. -/
def TypeRef.answer? (r : TypeRef) : Call → Option Answer
  | .kind => some (.kind r.kind)
  | .name => some (option string r.name?)
  | .ofType => some (option (.one ∘ .ref) r.ofType?)
  | .isKind .list => some (bool r.isList)
  | .isKind .nonNull => some (bool r.isNonNull)
  | .unwrap => some (.one (.ref r.unwrap))
  | .unwrapList => some (.one (.ref r.unwrapList))
  | .unwrapNonNull => some (.one (.ref r.unwrapNonNull))
  | .namedKind => some (.kind r.namedKind)
  | .namedType => some (string r.namedType)
  | .hasSubfields => some (bool r.hasSubfields)
  | .text => some (string r.text)
  | .structureText => some (string r.structureText)
  | _ => none

namespace Entity

/-- What an entity answers; there is no answer where a call does not apply to it. -/
def ask : Entity → Call → Option (View Answer)
  | schema s, call => s.ask call
  | type t, call => t.ask call
  | field f, call => f.ask call
  | inputValue v, call => v.ask call
  | enumValue v, call => v.ask call
  | directive d, call => d.ask call
  | ref r, call => (r.answer? call).map pure
  | plain _, _ => none

/-- How an entity stands in an answer: mostly by its name. -/
def render : Entity → View Json
  | schema s => .str <$> s.structureText
  | type t => pure (.str t.name)
  | field f => pure (.str f.name)
  | inputValue v => pure (.str v.name)
  | enumValue v => pure (.str v.name)
  | directive d => pure (.str d.name)
  | ref r => pure (.str r.text)
  | plain json => pure json

end Entity

namespace Answer

def render : Answer → View Json
  | nothing => pure .null
  | one entity => entity.render
  | many entities => .arr <$> entities.mapM Entity.render

end Answer

end Introspection
