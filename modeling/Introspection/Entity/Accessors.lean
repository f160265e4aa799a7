import Introspection.Access
/-!
# What is asked of entities

Lists that do not apply to a type are absent, which is not the same as empty. Where items have
names, all names are read before anything else of them. Of fields with one name the last one is
found by it, of arguments and input fields the first.
-/

namespace Introspection

namespace Record

variable (r : Record)

/-- Reads the items of a list that may be null. -/
def optional {α : Type} (key : String) (readAll : List Json → View α) : View (Option α) := do
  match ← View.read (r.listOrNull key) with
  | some items => some <$> readAll items
  | none => pure none

def readType : Reading TypeRef := do TypeRef.read (← r.fetch "type")

def location (item : Json) : Reading DirectiveLocation :=
  Reading.require (.unknownLocation item r.place) (DirectiveLocation.read? item)

def readLocations : Reading (List DirectiveLocation) := do
  (← r.list "locations").mapM r.location

def locationName (item : Json) : Reading String :=
  Reading.require (.unknownLocation item r.place) item.string?

def readLocationNames : Reading (List String) := do
  (← r.list "locations").mapM r.locationName

end Record

namespace Node

variable (n : Node)

def casings : View Casings := .memo .casings n.record (pure (.of n.name))

def description : View (Option String) := .read (n.record.stringOrNull "description")

def deprecationReason : View (Option String) := .read (n.record.stringOrNull "deprecationReason")

def type : View TypeRef := .memo .type n.record (.read n.record.readType)

end Node

def InputValue.defaultValue (v : InputValue) : View (Option String) :=
  .read (v.record.stringOrNull "defaultValue")

def InputValue.isRequired (v : InputValue) : View Bool := do pure (← v.type).isNonNull

namespace InputValues

/-- Sets the required values apart from the optional ones. -/
def split : List InputValue → View (List InputValue × List InputValue)
  | [] => pure ([], [])
  | value :: rest => do
      let type ← value.type
      let (required, optional) ← split rest
      pure (if type.isNonNull then (value :: required, optional) else (required, value :: optional))

/-- Reads input values: first all their names, then all their types. -/
def read (items : List Json) : View InputValues := do
  let all ← .read (items.mapM InputValue.read)
  let (required, optional) ← split all
  pure ⟨all, required, optional⟩

def find? (values : InputValues) (name : String) : Option InputValue :=
  findByName? (·.name) values.all name

end InputValues

def Node.arguments (n : Node) : View InputValues :=
  .memo .arguments n.record do InputValues.read (← .read (n.record.list "args"))

/-- Whether fields are deprecated is read after all their names. -/
def Field.readAll (items : List Json) : Reading (Deprecatables Field) := do
  let fields ← items.mapM Field.read
  Deprecatables.ofAll (·.isDeprecated) fields

/-- Whether enum values are deprecated is read in the order of their names. -/
def EnumValue.readAll (items : List Json) : Reading (Deprecatables EnumValue) := do
  let values ← items.mapM EnumValue.read
  Deprecatables.ofAll (·.isDeprecated) (sortByName (·.name) values)

def TypeRef.readAll (items : List Json) : Reading (List TypeRef) := do
  let refs ← items.mapM TypeRef.read
  pure (sortByName (·.namedType) refs)

namespace TypeDefinition

variable (t : TypeDefinition)

def specifiedByUrl : View (Option String) := .read (t.record.string? "specifiedByURL")

def fieldList : View (Option (Deprecatables Field)) :=
  .memo .fields t.record (t.record.optional "fields" fun items => .read (Field.readAll items))

def fields (withDeprecated : Bool) : View (Option (List Field)) := do
  pure ((← t.fieldList).map (·.view withDeprecated))

def fieldsByName : View (Option (NameMap Field)) :=
  .memo .fieldsByName t.record do pure ((← t.fields true).map (.of (·.name)))

def field? (name : String) : View (Option Field) := do
  pure ((← t.fieldsByName).bind (·.find? name))

def inputFieldList : View (Option InputValues) :=
  .memo .inputFields t.record (t.record.optional "inputFields" InputValues.read)

def inputField? (name : String) : View (Option InputValue) := do
  pure ((← t.inputFieldList).bind (·.find? name))

def refs (key : String) : View (Option (List TypeRef)) :=
  t.record.optional key fun items => .read (TypeRef.readAll items)

def interfaces : View (Option (List TypeRef)) := .memo .interfaces t.record (t.refs "interfaces")

def possibleTypes : View (Option (List TypeRef)) :=
  .memo .possibleTypes t.record (t.refs "possibleTypes")

/-- Whether a list of references that may not apply names a type. -/
def names (refs : Option (List TypeRef)) (name : String) : Bool :=
  refs.any (·.any (·.namedType = name))

def implements (name : String) : View Bool := do pure (names (← t.interfaces) name)

def isPossibleType (name : String) : View Bool := do pure (names (← t.possibleTypes) name)

def enumValueList : View (Option (Deprecatables EnumValue)) :=
  .memo .enumValues t.record
    (t.record.optional "enumValues" fun items => .read (EnumValue.readAll items))

def enumValues (withDeprecated : Bool) : View (Option (List EnumValue)) := do
  pure ((← t.enumValueList).map (·.view withDeprecated))

end TypeDefinition

/-- Whether a selection of the field selects fields of its type. -/
def Field.hasSubfields (f : Field) : View Bool := do pure (← f.type).hasSubfields

namespace Directive

variable (d : Directive)

def locations : View (List DirectiveLocation) :=
  .memo .locations d.record (.read d.record.readLocations)

def locationNames : View (List String) :=
  .memo .locationNames d.record (.read d.record.readLocationNames)

def hasLocation (location : DirectiveLocation) : View Bool := do
  pure ((← d.locationNames).contains location.name)

/-- Whether the directive may stand more than once at a place; a document need not tell. -/
def isRepeatable : View Bool := do
  pure ((← View.read (d.record.bool? "isRepeatable")).getD false)

end Directive

end Introspection
