import Introspection.Answer
/-!
# Descriptions

The description of an entity has the outcome of each of its accessors in a fixed order of calls. A
walk adds the walks of what the entity contains.
-/

namespace Introspection

def outcomeJson : Except Fault Json → Json
  | .ok value => .ofMembers [("ok", value)]
  | .error fault => fault.toError.toJson

private def named (names : List String) : List (String × Call) :=
  names.filterMap fun name => (Call.of? name []).map (name, ·)

def nodeCalls : List (String × Call) :=
  named ["name", "description", "camelize_name", "classify_name", "upcase_name"]

def argumentCalls : List (String × Call) := named ["args", "required_args", "optional_args"]

namespace Entity

def accessors : Entity → List (String × Call)
  | schema _ =>
      named ["query_root_name", "mutation_root_name", "subscription_root_name", "types",
        "types_by_name", "directives", "debug"]
  | type _ =>
      nodeCalls ++
        named ["kind", "is_scalar", "is_object", "is_interface", "is_union", "is_enum",
          "is_input_object", "is_builtin", "specified_by_url"] ++
        [("fields", .fields true), ("active_fields", .fields false)] ++
        named ["fields_by_name", "input_fields", "required_input_fields",
          "optional_input_fields", "interfaces", "possible_types"] ++
        [("enum_values", .enumValues true), ("active_enum_values", .enumValues false)]
  | field _ =>
      nodeCalls ++ named ["type_ref", "has_subfields", "is_deprecated", "deprecation_reason"] ++
        argumentCalls
  | inputValue _ => nodeCalls ++ named ["type_ref", "default_value", "is_required"]
  | enumValue _ => nodeCalls ++ named ["is_deprecated", "deprecation_reason"]
  | directive _ =>
      nodeCalls ++ named ["locations", "location_names", "is_repeatable", "is_builtin"] ++
        argumentCalls
  | ref _ =>
      named ["kind", "name", "of_type", "is_list", "is_non_null", "unwrap", "unwrap_list",
        "unwrap_non_null", "named_kind", "named_type", "has_subfields", "to_string", "debug"]
  | plain _ => []

def children : Entity → List (String × Call)
  | schema _ => [("types", .types), ("directives", .directives)]
  | type _ =>
      [("fields", .fields true), ("input_fields", .inputFields),
        ("enum_values", .enumValues true)]
  | field _ => [("args", .arguments)]
  | directive _ => [("args", .arguments)]
  | _ => []

def outcomes (e : Entity) : Access (List (String × Json)) :=
  (e.accessors.filterMap fun (name, call) => (e.ask call).map (name, ·)).mapM
    fun (name, view) => do
      let outcome ← (do (← view).render : View Json).run
      pure (name, outcomeJson outcome)

def describe (e : Entity) : Access Json := do pure (.ofMembers (← e.outcomes))

/-- Describes an entity and what it contains, to a depth. -/
def walk : Nat → Entity → Access Json
  | 0, e => e.describe
  | depth + 1, e => do
      let outcomes ← e.outcomes
      let below ← (e.children.filterMap fun (name, call) => (e.ask call).map (name, ·)).mapM
        fun (name, view) => do
          match ← view.run with
          | .ok (.many entities) =>
              let walks ← entities.mapM (walk depth)
              pure [("walk_" ++ name, .arr walks)]
          | _ => pure []
      pure (.ofMembers (outcomes ++ below.flatten))

/-- From a schema through a type and a field to its arguments. -/
def walkDepth : Nat := 3

/-- Whether an entity has a description, which plain values do not have. -/
def isDescribed : Entity → Bool
  | plain _ => false
  | _ => true

end Entity

namespace Answer

/-- Writes an entity or each of a list by `write`. -/
def each (write : Entity → Access Json) : Answer → Option (View Answer)
  | nothing => some (pure nothing)
  | one entity =>
      if entity.isDescribed then some (json <$> ExceptT.lift (write entity)) else none
  | many entities =>
      if entities.all Entity.isDescribed then
        some ((json ∘ .arr) <$> ExceptT.lift (entities.mapM write))
      else none

/-- What follows an answer by a call. A list has nothing at a number that is no index of it. -/
def ask (answer : Answer) : Call → Option (View Answer)
  | .describe => answer.each Entity.describe
  | .walk => answer.each (Entity.walk Entity.walkDepth)
  | call =>
      match answer, call with
      | nothing, _ => some (pure nothing)
      | one entity, call => entity.ask call
      | many entities, .item index =>
          some (pure (option one (index.natural?.bind (entities[·]?))))
      | many entities, .length => some (pure (json (.num (.integer entities.length))))
      | many _, _ => none

end Answer

end Introspection
