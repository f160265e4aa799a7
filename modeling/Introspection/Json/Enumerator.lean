import Introspection.Json.Basic
/-!
# Names of enumerators

A value of an enumeration is written by its name, or by an object whose one key is the name and
whose value there is null.
-/

namespace Introspection.Json

/-- The name that an enumerator is written by. -/
def enumerator? : Json → Option String
  | .str name => some name
  | .obj [(name, .null)] => some name
  | _ => none

end Introspection.Json
