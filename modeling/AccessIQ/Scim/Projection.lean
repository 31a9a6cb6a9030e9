import AccessIQ.Python.Dict
import AccessIQ.Python.Json
import AccessIQ.Scim.UserPayloads

/-
  The attributes a SCIM request asks for, and the resources
  cut down to them.

  A path stands for the key of its part before the first dot,
  in any case.

  Key definitions include:
    * `parseAttributeList`
    * `ScimProjection`
    * `parseAttributeProjection`
    * `resolveResourceKey`
    * `applyAttributeProjection`
-/

------------------------------------------------------------
-- Attribute Lists
------------------------------------------------------------

namespace AccessIQ

namespace Scim

open Python

/- `[A-Za-z0-9_.:$-]`. -/
def isPathChar
    (c : Char) :
    Bool :=
  c.isAlphanum || c == '_' || c == '.' || c == ':' ||
    c == '$' || c == '-'

/- `ATTRIBUTE_PATH_PATTERN`. -/
def isAttributePath
    (path : String) :
    Bool :=
  match path.toList with
  | [] => false
  | c :: cs => c.isAlpha && cs.all isPathChar

/- One path of a list. -/
def parseAttributePath
    (queryName rawAttribute : String) :
    Except PyException String :=
  let path := strip rawAttribute
  if path = "" then
    .error
      (invalidPath
        s!"{queryName} contains an empty attribute path")
  else if isAttributePath path then
    .ok path
  else
    .error
      (invalidPath
        s!"{queryName} contains an invalid attribute path")

/- `_parse_attribute_list`; `none` without a list. -/
def parseAttributeList
    (queryName : String)
    (rawValue : Option String) :
    Except PyException (Option (List String)) :=
  match rawValue with
  | none => .ok none
  | some rawValue =>
      if rawValue = "" then
        .ok (some [])
      else do
        let attributes ←
          (rawValue.toList.splitOn ',').mapM fun cs =>
            parseAttributePath queryName (String.ofList cs)
        return some attributes

structure ScimProjection where
  attributes : Option (List String) := none
  excludedAttributes : List String := []
  deriving DecidableEq, Repr

/- `parse_attribute_projection`. -/
def parseAttributeProjection
    (attributes excludedAttributes : Option String) :
    Except PyException ScimProjection := do
  let selected ← parseAttributeList "attributes" attributes
  let excluded ←
    parseAttributeList "excludedAttributes" excludedAttributes
  return ⟨selected, excluded.getD []⟩

end Scim

end AccessIQ

------------------------------------------------------------
-- Projected Resources
------------------------------------------------------------

namespace AccessIQ

namespace Scim

open Python

/- `_top_level_attribute`. -/
def topLevelAttribute
    (path : String) :
    String :=
  String.ofList (path.toList.takeWhile (· ≠ '.'))

/- `ALWAYS_RETURNED_ATTRIBUTES`. -/
def alwaysReturnedAttributes : List String :=
  ["schemas", "id"]

variable [Platform]

/- The keys of a resource under their lower case. -/
def canonicalKeys
    (resource : JsonObject) :
    Dict String String :=
  (resource.map Prod.fst).foldl
    (fun keys key => keys.set (Platform.lower key) key)
    .empty

/- `_resolve_resource_key`. -/
def resolveResourceKey
    (keys : Dict String String)
    (path : String) :
    Option String :=
  keys.get? (Platform.lower (topLevelAttribute path))

/- The keys a projection selects before it excludes any. -/
def selectedKeys
    (resource : JsonObject)
    (projection : ScimProjection) :
    List String :=
  match projection.attributes with
  | none => resource.map Prod.fst
  | some attributes =>
      (attributes ++ alwaysReturnedAttributes).filterMap
        (resolveResourceKey (canonicalKeys resource))

/- The keys a projection excludes. -/
def excludedKeys
    (resource : JsonObject)
    (projection : ScimProjection) :
    List String :=
  (projection.excludedAttributes.filter fun path =>
      topLevelAttribute path ∉
        alwaysReturnedAttributes).filterMap
    (resolveResourceKey (canonicalKeys resource))

/- `apply_attribute_projection`. -/
def applyAttributeProjection
    (resource : JsonObject)
    (projection : ScimProjection) :
    JsonObject :=
  resource.filter fun member =>
    member.1 ∈ selectedKeys resource projection ∧
      member.1 ∉ excludedKeys resource projection

end Scim

end AccessIQ
