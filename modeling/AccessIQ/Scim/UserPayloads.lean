import AccessIQ.Exceptions
import AccessIQ.Python.Numbers

/-
  The payloads of the SCIM user requests.

  A create or replace payload names every attribute of a user
  and, in its extension, those of an enterprise profile.  A
  PATCH payload is a list of operations, which are folded
  into one mutation of the user and one of the profile.

  Key definitions include:
    * `UserMutation`
    * `EnterpriseProfileMutation`
    * `ScimUserPayload`
    * `ScimUserPatch`
    * `parseUserPayload`
    * `applyPatchOperation`
    * `parsePatchPayload`
-/

------------------------------------------------------------
-- Mutations
------------------------------------------------------------

namespace AccessIQ

namespace Scim

/- What a PATCH sets of a user; `none` is left as it is. -/
structure UserMutation where
  userName : Option String := none
  displayName : Option String := none
  active : Option Bool := none
  deriving DecidableEq, Repr

/-
  What a request sets of an enterprise profile.  A field is
  `none` where the source has `UNSET`, and `some none` where
  it has `None`.
-/
structure EnterpriseProfileMutation where
  employeeNumber : Option (Option String) := none
  department : Option (Option String) := none
  division : Option (Option String) := none
  organization : Option (Option String) := none
  costCenter : Option (Option String) := none
  managerId : Option (Option Int) := none
  deriving DecidableEq, Repr

/- `has_changes`. -/
def EnterpriseProfileMutation.hasChanges
    (mutation : EnterpriseProfileMutation) :
    Bool :=
  mutation.employeeNumber.isSome ||
    mutation.department.isSome ||
    mutation.division.isSome ||
    mutation.organization.isSome ||
    mutation.costCenter.isSome ||
    mutation.managerId.isSome

structure ScimUserPayload where
  userName : String
  displayName : String
  active : Bool
  enterpriseProfile : Option EnterpriseProfileMutation := none
  deriving DecidableEq, Repr

structure ScimUserPatch where
  userMutation : UserMutation
  enterpriseProfile : Option EnterpriseProfileMutation := none
  deriving DecidableEq, Repr

end Scim

end AccessIQ

------------------------------------------------------------
-- Attributes
------------------------------------------------------------

namespace AccessIQ

namespace Scim

open Python

def scimSchemaUser : String :=
  "urn:ietf:params:scim:schemas:core:2.0:User"

def scimSchemaEnterpriseUser : String :=
  "urn:ietf:params:scim:schemas:extension:enterprise:2.0:User"

/- `_raise_invalid_payload`. -/
def invalidPayload
    (detail : String) :
    PyException :=
  .scim ⟨400, detail, some "invalidValue"⟩

/- `_raise_invalid_path`. -/
def invalidPath
    (detail : String) :
    PyException :=
  .scim ⟨400, detail, some "invalidPath"⟩

/- `dict.get`, which returns `None` for a missing key. -/
def getOrNull
    (o : JsonObject)
    (key : String) :
    Json :=
  (o.get? key).getD .null

def parseDisplayNameValue :
    Json → Except PyException String
  | .string value =>
      if strip value = "" then
        .error
          (invalidPayload
            "displayName must be a non-empty string")
      else if 100 < (strip value).length then
        .error
          (invalidPayload
            "displayName must be 100 characters or fewer")
      else
        .ok (strip value)
  | _ =>
      .error
        (invalidPayload
          "displayName must be a non-empty string")

/- A user is named by `displayName`, else `name.formatted`. -/
def parseDisplayName
    (payload : JsonObject) :
    Except PyException String :=
  match getOrNull payload "displayName" with
  | .null =>
      match getOrNull payload "name" with
      | .object name =>
          match getOrNull name "formatted" with
          | .null =>
              .error
                (invalidPayload "displayName is required")
          | formatted => parseDisplayNameValue formatted
      | _ =>
          .error (invalidPayload "displayName is required")
  | displayName => parseDisplayNameValue displayName

def parseActive : Json → Except PyException Bool
  | .bool value => .ok value
  | _ => .error (invalidPayload "active must be a boolean")

def parseEnterpriseString
    (attributeName : String) :
    Json → Except PyException (Option String)
  | .null => .ok none
  | .string value =>
      if strip value = "" then
        .error
          (invalidPayload s!"{attributeName} must not be empty")
      else if 100 < (strip value).length then
        .error
          (invalidPayload
            (s!"{attributeName} must be 100 characters " ++
              "or fewer"))
      else
        .ok (some (strip value))
  | _ =>
      .error
        (invalidPayload
          s!"{attributeName} must be a string or null")

variable [Platform]

def parseUserName : Json → Except PyException String
  | .string value =>
      if strip value = "" then
        .error (invalidPayload "userName is required")
      else
        match Platform.validateEmail (strip value) with
        | some email => .ok (Platform.lower email)
        | none =>
            .error
              (invalidPayload
                "userName must be a valid email address")
  | _ => .error (invalidPayload "userName is required")

def invalidManager : PyException :=
  invalidPayload "manager.value must be a positive user id"

/- A user id; `int` of an infinite number raises on. -/
def parseManagerId
    (value : Json) :
    Except PyException (Option Int) :=
  match toInt value with
  | .ok managerId =>
      if managerId < 1 then
        .error invalidManager
      else
        .ok (some managerId)
  | .error .typeError => .error invalidManager
  | .error .valueError => .error invalidManager
  | .error .overflowError => .error .overflowError

/- A manager is an id, or an object with the id in `value`. -/
def parseManagerValue :
    Json → Except PyException (Option Int)
  | .null => .ok none
  | .object manager =>
      match JsonObject.get? manager "value" with
      | none =>
          .error (invalidPayload "manager.value is required")
      | some value => parseManagerId value
  | value => parseManagerId value

end Scim

end AccessIQ

------------------------------------------------------------
-- Create And Replace Payloads
------------------------------------------------------------

namespace AccessIQ

namespace Scim

open Python

/- An attribute of the extension, `UNSET` where it is absent. -/
def parseAttribute
    {α : Type}
    (extension : JsonObject)
    (key : String)
    (parse : Json → Except PyException (Option α)) :
    Except PyException (Option (Option α)) :=
  match JsonObject.get? extension key with
  | none => .ok none
  | some value => (parse value).map some

variable [Platform]

/- `_parse_enterprise_profile_payload` of an object. -/
def parseEnterpriseProfile
    (extension : JsonObject) :
    Except PyException EnterpriseProfileMutation := do
  let employeeNumber ←
    parseAttribute extension "employeeNumber"
      (parseEnterpriseString "employeeNumber")
  let department ←
    parseAttribute extension "department"
      (parseEnterpriseString "department")
  let division ←
    parseAttribute extension "division"
      (parseEnterpriseString "division")
  let organization ←
    parseAttribute extension "organization"
      (parseEnterpriseString "organization")
  let costCenter ←
    parseAttribute extension "costCenter"
      (parseEnterpriseString "costCenter")
  let managerId ←
    parseAttribute extension "manager" parseManagerValue
  .ok
    { employeeNumber := employeeNumber
      department := department
      division := division
      organization := organization
      costCenter := costCenter
      managerId := managerId }

/- `none` stands for a payload without the extension. -/
def parseEnterpriseProfilePayload :
    Option Json →
      Except PyException (Option EnterpriseProfileMutation)
  | none => .ok none
  | some (.object extension) =>
      (parseEnterpriseProfile extension).map some
  | some _ =>
      .error
        (invalidPayload
          "Enterprise User extension must be an object")

/- The payload of `POST /Users` and `PUT /Users/{id}`. -/
def parseUserPayload
    (payload : Json)
    (activeDefault : Bool) :
    Except PyException ScimUserPayload :=
  match payload with
  | .object payload => do
      let userName ←
        parseUserName (getOrNull payload "userName")
      let displayName ← parseDisplayName payload
      let active ←
        parseActive
          ((JsonObject.get? payload "active").getD
            (.bool activeDefault))
      let enterpriseProfile ←
        parseEnterpriseProfilePayload
          (JsonObject.get? payload scimSchemaEnterpriseUser)
      .ok
        { userName := userName
          displayName := displayName
          active := active
          enterpriseProfile := enterpriseProfile }
  | _ =>
      .error
        (invalidPayload
          "SCIM User payload must be a JSON object")

end Scim

end AccessIQ

------------------------------------------------------------
-- Patch Operations
------------------------------------------------------------

namespace AccessIQ

namespace Scim

open Python

inductive PatchOp where
  | add
  | replace
  | remove
  deriving DecidableEq, Repr

/- The operation a lowered `op` names. -/
def PatchOp.named : String → Option PatchOp
  | "add" => some .add
  | "replace" => some .replace
  | "remove" => some .remove
  | _ => none

inductive PatchPath where
  | userName
  | displayName
  | active
  deriving DecidableEq, Repr

def patchPaths : List (String × PatchPath) :=
  [("username", .userName), ("displayname", .displayName),
    ("active", .active)]

/- The extension or one of its attributes. -/
inductive EnterprisePath where
  | extension
  | employeeNumber
  | department
  | division
  | organization
  | costCenter
  | manager
  deriving DecidableEq, Repr

def enterprisePatchPaths : List (String × EnterprisePath) :=
  [("employeenumber", .employeeNumber),
    ("department", .department), ("division", .division),
    ("organization", .organization),
    ("costcenter", .costCenter), ("manager", .manager),
    ("manager.value", .manager)]

def enterprisePathPrefix : String :=
  scimSchemaEnterpriseUser ++ ":"

/- `_clear_enterprise_mutation`. -/
def clearEnterpriseMutation :
    EnterpriseProfileMutation where
  employeeNumber := some none
  department := some none
  division := some none
  organization := some none
  costCenter := some none
  managerId := some none

/- The fields `mutation` sets, and `current` for the rest. -/
def EnterpriseProfileMutation.over
    (mutation current : EnterpriseProfileMutation) :
    EnterpriseProfileMutation where
  employeeNumber :=
    mutation.employeeNumber <|> current.employeeNumber
  department := mutation.department <|> current.department
  division := mutation.division <|> current.division
  organization :=
    mutation.organization <|> current.organization
  costCenter := mutation.costCenter <|> current.costCenter
  managerId := mutation.managerId <|> current.managerId

/- `_merge_enterprise_mutation` of a mutation. -/
def mergeEnterpriseMutation
    (patch : ScimUserPatch)
    (mutation : EnterpriseProfileMutation) :
    ScimUserPatch :=
  { patch with
    enterpriseProfile :=
      some (mutation.over (patch.enterpriseProfile.getD {})) }

/- `_remove_attribute`. -/
def removeAttribute
    (currentUser : User)
    (mutation : UserMutation) :
    PatchPath → Except PyException UserMutation
  | .userName =>
      .error
        (invalidPayload
          "userName is required and cannot be removed")
  | .displayName =>
      .ok
        { mutation with displayName := some currentUser.email }
  | .active => .ok { mutation with active := some false }

variable [Platform]

/- `_normalize_enterprise_patch_path`. -/
def normalizeEnterprisePatchPath
    (path : String) :
    Option EnterprisePath :=
  if Platform.lower path =
      Platform.lower scimSchemaEnterpriseUser then
    some .extension
  else
    let path :=
      if (Platform.lower enterprisePathPrefix).toList.isPrefixOf
          (Platform.lower path).toList then
        String.ofList
          (path.toList.drop enterprisePathPrefix.length)
      else
        path
    enterprisePatchPaths.lookup (Platform.lower path)

/-
  What an operation on an attribute of the extension sets;
  `parsed` is `None` for a removal.
-/
def enterpriseAttribute
    {α : Type}
    (op : PatchOp)
    (parse : Json → Except PyException (Option α))
    (value : Json) :
    Except PyException (Option α) :=
  if op = .remove then .ok none else parse value

/- The mutation of one operation on the extension. -/
def enterpriseMutationForPath
    (op : PatchOp)
    (path : EnterprisePath)
    (value : Json) :
    Except PyException EnterpriseProfileMutation :=
  match path with
  | .extension =>
      if op = .remove then
        .ok clearEnterpriseMutation
      else
        match value with
        | .object extension => parseEnterpriseProfile extension
        | _ =>
            .error
              (invalidPayload
                ("Enterprise User extension value must be " ++
                  "an object"))
  | .employeeNumber => do
      let parsed ←
        enterpriseAttribute op
          (parseEnterpriseString "employeeNumber") value
      return { employeeNumber := some parsed }
  | .department => do
      let parsed ←
        enterpriseAttribute op
          (parseEnterpriseString "department") value
      return { department := some parsed }
  | .division => do
      let parsed ←
        enterpriseAttribute op
          (parseEnterpriseString "division") value
      return { division := some parsed }
  | .organization => do
      let parsed ←
        enterpriseAttribute op
          (parseEnterpriseString "organization") value
      return { organization := some parsed }
  | .costCenter => do
      let parsed ←
        enterpriseAttribute op
          (parseEnterpriseString "costCenter") value
      return { costCenter := some parsed }
  | .manager => do
      let parsed ←
        enterpriseAttribute op parseManagerValue value
      return { managerId := some parsed }

/- What an addition or a replacement sets of a user. -/
def setAttribute
    (mutation : UserMutation)
    (path : PatchPath)
    (value : Json) :
    Except PyException UserMutation :=
  match path with
  | .userName => do
      let userName ← parseUserName value
      return { mutation with userName := some userName }
  | .displayName => do
      let displayName ← parseDisplayNameValue value
      return { mutation with displayName := some displayName }
  | .active => do
      let active ← parseActive value
      return { mutation with active := some active }

/- `_apply_attribute_patch`. -/
def applyAttributePatch
    (currentUser : User)
    (patch : ScimUserPatch)
    (op : PatchOp)
    (path : String)
    (value : Json) :
    Except PyException ScimUserPatch :=
  match normalizeEnterprisePatchPath path with
  | some enterprisePath => do
      let mutation ←
        enterpriseMutationForPath op enterprisePath value
      return mergeEnterpriseMutation patch mutation
  | none =>
      match patchPaths.lookup (Platform.lower path) with
      | none =>
          .error
            (invalidPath s!"Unsupported PATCH path: {path}")
      | some normalizedPath => do
          let mutation ←
            if op = .remove then
              removeAttribute currentUser patch.userMutation
                normalizedPath
            else
              setAttribute patch.userMutation normalizedPath
                value
          return { patch with userMutation := mutation }

/- An operation without a path sets each attribute it lists. -/
def applyPathlessOperation
    (currentUser : User)
    (patch : ScimUserPatch)
    (op : PatchOp)
    (value : Json) :
    Except PyException ScimUserPatch :=
  if op = .remove then
    .error (invalidPayload "PATCH remove requires a path")
  else
    match value with
    | .object attributes =>
        attributes.foldlM
          (fun patch member =>
            applyAttributePatch currentUser patch op
              member.1 member.2)
          patch
    | _ =>
        .error
          (invalidPayload
            ("PATCH operation without path requires " ++
              "object value"))

/- `_apply_patch_operation` of an object with an operation. -/
def applyNamedOperation
    (currentUser : User)
    (patch : ScimUserPatch)
    (op : PatchOp)
    (operation : JsonObject) :
    Except PyException ScimUserPatch :=
  match getOrNull operation "path" with
  | .null =>
      applyPathlessOperation currentUser patch op
        (getOrNull operation "value")
  | .string path =>
      if op ≠ .remove ∧
          (JsonObject.get? operation "value").isNone then
        .error
          (invalidPayload
            ("PATCH add and replace operations require " ++
              "value"))
      else
        applyAttributePatch currentUser patch op path
          (getOrNull operation "value")
  | _ => .error (invalidPath "PATCH path must be a string")

/- `_apply_patch_operation`. -/
def applyPatchOperation
    (currentUser : User)
    (patch : ScimUserPatch)
    (operation : Json) :
    Except PyException ScimUserPatch :=
  match operation with
  | .object operation =>
      match getOrNull operation "op" with
      | .string rawOp =>
          match PatchOp.named (Platform.lower rawOp) with
          | some op =>
              applyNamedOperation currentUser patch op
                operation
          | none =>
              .error
                (invalidPayload
                  s!"Unsupported PATCH operation: {rawOp}")
      | _ =>
          .error
            (invalidPayload
              "Each PATCH operation requires an op")
  | _ =>
      .error
        (invalidPayload
          "Each PATCH operation must be an object")

/- The payload of `PATCH /Users/{id}`. -/
def parsePatchPayload
    (currentUser : User)
    (payload : Json) :
    Except PyException ScimUserPatch :=
  match payload with
  | .object payload =>
      match getOrNull payload "Operations" with
      | .array (operation :: operations) =>
          (operation :: operations).foldlM
            (applyPatchOperation currentUser)
            { userMutation := {} }
      | _ =>
          .error
            (invalidPayload
              ("SCIM PATCH requires a non-empty " ++
                "Operations array"))
  | _ =>
      .error
        (invalidPayload
          "SCIM PATCH payload must be a JSON object")

end Scim

end AccessIQ
