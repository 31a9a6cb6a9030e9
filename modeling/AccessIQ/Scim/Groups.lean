import Mathlib.Data.List.Sort
import AccessIQ.Python.Dates
import AccessIQ.Scim.GroupServices
import AccessIQ.Scim.Users

/-
  The SCIM group mutations and their routes.

  Key definitions include:
    * `Store.groupResource`
    * `createScimGroup`
    * `replaceScimGroup`
    * `patchScimGroup`
    * `GroupRequest`
    * `GroupRequest.serve`
-/

------------------------------------------------------------
-- Resources
------------------------------------------------------------

namespace AccessIQ

open Foundations Python

namespace Scim

def scimSchemaGroup : String :=
  "urn:ietf:params:scim:schemas:core:2.0:Group"

def buildGroupLocation
    (baseUrl : String)
    (groupId : Int) :
    String :=
  stripSlashes baseUrl ++ scimBasePath ++
    s!"/Groups/{groupId}"

/- A member of a group resource. -/
def memberResource
    (baseUrl : String)
    (user : User) :
    Json :=
  .object
    [("value", .string (toString user.id)),
      ("$ref", .string (buildUserLocation baseUrl user.id)),
      ("display", .string user.name)]

end Scim

open Scim

namespace Store

/- The update time of a group as the session reads it. -/
def lastModified
    (s : Store)
    (group : Group) :
    String :=
  match s.dialect with
  | .sqlite => isoformat false group.updatedAt
  | .postgresql => isoformat true group.updatedAt

/- The members of a group, by user id. -/
def memberResources
    (s : Store)
    (baseUrl : String)
    (groupId : Int) :
    Except PyException (List Json) :=
  ((s.membershipsOf groupId).insertionSort
      fun a b => a.userId ≤ b.userId).mapM
    fun membership =>
      match s.users.get? membership.userId with
      | some user => .ok (memberResource baseUrl user)
      | none => .error .attributeError

/- `group_to_scim_resource`. -/
def groupResource
    (s : Store)
    (baseUrl : String)
    (group : Group) :
    Except PyException Json := do
  let members ← s.memberResources baseUrl group.id
  return .object
    [("schemas", .array [.string scimSchemaGroup]),
      ("id", .string (toString group.id)),
      ("displayName", .string group.displayName),
      ("members", .array members),
      ("meta",
        .object
          [("resourceType", .string "Group"),
            ("location",
              .string (buildGroupLocation baseUrl group.id)),
            ("lastModified",
              .string (s.lastModified group))])]

end Store

end AccessIQ

------------------------------------------------------------
-- Audit
------------------------------------------------------------

namespace AccessIQ

namespace Scim

open Foundations Python

def groupLifecycleSlug : String :=
  "group-lifecycle"

/- `_raise_database_error`. -/
def groupDatabaseError : ScimHttpException where
  statusCode := 500
  detail := "SCIM group provisioning operation failed"

/- `_record_group_audit`. -/
def recordGroupAudit
    (ctx : RequestContext)
    (actor : User)
    (action : AuditAction)
    (result : AuditResult)
    (reason : String) :
    Handler Unit :=
  recordScimAudit ctx groupLifecycleSlug
    "SCIM group audit entitlement is not seeded" actor
    actor.id action result reason

def GroupPatchOperation.isOnMembers
    (op : PatchOp) :
    GroupPatchOperation → Bool
  | .members other _ => other == op
  | .displayName _ _ => false

def GroupPatchOperation.isOnDisplayName :
    GroupPatchOperation → Bool
  | .members _ _ => false
  | .displayName _ _ => true

/- `_audit_action_for_patch`. -/
def auditActionForPatch
    (operations : List GroupPatchOperation) :
    AuditAction :=
  if operations.any (·.isOnMembers .replace) = true then
    .scimGroupMembersReplace
  else if operations.any (·.isOnMembers .add) = true then
    .scimGroupMemberAdd
  else if operations.any (·.isOnMembers .remove) = true then
    .scimGroupMemberRemove
  else if operations.any (·.isOnDisplayName) = true then
    .scimGroupRename
  else
    .scimGroupUpdate

/- `_audit_reason_for_patch`. -/
def auditReasonForPatch
    (operations : List GroupPatchOperation) :
    String :=
  match auditActionForPatch operations with
  | .scimGroupMembersReplace => "Group members replaced"
  | .scimGroupMemberAdd => "Group member added"
  | .scimGroupMemberRemove => "Group member removed"
  | .scimGroupRename => "Group renamed"
  | _ => "Group updated"

end Scim

end AccessIQ

------------------------------------------------------------
-- Denials
------------------------------------------------------------

namespace AccessIQ

namespace Scim

open Foundations Python

variable {α : Type}

/- `_audit_and_raise`. -/
def denyGroupRequest
    (ctx : RequestContext)
    (actor : User)
    (response : ScimHttpException) :
    Handler α :=
  auditAndRaise groupDatabaseError
    (recordGroupAudit ctx actor .scimGroupProvisioningFailure
      .denied response.detail)
    response

/- The responses of `_handle_group_service_error`. -/
def groupErrorResponse :
    GroupServiceError → ScimHttpException
  | .groupNotFound groupId =>
      ⟨404, s!"Group {groupId} not found", none⟩
  | .duplicateGroup _ _ =>
      ⟨409, "Duplicate displayName", some "uniqueness"⟩
  | .duplicateGroupMember userId =>
      ⟨409, s!"Duplicate group member {userId}",
        some "uniqueness"⟩
  | .unknownGroupMember userId =>
      ⟨400, s!"Group member {userId} not found",
        some "invalidValue"⟩

/- The responses to the exceptions `create_scim_group` denies. -/
def groupCreationResponse :
    PyException → Option ScimHttpException
  | .groupService (.groupNotFound _) => none
  | .groupService exc => some (groupErrorResponse exc)
  | _ => none

/- Those of `replace_scim_group`. -/
def groupReplacementResponse :
    PyException → Option ScimHttpException
  | .groupService exc => some (groupErrorResponse exc)
  | _ => none

/- Those of `patch_scim_group`. -/
def groupPatchResponse :
    PyException → Option ScimHttpException
  | .scim exc => some exc
  | .valueError message =>
      some ⟨400, message, some "invalidValue"⟩
  | exc => groupReplacementResponse exc

/- Deny the exceptions that have a response. -/
def denyGroupChange
    (ctx : RequestContext)
    (actor : User)
    (response : PyException → Option ScimHttpException)
    (exc : PyException) :
    Option (Handler α) :=
  (response exc).map (denyGroupRequest ctx actor)

end Scim

end AccessIQ

------------------------------------------------------------
-- Group Mutations
------------------------------------------------------------

namespace AccessIQ

namespace Scim

open Foundations Python

structure ScimGroupProvisioningResult where
  resource : Json
  location : String
  deriving Repr

/- The response shows the group as the commit left it. -/
def refreshedGroup
    (baseUrl : String)
    (groupId : Int) :
    Handler ScimGroupProvisioningResult := do
  let s ← Program.view
  let group ←
    Program.getOrRaise (s.groups.get? groupId)
      (.scim groupDatabaseError)
  match s.groupResource baseUrl group with
  | .error exc => throw exc
  | .ok resource =>
      return ⟨resource, buildGroupLocation baseUrl group.id⟩

variable [Platform]

/- What a create request does with its payload. -/
def groupCreation
    (ctx : RequestContext)
    (actor : User)
    (groupData : ScimGroupPayload) :
    Handler (Int × List DomainEvent) := do
  let created ←
    createGroup ctx groupData.displayName groupData.memberIds
  recordGroupAudit ctx actor .scimGroupCreate .succeeded
    "Group created"
  return created

def createScimGroup
    (ctx : RequestContext)
    (actor : User)
    (payload : Json)
    (baseUrl : String) :
    Handler ScimGroupProvisioningResult :=
  match parseGroupPayload payload with
  | .error (.scim exc) => denyGroupRequest ctx actor exc
  | .error exc => throw exc
  | .ok groupData => do
      let groupId ←
        provisioning groupDatabaseError
          (denyGroupChange ctx actor groupCreationResponse)
          (groupCreation ctx actor groupData)
      refreshedGroup baseUrl groupId

/- What a replace request does with its payload. -/
def groupReplacement
    (ctx : RequestContext)
    (actor : User)
    (groupId : String)
    (groupData : ScimGroupPayload) :
    Handler (Int × List DomainEvent) := do
  let replaced ←
    replaceGroup ctx groupId groupData.displayName
      groupData.memberIds
  recordGroupAudit ctx actor .scimGroupUpdate .succeeded
    "Group updated"
  return replaced

def replaceScimGroup
    (ctx : RequestContext)
    (actor : User)
    (groupId : String)
    (payload : Json)
    (baseUrl : String) :
    Handler ScimGroupProvisioningResult :=
  match parseGroupPayload payload with
  | .error (.scim exc) => denyGroupRequest ctx actor exc
  | .error exc => throw exc
  | .ok groupData => do
      let id ←
        provisioning groupDatabaseError
          (denyGroupChange ctx actor groupReplacementResponse)
          (groupReplacement ctx actor groupId groupData)
      refreshedGroup baseUrl id

/- What a patch request does with its operations. -/
def groupPatching
    (ctx : RequestContext)
    (actor : User)
    (groupId : String)
    (operations : List GroupPatchOperation) :
    Handler (Int × List DomainEvent) := do
  let patched ← patchGroup ctx groupId operations
  recordGroupAudit ctx actor (auditActionForPatch operations)
    .succeeded (auditReasonForPatch operations)
  return patched

def patchScimGroup
    (ctx : RequestContext)
    (actor : User)
    (groupId : String)
    (payload : Json)
    (baseUrl : String) :
    Handler ScimGroupProvisioningResult := do
  let id ←
    provisioning groupDatabaseError
      (denyGroupChange ctx actor groupPatchResponse)
      (match parseGroupPatchPayload payload with
      | .error exc => throw exc
      | .ok operations =>
          groupPatching ctx actor groupId operations)
  refreshedGroup baseUrl id

end Scim

end AccessIQ

------------------------------------------------------------
-- Routes
------------------------------------------------------------

namespace AccessIQ

namespace Scim

open Foundations Python

/- A mutation of the SCIM group routes. -/
inductive GroupMutationCall where
  | create (payload : Json)
  | replace (groupId : String) (payload : Json)
  | patch (groupId : String) (payload : Json)
  deriving Repr

structure GroupRequest where
  ctx : RequestContext
  baseUrl : String
  call : GroupMutationCall
  deriving Repr

variable [Platform]

/- The handler of a group mutation. -/
def GroupRequest.handler
    (request : GroupRequest)
    (actor : User) :
    Handler ScimGroupProvisioningResult :=
  match request.call with
  | .create payload =>
      createScimGroup request.ctx actor payload
        request.baseUrl
  | .replace groupId payload =>
      replaceScimGroup request.ctx actor groupId payload
        request.baseUrl
  | .patch groupId payload =>
      patchScimGroup request.ctx actor groupId payload
        request.baseUrl

/- The route of a group mutation. -/
def GroupRequest.serve
    (request : GroupRequest) :
    Handler ScimGroupProvisioningResult := do
  let currentUser ← authenticated request.ctx scimAdminRoles
  request.handler currentUser

end Scim

end AccessIQ
