import AccessIQ.Auth
import AccessIQ.Scim.Provisioning
import AccessIQ.Scim.UserServices

/-
  The SCIM user mutations and their routes.

  Key definitions include:
    * `createScimUser`
    * `replaceScimUser`
    * `patchScimUser`
    * `UserRequest`
    * `UserRequest.serve`
-/

------------------------------------------------------------
-- Audit
------------------------------------------------------------

namespace AccessIQ

namespace Scim

open Foundations Python

def userLifecycleSlug : String :=
  "user-lifecycle"

def enterpriseExtensionSlug : String :=
  "enterprise-user-extension"

/- `_raise_database_error`. -/
def userDatabaseError : ScimHttpException where
  statusCode := 500
  detail := "SCIM provisioning operation failed"

def recordProvisioningAudit
    (ctx : RequestContext)
    (actor : User)
    (targetUserId : Int)
    (action : AuditAction)
    (result : AuditResult)
    (reason : String)
    (entitlementSlug : String := userLifecycleSlug) :
    Handler Unit :=
  recordScimAudit ctx entitlementSlug
    "SCIM audit entitlement is not seeded" actor targetUserId
    action result reason

/- `ENTERPRISE_CHANGE_AUDIT`. -/
def enterpriseChangeAudit :
    EnterpriseProfileChange → AuditAction × String
  | .profileCreated =>
      (.scimEnterpriseProfileCreate,
        "Enterprise profile created")
  | .profileUpdated =>
      (.scimEnterpriseProfileUpdate,
        "Enterprise profile updated")
  | .employeeNumber =>
      (.scimEnterpriseEmployeeNumberChange,
        "Employee number changed")
  | .department =>
      (.scimEnterpriseDepartmentChange, "Department changed")
  | .division =>
      (.scimEnterpriseDivisionChange, "Division changed")
  | .organization =>
      (.scimEnterpriseOrganizationChange,
        "Organization changed")
  | .costCenter =>
      (.scimEnterpriseCostCenterChange, "Cost center changed")
  | .manager =>
      (.scimEnterpriseManagerChange, "Manager changed")

def recordEnterpriseAudits
    (ctx : RequestContext)
    (actor : User)
    (targetUserId : Int) :
    List EnterpriseProfileChange → Handler Unit
  | [] => return ()
  | change :: changes => do
      recordProvisioningAudit ctx actor targetUserId
        (enterpriseChangeAudit change).1 .succeeded
        (enterpriseChangeAudit change).2
        enterpriseExtensionSlug
      recordEnterpriseAudits ctx actor targetUserId changes

def successfulUpdateAction
    (user : User) :
    AuditAction :=
  if user.active = true then
    .scimUserUpdate
  else
    .scimUserDeactivate

def successfulUpdateReason
    (user : User) :
    String :=
  if user.active = true then
    "User updated"
  else
    "User deactivated"

end Scim

end AccessIQ

------------------------------------------------------------
-- Denials
------------------------------------------------------------

namespace AccessIQ

namespace Scim

open Foundations Python

variable {α : Type}

/- Deny a request about a user. -/
def denyUserRequest
    (ctx : RequestContext)
    (actor : User)
    (targetUserId : Int)
    (action : AuditAction)
    (entitlementSlug : String)
    (response : ScimHttpException) :
    Handler α :=
  auditAndRaise userDatabaseError
    (recordProvisioningAudit ctx actor targetUserId action
      .denied response.detail entitlementSlug)
    response

/- `_audit_scim_exception_and_raise`. -/
def auditScimException
    (ctx : RequestContext)
    (actor : User)
    (targetUserId : Int)
    (exc : ScimHttpException) :
    Handler α :=
  denyUserRequest ctx actor targetUserId
    .scimUserProvisioningFailure userLifecycleSlug exc

def duplicateUserNameResponse : ScimHttpException where
  statusCode := 409
  detail := "Duplicate userName"
  scimType := some "uniqueness"

def userNotFoundResponse
    (userId : String) :
    ScimHttpException where
  statusCode := 404
  detail := s!"User {userId} not found"

/- The responses of `_audit_enterprise_error_and_raise`. -/
def enterpriseErrorResponse :
    EnterpriseUserServiceError → ScimHttpException
  | .duplicateEmployeeNumber _ _ =>
      ⟨409, "Duplicate employeeNumber", some "uniqueness"⟩
  | .unknownManager _ =>
      ⟨400, "Unknown manager", some "invalidValue"⟩
  | .selfManager _ =>
      ⟨400, "Self manager is not allowed",
        some "invalidValue"⟩
  | .managerCycle _ _ =>
      ⟨400, "Manager cycle detected", some "invalidValue"⟩

/-
  `_audit_enterprise_error_and_raise`: a duplicate is audited
  against the user who holds the number.
-/
def auditEnterpriseError
    (ctx : RequestContext)
    (actor : User)
    (targetUserId : Int)
    (exc : EnterpriseUserServiceError) :
    Handler α := do
  let s ← Program.view
  let targetUserId :=
    match exc with
    | .duplicateEmployeeNumber _ existing =>
        ((s.users.get? existing.userId).map (·.id)).getD
          actor.id
    | _ => targetUserId
  denyUserRequest ctx actor targetUserId
    .scimEnterpriseProvisioningFailure
    enterpriseExtensionSlug (enterpriseErrorResponse exc)

/- The exceptions `create_scim_user` denies. -/
def denyCreation
    (ctx : RequestContext)
    (actor : User) :
    PyException → Option (Handler α)
  | .userService (.duplicateUserName _ existing) =>
      some
        (auditScimException ctx actor existing.id
          duplicateUserNameResponse)
  | .enterpriseUserService exc =>
      some (auditEnterpriseError ctx actor actor.id exc)
  | _ => none

variable [Platform]

/- Those `replace_scim_user` and `patch_scim_user` deny. -/
def denyChange
    (ctx : RequestContext)
    (actor : User)
    (userId : String) :
    PyException → Option (Handler α)
  | .userService (.userNotFound _) =>
      some
        (auditScimException ctx actor actor.id
          (userNotFoundResponse userId))
  | .userService (.duplicateUserName _ existing) =>
      some
        (auditScimException ctx actor existing.id
          duplicateUserNameResponse)
  | .enterpriseUserService exc =>
      some do
        let s ← Program.view
        auditEnterpriseError ctx actor
          (((s.findUser userId).map (·.id)).getD actor.id)
          exc
  | _ => none

end Scim

end AccessIQ

------------------------------------------------------------
-- User Mutations
------------------------------------------------------------

namespace AccessIQ

namespace Scim

open Foundations Python

structure ScimProvisioningResult where
  resource : Json
  location : String
  deriving Repr

/- The response shows the user as the commit left it. -/
def refreshedUser
    (baseUrl : String)
    (userId : Int) :
    Handler ScimProvisioningResult := do
  let s ← Program.view
  let user ←
    Program.getOrRaise (s.users.get? userId)
      (.scim userDatabaseError)
  return ⟨s.userResource baseUrl user,
    buildUserLocation baseUrl user.id⟩

variable [Platform]

/- What a create request does with its payload. -/
def creation
    (ctx : RequestContext)
    (actor : User)
    (userData : ScimUserPayload) :
    Handler (Int × List DomainEvent) := do
  let (user, userEvents) ←
    createUser ctx userData.userName userData.displayName
      userData.active
  let (changes, events) ←
    createEnterpriseProfile ctx user
      userData.enterpriseProfile
  recordProvisioningAudit ctx actor user.id .scimUserCreate
    .succeeded "User created"
  recordEnterpriseAudits ctx actor user.id changes
  return (user.id, userEvents ++ events)

def createScimUser
    (ctx : RequestContext)
    (actor : User)
    (payload : Json)
    (baseUrl : String) :
    Handler ScimProvisioningResult :=
  match parseUserPayload payload true with
  | .error (.scim exc) =>
      auditScimException ctx actor actor.id exc
  | .error exc => throw exc
  | .ok userData => do
      let userId ←
        provisioning userDatabaseError
          (denyCreation ctx actor)
          (creation ctx actor userData)
      refreshedUser baseUrl userId

/- The audit events of a replaced or patched user. -/
def recordUpdateAudits
    (ctx : RequestContext)
    (actor user : User)
    (changes : List EnterpriseProfileChange) :
    Handler Unit := do
  recordProvisioningAudit ctx actor user.id
    (successfulUpdateAction user) .succeeded
    (successfulUpdateReason user)
  recordEnterpriseAudits ctx actor user.id changes

/- What a replace request does with its payload. -/
def replacement
    (ctx : RequestContext)
    (actor : User)
    (userId : String)
    (userData : ScimUserPayload) :
    Handler (Int × List DomainEvent) := do
  let user ←
    replaceUser userId userData.userName
      userData.displayName userData.active
  let (changes, events) ←
    replaceEnterpriseProfile ctx user
      userData.enterpriseProfile
  recordUpdateAudits ctx actor user changes
  return (user.id, events)

def replaceScimUser
    (ctx : RequestContext)
    (actor : User)
    (userId : String)
    (payload : Json)
    (baseUrl : String) :
    Handler ScimProvisioningResult :=
  match parseUserPayload payload true with
  | .error (.scim exc) =>
      auditScimException ctx actor actor.id exc
  | .error exc => throw exc
  | .ok userData => do
      let id ←
        provisioning userDatabaseError
          (denyChange ctx actor userId)
          (replacement ctx actor userId userData)
      refreshedUser baseUrl id

/- What a patch does to the user it loaded. -/
def patching
    (ctx : RequestContext)
    (actor currentUser : User)
    (patch : ScimUserPatch) :
    Handler (Int × List DomainEvent) := do
  let user ← patchUser currentUser patch.userMutation
  let (changes, events) ←
    patchEnterpriseProfile ctx user patch.enterpriseProfile
  recordUpdateAudits ctx actor user changes
  return (user.id, events)

def patchScimUser
    (ctx : RequestContext)
    (actor : User)
    (userId : String)
    (payload : Json)
    (baseUrl : String) :
    Handler ScimProvisioningResult := do
  let id ←
    provisioning userDatabaseError
      (denyChange ctx actor userId)
      (do
        let currentUser ← requireUser userId
        match parsePatchPayload currentUser payload with
        | .error (.scim exc) =>
            auditScimException ctx actor currentUser.id exc
        | .error exc => throw exc
        | .ok patch => patching ctx actor currentUser patch)
  refreshedUser baseUrl id

end Scim

end AccessIQ

------------------------------------------------------------
-- Routes
------------------------------------------------------------

namespace AccessIQ

namespace Scim

open Foundations Python

/- The roles `require_scim_admin` admits. -/
def scimAdminRoles : List String :=
  ["security_admin", "iam_admin"]

/- A mutation of the SCIM user routes. -/
inductive UserMutationCall where
  | create (payload : Json)
  | replace (userId : String) (payload : Json)
  | patch (userId : String) (payload : Json)
  deriving Repr

structure UserRequest where
  ctx : RequestContext
  baseUrl : String
  call : UserMutationCall
  deriving Repr

variable [Platform]

/- The handler of a user mutation. -/
def UserRequest.handler
    (request : UserRequest)
    (actor : User) :
    Handler ScimProvisioningResult :=
  match request.call with
  | .create payload =>
      createScimUser request.ctx actor payload
        request.baseUrl
  | .replace userId payload =>
      replaceScimUser request.ctx actor userId payload
        request.baseUrl
  | .patch userId payload =>
      patchScimUser request.ctx actor userId payload
        request.baseUrl

/- The route of a user mutation. -/
def UserRequest.serve
    (request : UserRequest) :
    Handler ScimProvisioningResult := do
  let currentUser ← authenticated request.ctx scimAdminRoles
  request.handler currentUser

end Scim

end AccessIQ
