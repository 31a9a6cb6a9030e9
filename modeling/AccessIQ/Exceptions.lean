import AccessIQ.Foundations.Program
import AccessIQ.Python.Text
import AccessIQ.Delegation.Models
import AccessIQ.Governance.Models

/-
  The exceptions the program raises.

  Each service has its own family of errors, which its
  routes turn into HTTP responses; a database call raises an
  `SQLAlchemyError`.

  Key definitions include:
    * `DelegationServiceError`
    * `GovernanceServiceError`
    * `RemediationServiceError`
    * `UserServiceError`
    * `EnterpriseUserServiceError`
    * `GroupServiceError`
    * `ScimHttpException`
    * `PyException`
-/

------------------------------------------------------------
-- Service Errors
------------------------------------------------------------

namespace AccessIQ

open Python

namespace Delegation

inductive DelegationServiceError where
  | assignmentNotFound (assignmentId : Int)
  | delegateNotFound (delegateUserId : Int)
  | inactiveDelegateUser (delegateUserId : Int)
  | scopeNotFound
      (scopeType : DelegationScopeType) (scopeId : Int)
  | invalidScope
      (scopeType : DelegationScopeType)
      (delegationRole : DelegationRole)
  | duplicateAssignment
      (delegateUserId : Int)
      (scopeType : DelegationScopeType) (scopeId : Int)
      (delegationRole : DelegationRole)
  | expiredAssignment
  | inactiveAssignment (assignmentId : Int)
  deriving DecidableEq, Repr

def DelegationServiceError.message :
    DelegationServiceError → String
  | .assignmentNotFound i =>
      s!"Delegation assignment {i} was not found"
  | .delegateNotFound i =>
      s!"Delegate user {i} was not found"
  | .inactiveDelegateUser i =>
      s!"Delegate user {i} is inactive"
  | .scopeNotFound scopeType scopeId =>
      s!"{scopeType.value} scope {scopeId} was not found"
  | .invalidScope scopeType role =>
      s!"{role.value} cannot be assigned to " ++
        s!"{scopeType.value} scope"
  | .duplicateAssignment user scopeType scopeId role =>
      "Delegation assignment already exists for " ++
        s!"user={user}, " ++
        s!"scope={scopeType.value}:{scopeId}, " ++
        s!"role={role.value}"
  | .expiredAssignment =>
      "Delegation assignment expiration must be in the " ++
        "future"
  | .inactiveAssignment i =>
      s!"Delegation assignment {i} is inactive"

end Delegation

namespace Governance

inductive GovernanceServiceError where
  | duplicateCampaignName (name : String)
  | campaignNotFound (campaignId : Int)
  | reviewItemNotFound (itemId : Int)
  | missingReviewer (reviewerId : Int)
  | invalidCampaignTransition (message : String)
  | incompleteCampaign (campaign : CertificationCampaign)
  deriving DecidableEq, Repr

def GovernanceServiceError.message
    [Platform] :
    GovernanceServiceError → String
  | .duplicateCampaignName name =>
      s!"Certification campaign {Platform.repr name} " ++
        "already exists"
  | .campaignNotFound i =>
      s!"Certification campaign {i} was not found"
  | .reviewItemNotFound i =>
      s!"Certification review item {i} was not found"
  | .missingReviewer i =>
      s!"Reviewer {i} was not found"
  | .invalidCampaignTransition message => message
  | .incompleteCampaign _ =>
      "Campaign cannot be completed while review items " ++
        "are pending"

end Governance

namespace Remediation

inductive RemediationServiceError where
  | campaignNotFound (campaignId : Int)
  | reviewItemNotFound (reviewItemId : Int)
  | duplicateJob (reviewItemId : Int)
  | invalidCampaignState (campaignId : Int)
  | unsupportedDecision (reviewItemId : Int)
  | unsupportedConnector (applicationSlug : String)
  deriving DecidableEq, Repr

def RemediationServiceError.message
    [Platform] :
    RemediationServiceError → String
  | .campaignNotFound i =>
      s!"Certification campaign {i} was not found"
  | .reviewItemNotFound i =>
      s!"Certification review item {i} was not found"
  | .duplicateJob i =>
      "Remediation job already exists for review item " ++
        s!"{i}"
  | .invalidCampaignState i =>
      s!"Campaign {i} must be COMPLETED before remediation"
  | .unsupportedDecision i =>
      s!"Review item {i} does not have a remediable decision"
  | .unsupportedConnector slug =>
      "No remediation connector is available for " ++
        s!"application {Platform.repr slug}"

end Remediation

namespace Scim

inductive UserServiceError where
  | duplicateUserName
      (userName : String) (existingUser : User)
  | userNotFound (userId : String)
  deriving DecidableEq, Repr

inductive EnterpriseUserServiceError where
  | duplicateEmployeeNumber
      (employeeNumber : String)
      (existingProfile : EnterpriseUserProfile)
  | unknownManager (managerId : Int)
  | selfManager (userId : Int)
  | managerCycle (userId managerId : Int)
  deriving DecidableEq, Repr

inductive GroupServiceError where
  | duplicateGroup
      (displayName : String) (existingGroup : Group)
  | groupNotFound (groupId : String)
  | unknownGroupMember (userId : String)
  | duplicateGroupMember (userId : String)
  deriving DecidableEq, Repr

end Scim

end AccessIQ

------------------------------------------------------------
-- Exceptions
------------------------------------------------------------

namespace AccessIQ

open Foundations Delegation Governance Remediation Scim

/- An `HTTPException`: the status code and the detail. -/
structure HttpException where
  statusCode : Nat
  detail : String
  deriving DecidableEq, Repr

/- A `ScimHTTPException` may carry a SCIM error type too. -/
structure ScimHttpException where
  statusCode : Nat
  detail : String
  scimType : Option String := none
  deriving DecidableEq, Repr

inductive PyException where
  | http (response : HttpException)
  | scim (response : ScimHttpException)
  | database (error : DatabaseError)
  | delegation (error : DelegationServiceError)
  | governance (error : GovernanceServiceError)
  | remediation (error : RemediationServiceError)
  | userService (error : UserServiceError)
  | enterpriseUserService
      (error : EnterpriseUserServiceError)
  | groupService (error : GroupServiceError)
  | attributeError
  | noAttribute (name : String)
  | overflowError
  | runtimeError (message : String)
  | typeError (message : String)
  | valueError (message : String)
  | unknownConnector (name : String)
  deriving DecidableEq, Repr

instance : RaisesDatabaseError PyException where
  databaseError := .database

@[simp] theorem databaseError_eq
    (error : DatabaseError) :
    (RaisesDatabaseError.databaseError error :
        PyException) =
      .database error :=
  rfl

end AccessIQ
