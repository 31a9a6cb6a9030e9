import AccessIQ.Foundations.Table
import AccessIQ.Connectors.Results

/-
  The rows of the identity, access and provisioning tables.

  Every row carries the columns its model declares.  The
  `Row` instance of a row type names its unique constraints:
  two rows conflict when they share the constrained columns.

  Key definitions include:
    * `User`
    * `Group`
    * `GroupMember`
    * `EnterpriseUserProfile`
    * `Application`
    * `Entitlement`
    * `AccessAssignment`
    * `AuditEvent`
    * `ProvisioningJob`
    * `ProvisioningHistory`
-/

------------------------------------------------------------
-- Users And Groups
------------------------------------------------------------

namespace AccessIQ

open Foundations

/- An instant, in microseconds since the epoch, UTC. -/
abbrev Timestamp := Int

structure User where
  id : Int
  name : String
  email : String
  department : String
  active : Bool := true
  operatorRole : String := "employee"
  deriving DecidableEq, Repr

instance : Row User where
  id u := u.id
  withId u n := { u with id := n }
  conflicts a b := decide (a.email = b.email)
  id_withId _ _ := rfl
  withId_id _ := rfl
  conflicts_comm _ _ := by simp [eq_comm]
  conflicts_withId _ _ _ := rfl

structure Group where
  id : Int
  displayName : String
  createdAt : Timestamp
  updatedAt : Timestamp
  deriving DecidableEq, Repr

instance : Row Group where
  id g := g.id
  withId g n := { g with id := n }
  conflicts a b := decide (a.displayName = b.displayName)
  id_withId _ _ := rfl
  withId_id _ := rfl
  conflicts_comm _ _ := by simp [eq_comm]
  conflicts_withId _ _ _ := rfl

structure GroupMember where
  id : Int
  groupId : Int
  userId : Int
  createdAt : Timestamp
  deriving DecidableEq, Repr

instance : Row GroupMember where
  id m := m.id
  withId m n := { m with id := n }
  conflicts a b :=
    decide (a.groupId = b.groupId ∧ a.userId = b.userId)
  id_withId _ _ := rfl
  withId_id _ := rfl
  conflicts_comm _ _ := by simp [eq_comm]
  conflicts_withId _ _ _ := rfl

structure EnterpriseUserProfile where
  id : Int
  userId : Int
  employeeNumber : Option String := none
  department : Option String := none
  division : Option String := none
  costCenter : Option String := none
  organization : Option String := none
  managerId : Option Int := none
  createdAt : Timestamp
  updatedAt : Timestamp
  deriving DecidableEq, Repr

/- A missing employee number conflicts with nothing. -/
instance : Row EnterpriseUserProfile where
  id p := p.id
  withId p n := { p with id := n }
  conflicts a b :=
    decide
      (a.userId = b.userId ∨
        (a.employeeNumber.isSome = true ∧
          a.employeeNumber = b.employeeNumber))
  id_withId _ _ := rfl
  withId_id _ := rfl
  conflicts_comm a b := by
    rw [decide_eq_decide]
    constructor
    · rintro (hUser | ⟨hSome, hEq⟩)
      · exact Or.inl hUser.symm
      · exact Or.inr ⟨hEq ▸ hSome, hEq.symm⟩
    · rintro (hUser | ⟨hSome, hEq⟩)
      · exact Or.inl hUser.symm
      · exact Or.inr ⟨hEq ▸ hSome, hEq.symm⟩
  conflicts_withId _ _ _ := rfl

end AccessIQ

------------------------------------------------------------
-- Applications And Access
------------------------------------------------------------

namespace AccessIQ

open Foundations

structure Application where
  id : Int
  name : String
  slug : String
  deriving DecidableEq, Repr

instance : Row Application where
  id a := a.id
  withId a n := { a with id := n }
  conflicts a b := decide (a.name = b.name ∨ a.slug = b.slug)
  id_withId _ _ := rfl
  withId_id _ := rfl
  conflicts_comm _ _ := by simp [eq_comm]
  conflicts_withId _ _ _ := rfl

structure Entitlement where
  id : Int
  name : String
  slug : String
  applicationId : Int
  deriving DecidableEq, Repr

instance : Row Entitlement where
  id e := e.id
  withId e n := { e with id := n }
  conflicts a b :=
    decide
      (a.applicationId = b.applicationId ∧ a.slug = b.slug)
  id_withId _ _ := rfl
  withId_id _ := rfl
  conflicts_comm _ _ := by simp [eq_comm]
  conflicts_withId _ _ _ := rfl

structure AccessAssignment where
  id : Int
  userId : Int
  entitlementId : Int
  grantedAt : Timestamp
  deriving DecidableEq, Repr

instance : Row AccessAssignment where
  id a := a.id
  withId a n := { a with id := n }
  conflicts a b :=
    decide
      (a.userId = b.userId ∧
        a.entitlementId = b.entitlementId)
  id_withId _ _ := rfl
  withId_id _ := rfl
  conflicts_comm _ _ := by simp [eq_comm]
  conflicts_withId _ _ _ := rfl

end AccessIQ

------------------------------------------------------------
-- Audit Trail
------------------------------------------------------------

namespace AccessIQ

open Foundations

inductive AuditAction where
  | grant
  | revoke
  | scimUserCreate
  | scimUserUpdate
  | scimUserDeactivate
  | scimUserProvisioningFailure
  | scimGroupCreate
  | scimGroupUpdate
  | scimGroupRename
  | scimGroupMemberAdd
  | scimGroupMemberRemove
  | scimGroupMembersReplace
  | scimGroupProvisioningFailure
  | scimEnterpriseProfileCreate
  | scimEnterpriseProfileUpdate
  | scimEnterpriseManagerChange
  | scimEnterpriseDepartmentChange
  | scimEnterpriseOrganizationChange
  | scimEnterpriseCostCenterChange
  | scimEnterpriseDivisionChange
  | scimEnterpriseEmployeeNumberChange
  | scimEnterpriseProvisioningFailure
  | connectorInvocation
  | connectorSuccess
  | connectorFailure
  | connectorRetryScheduled
  | connectorProvisioningCompleted
  | provisioningJobCreated
  | provisioningJobCompleted
  | provisioningJobFailed
  | provisioningRetryRecorded
  | certificationCampaignCreated
  | certificationCampaignStarted
  | certificationCampaignCancelled
  | certificationCampaignCompleted
  | certificationReviewApproved
  | certificationReviewRevoked
  | certificationReviewAbstained
  | certificationDecisionUpdated
  | remediationCreated
  | remediationStarted
  | remediationCompleted
  | remediationFailed
  | delegationAssigned
  | delegationRemoved
  | delegatedActionAllowed
  | delegatedActionDenied
  deriving DecidableEq, Repr

/- The text of the action column. -/
def AuditAction.value : AuditAction → String
  | .grant => "grant"
  | .revoke => "revoke"
  | .scimUserCreate => "scim_user_create"
  | .scimUserUpdate => "scim_user_update"
  | .scimUserDeactivate => "scim_user_deactivate"
  | .scimUserProvisioningFailure =>
      "scim_user_provisioning_failure"
  | .scimGroupCreate => "scim_group_create"
  | .scimGroupUpdate => "scim_group_update"
  | .scimGroupRename => "scim_group_rename"
  | .scimGroupMemberAdd => "scim_group_member_add"
  | .scimGroupMemberRemove => "scim_group_member_remove"
  | .scimGroupMembersReplace =>
      "scim_group_members_replace"
  | .scimGroupProvisioningFailure =>
      "scim_group_provisioning_failure"
  | .scimEnterpriseProfileCreate =>
      "scim_enterprise_profile_create"
  | .scimEnterpriseProfileUpdate =>
      "scim_enterprise_profile_update"
  | .scimEnterpriseManagerChange =>
      "scim_enterprise_manager_change"
  | .scimEnterpriseDepartmentChange =>
      "scim_enterprise_department_change"
  | .scimEnterpriseOrganizationChange =>
      "scim_enterprise_organization_change"
  | .scimEnterpriseCostCenterChange =>
      "scim_enterprise_cost_center_change"
  | .scimEnterpriseDivisionChange =>
      "scim_enterprise_division_change"
  | .scimEnterpriseEmployeeNumberChange =>
      "scim_enterprise_employee_number_change"
  | .scimEnterpriseProvisioningFailure =>
      "scim_enterprise_provisioning_failure"
  | .connectorInvocation => "connector_invocation"
  | .connectorSuccess => "connector_success"
  | .connectorFailure => "connector_failure"
  | .connectorRetryScheduled => "connector_retry_scheduled"
  | .connectorProvisioningCompleted =>
      "connector_provisioning_completed"
  | .provisioningJobCreated => "provisioning_job_created"
  | .provisioningJobCompleted =>
      "provisioning_job_completed"
  | .provisioningJobFailed => "provisioning_job_failed"
  | .provisioningRetryRecorded =>
      "provisioning_retry_recorded"
  | .certificationCampaignCreated =>
      "certification_campaign_created"
  | .certificationCampaignStarted =>
      "certification_campaign_started"
  | .certificationCampaignCancelled =>
      "certification_campaign_cancelled"
  | .certificationCampaignCompleted =>
      "certification_campaign_completed"
  | .certificationReviewApproved =>
      "certification_review_approved"
  | .certificationReviewRevoked =>
      "certification_review_revoked"
  | .certificationReviewAbstained =>
      "certification_review_abstained"
  | .certificationDecisionUpdated =>
      "certification_decision_updated"
  | .remediationCreated => "remediation_created"
  | .remediationStarted => "remediation_started"
  | .remediationCompleted => "remediation_completed"
  | .remediationFailed => "remediation_failed"
  | .delegationAssigned => "delegation_assigned"
  | .delegationRemoved => "delegation_removed"
  | .delegatedActionAllowed => "delegated_action_allowed"
  | .delegatedActionDenied => "delegated_action_denied"

inductive AuditResult where
  | allowed
  | denied
  | succeeded
  deriving DecidableEq, Repr

def AuditResult.value : AuditResult → String
  | .allowed => "allowed"
  | .denied => "denied"
  | .succeeded => "succeeded"

structure AuditEvent where
  id : Int
  requesterId : Int
  targetUserId : Int
  action : AuditAction
  applicationId : Int
  entitlementId : Int
  result : AuditResult
  reason : String
  correlationId : Option String
  createdAt : Timestamp
  deriving DecidableEq, Repr

instance : Row AuditEvent where
  id e := e.id
  withId e n := { e with id := n }
  conflicts _ _ := false
  id_withId _ _ := rfl
  withId_id _ := rfl
  conflicts_comm _ _ := rfl
  conflicts_withId _ _ _ := rfl

end AccessIQ

------------------------------------------------------------
-- Provisioning
------------------------------------------------------------

namespace AccessIQ

open Foundations Connectors

inductive ProvisioningJobStatus where
  | pending
  | running
  | success
  | failed
  | retryable
  | skipped
  deriving DecidableEq, Repr

def ProvisioningJobStatus.value :
    ProvisioningJobStatus → String
  | .pending => "PENDING"
  | .running => "RUNNING"
  | .success => "SUCCESS"
  | .failed => "FAILED"
  | .retryable => "RETRYABLE"
  | .skipped => "SKIPPED"

structure ProvisioningJob where
  id : Int
  correlationId : String
  connector : String
  operation : ConnectorOperation
  targetType : String
  targetId : Option String
  status : ProvisioningJobStatus
  attemptCount : Nat := 0
  retryCount : Nat := 0
  maxAttempts : Nat := 1
  retryable : Bool := false
  lastError : Option String := none
  createdAt : Timestamp
  startedAt : Option Timestamp := none
  completedAt : Option Timestamp := none
  durationMs : Option Duration := none
  deriving DecidableEq, Repr

instance : Row ProvisioningJob where
  id j := j.id
  withId j n := { j with id := n }
  conflicts _ _ := false
  id_withId _ _ := rfl
  withId_id _ := rfl
  conflicts_comm _ _ := rfl
  conflicts_withId _ _ _ := rfl

inductive ProvisioningHistoryEventType where
  | jobCreated
  | jobStarted
  | connectorInvocation
  | connectorResult
  | jobCompleted
  | jobFailed
  | retryRecorded
  deriving DecidableEq, Repr

def ProvisioningHistoryEventType.value :
    ProvisioningHistoryEventType → String
  | .jobCreated => "job_created"
  | .jobStarted => "job_started"
  | .connectorInvocation => "connector_invocation"
  | .connectorResult => "connector_result"
  | .jobCompleted => "job_completed"
  | .jobFailed => "job_failed"
  | .retryRecorded => "retry_recorded"

/- The details column holds what `json.dumps` serialised. -/
structure ProvisioningHistory where
  id : Int
  jobId : Int
  correlationId : String
  connector : String
  operation : ConnectorOperation
  eventType : ProvisioningHistoryEventType
  status : ProvisioningJobStatus
  message : String
  attempt : Nat := 0
  retryable : Bool := false
  durationMs : Option Duration := none
  details : Option Details := none
  createdAt : Timestamp
  deriving Repr

instance : Row ProvisioningHistory where
  id h := h.id
  withId h n := { h with id := n }
  conflicts _ _ := false
  id_withId _ _ := rfl
  withId_id _ := rfl
  conflicts_comm _ _ := rfl
  conflicts_withId _ _ _ := rfl

end AccessIQ
