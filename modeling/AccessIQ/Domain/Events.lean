import AccessIQ.Delegation.Models
import AccessIQ.Governance.Models
import AccessIQ.Remediation.Models

/-
  The domain events services append and requests publish.

  Key definitions include:
    * `EventKind`
    * `DomainEvent`
-/

------------------------------------------------------------
-- Events
------------------------------------------------------------

namespace AccessIQ

open Connectors Delegation Governance Remediation

inductive EventKind where
  | groupCreated (groupId : Int) (displayName : String)
  | groupUpdated (groupId : Int) (displayName : String)
  | groupMembershipAdded (groupId userId : Int)
  | groupMembershipRemoved (groupId userId : Int)
  | groupMembershipReplaced
      (groupId : Int) (userIds : List Int)
  | userProvisioned (userId : Int) (userName : String)
  | enterpriseProfileCreated (userId : Int)
  | enterpriseProfileUpdated (userId : Int)
  | managerChanged (userId : Int) (managerId : Option Int)
  | departmentChanged
      (userId : Int) (department : Option String)
  | organizationChanged
      (userId : Int) (organization : Option String)
  | costCenterChanged
      (userId : Int) (costCenter : Option String)
  | divisionChanged
      (userId : Int) (division : Option String)
  | employeeNumberChanged
      (userId : Int) (employeeNumber : Option String)
  | provisioningStarted
      (connector : String) (operation : ConnectorOperation)
      (correlationId : String)
  | provisioningCompleted
      (connector : String) (operation : ConnectorOperation)
      (correlationId : String) (status : ConnectorStatus)
  | provisioningFailed
      (connector : String) (operation : ConnectorOperation)
      (correlationId message : String)
  | connectorCalled
      (connector : String) (operation : ConnectorOperation)
      (correlationId : String) (attempt : Nat)
  | connectorSucceeded
      (connector : String) (operation : ConnectorOperation)
      (correlationId : String) (attempt : Nat)
      (durationMs : Duration)
  | connectorFailed
      (connector : String) (operation : ConnectorOperation)
      (correlationId : String) (attempt : Nat)
      (retryable : Bool) (message : String)
  | connectorRetryScheduled
      (connector : String) (operation : ConnectorOperation)
      (correlationId : String) (attempt nextAttempt : Nat)
      (delayMs : Int) (reason : String)
  | provisioningJobCreated
      (jobId : Int) (correlationId connector : String)
      (operation : ConnectorOperation)
  | provisioningJobStarted
      (jobId : Int) (correlationId connector : String)
      (operation : ConnectorOperation)
  | provisioningJobCompleted
      (jobId : Int) (correlationId connector : String)
      (operation : ConnectorOperation)
      (status : ProvisioningJobStatus)
  | provisioningJobFailed
      (jobId : Int) (correlationId connector : String)
      (operation : ConnectorOperation)
      (retryable : Bool) (message : String)
  | provisioningRetryRecorded
      (jobId : Int) (correlationId connector : String)
      (operation : ConnectorOperation)
      (attempt nextAttempt : Nat) (delayMs : Int)
  | certificationCampaignCreated
      (campaignId : Int) (name : String)
  | certificationCampaignStarted
      (campaignId : Int) (totalItems : Nat)
  | certificationCampaignCompleted
      (campaignId : Int)
      (approvalCount revocationCount abstainCount : Nat)
  | certificationCampaignCancelled (campaignId : Int)
  | certificationDecisionRecorded
      (campaignId reviewItemId reviewerId : Int)
      (userId entitlementId : Int)
      (decision : CertificationDecisionValue)
  | certificationDecisionUpdated
      (campaignId reviewItemId reviewerId : Int)
      (userId entitlementId : Int)
      (previousDecision : Option CertificationDecisionValue)
      (decision : CertificationDecisionValue)
  | remediationCreated
      (remediationJobId campaignId reviewItemId : Int)
      (remediationType : RemediationType)
      (correlationId : String)
  | remediationStarted
      (remediationJobId campaignId reviewItemId : Int)
      (remediationType : RemediationType)
      (correlationId : String)
  | remediationCompleted
      (remediationJobId campaignId reviewItemId : Int)
      (remediationType : RemediationType)
      (status : RemediationStatus)
      (provisioningJobId : Option Int)
      (correlationId : String)
  | remediationFailed
      (remediationJobId campaignId reviewItemId : Int)
      (remediationType : RemediationType)
      (message correlationId : String)
  | delegationAssigned
      (assignmentId delegateUserId : Int)
      (scopeType : DelegationScopeType) (scopeId : Int)
      (delegationRole : DelegationRole)
  | delegationRemoved
      (assignmentId delegateUserId : Int)
      (scopeType : DelegationScopeType) (scopeId : Int)
      (delegationRole : DelegationRole)
  | delegatedAccessGranted
      (assignmentId delegateUserId targetUserId : Int)
      (entitlementId applicationId : Int)
      (action : DelegatedAction)
  | delegatedAccessDenied
      (assignmentId : Option Int)
      (delegateUserId targetUserId : Int)
      (entitlementId applicationId : Int)
      (action : DelegatedAction) (reason : String)
  deriving DecidableEq, Repr

structure DomainEvent where
  occurredAt : Timestamp
  kind : EventKind
  deriving DecidableEq, Repr

end AccessIQ
