import AccessIQ.Models

/-
  Remediation jobs.

  Key definitions include:
    * `RemediationType`
    * `RemediationStatus`
    * `RemediationJob`
-/

------------------------------------------------------------
-- Rows
------------------------------------------------------------

namespace AccessIQ

namespace Remediation

open Foundations

inductive RemediationType where
  | revokeEntitlement
  | removeGroupMember
  | disableUser
  deriving DecidableEq, Repr

def RemediationType.value : RemediationType → String
  | .revokeEntitlement => "REVOKE_ENTITLEMENT"
  | .removeGroupMember => "REMOVE_GROUP_MEMBER"
  | .disableUser => "DISABLE_USER"

inductive RemediationStatus where
  | pending
  | running
  | completed
  | failed
  | skipped
  deriving DecidableEq, Repr

def RemediationStatus.value : RemediationStatus → String
  | .pending => "PENDING"
  | .running => "RUNNING"
  | .completed => "COMPLETED"
  | .failed => "FAILED"
  | .skipped => "SKIPPED"

structure RemediationJob where
  id : Int
  campaignId : Int
  reviewItemId : Int
  provisioningJobId : Option Int := none
  correlationId : String
  remediationType : RemediationType
  status : RemediationStatus
  createdAt : Timestamp
  startedAt : Option Timestamp := none
  completedAt : Option Timestamp := none
  lastError : Option String := none
  initiatedBy : Int
  deriving DecidableEq, Repr

instance : Row RemediationJob where
  id j := j.id
  withId j n := { j with id := n }
  conflicts a b := decide (a.reviewItemId = b.reviewItemId)
  id_withId _ _ := rfl
  withId_id _ := rfl
  conflicts_comm _ _ := by simp [eq_comm]
  conflicts_withId _ _ _ := rfl

end Remediation

end AccessIQ
