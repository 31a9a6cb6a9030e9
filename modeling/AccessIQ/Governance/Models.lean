import AccessIQ.Models

/-
  Certification campaigns, their review items and decisions.

  Key definitions include:
    * `CampaignStatus`
    * `ReviewItemStatus`
    * `CertificationDecisionValue`
    * `CertificationCampaign`
    * `CertificationReviewItem`
    * `CertificationDecision`
-/

------------------------------------------------------------
-- Enumerations
------------------------------------------------------------

namespace AccessIQ

namespace Governance

inductive CampaignStatus where
  | draft
  | active
  | completed
  | cancelled
  deriving DecidableEq, Repr

def CampaignStatus.value : CampaignStatus → String
  | .draft => "DRAFT"
  | .active => "ACTIVE"
  | .completed => "COMPLETED"
  | .cancelled => "CANCELLED"

inductive ReviewItemStatus where
  | pending
  | completed
  deriving DecidableEq, Repr

def ReviewItemStatus.value : ReviewItemStatus → String
  | .pending => "PENDING"
  | .completed => "COMPLETED"

inductive CertificationDecisionValue where
  | approve
  | revoke
  | abstain
  deriving DecidableEq, Repr

def CertificationDecisionValue.value :
    CertificationDecisionValue → String
  | .approve => "APPROVE"
  | .revoke => "REVOKE"
  | .abstain => "ABSTAIN"

end Governance

end AccessIQ

------------------------------------------------------------
-- Rows
------------------------------------------------------------

namespace AccessIQ

namespace Governance

open Foundations

structure CertificationCampaign where
  id : Int
  name : String
  description : Option String
  status : CampaignStatus
  createdBy : Int
  defaultReviewerId : Int
  createdAt : Timestamp
  startedAt : Option Timestamp := none
  completedAt : Option Timestamp := none
  cancelledAt : Option Timestamp := none
  totalItems : Nat := 0
  completedItems : Nat := 0
  approvalCount : Nat := 0
  revocationCount : Nat := 0
  abstainCount : Nat := 0
  deriving DecidableEq, Repr

instance : Row CertificationCampaign where
  id c := c.id
  withId c n := { c with id := n }
  conflicts a b := decide (a.name = b.name)
  id_withId _ _ := rfl
  withId_id _ := rfl
  conflicts_comm _ _ := by simp [eq_comm]
  conflicts_withId _ _ _ := rfl

structure CertificationReviewItem where
  id : Int
  campaignId : Int
  accessAssignmentId : Int
  userId : Int
  applicationId : Int
  entitlementId : Int
  groupId : Option Int := none
  reviewerId : Int
  status : ReviewItemStatus
  reviewedAt : Option Timestamp := none
  createdAt : Timestamp
  deriving DecidableEq, Repr

instance : Row CertificationReviewItem where
  id i := i.id
  withId i n := { i with id := n }
  conflicts a b :=
    decide
      (a.campaignId = b.campaignId ∧
        a.accessAssignmentId = b.accessAssignmentId)
  id_withId _ _ := rfl
  withId_id _ := rfl
  conflicts_comm _ _ := by simp [eq_comm]
  conflicts_withId _ _ _ := rfl

structure CertificationDecision where
  id : Int
  campaignId : Int
  reviewItemId : Int
  reviewerId : Int
  decision : CertificationDecisionValue
  comments : Option String
  createdAt : Timestamp
  updatedAt : Timestamp
  deriving DecidableEq, Repr

instance : Row CertificationDecision where
  id d := d.id
  withId d n := { d with id := n }
  conflicts a b := decide (a.reviewItemId = b.reviewItemId)
  id_withId _ _ := rfl
  withId_id _ := rfl
  conflicts_comm _ _ := by simp [eq_comm]
  conflicts_withId _ _ _ := rfl

end Governance

end AccessIQ
