import AccessIQ.Access.Outcomes
import AccessIQ.Delegation.Withdrawal
import AccessIQ.Governance.Consistency
import AccessIQ.Remediation.ExactlyOnce
import AccessIQ.Users

/-
  The requests that change the database, all together.

  A run of the application mixes the requests of its routers.
  What the tables of one router hold is not touched by the
  requests of the others, apart from the audit trail, which
  they share.

  Key definitions include:
    * `ApplicationRequest`
    * `serveApplication`

  Key theorems include:
    * `serveDelegation_frame`
    * `serveGovernance_frame`
    * `serveRemediation_frame`
    * `serveDirectory_frame`
-/

------------------------------------------------------------
-- Requests
------------------------------------------------------------

namespace AccessIQ

open Foundations Python Scim Access Delegation Governance
open Connectors Remediation

/- A request to one of the routes that change the database. -/
inductive ApplicationRequest where
  | directory (request : DirectoryRequest)
  | access (request : AccessRequest)
  | governance (request : GovernanceRequest)
  | delegation (request : DelegationRequest)
  | remediation
      (orchestrator : ProvisioningOrchestrator)
      (ctx : RequestContext)
      (campaignId : Int)

variable [Platform]

/- The database after one request. -/
def serveApplication
    (s : Store)
    (request : ApplicationRequest × Environment) :
    Store :=
  match request.1 with
  | .directory directory =>
      (serveDirectory s (directory, request.2)).1
  | .access access => serveAccess s (access, request.2)
  | .governance governance =>
      serveGovernance s (governance, request.2)
  | .delegation delegation =>
      serveDelegation s (delegation, request.2)
  | .remediation orchestrator ctx campaignId =>
      serveRemediation s
        ⟨request.2, orchestrator, ctx, campaignId⟩

end AccessIQ

------------------------------------------------------------
-- Frames
------------------------------------------------------------

namespace AccessIQ

open Foundations Python Scim Access Delegation Governance
open Connectors Remediation

variable [Platform]
variable {β : Type}

/- Delegations are written in a table of their own. -/
omit [Platform] in
theorem Delegation.DelegationStep.frame
    {s s' : Store}
    (hStep : DelegationStep s s')
    (f : Store → β)
    (hFrame :
      ∀ (s : Store) assignments events,
        f { s with
            delegationAssignments := assignments
            auditEvents := events } =
          f s) :
    f s' = f s := by
  cases hStep with
  | unchanged => rfl
  | assigned hAssigned =>
      rcases hAssigned.stored with ⟨hFits, event, rfl⟩
      exact hFrame s _ _
  | removed hRemoved =>
      rcases hRemoved.stored with ⟨hFits, event, rfl⟩
      exact hFrame s _ _

theorem serveDelegation_frame
    (f : Store → β)
    (hFrame :
      ∀ (s : Store) assignments events,
        f { s with
            delegationAssignments := assignments
            auditEvents := events } =
          f s)
    (s : Store)
    (request : DelegationRequest × Environment) :
    f (serveDelegation s request) = f s :=
  (serveDelegation_step s request).frame f hFrame

omit [Platform] in
theorem GovernanceStep.frame
    {s s' : Store}
    (hStep : GovernanceStep s s')
    (f : Store → β)
    (hFrame :
      ∀ (s : Store) campaigns items decisions events,
        f { s with
            certificationCampaigns := campaigns
            certificationReviewItems := items
            certificationDecisions := decisions
            auditEvents := events } =
          f s) :
    f s' = f s := by
  cases hStep with
  | unchanged => rfl
  | created hCreated =>
      rcases hCreated with ⟨_, -, hFits, event, -, rfl⟩
      exact hFrame s _ _ _ _
  | started hStarted =>
      cases hStarted with
      | again loaded hGet hDraft hItems event hCampaign
          hStored =>
          rw [hStored]
          exact hFrame s _ _ _ _
      | generated loaded hGet hDraft hNone items hItems s₁
          hInserted event hCampaign hStored =>
          rcases insertCertificationReviewItems_eq_ok
            hInserted with ⟨t, -, rfl⟩
          rw [hStored]
          exact hFrame s _ _ _ _
  | decided hDecided =>
      rw [hDecided.stored]
      exact hFrame s _ _ _ _
  | completed hCompleted =>
      rcases hCompleted with ⟨_, -, -, -, rfl, event, rfl⟩
      exact hFrame s _ _ _ _
  | cancelled hCancelled =>
      rcases hCancelled with ⟨_, -, -, rfl, event, rfl⟩
      exact hFrame s _ _ _ _

/- So is what belongs to campaigns. -/
theorem serveGovernance_frame
    (f : Store → β)
    (hFrame :
      ∀ (s : Store) campaigns items decisions events,
        f { s with
            certificationCampaigns := campaigns
            certificationReviewItems := items
            certificationDecisions := decisions
            auditEvents := events } =
          f s)
    (s : Store)
    (request : GovernanceRequest × Environment) :
    f (serveGovernance s request) = f s :=
  GovernanceStep.frame (serveGovernance_step s request) f
    hFrame

/- And what remediation provisions. -/
theorem serveRemediation_frame
    (f : Store → β)
    (hFrame :
      ∀ (s : Store) provisioningJobs entries events jobs,
        f { s with
            provisioningJobs := provisioningJobs
            provisioningHistory := entries
            auditEvents := events
            remediationJobs := jobs } =
          f s)
    (s : Store)
    (request : RemediationRequest) :
    f (serveRemediation s request) = f s :=
  (sameElsewhere_serveRemediation s request).read f hFrame

/- And users, profiles, groups and memberships. -/
theorem DirectoryEffect.frame
    {s s' : Store}
    {published : List DomainEvent}
    (hEffect : DirectoryEffect s published s')
    (f : Store → β)
    (hFrame :
      ∀ (s : Store) users profiles groups members events,
        f { s with
            users := users
            enterpriseUserProfiles := profiles
            groups := groups
            groupMembers := members
            auditEvents := events } =
          f s) :
    f s' = f s := by
  cases hEffect with
  | registered userData users' hFree hUsers =>
      exact hFrame s users' _ _ _ _
  | scim _ _ hScim =>
      cases hScim with
      | none => rfl
      | denied event hDenied => exact hFrame s _ _ _ _ _
      | user ctx userId _ _ hMutated =>
          have hOfStep :
              ∀ {user desired kinds},
                UserStep ctx s user desired kinds s' →
                  f s' = f s := by
            intro user desired kinds hStep
            rw [hStep.eq]
            exact hFrame s _ _ _ _ _
          cases hMutated with
          | created _ _ _ _ _ _ _ _ hStep =>
              exact hOfStep hStep
          | changed _ _ _ _ _ _ _ _ hStep =>
              exact hOfStep hStep
      | group ctx groupId _ _ hMutated =>
          cases hMutated with
          | mutated kinds s₁ auditEvents' hChange =>
              rw [hChange.eq]
              exact hFrame s _ _ _ _ _

theorem serveDirectory_frame
    (f : Store → β)
    (hFrame :
      ∀ (s : Store) users profiles groups members events,
        f { s with
            users := users
            enterpriseUserProfiles := profiles
            groups := groups
            groupMembers := members
            auditEvents := events } =
          f s)
    (s : Store)
    (request : DirectoryRequest × Environment) :
    f (serveDirectory s request).1 = f s :=
  (directoryEffect s request).frame f hFrame

end AccessIQ
