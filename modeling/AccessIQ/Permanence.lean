import AccessIQ.Application
import AccessIQ.Foundations.Extension
import Mathlib.Logic.Relation

/-
  What no statement of the application takes back.

  A handler changes the database by the statements below and
  by nothing else.  None of them removes a user, a group, a
  profile, a campaign, a review item, a decision, a job or a
  delegation, and some of their columns are written once.  The
  audit trail and the history of the provisioning jobs only
  grow, a withdrawn delegation stays as it is, and nobody
  writes applications, entitlements or operator roles.

  Key definitions include:
    * `Statement`
    * `Permanent`

  Key theorems include:
    * `permanent_trans`
    * `permanent_of_statement`
    * `permanent_of_statements`
-/

------------------------------------------------------------
-- Statements
------------------------------------------------------------

namespace AccessIQ

open Foundations Connectors Delegation Governance
open Remediation Scim

/-
  What one statement does to the database, whatever the
  handler that sends it has read before.
-/
inductive Statement
    (s : Store) : Store → Prop
  | insertUser
      {s' : Store}
      (user : User)
      (n : Int)
      (hOk : s.insertUser user = .ok (s', n)) :
      Statement s s'
  | updateUser
      {s' : Store}
      (loaded new : User)
      (hOk : s.updateUser loaded new = .ok s') :
      Statement s s'
  | insertEnterpriseUserProfile
      {s' : Store}
      (profile : EnterpriseUserProfile)
      (n : Int)
      (hOk :
        s.insertEnterpriseUserProfile profile =
          .ok (s', n)) :
      Statement s s'
  | updateEnterpriseUserProfile
      {s' : Store}
      (loaded new : EnterpriseUserProfile)
      (hOk :
        s.updateEnterpriseUserProfile loaded new = .ok s') :
      Statement s s'
  | insertGroup
      {s' : Store}
      (group : Group)
      (n : Int)
      (hOk : s.insertGroup group = .ok (s', n)) :
      Statement s s'
  | updateGroup
      {s' : Store}
      (ctx : RequestContext)
      (group : LoadedGroup)
      (hOk : s.updateGroup ctx group = .ok s') :
      Statement s s'
  | insertGroupMembers
      {s' : Store}
      (ctx : RequestContext)
      (groupId : Int)
      (userIds : List Int)
      (hOk :
        s.insertGroupMembers ctx groupId userIds = .ok s') :
      Statement s s'
  | deleteGroupMembers
      (rows : List GroupMember) :
      Statement s (s.deleteGroupMembers rows)
  | insertAccessAssignment
      {s' : Store}
      (a : AccessAssignment)
      (n : Int)
      (hOk : s.insertAccessAssignment a = .ok (s', n)) :
      Statement s s'
  | deleteAccessAssignment
      {s' : Store}
      (assignmentId : Int)
      (hOk : s.deleteAccessAssignment assignmentId = .ok s') :
      Statement s s'
  | insertAuditEvent
      {s' : Store}
      (event : AuditEvent)
      (n : Int)
      (hOk : s.insertAuditEvent event = .ok (s', n)) :
      Statement s s'
  | insertDelegationAssignment
      {s' : Store}
      (a : DelegationAssignment)
      (n : Int)
      (hOk : s.insertDelegationAssignment a = .ok (s', n)) :
      Statement s s'
  | deactivateDelegationAssignment
      {s' : Store}
      (assignmentId : Int)
      (hOk :
        s.deactivateDelegationAssignment assignmentId =
          .ok s') :
      Statement s s'
  | insertCertificationCampaign
      {s' : Store}
      (c : CertificationCampaign)
      (n : Int)
      (hOk :
        s.insertCertificationCampaign c = .ok (s', n)) :
      Statement s s'
  | updateCertificationCampaign
      {s' : Store}
      (loaded new : CertificationCampaign)
      (hOk :
        s.updateCertificationCampaign loaded new = .ok s') :
      Statement s s'
  | insertCertificationReviewItems
      {s' : Store}
      (items : List CertificationReviewItem)
      (hOk :
        s.insertCertificationReviewItems items = .ok s') :
      Statement s s'
  | updateCertificationReviewItem
      {s' : Store}
      (loaded new : CertificationReviewItem)
      (hOk :
        s.updateCertificationReviewItem loaded new =
          .ok s') :
      Statement s s'
  | insertCertificationDecision
      {s' : Store}
      (d : CertificationDecision)
      (hOk : s.insertCertificationDecision d = .ok s') :
      Statement s s'
  | updateCertificationDecision
      {s' : Store}
      (loaded new : CertificationDecision)
      (hOk :
        s.updateCertificationDecision loaded new = .ok s') :
      Statement s s'
  | insertRemediationJob
      {s' : Store}
      (job : RemediationJob)
      (n : Int)
      (hOk : s.insertRemediationJob job = .ok (s', n)) :
      Statement s s'
  | updateRemediationJob
      {s' : Store}
      (loaded new : RemediationJob)
      (hOk : s.updateRemediationJob loaded new = .ok s') :
      Statement s s'
  | insertProvisioningJob
      {s' : Store}
      (job : ProvisioningJob)
      (n : Int)
      (hOk : s.insertProvisioningJob job = .ok (s', n)) :
      Statement s s'
  | updateProvisioningJob
      {s' : Store}
      (loaded new : ProvisioningJob)
      (hOk : s.updateProvisioningJob loaded new = .ok s') :
      Statement s s'
  | insertProvisioningHistory
      {s' : Store}
      (entry : ProvisioningHistory)
      (hOk : s.insertProvisioningHistory entry = .ok s') :
      Statement s s'

/- A flush sends statements, one after another. -/
abbrev Statements : Store → Store → Prop :=
  Relation.ReflTransGen Statement

end AccessIQ

------------------------------------------------------------
-- Columns Written Once
------------------------------------------------------------

namespace AccessIQ

open Foundations Connectors

/- The operator role is set when a user is stored. -/
def User.permanent
    (u : User) :
    Int × String :=
  (u.id, u.operatorRole)

def Group.permanent
    (g : Group) :
    Int × Timestamp :=
  (g.id, g.createdAt)

def EnterpriseUserProfile.permanent
    (p : EnterpriseUserProfile) :
    Int × Int × Timestamp :=
  (p.id, p.userId, p.createdAt)

/- Whom a job is for, and how often it may be tried. -/
def ProvisioningJob.permanent
    (j : ProvisioningJob) :
    Int × String × String × ConnectorOperation × String ×
      Option String × Nat × Timestamp :=
  (j.id, j.correlationId, j.connector, j.operation,
    j.targetType, j.targetId, j.maxAttempts, j.createdAt)

end AccessIQ

namespace AccessIQ

namespace Governance

open Foundations

def CertificationCampaign.permanent
    (c : CertificationCampaign) :
    Int × String × Option String × Int × Int × Timestamp :=
  (c.id, c.name, c.description, c.createdBy,
    c.defaultReviewerId, c.createdAt)

/- The access under review. -/
def CertificationReviewItem.permanent
    (i : CertificationReviewItem) :
    Int × Int × Int × Int × Int × Int × Option Int ×
      Timestamp :=
  (i.id, i.campaignId, i.accessAssignmentId, i.userId,
    i.applicationId, i.entitlementId, i.groupId, i.createdAt)

def CertificationDecision.permanent
    (d : CertificationDecision) :
    Int × Int × Int × Timestamp :=
  (d.id, d.campaignId, d.reviewItemId, d.createdAt)

end Governance

namespace Remediation

/- The item a job remediates, and who asked for it. -/
def RemediationJob.permanent
    (j : RemediationJob) :
    Int × Int × Int × String × RemediationType ×
      Timestamp × Int :=
  (j.id, j.campaignId, j.reviewItemId, j.correlationId,
    j.remediationType, j.createdAt, j.initiatedBy)

end Remediation

namespace Delegation

/- All of a delegation but whether it is active. -/
def DelegationAssignment.permanent
    (a : DelegationAssignment) :
    DelegationAssignment :=
  { a with active := true }

end Delegation

end AccessIQ

------------------------------------------------------------
-- Permanence
------------------------------------------------------------

namespace AccessIQ

open Foundations Connectors Delegation Governance
open Remediation

/- What a later store still holds of an earlier one. -/
structure Permanent
    (s s' : Store) : Prop where
  dialect : s'.dialect = s.dialect
  applications : s'.applications = s.applications
  entitlements : s'.entitlements = s.entitlements
  users : s.users.Extends User.permanent s'.users
  groups : s.groups.Extends Group.permanent s'.groups
  profiles :
    s.enterpriseUserProfiles.Extends
      EnterpriseUserProfile.permanent
      s'.enterpriseUserProfiles
  campaigns :
    s.certificationCampaigns.Extends
      CertificationCampaign.permanent
      s'.certificationCampaigns
  items :
    s.certificationReviewItems.Extends
      CertificationReviewItem.permanent
      s'.certificationReviewItems
  decisions :
    s.certificationDecisions.Extends
      CertificationDecision.permanent
      s'.certificationDecisions
  remediationJobs :
    s.remediationJobs.Extends RemediationJob.permanent
      s'.remediationJobs
  provisioningJobs :
    s.provisioningJobs.Extends ProvisioningJob.permanent
      s'.provisioningJobs
  delegations :
    s.delegationAssignments.Extends
      DelegationAssignment.permanent
      s'.delegationAssignments
  withdrawn :
    ∀ a ∈ s.delegationAssignments.rows, a.active = false →
      a ∈ s'.delegationAssignments.rows
  auditEvents : s.auditEvents.rows <+: s'.auditEvents.rows
  history :
    s.provisioningHistory.rows <+:
      s'.provisioningHistory.rows

theorem permanent_refl
    (s : Store) :
    Permanent s s where
  dialect := rfl
  applications := rfl
  entitlements := rfl
  users := Table.extends_refl _
  groups := Table.extends_refl _
  profiles := Table.extends_refl _
  campaigns := Table.extends_refl _
  items := Table.extends_refl _
  decisions := Table.extends_refl _
  remediationJobs := Table.extends_refl _
  provisioningJobs := Table.extends_refl _
  delegations := Table.extends_refl _
  withdrawn _ ha _ := ha
  auditEvents := List.prefix_rfl
  history := List.prefix_rfl

theorem permanent_trans
    {a b c : Store}
    (hFirst : Permanent a b)
    (hSecond : Permanent b c) :
    Permanent a c where
  dialect := hSecond.dialect.trans hFirst.dialect
  applications :=
    hSecond.applications.trans hFirst.applications
  entitlements :=
    hSecond.entitlements.trans hFirst.entitlements
  users := Table.extends_trans hFirst.users hSecond.users
  groups := Table.extends_trans hFirst.groups hSecond.groups
  profiles :=
    Table.extends_trans hFirst.profiles hSecond.profiles
  campaigns :=
    Table.extends_trans hFirst.campaigns hSecond.campaigns
  items := Table.extends_trans hFirst.items hSecond.items
  decisions :=
    Table.extends_trans hFirst.decisions hSecond.decisions
  remediationJobs :=
    Table.extends_trans hFirst.remediationJobs
      hSecond.remediationJobs
  provisioningJobs :=
    Table.extends_trans hFirst.provisioningJobs
      hSecond.provisioningJobs
  delegations :=
    Table.extends_trans hFirst.delegations
      hSecond.delegations
  withdrawn r hr hInactive :=
    hSecond.withdrawn r (hFirst.withdrawn r hr hInactive)
      hInactive
  auditEvents := hFirst.auditEvents.trans hSecond.auditEvents
  history := hFirst.history.trans hSecond.history

end AccessIQ

------------------------------------------------------------
-- Directory Statements
------------------------------------------------------------

namespace AccessIQ

open Foundations Scim

variable {s s' : Store}
variable {n : Int}

theorem permanent_insertUser
    {user : User}
    (hOk : s.insertUser user = .ok (s', n)) :
    Permanent s s' := by
  rcases Store.insertInto_eq_ok_iff.mp hOk with
    ⟨-, hFits, rfl, -⟩
  exact
    { permanent_refl s with
      users := Table.extends_insert _ _ hFits }

theorem permanent_updateUser
    {loaded new : User}
    (hOk : s.updateUser loaded new = .ok s') :
    Permanent s s' := by
  unfold Store.updateUser at hOk
  split at hOk
  · cases hOk
    exact permanent_refl s
  · rcases Store.updateIn_eq_ok_iff.mp hOk with
      ⟨-, -, hFits, rfl⟩
    exact
    { permanent_refl s with
      users :=
        Table.extends_modify _ hFits fun _ => rfl }

theorem permanent_insertEnterpriseUserProfile
    {profile : EnterpriseUserProfile}
    (hOk :
      s.insertEnterpriseUserProfile profile = .ok (s', n)) :
    Permanent s s' := by
  rcases Store.insertInto_eq_ok_iff.mp hOk with
    ⟨-, hFits, rfl, -⟩
  exact
    { permanent_refl s with
      profiles := Table.extends_insert _ _ hFits }

theorem permanent_updateEnterpriseUserProfile
    {loaded new : EnterpriseUserProfile}
    (hOk :
      s.updateEnterpriseUserProfile loaded new = .ok s') :
    Permanent s s' := by
  unfold Store.updateEnterpriseUserProfile at hOk
  split at hOk
  · cases hOk
    exact permanent_refl s
  · rcases Store.updateIn_eq_ok_iff.mp hOk with
      ⟨-, -, hFits, rfl⟩
    exact
    { permanent_refl s with
      profiles :=
        Table.extends_modify _ hFits fun _ => rfl }

theorem permanent_insertGroup
    {group : Group}
    (hOk : s.insertGroup group = .ok (s', n)) :
    Permanent s s' := by
  rcases Store.insertInto_eq_ok_iff.mp hOk with
    ⟨-, hFits, rfl, -⟩
  exact
    { permanent_refl s with
      groups := Table.extends_insert _ _ hFits }

theorem permanent_updateGroup
    {ctx : RequestContext}
    {group : LoadedGroup}
    (hOk : s.updateGroup ctx group = .ok s') :
    Permanent s s' := by
  unfold Store.updateGroup at hOk
  split at hOk
  · cases hOk
    exact permanent_refl s
  · rcases Store.updateIn_eq_ok_iff.mp hOk with
      ⟨-, -, hFits, rfl⟩
    exact
    { permanent_refl s with
      groups :=
        Table.extends_modify _ hFits fun _ => rfl }

/- Memberships come and go. -/
theorem permanent_insertGroupMembers
    {ctx : RequestContext}
    {groupId : Int}
    {userIds : List Int}
    (hOk :
      s.insertGroupMembers ctx groupId userIds = .ok s') :
    Permanent s s' := by
  rcases map_eq_ok hOk with ⟨t, -, rfl⟩
  exact { permanent_refl s with }

theorem permanent_deleteGroupMembers
    (s : Store)
    (rows : List GroupMember) :
    Permanent s (s.deleteGroupMembers rows) :=
  { permanent_refl s with }

end AccessIQ

------------------------------------------------------------
-- Statements About Access
------------------------------------------------------------

namespace AccessIQ

open Foundations Delegation

variable {s s' : Store}
variable {n : Int}

theorem permanent_insertAuditEvent
    {event : AuditEvent}
    (hOk : s.insertAuditEvent event = .ok (s', n)) :
    Permanent s s' := by
  rcases Store.insertInto_eq_ok_iff.mp hOk with
    ⟨-, hFits, rfl, -⟩
  exact
    { permanent_refl s with
      auditEvents := List.prefix_append _ _ }

/- So do access assignments. -/
theorem permanent_insertAccessAssignment
    {a : AccessAssignment}
    (hOk : s.insertAccessAssignment a = .ok (s', n)) :
    Permanent s s' := by
  rcases Store.insertInto_eq_ok_iff.mp hOk with
    ⟨-, hFits, rfl, -⟩
  exact { permanent_refl s with }

theorem permanent_deleteAccessAssignment
    {assignmentId : Int}
    (hOk : s.deleteAccessAssignment assignmentId = .ok s') :
    Permanent s s' := by
  unfold Store.deleteAccessAssignment at hOk
  split at hOk
  · cases hOk
  · cases hOk
    exact { permanent_refl s with }

theorem permanent_insertDelegationAssignment
    {a : DelegationAssignment}
    (hOk : s.insertDelegationAssignment a = .ok (s', n)) :
    Permanent s s' := by
  rcases Store.insertInto_eq_ok_iff.mp hOk with
    ⟨-, hFits, rfl, -⟩
  exact
    { permanent_refl s with
      delegations := Table.extends_insert _ _ hFits
      withdrawn := fun r hr _ =>
        List.mem_append_left _ hr }

/- A delegation is withdrawn, and the others stay. -/
theorem permanent_deactivateDelegationAssignment
    {assignmentId : Int}
    (hOk :
      s.deactivateDelegationAssignment assignmentId =
        .ok s') :
    Permanent s s' := by
  rcases Store.updateIn_eq_ok_iff.mp hOk with
    ⟨-, -, hFits, rfl⟩
  refine
    { permanent_refl s with
      delegations :=
        Table.extends_modify _ hFits fun _ => rfl
      withdrawn := ?_ }
  intro r hr hInactive
  rw [Table.mem_modify]
  refine ⟨r, hr, ?_⟩
  by_cases hId : r.id = assignmentId
  · rw [Table.updateRow_of_id hId]
    subst hId
    rcases r with ⟨⟩
    subst hInactive
    rfl
  · exact Table.updateRow_of_id_ne hId

end AccessIQ

------------------------------------------------------------
-- Statements About Campaigns
------------------------------------------------------------

namespace AccessIQ

open Foundations Governance

variable {s s' : Store}
variable {n : Int}

theorem permanent_insertCertificationCampaign
    {c : CertificationCampaign}
    (hOk :
      s.insertCertificationCampaign c = .ok (s', n)) :
    Permanent s s' := by
  rcases Store.insertInto_eq_ok_iff.mp hOk with
    ⟨-, hFits, rfl, -⟩
  exact
    { permanent_refl s with
      campaigns := Table.extends_insert _ _ hFits }

theorem permanent_updateCertificationCampaign
    {loaded new : CertificationCampaign}
    (hOk :
      s.updateCertificationCampaign loaded new = .ok s') :
    Permanent s s' := by
  rcases Store.updateIn_eq_ok_iff.mp hOk with
    ⟨-, -, hFits, rfl⟩
  exact
    { permanent_refl s with
      campaigns :=
        Table.extends_modify _ hFits fun _ => rfl }

theorem permanent_insertCertificationReviewItems
    {items : List CertificationReviewItem}
    (hOk :
      s.insertCertificationReviewItems items = .ok s') :
    Permanent s s' := by
  rcases map_eq_ok hOk with ⟨t, hInsert, rfl⟩
  exact
    { permanent_refl s with
      items := Table.extends_tryInsertAll hInsert }

theorem permanent_updateCertificationReviewItem
    {loaded new : CertificationReviewItem}
    (hOk :
      s.updateCertificationReviewItem loaded new = .ok s') :
    Permanent s s' := by
  unfold Store.updateCertificationReviewItem at hOk
  split at hOk
  · cases hOk
    exact permanent_refl s
  · rcases Store.updateIn_eq_ok_iff.mp hOk with
      ⟨-, -, hFits, rfl⟩
    exact
    { permanent_refl s with
      items :=
        Table.extends_modify _ hFits fun _ => rfl }

theorem permanent_insertCertificationDecision
    {d : CertificationDecision}
    (hOk : s.insertCertificationDecision d = .ok s') :
    Permanent s s' := by
  rcases Store.insertInto_fst_eq_ok hOk with ⟨hFits, rfl⟩
  exact
    { permanent_refl s with
      decisions := Table.extends_insert _ _ hFits }

theorem permanent_updateCertificationDecision
    {loaded new : CertificationDecision}
    (hOk :
      s.updateCertificationDecision loaded new = .ok s') :
    Permanent s s' := by
  unfold Store.updateCertificationDecision at hOk
  split at hOk
  · cases hOk
    exact permanent_refl s
  · rcases Store.updateIn_eq_ok_iff.mp hOk with
      ⟨-, -, hFits, rfl⟩
    exact
    { permanent_refl s with
      decisions :=
        Table.extends_modify _ hFits fun _ => rfl }

end AccessIQ

------------------------------------------------------------
-- Statements About Jobs
------------------------------------------------------------

namespace AccessIQ

open Foundations Connectors Remediation

variable {s s' : Store}
variable {n : Int}

theorem permanent_insertRemediationJob
    {job : RemediationJob}
    (hOk : s.insertRemediationJob job = .ok (s', n)) :
    Permanent s s' := by
  rcases Store.insertInto_eq_ok_iff.mp hOk with
    ⟨-, hFits, rfl, -⟩
  exact
    { permanent_refl s with
      remediationJobs := Table.extends_insert _ _ hFits }

theorem permanent_updateRemediationJob
    {loaded new : RemediationJob}
    (hOk : s.updateRemediationJob loaded new = .ok s') :
    Permanent s s' := by
  rcases Store.updateIn_eq_ok_iff.mp hOk with
    ⟨-, -, hFits, rfl⟩
  exact
    { permanent_refl s with
      remediationJobs :=
        Table.extends_modify _ hFits fun _ => rfl }

theorem permanent_insertProvisioningJob
    {job : ProvisioningJob}
    (hOk : s.insertProvisioningJob job = .ok (s', n)) :
    Permanent s s' := by
  rcases Store.insertInto_eq_ok_iff.mp hOk with
    ⟨-, hFits, rfl, -⟩
  exact
    { permanent_refl s with
      provisioningJobs := Table.extends_insert _ _ hFits }

theorem permanent_updateProvisioningJob
    {loaded new : ProvisioningJob}
    (hOk : s.updateProvisioningJob loaded new = .ok s') :
    Permanent s s' := by
  rcases Store.updateIn_eq_ok_iff.mp hOk with
    ⟨-, -, hFits, rfl⟩
  exact
    { permanent_refl s with
      provisioningJobs :=
        Table.extends_modify _ hFits fun _ => rfl }

theorem permanent_insertProvisioningHistory
    {entry : ProvisioningHistory}
    (hOk : s.insertProvisioningHistory entry = .ok s') :
    Permanent s s' := by
  rcases Store.insertInto_fst_eq_ok hOk with ⟨hFits, rfl⟩
  exact
    { permanent_refl s with
      history := List.prefix_append _ _ }

end AccessIQ

------------------------------------------------------------
-- Every Statement
------------------------------------------------------------

namespace AccessIQ

open Foundations

variable {s s' : Store}

theorem permanent_of_statement
    (hStatement : Statement s s') :
    Permanent s s' := by
  cases hStatement with
  | insertUser _ _ hOk => exact permanent_insertUser hOk
  | updateUser _ _ hOk => exact permanent_updateUser hOk
  | insertEnterpriseUserProfile _ _ hOk =>
      exact permanent_insertEnterpriseUserProfile hOk
  | updateEnterpriseUserProfile _ _ hOk =>
      exact permanent_updateEnterpriseUserProfile hOk
  | insertGroup _ _ hOk =>
      exact permanent_insertGroup hOk
  | updateGroup _ _ hOk =>
      exact permanent_updateGroup hOk
  | insertGroupMembers _ _ _ hOk =>
      exact permanent_insertGroupMembers hOk
  | deleteGroupMembers rows =>
      exact permanent_deleteGroupMembers s rows
  | insertAccessAssignment _ _ hOk =>
      exact permanent_insertAccessAssignment hOk
  | deleteAccessAssignment _ hOk =>
      exact permanent_deleteAccessAssignment hOk
  | insertAuditEvent _ _ hOk =>
      exact permanent_insertAuditEvent hOk
  | insertDelegationAssignment _ _ hOk =>
      exact permanent_insertDelegationAssignment hOk
  | deactivateDelegationAssignment _ hOk =>
      exact permanent_deactivateDelegationAssignment hOk
  | insertCertificationCampaign _ _ hOk =>
      exact permanent_insertCertificationCampaign hOk
  | updateCertificationCampaign _ _ hOk =>
      exact permanent_updateCertificationCampaign hOk
  | insertCertificationReviewItems _ hOk =>
      exact permanent_insertCertificationReviewItems hOk
  | updateCertificationReviewItem _ _ hOk =>
      exact permanent_updateCertificationReviewItem hOk
  | insertCertificationDecision _ hOk =>
      exact permanent_insertCertificationDecision hOk
  | updateCertificationDecision _ _ hOk =>
      exact permanent_updateCertificationDecision hOk
  | insertRemediationJob _ _ hOk =>
      exact permanent_insertRemediationJob hOk
  | updateRemediationJob _ _ hOk =>
      exact permanent_updateRemediationJob hOk
  | insertProvisioningJob _ _ hOk =>
      exact permanent_insertProvisioningJob hOk
  | updateProvisioningJob _ _ hOk =>
      exact permanent_updateProvisioningJob hOk
  | insertProvisioningHistory _ hOk =>
      exact permanent_insertProvisioningHistory hOk

theorem permanent_of_statements
    (hStatements : Statements s s') :
    Permanent s s' := by
  induction hStatements with
  | refl => exact permanent_refl s
  | tail _ hStatement ih =>
      exact permanent_trans ih
        (permanent_of_statement hStatement)

end AccessIQ
