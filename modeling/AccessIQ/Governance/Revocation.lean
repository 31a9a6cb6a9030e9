import AccessIQ.Access.Delegated
import AccessIQ.Governance.Campaigns

/-
  When an access can be revoked.

  A database that enforces foreign keys keeps an assignment
  for as long as a review item refers to it, and review items
  are never removed.  So a revocation that authorization and
  policy let pass goes through exactly when no campaign was
  started since the access was granted.

  Key definitions include:
    * `Reviewed`
    * `SnapshotTaken`
    * `Revoked`

  Key theorems include:
    * `reviewed_iff_snapshotTaken`
    * `revoked_iff_not_reviewed`
    * `revocation_succeeds_iff`
-/

------------------------------------------------------------
-- Reviewed Assignments
------------------------------------------------------------

namespace AccessIQ

namespace Governance

open Foundations Python Access Delegation

/- A review item refers to the assignment. -/
def Reviewed
    (assignmentId : Int)
    (s : Store) : Prop :=
  ∃ item ∈ s.certificationReviewItems.rows,
    item.accessAssignmentId = assignmentId

/- A campaign is started while the assignment is there. -/
def SnapshotTaken
    (assignmentId : Int)
    (s s' : Store) : Prop :=
  (∃ c ∈ s.certificationCampaigns.rows,
    ∃ c' ∈ s'.certificationCampaigns.rows,
      c'.id = c.id ∧ c.status = .draft ∧
        c'.status = .active) ∧
    ∃ a ∈ s.accessAssignments.rows, a.id = assignmentId

/- A snapshot has the keys of the assignments, in order. -/
theorem Snapshot.assignmentIds
    {s : Store}
    {items : List CertificationReviewItem}
    (hSnapshot : Snapshot s items) :
    items.map CertificationReviewItem.accessAssignmentId =
      s.accessAssignments.rows.map AccessAssignment.id := by
  unfold Snapshot at hSnapshot
  generalize s.accessAssignments.rows = rows at hSnapshot ⊢
  induction hSnapshot with
  | nil => rfl
  | cons hItem _ ih =>
      rw [List.map_cons, List.map_cons, ih, hItem.1]

/- What items are about is the same, so are assignments. -/
theorem assignmentIds_of_subjects
    {items items' : List CertificationReviewItem}
    (hSame :
      items'.map reviewSubject = items.map reviewSubject) :
    items'.map CertificationReviewItem.accessAssignmentId =
      items.map
        CertificationReviewItem.accessAssignmentId := by
  have hIds :=
    congrArg
      (List.map CertificationReviewItem.accessAssignmentId)
      hSame
  rw [List.map_map, List.map_map] at hIds
  exact hIds

/- An assignment is reviewed by the items of some campaign. -/
theorem reviewed_iff
    {s : Store}
    (hConsistent : Consistent s)
    (assignmentId : Int) :
    Reviewed assignmentId s ↔
      ∃ c ∈ s.certificationCampaigns.rows,
        c.status ≠ .draft ∧
          assignmentId ∈ (s.reviewItemsOf c.id).map
            CertificationReviewItem.accessAssignmentId := by
  constructor
  · rintro ⟨item, hItem, hAssignment⟩
    rcases hConsistent.campaign_of_item item hItem with
      ⟨c, hC, hId, hStarted⟩
    refine ⟨c, hC, hStarted, List.mem_map.mpr
      ⟨item, ?_, hAssignment⟩⟩
    exact mem_reviewItemsOf.mpr ⟨hItem, hId.symm⟩
  · rintro ⟨c, -, -, hMem⟩
    rcases List.mem_map.mp hMem with
      ⟨item, hItem, hAssignment⟩
    exact ⟨item, (mem_reviewItemsOf.mp hItem).1,
      hAssignment⟩

/-
  Only a snapshot makes an assignment reviewed, and nothing
  takes that back.
-/
theorem reviewed_step
    {s s' : Store}
    (hConsistent : Consistent s)
    (hKept : Kept s s')
    (assignmentId : Int) :
    Reviewed assignmentId s' ↔
      Reviewed assignmentId s ∨
        SnapshotTaken assignmentId s s' := by
  rw [reviewed_iff hKept.consistent,
    reviewed_iff hConsistent]
  constructor
  · rintro ⟨c', hC', hStarted', hMem⟩
    rcases hKept.moved.new c' hC' with
      ⟨c, hC, hId⟩ | hDraft
    · rcases hKept.moved.moved c hC with
        ⟨c'', hC'', hMove⟩
      have hEq : c'' = c' :=
        s'.certificationCampaigns.eq_of_mem_of_id_eq hC''
          hC' (hMove.id.trans hId)
      subst hEq
      rw [← hId] at hMem
      by_cases hStart :
          c.status = .draft ∧ c''.status = .active
      · have hSnapshot := hMove.taken hStart.1 hStart.2
        rw [hSnapshot.assignmentIds] at hMem
        exact Or.inr
          ⟨⟨c, hC, c'', hC', hMove.id, hStart⟩,
            List.mem_map.mp hMem⟩
      · rw [assignmentIds_of_subjects (hMove.kept hStart)]
          at hMem
        refine Or.inl ⟨c, hC, fun hDraft => ?_, hMem⟩
        rw [hConsistent.reviewItemsOf_draft hC hDraft]
          at hMem
        exact List.not_mem_nil hMem
    · exact absurd hDraft hStarted'
  · rintro (⟨c, hC, hStarted, hMem⟩ |
      ⟨⟨c, hC, c', hC', hId, hDraft, hActive⟩, hPresent⟩)
    · rcases hKept.moved.moved c hC with ⟨c', hC', hMove⟩
      have hNoStart :
          ¬ (c.status = .draft ∧ c'.status = .active) :=
        fun hStart => hStarted hStart.1
      refine ⟨c', hC', ?_, ?_⟩
      · rcases hMove.status with hSame | hStep
        · rw [hSame]
          exact hStarted
        · exact started_of_transitions
            (.single
              ((mem_validCampaignTransitions_iff _ _).mp
                hStep))
            hStarted
      · rw [hMove.id,
          assignmentIds_of_subjects (hMove.kept hNoStart)]
        exact hMem
    · rcases hKept.moved.moved c hC with
        ⟨c'', hC'', hMove⟩
      have hEq : c'' = c' :=
        s'.certificationCampaigns.eq_of_mem_of_id_eq hC''
          hC' (hMove.id.trans hId.symm)
      subst hEq
      have hSnapshot := hMove.taken hDraft hActive
      refine ⟨c'', hC', ?_, ?_⟩
      · rw [hActive]
        intro hEq
        cases hEq
      · rw [hId, hSnapshot.assignmentIds]
        exact List.mem_map.mpr hPresent

variable [Platform]

/-
  In a run from no campaigns, the reviewed assignments are
  those of which a snapshot was taken.
-/
theorem reviewed_iff_snapshotTaken
    {start : Store}
    (hCampaigns : start.certificationCampaigns.rows = [])
    (hItems : start.certificationReviewItems.rows = [])
    (hDecisions : start.certificationDecisions.rows = [])
    (requests : List (ReviewRequest × Environment))
    (assignmentId : Int) :
    Reviewed assignmentId
        (serveAll serveReview start requests) ↔
      Occurs serveReview (SnapshotTaken assignmentId) start
        requests := by
  have hStart :=
    consistent_of_none hCampaigns hItems hDecisions
  have hNone : ¬ Reviewed assignmentId start := by
    rintro ⟨item, hItem, -⟩
    rw [hItems] at hItem
    cases hItem
  have hRun :=
    serveAll_iff_occurs
      (fun s request h => (kept_serveReview s request h).1)
      (fun s request h =>
        reviewed_step h (kept_serveReview s request h)
          assignmentId)
      hStart requests
  exact hRun.trans (or_iff_right hNone)

end Governance

end AccessIQ

------------------------------------------------------------
-- Revoking
------------------------------------------------------------

namespace AccessIQ

namespace Governance

open Foundations Python Access Delegation

/- The request succeeded and removed its pair. -/
def Revoked
    (data : AccessActionRequest)
    (s : Store)
    (served : Response Unit) : Prop :=
  served.result = .ok () ∧
    served.committed.accessPairs =
      s.accessPairs \ {data.pair}

theorem accessAssignmentReferenced_iff
    {s : Store}
    {assignmentId : Int} :
    s.accessAssignmentReferenced assignmentId = true ↔
      Reviewed assignmentId s := by
  unfold Store.accessAssignmentReferenced Reviewed
  rw [List.any_eq_true]
  simp only [beq_iff_eq]

variable [Platform]

/-
  Where nothing fails by itself, a revocation that passes
  authorization and policy goes through exactly when its
  assignment is not reviewed.
-/
theorem revoked_iff_not_reviewed
    {s : Store}
    (hEnforces : s.dialect.enforcesForeignKeys = true)
    {ctx : RequestContext}
    {data : AccessActionRequest}
    {actor : User}
    {env : Environment}
    (hSteady : env.Steady)
    (hActor : s.users.contains actor.id = true)
    (target : AccessTarget s data)
    {a : AccessAssignment}
    (hFind :
      s.findAccessAssignment data.targetUserId
        data.entitlementId = some a)
    (hPasses :
      AccessKind.revoke.passes s ctx.now actor target.user
          target.entitlement target.application =
        true) :
    Revoked data s
        (AccessRequest.serve ⟨.revoke, ctx, data, actor⟩ env
          s) ↔
      ¬ Reviewed a.id s := by
  have hOutcome := revokeAccess_outcome env s ctx data actor
  unfold Revoked
  simp only [AccessRequest.serve]
  generalize (revokeAccess ctx data actor).serve env s = r
    at hOutcome ⊢
  rcases r with ⟨result, committed, published⟩
  simp only at hOutcome ⊢
  have hKnown : s.resolves s.users actor.id = true :=
    Store.resolves_of_contains hActor
  have hBlocked : ∀ {s₁ : Store}, SameButAudit s s₁ →
      (RevokeBlocked data s₁ ↔ Reviewed a.id s) := by
    rintro s₁ ⟨t, rfl⟩
    constructor
    · rintro ⟨-, b, hB, hReferenced⟩
      have hEq : a = b := Option.some.inj (hFind.symm.trans hB)
      subst hEq
      exact accessAssignmentReferenced_iff.mp hReferenced
    · intro hReviewed
      exact ⟨hEnforces, a, hFind,
        accessAssignmentReferenced_iff.mpr hReviewed⟩
  unfold AccessKind.passes at hPasses
  rw [Bool.and_eq_true] at hPasses
  cases hOutcome with
  | userNotFound hNone =>
      cases target.user_found.symm.trans hNone
  | entitlementNotFound hNone =>
      cases target.entitlement_found.symm.trans hNone
  | applicationNotFound entitlement hSome hNone =>
      cases target.entitlement_found.symm.trans hSome
      cases target.application_found.symm.trans hNone
  | databaseFailed target' e hError hReason =>
      rcases hReason with hFail | hUnknown |
        ⟨authorization, s₁, hAuthorized, -, -, hReferenced⟩
      · exact absurd hFail hSteady.not_mayFail
      · cases hKnown.symm.trans hUnknown
      · have hReviewed :=
          (hBlocked (AuthorizedAs.sameButAudit
            hAuthorized)).mp hReferenced
        refine iff_of_false ?_ (not_not.mpr hReviewed)
        rintro ⟨hOk, -⟩
        cases hOk
  | unauthorized target' hUnauthorized =>
      cases target'.eq target
      rw [accessAuthorization_of_unauthorized hUnauthorized]
        at hPasses
      cases hPasses.1
  | conflict target' authorization s₁ response hAuthorized
      hConflict =>
      rw [hFind] at hConflict
      cases hConflict
  | denied target' authorization s₁ hAuthorized hConflict
      hDenied =>
      cases target'.eq target
      rcases accessAuthorization_of_authorizedAs hAuthorized
        with ⟨hEq, -⟩
      rw [hEq] at hPasses
      cases hPasses.2.symm.trans hDenied
  | changed target' authorization s₁ _ n hAuthorized
      hConflict hAllowed hEffect hFree =>
      have hSame := AuthorizedAs.sameButAudit hAuthorized
      refine iff_of_true ⟨rfl, ?_⟩ ?_
      · rw [accessPairs_of_revokeEffect hEffect]
        rcases hSame with ⟨t, rfl⟩
        rfl
      · intro hReviewed
        exact hFree ((hBlocked hSame).mpr hReviewed)

/-
  With foreign keys enforced, in every state that grants,
  revocations and campaign requests reach from no campaigns:
  a revocation that authorization and policy let pass removes
  its assignment exactly when no campaign was started while
  the assignment was there, which is when no review item
  refers to it.
-/
theorem revocation_succeeds_iff
    {start : Store}
    (hDialect : start.dialect = .postgresql)
    (hCampaigns : start.certificationCampaigns.rows = [])
    (hItems : start.certificationReviewItems.rows = [])
    (hDecisions : start.certificationDecisions.rows = [])
    (requests : List (ReviewRequest × Environment))
    {s : Store}
    (hReached : serveAll serveReview start requests = s)
    {ctx : RequestContext}
    {data : AccessActionRequest}
    {actor : User}
    {env : Environment}
    (hSteady : env.Steady)
    (hActor : s.users.contains actor.id = true)
    (target : AccessTarget s data)
    {a : AccessAssignment}
    (hFind :
      s.findAccessAssignment data.targetUserId
        data.entitlementId = some a)
    (hPasses :
      AccessKind.revoke.passes s ctx.now actor target.user
          target.entitlement target.application =
        true) :
    let revocation : AccessRequest :=
      ⟨.revoke, ctx, data, actor⟩
    let snapshotTaken :=
      Occurs serveReview (SnapshotTaken a.id) start requests
    (Revoked data s (revocation.serve env s) ↔
        ¬ snapshotTaken) ∧
      (snapshotTaken ↔ Reviewed a.id s) := by
  intro revocation snapshotTaken
  have hDialect' : s.dialect = .postgresql := by
    have hStep :
        ∀ (s : Store) request,
          s.dialect = .postgresql →
            (serveReview s request).dialect = .postgresql :=
      fun s request h => (dialect_serveReview s request).trans h
    rw [← hReached]
    exact serveAll_invariant hStep hDialect requests
  have hEnforces : s.dialect.enforcesForeignKeys = true := by
    rw [hDialect']
    rfl
  have hTaken : snapshotTaken ↔ Reviewed a.id s := by
    rw [← hReached]
    exact (reviewed_iff_snapshotTaken hCampaigns hItems
      hDecisions requests a.id).symm
  refine ⟨?_, hTaken⟩
  rw [hTaken]
  exact revoked_iff_not_reviewed hEnforces hSteady hActor
    target hFind hPasses

end Governance

end AccessIQ

------------------------------------------------------------
-- A Reviewed Access
------------------------------------------------------------

namespace AccessIQ

namespace Governance

open Foundations Python Access

attribute [local instance] asciiPlatform

/- The production database after a review is completed. -/
def reviewedStore : Store :=
  serveAll serveReview (seededStore .postgresql)
    approvedReview

/- The access that was reviewed. -/
def reviewedAccess : AccessActionRequest where
  targetUserId := 1
  entitlementId := 1

def reviewedTarget :
    AccessTarget reviewedStore reviewedAccess where
  user := bob
  entitlement := ⟨1, "Salesforce User", "user", 1⟩
  application := ⟨1, "Salesforce", "salesforce"⟩
  user_found := by decide +kernel
  entitlement_found := by decide +kernel
  application_found := by decide +kernel

theorem revocation_succeeds_iff_reviewed :
    let revocation : AccessRequest :=
      ⟨.revoke, aliceContext, reviewedAccess, alice⟩
    let snapshotTaken :=
      Occurs serveReview (SnapshotTaken 1)
        (seededStore .postgresql) approvedReview
    (Revoked reviewedAccess reviewedStore
          (revocation.serve steadyEnvironment
            reviewedStore) ↔
        ¬ snapshotTaken) ∧
      (snapshotTaken ↔ Reviewed 1 reviewedStore) :=
  revocation_succeeds_iff (a := ⟨1, 1, 1, 0⟩) rfl rfl rfl rfl
    approvedReview rfl steadyEnvironment_steady
    (by decide +kernel) reviewedTarget (by decide +kernel)
    (by decide +kernel)

/-
  After the review a security administrator cannot revoke the
  access: the request passes, fails in the database, and the
  assignment stays.
-/
theorem reviewed_access_not_revoked :
    let revocation : AccessRequest :=
      ⟨.revoke, aliceContext, reviewedAccess, alice⟩
    let served :=
      revocation.serve steadyEnvironment reviewedStore
    AccessKind.revoke.passes reviewedStore 0 alice bob
          ⟨1, "Salesforce User", "user", 1⟩
          ⟨1, "Salesforce", "salesforce"⟩ =
        true ∧
      served.result =
          .error
            (.http ⟨500, "Database operation failed"⟩) ∧
        reviewedStore.findAccessAssignment 1 1 =
            some ⟨1, 1, 1, 0⟩ ∧
          served.committed.findAccessAssignment 1 1 =
            some ⟨1, 1, 1, 0⟩ := by
  decide +kernel

end Governance

end AccessIQ
