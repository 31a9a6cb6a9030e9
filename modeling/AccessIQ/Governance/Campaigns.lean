import AccessIQ.Seed
import AccessIQ.Governance.Consistency

/-
  The certification campaign state machine and its counts.

  Starting from no campaign, whatever campaign, grant and
  revoke requests are served: the stored counts are the
  actual ones, an item is completed exactly when it has its
  decision, a status moves along the transitions, and what
  was reviewed and decided stays once it is settled.

  Key definitions include:
    * `CampaignFacts`
    * `CampaignTransition`
    * `CampaignEvolved`
    * `Evolved`

  Key theorems include:
    * `Consistent.completedItemCount_eq`
    * `Consistent.campaignFacts`
    * `evolved_serveAll`
    * `campaigns_stateMachine`
-/

------------------------------------------------------------
-- Counts
------------------------------------------------------------

namespace AccessIQ

namespace Governance

open Foundations

/-
  What holds of the campaigns, their items and decisions in
  every reached state.
-/
structure CampaignFacts
    (s : Store) : Prop where
  decided :
    ∀ item ∈ s.certificationReviewItems.rows,
      item.status = .completed ↔
        ∃! d, d ∈ s.certificationDecisions.rows ∧
          d.reviewItemId = item.id
  counts :
    ∀ c ∈ s.certificationCampaigns.rows,
      c.completedItems =
          c.approvalCount + c.revocationCount +
            c.abstainCount ∧
        c.completedItems = (s.decisionsOf c.id).length ∧
        c.completedItems ≤ c.totalItems ∧
        c.totalItems = (s.reviewItemsOf c.id).length
  all_decided :
    ∀ c ∈ s.certificationCampaigns.rows,
      c.status = .completed →
        ∀ item ∈ s.reviewItemsOf c.id,
          ∃ d ∈ s.decisionsOf c.id, d.reviewItemId = item.id

/- Every decision has one of the three values. -/
theorem length_eq_sum_countP
    (decisions : List CertificationDecision) :
    decisions.length =
      decisions.countP (·.decision == .approve) +
        decisions.countP (·.decision == .revoke) +
        decisions.countP (·.decision == .abstain) := by
  induction decisions with
  | nil => rfl
  | cons d decisions ih =>
      rw [List.length_cons, List.countP_cons,
        List.countP_cons, List.countP_cons, ih]
      cases hDecision : d.decision with
      | approve =>
          have hRevoke :
              (CertificationDecisionValue.approve ==
                .revoke) = false := rfl
          have hAbstain :
              (CertificationDecisionValue.approve ==
                .abstain) = false := rfl
          simp only [hRevoke, hAbstain, beq_self_eq_true,
            if_true, Bool.false_eq_true, if_false]
          omega
      | revoke =>
          have hApprove :
              (CertificationDecisionValue.revoke ==
                .approve) = false := rfl
          have hAbstain :
              (CertificationDecisionValue.revoke ==
                .abstain) = false := rfl
          simp only [hApprove, hAbstain, beq_self_eq_true,
            if_true, Bool.false_eq_true, if_false]
          omega
      | abstain =>
          have hApprove :
              (CertificationDecisionValue.abstain ==
                .approve) = false := rfl
          have hRevoke :
              (CertificationDecisionValue.abstain ==
                .revoke) = false := rfl
          simp only [hApprove, hRevoke, beq_self_eq_true,
            if_true, Bool.false_eq_true, if_false]
          omega

/- The items decided on, each once. -/
theorem nodup_decided_items
    (s : Store)
    (campaignId : Int) :
    ((s.decisionsOf campaignId).map
      CertificationDecision.reviewItemId).Nodup := by
  rw [List.Nodup, List.pairwise_map]
  refine (s.certificationDecisions.unique.filter _).imp ?_
  intro a b hConflict hSame
  exact of_decide_eq_false hConflict hSame

/- As many decisions as completed items. -/
theorem Consistent.completedItemCount_eq
    {s : Store}
    (hConsistent : Consistent s)
    (campaignId : Int) :
    s.completedItemCount campaignId =
      (s.decisionsOf campaignId).length := by
  let completed :=
    (s.reviewItemsOf campaignId).filter
      (·.status == .completed)
  have hNodup :
      (completed.map CertificationReviewItem.id).Nodup := by
    have hSublist :
        List.Sublist completed
          s.certificationReviewItems.rows :=
      List.filter_sublist.trans List.filter_sublist
    exact s.certificationReviewItems.nodup_ids.sublist
      (hSublist.map _)
  have hMem : ∀ itemId,
      itemId ∈ completed.map CertificationReviewItem.id ↔
        itemId ∈ (s.decisionsOf campaignId).map
          CertificationDecision.reviewItemId := by
    intro itemId
    rw [List.mem_map, List.mem_map]
    constructor
    · rintro ⟨item, hItem, rfl⟩
      rcases List.mem_filter.mp hItem with ⟨hOf, hStatus⟩
      rcases mem_reviewItemsOf.mp hOf with
        ⟨hRow, hCampaign⟩
      rcases (hConsistent.completed_iff item hRow).mp
        (eq_of_beq hStatus) with ⟨d, hDecision, hAbout⟩
      rcases hConsistent.item_of_decision d hDecision with
        ⟨item', hRow', hId, hSame⟩
      have hEq : item' = item :=
        s.certificationReviewItems.eq_of_mem_of_id_eq hRow'
          hRow (hId.trans hAbout)
      rw [hEq] at hSame
      exact ⟨d, mem_decisionsOf.mpr
        ⟨hDecision, hSame.symm.trans hCampaign⟩, hAbout⟩
    · rintro ⟨d, hDecision, rfl⟩
      rcases mem_decisionsOf.mp hDecision with
        ⟨hRow, hCampaign⟩
      rcases hConsistent.item_of_decision d hRow with
        ⟨item, hItem, hId, hSame⟩
      have hStatus : item.status = .completed :=
        (hConsistent.completed_iff item hItem).mpr
          ⟨d, hRow, hId.symm⟩
      have hOf : item ∈ s.reviewItemsOf campaignId :=
        mem_reviewItemsOf.mpr
          ⟨hItem, hSame.trans hCampaign⟩
      exact ⟨item, List.mem_filter.mpr
        ⟨hOf, beq_iff_eq.mpr hStatus⟩, hId⟩
  have hPerm :=
    (List.perm_ext_iff_of_nodup hNodup
      (nodup_decided_items s campaignId)).mpr hMem
  calc
    s.completedItemCount campaignId = completed.length :=
      List.countP_eq_length_filter
    _ = (s.decisionsOf campaignId).length := by
      have hLength := hPerm.length_eq
      rwa [List.length_map, List.length_map] at hLength

theorem Consistent.campaignFacts
    {s : Store}
    (hConsistent : Consistent s) :
    CampaignFacts s where
  decided item hItem := by
    rw [hConsistent.completed_iff item hItem]
    constructor
    · rintro ⟨d, hDecision, hAbout⟩
      refine ⟨d, ⟨hDecision, hAbout⟩, ?_⟩
      rintro d' ⟨hDecision', hAbout'⟩
      exact decision_unique hDecision' hDecision
        (hAbout'.trans hAbout.symm)
    · rintro ⟨d, hDecided, -⟩
      exact ⟨d, hDecided⟩
  counts c hC := by
    have hCounted := hConsistent.counted c hC
    have hCompleted :=
      hConsistent.completedItemCount_eq c.id
    have hSum := length_eq_sum_countP (s.decisionsOf c.id)
    have hTotal :
        (s.reviewItemsOf c.id).length = c.totalItems :=
      congrArg CertificationCampaign.totalItems hCounted
    have hItems :
        s.completedItemCount c.id = c.completedItems :=
      congrArg CertificationCampaign.completedItems hCounted
    have hApprove :
        s.decisionCount c.id .approve = c.approvalCount :=
      congrArg CertificationCampaign.approvalCount hCounted
    have hRevoke :
        s.decisionCount c.id .revoke = c.revocationCount :=
      congrArg CertificationCampaign.revocationCount hCounted
    have hAbstain :
        s.decisionCount c.id .abstain = c.abstainCount :=
      congrArg CertificationCampaign.abstainCount hCounted
    have hLe :
        s.completedItemCount c.id ≤
          (s.reviewItemsOf c.id).length :=
      List.countP_le_length
    unfold Store.decisionCount at hApprove hRevoke hAbstain
    omega
  all_decided c hC hCompleted item hItem := by
    rcases mem_reviewItemsOf.mp hItem with ⟨hRow, hCampaign⟩
    have hStatus :=
      hConsistent.nothing_pending c hC hCompleted item hItem
    rcases (hConsistent.completed_iff item hRow).mp hStatus
      with ⟨d, hDecision, hAbout⟩
    rcases hConsistent.item_of_decision d hDecision with
      ⟨item', hRow', hId, hSame⟩
    have hEq : item' = item :=
      s.certificationReviewItems.eq_of_mem_of_id_eq hRow'
        hRow (hId.trans hAbout)
    rw [hEq] at hSame
    exact ⟨d, mem_decisionsOf.mpr
      ⟨hDecision, hSame.symm.trans hCampaign⟩, hAbout⟩

end Governance

end AccessIQ

------------------------------------------------------------
-- Runs
------------------------------------------------------------

namespace AccessIQ

namespace Governance

open Foundations Python

/- The campaign state machine. -/
inductive CampaignTransition :
    CampaignStatus → CampaignStatus → Prop
  | start : CampaignTransition .draft .active
  | complete : CampaignTransition .active .completed
  | cancelDraft : CampaignTransition .draft .cancelled
  | cancelActive : CampaignTransition .active .cancelled

/- The valid transitions are those of the state machine. -/
theorem mem_validCampaignTransitions_iff
    (status next : CampaignStatus) :
    next ∈ validCampaignTransitions status ↔
      CampaignTransition status next := by
  constructor
  · intro hValid
    cases status with
    | draft =>
        rcases List.mem_pair.mp hValid with rfl | rfl
        · exact .start
        · exact .cancelDraft
    | active =>
        rcases List.mem_pair.mp hValid with rfl | rfl
        · exact .complete
        · exact .cancelActive
    | completed => cases hValid
    | cancelled => cases hValid
  · intro hTransition
    cases hTransition <;> decide

/-
  How a campaign can look later: its status has moved along
  the state machine, its items are the same ones once it was
  started, and a completed or cancelled campaign is as it was
  with its decisions.
-/
structure CampaignEvolved
    (s s' : Store)
    (c c' : CertificationCampaign) : Prop where
  id : c'.id = c.id
  status :
    Relation.ReflTransGen CampaignTransition c.status
      c'.status
  items :
    c.status ≠ .draft →
      (s'.reviewItemsOf c.id).map reviewSubject =
        (s.reviewItemsOf c.id).map reviewSubject
  closed :
    c.status = .completed ∨ c.status = .cancelled →
      c' = c ∧ s'.decisionsOf c.id = s.decisionsOf c.id

/- Every campaign is still there and has evolved. -/
def Evolved
    (s s' : Store) : Prop :=
  ∀ c ∈ s.certificationCampaigns.rows,
    ∃ c' ∈ s'.certificationCampaigns.rows,
      CampaignEvolved s s' c c'

theorem evolved_refl
    (s : Store) :
    Evolved s s := by
  intro c hC
  exact ⟨c, hC,
    { id := rfl
      status := .refl
      items := fun _ => rfl
      closed := fun _ => ⟨rfl, rfl⟩ }⟩

/- No campaign becomes a draft again. -/
theorem started_of_transitions
    {status next : CampaignStatus}
    (hSteps :
      Relation.ReflTransGen CampaignTransition status next)
    (hStarted : status ≠ .draft) :
    next ≠ .draft := by
  induction hSteps with
  | refl => exact hStarted
  | tail _ hStep _ =>
      cases hStep <;> exact fun hEq => by cases hEq

theorem evolved_trans
    (a b c : Store)
    (hAB : Evolved a b)
    (hBC : Evolved b c) :
    Evolved a c := by
  intro x hX
  rcases hAB x hX with ⟨y, hY, hXY⟩
  rcases hBC y hY with ⟨z, hZ, hYZ⟩
  refine ⟨z, hZ,
    { id := hYZ.id.trans hXY.id
      status := hXY.status.trans hYZ.status
      items := ?_
      closed := ?_ }⟩
  · intro hStarted
    have hStill :=
      started_of_transitions hXY.status hStarted
    have hItems := hYZ.items hStill
    rw [hXY.id] at hItems
    exact hItems.trans (hXY.items hStarted)
  · intro hClosed
    rcases hXY.closed hClosed with ⟨rfl, hDecisions⟩
    rcases hYZ.closed hClosed with ⟨rfl, hDecisions'⟩
    exact ⟨rfl, hDecisions'.trans hDecisions⟩

theorem GovernanceMoved.evolved
    {s s' : Store}
    (hMoved : GovernanceMoved s s') :
    Evolved s s' := by
  intro c hC
  rcases hMoved.moved c hC with ⟨c', hC', hMove⟩
  refine ⟨c', hC',
    { id := hMove.id
      status := ?_
      items := ?_
      closed := ?_ }⟩
  · rcases hMove.status with hSame | hStep
    · rw [hSame]
    · exact .single
        ((mem_validCampaignTransitions_iff _ _).mp hStep)
  · intro hStarted
    exact hMove.kept fun hStart => hStarted hStart.1
  · intro hClosed
    refine hMove.closed ?_
    rcases hClosed with hCompleted | hCancelled
    · rw [hCompleted]
      rfl
    · rw [hCancelled]
      rfl

variable [Platform]

theorem consistent_serveAll
    {start : Store}
    (hStart : Consistent start)
    (requests : List (ReviewRequest × Environment)) :
    Consistent (serveAll serveReview start requests) :=
  serveAll_invariant
    (fun s request h => (kept_serveReview s request h).1)
    hStart requests

theorem evolved_serveAll
    {start : Store}
    (hStart : Consistent start)
    (requests : List (ReviewRequest × Environment)) :
    Evolved start (serveAll serveReview start requests) :=
  serveAll_related evolved_refl evolved_trans
    (fun s request h => (kept_serveReview s request h).1)
    (fun s request h =>
      (kept_serveReview s request h).2.evolved)
    hStart requests

/-
  From no campaigns, in every state that grants, revocations
  and campaign requests reach: the facts hold, the next
  request moves every campaign as it may, and every run from
  there evolves them.
-/
theorem campaigns_stateMachine
    {start : Store}
    (hCampaigns : start.certificationCampaigns.rows = [])
    (hItems : start.certificationReviewItems.rows = [])
    (hDecisions : start.certificationDecisions.rows = [])
    (before : List (ReviewRequest × Environment))
    {s : Store}
    (hReached : serveAll serveReview start before = s) :
    CampaignFacts s ∧
      (∀ request : ReviewRequest × Environment,
        GovernanceMoved s (serveReview s request)) ∧
      ∀ after : List (ReviewRequest × Environment),
        Evolved s (serveAll serveReview s after) := by
  have hStart := consistent_of_none hCampaigns hItems hDecisions
  have hConsistent : Consistent s := by
    rw [← hReached]
    exact consistent_serveAll hStart before
  exact ⟨hConsistent.campaignFacts,
    fun request =>
      (kept_serveReview s request hConsistent).2,
    evolved_serveAll hConsistent⟩

end Governance

end AccessIQ

------------------------------------------------------------
-- A Run
------------------------------------------------------------

namespace AccessIQ

namespace Governance

open Foundations Python Access

attribute [local instance] asciiPlatform

/- Alice's requests, all at one time. -/
def aliceContext : RequestContext where
  correlationId := "request-1"
  now := 0
  subject := 3

/- An assignment is granted, reviewed and approved. -/
def approvedReview :
    List (ReviewRequest × Environment) :=
  [(.access
      ⟨.grant, aliceContext,
        { targetUserId := 1, entitlementId := 1 }, alice⟩,
      steadyEnvironment),
    (.governance
      (.create aliceContext
        { name := "Quarterly Review", reviewerId := 5 }),
      steadyEnvironment),
    (.governance (.start aliceContext 1), steadyEnvironment),
    (.governance
      (.decide aliceContext 1 { decision := .approve }),
      steadyEnvironment),
    (.governance (.complete aliceContext 1),
      steadyEnvironment)]

theorem campaigns_stateMachine_seeded :
    let s :=
      serveAll serveReview (seededStore .sqlite)
        approvedReview
    CampaignFacts s ∧
      (∀ request : ReviewRequest × Environment,
        GovernanceMoved s (serveReview s request)) ∧
      ∀ after : List (ReviewRequest × Environment),
        Evolved s (serveAll serveReview s after) :=
  campaigns_stateMachine rfl rfl rfl approvedReview rfl

/- The campaign of the run is completed, one item approved. -/
example :
    (serveAll serveReview (seededStore .sqlite)
        approvedReview).certificationCampaigns.rows.map
        (fun c => (c.status, c.totalItems, c.approvalCount)) =
      [(.completed, 1, 1)] := by
  decide +kernel

end Governance

end AccessIQ
