import AccessIQ.Foundations.Runs
import AccessIQ.Access.Outcomes
import AccessIQ.Governance.Outcomes

/-
  What every request keeps of the governance tables.

  Items belong to campaigns that were started and decisions
  to completed items, the stored counts are the actual ones,
  and nothing is pending in a completed campaign.  Every
  request keeps this and moves each campaign by one
  transition at most.

  Key definitions include:
    * `ReviewRequest`
    * `Consistent`
    * `CampaignMoved`
    * `GovernanceMoved`
    * `Kept`
    * `ReviewStored`

  Key theorems include:
    * `sameGovernance_serveAccess`
    * `ConsistentExcept.putCampaign`
    * `governanceMoved_of_put`
    * `kept_of_created`
    * `kept_of_started`
    * `kept_of_decided`
    * `kept_serveReview`
-/

------------------------------------------------------------
-- Requests
------------------------------------------------------------

namespace AccessIQ

namespace Governance

open Foundations Python Access Delegation

/- A request that changes assignments or campaigns. -/
inductive ReviewRequest where
  | access (request : AccessRequest)
  | governance (request : GovernanceRequest)
  deriving DecidableEq, Repr

/- The governance tables are the same. -/
structure SameGovernance
    (s s' : Store) : Prop where
  campaigns :
    s'.certificationCampaigns = s.certificationCampaigns
  items :
    s'.certificationReviewItems = s.certificationReviewItems
  decisions :
    s'.certificationDecisions = s.certificationDecisions

variable [Platform]

/- The database after one request. -/
def serveReview
    (s : Store)
    (request : ReviewRequest × Environment) :
    Store :=
  match request.1 with
  | .access access => serveAccess s (access, request.2)
  | .governance governance =>
      serveGovernance s (governance, request.2)

/- Grants and revocations leave governance alone. -/
theorem sameGovernance_serveAccess
    (s : Store)
    (request : AccessRequest × Environment) :
    SameGovernance s (serveAccess s request) where
  campaigns :=
    serveAccess_frame Store.certificationCampaigns
      (fun _ _ _ => rfl) s request
  items :=
    serveAccess_frame Store.certificationReviewItems
      (fun _ _ _ => rfl) s request
  decisions :=
    serveAccess_frame Store.certificationDecisions
      (fun _ _ _ => rfl) s request

/- The dialect of the database never changes. -/
theorem dialect_serveReview
    (s : Store)
    (request : ReviewRequest × Environment) :
    (serveReview s request).dialect = s.dialect := by
  rcases request with ⟨request, env⟩
  cases request with
  | access access =>
      exact serveAccess_frame Store.dialect
        (fun _ _ _ => rfl) s (access, env)
  | governance governance =>
      have hStep := serveGovernance_step s (governance, env)
      change (serveGovernance s (governance, env)).dialect =
        s.dialect
      generalize serveGovernance s (governance, env) = s'
        at hStep ⊢
      cases hStep with
      | unchanged => rfl
      | created hCreated =>
          rcases hCreated with ⟨_, -, _, _, -, rfl⟩
          rfl
      | started hStarted =>
          cases hStarted with
          | again loaded hGet hDraft hItems event hCampaign
              hStored =>
              rw [hStored]
              rfl
          | generated loaded hGet hDraft hNone items hItems
              s₁ hInserted event hCampaign hStored =>
              rcases insertCertificationReviewItems_eq_ok
                hInserted with ⟨t, -, rfl⟩
              rw [hStored]
              rfl
      | decided hDecided =>
          rw [hDecided.stored]
          rfl
      | completed hCompleted =>
          rcases hCompleted with ⟨_, -, -, -, rfl, _, rfl⟩
          rfl
      | cancelled hCancelled =>
          rcases hCancelled with ⟨_, -, -, rfl, _, rfl⟩
          rfl

end Governance

end AccessIQ

------------------------------------------------------------
-- Consistency
------------------------------------------------------------

namespace AccessIQ

namespace Governance

open Foundations

/-
  The invariant of the governance tables: items belong to
  campaigns that were started, decisions to items of their
  campaign, an item is completed exactly when it is decided,
  the stored counts are the recalculated ones, and nothing is
  pending in a completed campaign.
-/
structure Consistent
    (s : Store) : Prop where
  campaign_of_item :
    ∀ item ∈ s.certificationReviewItems.rows,
      ∃ c ∈ s.certificationCampaigns.rows,
        c.id = item.campaignId ∧ c.status ≠ .draft
  item_of_decision :
    ∀ d ∈ s.certificationDecisions.rows,
      ∃ item ∈ s.certificationReviewItems.rows,
        item.id = d.reviewItemId ∧
          item.campaignId = d.campaignId
  completed_iff :
    ∀ item ∈ s.certificationReviewItems.rows,
      item.status = .completed ↔
        ∃ d ∈ s.certificationDecisions.rows,
          d.reviewItemId = item.id
  counted :
    ∀ c ∈ s.certificationCampaigns.rows,
      recalculated s c = c
  nothing_pending :
    ∀ c ∈ s.certificationCampaigns.rows,
      c.status = .completed →
        ∀ item ∈ s.reviewItemsOf c.id,
          item.status = .completed

theorem mem_reviewItemsOf
    {s : Store}
    {campaignId : Int}
    {item : CertificationReviewItem} :
    item ∈ s.reviewItemsOf campaignId ↔
      item ∈ s.certificationReviewItems.rows ∧
        item.campaignId = campaignId := by
  simp [Store.reviewItemsOf]

theorem mem_decisionsOf
    {s : Store}
    {campaignId : Int}
    {d : CertificationDecision} :
    d ∈ s.decisionsOf campaignId ↔
      d ∈ s.certificationDecisions.rows ∧
        d.campaignId = campaignId := by
  simp [Store.decisionsOf]

/- Equal lists of items and decisions give equal counts. -/
theorem recalculated_congr
    {s s' : Store}
    {c : CertificationCampaign}
    (hItems :
      s'.reviewItemsOf c.id = s.reviewItemsOf c.id)
    (hDecisions :
      s'.decisionsOf c.id = s.decisionsOf c.id) :
    recalculated s' c = recalculated s c := by
  simp only [recalculated, Store.completedItemCount,
    Store.decisionCount, hItems, hDecisions]

theorem Consistent.of_same
    {s s' : Store}
    (hConsistent : Consistent s)
    (hSame : SameGovernance s s') :
    Consistent s' := by
  rcases s with ⟨⟩
  rcases s' with ⟨⟩
  rcases hSame with ⟨hCampaigns, hItems, hDecisions⟩
  simp only at hCampaigns hItems hDecisions
  subst hCampaigns
  subst hItems
  subst hDecisions
  exact
    { campaign_of_item := hConsistent.campaign_of_item
      item_of_decision := hConsistent.item_of_decision
      completed_iff := hConsistent.completed_iff
      counted := hConsistent.counted
      nothing_pending := hConsistent.nothing_pending }

/- Without campaigns there is nothing to check. -/
theorem consistent_of_none
    {s : Store}
    (hCampaigns : s.certificationCampaigns.rows = [])
    (hItems : s.certificationReviewItems.rows = [])
    (hDecisions : s.certificationDecisions.rows = []) :
    Consistent s where
  campaign_of_item item hItem := by
    rw [hItems] at hItem
    cases hItem
  item_of_decision d hDecision := by
    rw [hDecisions] at hDecision
    cases hDecision
  completed_iff item hItem := by
    rw [hItems] at hItem
    cases hItem
  counted c hC := by
    rw [hCampaigns] at hC
    cases hC
  nothing_pending c hC := by
    rw [hCampaigns] at hC
    cases hC

/- A draft has no review items. -/
theorem Consistent.reviewItemsOf_draft
    {s : Store}
    (hConsistent : Consistent s)
    {c : CertificationCampaign}
    (hMem : c ∈ s.certificationCampaigns.rows)
    (hDraft : c.status = .draft) :
    s.reviewItemsOf c.id = [] := by
  apply List.eq_nil_iff_forall_not_mem.mpr
  intro item hItem
  rcases mem_reviewItemsOf.mp hItem with ⟨hRow, hCampaign⟩
  rcases hConsistent.campaign_of_item item hRow with
    ⟨c', hMem', hId, hStarted⟩
  have hEq : c' = c :=
    s.certificationCampaigns.eq_of_mem_of_id_eq hMem' hMem
      (hId.trans hCampaign)
  rw [hEq] at hStarted
  exact hStarted hDraft

end Governance

end AccessIQ

------------------------------------------------------------
-- Storing A Version Of A Campaign
------------------------------------------------------------

namespace AccessIQ

namespace Governance

open Foundations

/-
  Consistent but for one campaign, whose counts are about to
  be stored.
-/
structure ConsistentExcept
    (s : Store)
    (campaignId : Int) : Prop where
  campaign_of_item :
    ∀ item ∈ s.certificationReviewItems.rows,
      ∃ c ∈ s.certificationCampaigns.rows,
        c.id = item.campaignId ∧
          (c.status ≠ .draft ∨ c.id = campaignId)
  item_of_decision :
    ∀ d ∈ s.certificationDecisions.rows,
      ∃ item ∈ s.certificationReviewItems.rows,
        item.id = d.reviewItemId ∧
          item.campaignId = d.campaignId
  completed_iff :
    ∀ item ∈ s.certificationReviewItems.rows,
      item.status = .completed ↔
        ∃ d ∈ s.certificationDecisions.rows,
          d.reviewItemId = item.id
  counted :
    ∀ c ∈ s.certificationCampaigns.rows,
      c.id ≠ campaignId → recalculated s c = c
  nothing_pending :
    ∀ c ∈ s.certificationCampaigns.rows,
      c.id ≠ campaignId → c.status = .completed →
        ∀ item ∈ s.reviewItemsOf c.id,
          item.status = .completed

theorem Consistent.except
    {s : Store}
    (hConsistent : Consistent s)
    (campaignId : Int) :
    ConsistentExcept s campaignId where
  campaign_of_item item hItem := by
    rcases hConsistent.campaign_of_item item hItem with
      ⟨c, hMem, hId, hStarted⟩
    exact ⟨c, hMem, hId, Or.inl hStarted⟩
  item_of_decision := hConsistent.item_of_decision
  completed_iff := hConsistent.completed_iff
  counted c hMem _ := hConsistent.counted c hMem
  nothing_pending c hMem _ :=
    hConsistent.nothing_pending c hMem

/- Storing the counted version restores consistency. -/
theorem ConsistentExcept.putCampaign
    {s : Store}
    {new : CertificationCampaign}
    (hExcept : ConsistentExcept s new.id)
    (hVersion : s.certificationCampaigns.HasVersion new)
    (hStarted : new.status ≠ .draft)
    (hCounted : recalculated s new = new)
    (hPending :
      new.status = .completed →
        ∀ item ∈ s.reviewItemsOf new.id,
          item.status = .completed) :
    Consistent (s.putCampaign new) where
  campaign_of_item item hItem := by
    rcases hExcept.campaign_of_item item hItem with
      ⟨c, hMem, hId, hStatus⟩
    by_cases hNew : c.id = new.id
    · have hPut : new ∈
          (s.certificationCampaigns.put new).rows :=
        (Table.mem_put hVersion).mpr (Or.inl rfl)
      exact ⟨new, hPut, hNew.symm.trans hId, hStarted⟩
    · have hPut : c ∈
          (s.certificationCampaigns.put new).rows :=
        (Table.mem_put hVersion).mpr (Or.inr ⟨hMem, hNew⟩)
      exact ⟨c, hPut, hId, hStatus.resolve_right hNew⟩
  item_of_decision := hExcept.item_of_decision
  completed_iff := hExcept.completed_iff
  counted c hMem := by
    rcases (Table.mem_put hVersion).mp hMem with
      rfl | ⟨hRow, hNe⟩
    · exact hCounted
    · exact hExcept.counted c hRow hNe
  nothing_pending c hMem := by
    rcases (Table.mem_put hVersion).mp hMem with
      rfl | ⟨hRow, hNe⟩
    · exact hPending
    · exact hExcept.nothing_pending c hRow hNe

end Governance

end AccessIQ

------------------------------------------------------------
-- Moves
------------------------------------------------------------

namespace AccessIQ

namespace Governance

open Foundations

/- What a review item is about, whatever its review says. -/
def reviewSubject
    (item : CertificationReviewItem) :
    CertificationReviewItem :=
  { item with
    reviewerId := 0
    status := .pending
    reviewedAt := none }

/- The items are one for each access assignment. -/
def Snapshot
    (s : Store)
    (items : List CertificationReviewItem) : Prop :=
  List.Forall₂
    (fun (a : AccessAssignment)
        (item : CertificationReviewItem) =>
      item.accessAssignmentId = a.id ∧
        item.userId = a.userId ∧
        item.entitlementId = a.entitlementId)
    s.accessAssignments.rows items

/- No transition leads out of the status. -/
def CampaignStatus.Terminal
    (status : CampaignStatus) : Prop :=
  validCampaignTransitions status = []

/-
  What one request does to a campaign: its status stays or
  takes a transition, its items are taken when it is started
  and stay the same otherwise, and nothing of it changes once
  its status is terminal.
-/
structure CampaignMoved
    (s s' : Store)
    (c c' : CertificationCampaign) : Prop where
  id : c'.id = c.id
  status :
    c'.status = c.status ∨
      c'.status ∈ validCampaignTransitions c.status
  taken :
    c.status = .draft → c'.status = .active →
      Snapshot s (s'.reviewItemsOf c.id)
  kept :
    ¬ (c.status = .draft ∧ c'.status = .active) →
      (s'.reviewItemsOf c.id).map reviewSubject =
        (s.reviewItemsOf c.id).map reviewSubject
  closed :
    c.status.Terminal →
      c' = c ∧ s'.decisionsOf c.id = s.decisionsOf c.id

/- Every campaign moves, and a new one is a draft. -/
structure GovernanceMoved
    (s s' : Store) : Prop where
  moved :
    ∀ c ∈ s.certificationCampaigns.rows,
      ∃ c' ∈ s'.certificationCampaigns.rows,
        CampaignMoved s s' c c'
  new :
    ∀ c' ∈ s'.certificationCampaigns.rows,
      (∃ c ∈ s.certificationCampaigns.rows, c.id = c'.id) ∨
        c'.status = .draft

/- A campaign that stays the same with what belongs to it. -/
theorem campaignMoved_same
    {s s' : Store}
    {c : CertificationCampaign}
    (hItems : s'.reviewItemsOf c.id = s.reviewItemsOf c.id)
    (hDecisions :
      s'.decisionsOf c.id = s.decisionsOf c.id) :
    CampaignMoved s s' c c where
  id := rfl
  status := Or.inl rfl
  taken hDraft hActive := by
    rw [hDraft] at hActive
    cases hActive
  kept _ := by rw [hItems]
  closed _ := ⟨rfl, hDecisions⟩

theorem governanceMoved_of_same
    {s s' : Store}
    (hSame : SameGovernance s s') :
    GovernanceMoved s s' where
  moved c hMem := by
    refine ⟨c, ?_, campaignMoved_same ?_ ?_⟩
    · rw [hSame.campaigns]
      exact hMem
    · unfold Store.reviewItemsOf
      rw [hSame.items]
    · unfold Store.decisionsOf
      rw [hSame.decisions]
  new c' hMem := by
    rw [hSame.campaigns] at hMem
    exact Or.inl ⟨c', hMem, rfl⟩

/-
  A request that stores a version of one campaign moves that
  one and leaves the others the same.
-/
theorem governanceMoved_of_put
    {s s₁ s' : Store}
    {loaded new : CertificationCampaign}
    (hCampaigns :
      s₁.certificationCampaigns = s.certificationCampaigns)
    (hMem : loaded ∈ s.certificationCampaigns.rows)
    (hSame : SameCampaign loaded new)
    (hStored : SameGovernance (s₁.putCampaign new) s')
    (hMoved : CampaignMoved s s₁ loaded new)
    (hItems :
      ∀ id, id ≠ loaded.id →
        s₁.reviewItemsOf id = s.reviewItemsOf id)
    (hDecisions :
      ∀ id, id ≠ loaded.id →
        s₁.decisionsOf id = s.decisionsOf id) :
    GovernanceMoved s s' := by
  have hMem₁ : loaded ∈ s₁.certificationCampaigns.rows := by
    rw [hCampaigns]
    exact hMem
  have hVersion := hSame.hasVersion hMem₁
  have hRows : ∀ c,
      c ∈ s'.certificationCampaigns.rows ↔
        c = new ∨
          (c ∈ s.certificationCampaigns.rows ∧
            c.id ≠ new.id) := by
    intro c
    rw [hStored.campaigns, ← hCampaigns]
    exact Table.mem_put hVersion
  have hItems' : ∀ id,
      s'.reviewItemsOf id = s₁.reviewItemsOf id := by
    intro id
    unfold Store.reviewItemsOf
    rw [hStored.items]
    rfl
  have hDecisions' : ∀ id,
      s'.decisionsOf id = s₁.decisionsOf id := by
    intro id
    unfold Store.decisionsOf
    rw [hStored.decisions]
    rfl
  constructor
  · intro c hC
    by_cases hId : c.id = loaded.id
    · have hEq : c = loaded :=
        s.certificationCampaigns.eq_of_mem_of_id_eq hC hMem
          hId
      subst hEq
      exact ⟨new, (hRows new).mpr (Or.inl rfl),
        { id := hMoved.id
          status := hMoved.status
          taken := by
            rw [hItems']
            exact hMoved.taken
          kept := by
            rw [hItems']
            exact hMoved.kept
          closed := by
            rw [hDecisions']
            exact hMoved.closed }⟩
    · have hNe : c.id ≠ new.id := by
        rw [hSame.id]
        exact hId
      refine ⟨c, (hRows c).mpr (Or.inr ⟨hC, hNe⟩),
        campaignMoved_same ?_ ?_⟩
      · rw [hItems', hItems c.id hId]
      · rw [hDecisions', hDecisions c.id hId]
  · intro c' hC'
    rcases (hRows c').mp hC' with rfl | ⟨hRow, -⟩
    · exact Or.inl ⟨loaded, hMem, hSame.id.symm⟩
    · exact Or.inl ⟨c', hRow, rfl⟩

end Governance

end AccessIQ

------------------------------------------------------------
-- Creating And Cancelling
------------------------------------------------------------

namespace AccessIQ

namespace Governance

open Foundations Python

/- The invariant is kept and every campaign moves. -/
structure Kept
    (s s' : Store) : Prop where
  consistent : Consistent s'
  moved : GovernanceMoved s s'

/- No items belong to a campaign that does not exist. -/
theorem Consistent.reviewItemsOf_absent
    {s : Store}
    (hConsistent : Consistent s)
    {campaignId : Int}
    (hAbsent :
      s.certificationCampaigns.get? campaignId = none) :
    s.reviewItemsOf campaignId = [] := by
  apply List.eq_nil_iff_forall_not_mem.mpr
  intro item hItem
  rcases mem_reviewItemsOf.mp hItem with ⟨hRow, hCampaign⟩
  rcases hConsistent.campaign_of_item item hRow with
    ⟨c, hMem, hId, -⟩
  have hNe :=
    s.certificationCampaigns.get?_eq_none_iff.mp hAbsent
  exact hNe c hMem (hId.trans hCampaign)

/- Where there are no items there are no decisions. -/
theorem Consistent.decisionsOf_eq_nil
    {s : Store}
    (hConsistent : Consistent s)
    {campaignId : Int}
    (hItems : s.reviewItemsOf campaignId = []) :
    s.decisionsOf campaignId = [] := by
  apply List.eq_nil_iff_forall_not_mem.mpr
  intro d hDecision
  rcases mem_decisionsOf.mp hDecision with ⟨hRow, hCampaign⟩
  rcases hConsistent.item_of_decision d hRow with
    ⟨item, hItem, -, hSame⟩
  have hMem : item ∈ s.reviewItemsOf campaignId :=
    mem_reviewItemsOf.mpr ⟨hItem, hSame.trans hCampaign⟩
  rw [hItems] at hMem
  exact List.not_mem_nil hMem

theorem kept_of_created
    {s s' : Store}
    (hConsistent : Consistent s)
    {ctx : RequestContext}
    {payload : CampaignCreateRequest}
    {actor : User}
    {campaign : CertificationCampaign}
    (hCreated : Created ctx payload s actor campaign s') :
    Kept s s' := by
  rcases hCreated with
    ⟨reviewer, -, hFits, event, -, hStored⟩
  let policy := s.dialect.keyPolicy
  let fresh := s.certificationCampaigns.freshId policy
  let new := newCampaign ctx payload actor reviewer
  let s₁ : Store :=
    { s with
      certificationCampaigns :=
        s.certificationCampaigns.insert policy new hFits }
  have hSame : SameGovernance s₁ s' := by
    rw [hStored]
    exact ⟨rfl, rfl, rfl⟩
  have hRows : ∀ c,
      c ∈ s₁.certificationCampaigns.rows ↔
        c ∈ s.certificationCampaigns.rows ∨
          c = { new with id := fresh } :=
    fun c => Table.mem_insert policy
      s.certificationCampaigns hFits
  have hItems : s.reviewItemsOf fresh = [] :=
    hConsistent.reviewItemsOf_absent
      (Table.get?_freshId policy s.certificationCampaigns)
  have hDecisions : s.decisionsOf fresh = [] :=
    hConsistent.decisionsOf_eq_nil hItems
  have hConsistent₁ : Consistent s₁ :=
    { campaign_of_item := by
        intro item hItem
        rcases hConsistent.campaign_of_item item hItem with
          ⟨c, hMem, hc⟩
        exact ⟨c, (hRows c).mpr (Or.inl hMem), hc⟩
      item_of_decision := hConsistent.item_of_decision
      completed_iff := hConsistent.completed_iff
      counted := by
        intro c hMem
        rcases (hRows c).mp hMem with hOld | rfl
        · exact hConsistent.counted c hOld
        · have hCounts :
              recalculated s { new with id := fresh } =
                { new with id := fresh } := by
            simp only [recalculated, hItems, hDecisions,
              Store.completedItemCount, Store.decisionCount,
              List.length_nil, List.countP_nil]
            rfl
          exact hCounts
      nothing_pending := by
        intro c hMem hCompleted
        rcases (hRows c).mp hMem with hOld | rfl
        · exact hConsistent.nothing_pending c hOld hCompleted
        · cases hCompleted }
  refine ⟨hConsistent₁.of_same hSame, ?_, ?_⟩
  · intro c hMem
    refine ⟨c, ?_, campaignMoved_same ?_ ?_⟩
    · rw [hSame.campaigns]
      exact (hRows c).mpr (Or.inl hMem)
    · unfold Store.reviewItemsOf
      rw [hSame.items]
    · unfold Store.decisionsOf
      rw [hSame.decisions]
  · intro c hMem
    rw [hSame.campaigns] at hMem
    rcases (hRows c).mp hMem with hOld | rfl
    · exact Or.inl ⟨c, hOld, rfl⟩
    · exact Or.inr rfl

theorem kept_of_cancelled
    {s s' : Store}
    (hConsistent : Consistent s)
    {ctx : RequestContext}
    {campaignId : Int}
    {campaign : CertificationCampaign}
    (hCancelled : Cancelled ctx campaignId s campaign s') :
    Kept s s' := by
  rcases hCancelled with
    ⟨loaded, hGet, hOpen, rfl, event, hStored⟩
  have hMem := Table.mem_of_get? hGet
  have hVersion := sameCampaign_cancelled ctx loaded
  have hSame :
      SameGovernance
        (s.putCampaign (cancelledCampaign ctx loaded)) s' := by
    rw [hStored]
    exact ⟨rfl, rfl, rfl⟩
  have hCounted :
      recalculated s (cancelledCampaign ctx loaded) =
        cancelledCampaign ctx loaded := by
    calc
      _ = cancelledCampaign ctx (recalculated s loaded) := rfl
      _ = _ := by rw [hConsistent.counted loaded hMem]
  have hStored : Consistent
      (s.putCampaign (cancelledCampaign ctx loaded)) := by
    refine (hConsistent.except _).putCampaign
      (hVersion.hasVersion hMem) ?_ hCounted ?_
    · intro hDraft
      cases hDraft
    · intro hCompleted
      cases hCompleted
  refine ⟨hStored.of_same hSame, ?_⟩
  refine governanceMoved_of_put rfl hMem hVersion hSame
    { id := rfl
      status := ?_
      taken := ?_
      kept := fun _ => rfl
      closed := ?_ }
    (fun _ _ => rfl) (fun _ _ => rfl)
  · apply Or.inr
    rcases hOpen with hDraft | hActive
    · rw [hDraft]
      exact List.mem_cons_of_mem _ (List.mem_singleton.mpr rfl)
    · rw [hActive]
      exact List.mem_cons_of_mem _ (List.mem_singleton.mpr rfl)
  · intro _ hActive
    cases hActive
  · intro hTerminal
    rcases hOpen with hDraft | hActive
    · rw [hDraft] at hTerminal
      cases hTerminal
    · rw [hActive] at hTerminal
      cases hTerminal

end Governance

end AccessIQ

------------------------------------------------------------
-- Completing
------------------------------------------------------------

namespace AccessIQ

namespace Governance

open Foundations

/- As many completed items as items: all are completed. -/
theorem all_completed
    {s : Store}
    {campaignId : Int}
    (hCount :
      (s.reviewItemsOf campaignId).length ≤
        s.completedItemCount campaignId) :
    ∀ item ∈ s.reviewItemsOf campaignId,
      item.status = .completed := by
  intro item hItem
  have hAll :
      s.completedItemCount campaignId =
        (s.reviewItemsOf campaignId).length :=
    le_antisymm List.countP_le_length hCount
  have hItems := List.countP_eq_length.mp hAll
  exact eq_of_beq (hItems item hItem)

theorem kept_of_completed
    {s s' : Store}
    (hConsistent : Consistent s)
    {ctx : RequestContext}
    {campaignId : Int}
    {campaign : CertificationCampaign}
    (hCompleted : Completed ctx campaignId s campaign s') :
    Kept s s' := by
  rcases hCompleted with
    ⟨loaded, hGet, hActive, hDecided, rfl, event, hStored⟩
  let new := completedCampaign ctx (recalculated s loaded)
  have hMem := Table.mem_of_get? hGet
  have hVersion : SameCampaign loaded new :=
    (sameCampaign_recalculated s loaded).trans
      (sameCampaign_completed ctx _)
  have hSame : SameGovernance (s.putCampaign new) s' := by
    rw [hStored]
    exact ⟨rfl, rfl, rfl⟩
  have hConsistent₁ : Consistent (s.putCampaign new) := by
    refine (hConsistent.except _).putCampaign
      (hVersion.hasVersion hMem) ?_ rfl ?_
    · intro hDraft
      cases hDraft
    · intro _
      exact all_completed hDecided
  refine ⟨hConsistent₁.of_same hSame, ?_⟩
  refine governanceMoved_of_put rfl hMem hVersion hSame
    { id := rfl
      status := ?_
      taken := ?_
      kept := fun _ => rfl
      closed := ?_ }
    (fun _ _ => rfl) (fun _ _ => rfl)
  · apply Or.inr
    rw [hActive]
    exact List.mem_cons_self
  · intro hDraft
    rw [hActive] at hDraft
    cases hDraft
  · intro hTerminal
    rw [hActive] at hTerminal
    cases hTerminal

end Governance

end AccessIQ

------------------------------------------------------------
-- Starting
------------------------------------------------------------

namespace AccessIQ

namespace Governance

open Foundations

/- One new review item for each access assignment. -/
theorem newReviewItems_eq_some
    {ctx : RequestContext}
    {campaign : CertificationCampaign}
    {s : Store}
    {items : List CertificationReviewItem}
    (hItems : newReviewItems ctx campaign s = some items) :
    List.Forall₂
      (fun a item =>
        ∃ e, item = newReviewItem ctx campaign a e)
      s.accessAssignments.rows items := by
  unfold newReviewItems at hItems
  generalize s.accessAssignments.rows = rows at hItems ⊢
  induction rows generalizing items with
  | nil =>
      cases hItems
      exact .nil
  | cons a rows ih =>
      rw [List.mapM_cons, Option.bind_eq_bind,
        Option.bind_eq_some_iff] at hItems
      rcases hItems with ⟨item, hItem, hRest⟩
      rw [Option.bind_eq_bind,
        Option.bind_eq_some_iff] at hRest
      rcases hRest with ⟨rest, hRest, hCons⟩
      rcases Option.map_eq_some_iff.mp hItem with
        ⟨e, -, hNew⟩
      cases hCons
      exact .cons ⟨e, hNew.symm⟩ (ih hRest)

/- The inserted items are a pending snapshot. -/
theorem inserted_items
    {ctx : RequestContext}
    {campaign : CertificationCampaign}
    {s : Store}
    {items added : List CertificationReviewItem}
    (hItems : newReviewItems ctx campaign s = some items)
    (hAdded :
      List.Forall₂
        (fun (item a : CertificationReviewItem) =>
          a = Row.withId item (Row.id a))
        items added) :
    Snapshot s added ∧
      ∀ a ∈ added,
        a.campaignId = campaign.id ∧ a.status = .pending := by
  have hNew := newReviewItems_eq_some hItems
  unfold Snapshot
  clear hItems
  generalize s.accessAssignments.rows = rows at hNew ⊢
  induction hNew generalizing added with
  | nil =>
      cases hAdded
      exact ⟨.nil, fun a ha => absurd ha List.not_mem_nil⟩
  | cons hItem _ ih =>
      rcases hItem with ⟨e, rfl⟩
      cases hAdded with
      | cons hFirst hRest =>
          rcases ih hRest with ⟨hSnapshot, hPending⟩
          refine ⟨.cons ?_ hSnapshot, ?_⟩
          · rw [hFirst]
            exact ⟨rfl, rfl, rfl⟩
          · intro a ha
            rcases List.mem_cons.mp ha with rfl | hIn
            · rw [hFirst]
              exact ⟨rfl, rfl⟩
            · exact hPending a hIn

/-
  Items appended for a draft, all pending, are consistent
  with everything but the counts of the draft.
-/
theorem consistentExcept_of_appended
    {s : Store}
    (hConsistent : Consistent s)
    {loaded : CertificationCampaign}
    (hMem : loaded ∈ s.certificationCampaigns.rows)
    {t : Table CertificationReviewItem}
    {added : List CertificationReviewItem}
    (hRows : t.rows = s.certificationReviewItems.rows ++ added)
    (hAdded :
      ∀ a ∈ added,
        a.campaignId = loaded.id ∧ a.status = .pending)
    (hOthers :
      ∀ id, id ≠ loaded.id →
        t.rows.filter (·.campaignId == id) =
          s.reviewItemsOf id) :
    ConsistentExcept { s with certificationReviewItems := t }
      loaded.id where
  campaign_of_item item hItem := by
    change item ∈ t.rows at hItem
    rw [hRows, List.mem_append] at hItem
    rcases hItem with hOld | hNew
    · exact (hConsistent.except loaded.id).campaign_of_item
        item hOld
    · exact ⟨loaded, hMem, (hAdded item hNew).1.symm,
        Or.inr rfl⟩
  item_of_decision d hDecision := by
    rcases hConsistent.item_of_decision d hDecision with
      ⟨item, hItem, hOf⟩
    refine ⟨item, ?_, hOf⟩
    change item ∈ t.rows
    rw [hRows]
    exact List.mem_append_left _ hItem
  completed_iff item hItem := by
    change item ∈ t.rows at hItem
    rw [hRows, List.mem_append] at hItem
    rcases hItem with hOld | hNew
    · exact hConsistent.completed_iff item hOld
    · constructor
      · intro hCompleted
        rw [(hAdded item hNew).2] at hCompleted
        cases hCompleted
      -- a decision is about an item with a smaller key
      · rintro ⟨d, hDecision, hItemId⟩
        rcases hConsistent.item_of_decision d hDecision with
          ⟨old, hOld, hId, -⟩
        have hSorted := t.sorted
        rw [hRows, List.pairwise_append] at hSorted
        have hLt := hSorted.2.2 old hOld item hNew
        exact absurd (hId.trans hItemId) (ne_of_lt hLt)
  counted c hC hNe := by
    have hCounts :
        recalculated { s with certificationReviewItems := t }
            c =
          recalculated s c :=
      recalculated_congr (hOthers c.id hNe) rfl
    exact hCounts.trans (hConsistent.counted c hC)
  nothing_pending c hC hNe hCompleted item hItem := by
    have hOld : item ∈ s.reviewItemsOf c.id := by
      rw [← hOthers c.id hNe]
      exact hItem
    exact hConsistent.nothing_pending c hC hCompleted item
      hOld

theorem kept_of_started
    {s s' : Store}
    (hConsistent : Consistent s)
    {ctx : RequestContext}
    {campaignId : Int}
    {campaign : CertificationCampaign}
    (hStarted : Started ctx campaignId s campaign s') :
    Kept s s' := by
  cases hStarted with
  | again loaded hGet hDraft hItems =>
      have hMem := Table.mem_of_get? hGet
      exact absurd
        (hConsistent.reviewItemsOf_draft hMem hDraft) hItems
  | generated loaded hGet hDraft hNone items hItems s₁
      hInserted event hCampaign hStored =>
      have hMem := Table.mem_of_get? hGet
      rcases insertCertificationReviewItems_eq_ok hInserted
        with ⟨t, hInsert, rfl⟩
      rcases Table.rows_of_tryInsertAll hInsert with
        ⟨added, hRows, hAdded⟩
      rcases inserted_items hItems hAdded with
        ⟨hSnapshot, hPending⟩
      have hOthers : ∀ id, id ≠ loaded.id →
          t.rows.filter (·.campaignId == id) =
            s.reviewItemsOf id := by
        intro id hNe
        refine Table.filter_rows_eq fun a hWanted => ?_
        rw [hRows, List.mem_append]
        refine or_iff_left fun hNew => hNe ?_
        exact (eq_of_beq hWanted).symm.trans
          (hPending a hNew).1
      have hTaken :
          t.rows.filter (·.campaignId == loaded.id) =
            added := by
        have hOld :
            s.certificationReviewItems.rows.filter
                (·.campaignId == loaded.id) =
              [] := hNone
        rw [hRows, List.filter_append, hOld, List.nil_append,
          List.filter_eq_self]
        intro a ha
        exact beq_iff_eq.mpr (hPending a ha).1
      let s₁ : Store := { s with certificationReviewItems := t }
      have hExcept : ConsistentExcept s₁ loaded.id :=
        consistentExcept_of_appended hConsistent hMem hRows
          hPending hOthers
      have hVersion : SameCampaign loaded campaign := by
        rw [hCampaign]
        exact (sameCampaign_recalculated s₁ loaded).trans
          (sameCampaign_started ctx _)
      have hSame : SameGovernance (s₁.putCampaign campaign)
          s' := by
        rw [hStored]
        exact ⟨rfl, rfl, rfl⟩
      have hActive : campaign.status = .active := by
        rw [hCampaign]
        rfl
      have hConsistent₁ :
          Consistent (s₁.putCampaign campaign) := by
        rw [← hVersion.id] at hExcept
        refine hExcept.putCampaign
          (hVersion.hasVersion hMem) ?_ ?_ ?_
        · rw [hActive]
          intro hEq
          cases hEq
        · rw [hCampaign]
          rfl
        · rw [hActive]
          intro hEq
          cases hEq
      have hCampaigns :
          s₁.certificationCampaigns =
            s.certificationCampaigns := rfl
      refine ⟨hConsistent₁.of_same hSame, ?_⟩
      refine governanceMoved_of_put hCampaigns hMem hVersion
        hSame
        { id := hVersion.id
          status := ?_
          taken := ?_
          kept := ?_
          closed := ?_ }
        hOthers (fun _ _ => rfl)
      · apply Or.inr
        rw [hDraft, hActive]
        exact List.mem_cons_self
      · intro _ _
        change Snapshot s
          (t.rows.filter (·.campaignId == loaded.id))
        rw [hTaken]
        exact hSnapshot
      · intro hOther
        exact absurd ⟨hDraft, hActive⟩ hOther
      · intro hTerminal
        rw [hDraft] at hTerminal
        cases hTerminal

end Governance

end AccessIQ

------------------------------------------------------------
-- Deciding
------------------------------------------------------------

namespace AccessIQ

namespace Governance

open Foundations

/- Two decisions are never about one item. -/
theorem decision_unique
    {s : Store}
    {a b : CertificationDecision}
    (ha : a ∈ s.certificationDecisions.rows)
    (hb : b ∈ s.certificationDecisions.rows)
    (hSame : a.reviewItemId = b.reviewItemId) :
    a = b := by
  by_contra hNe
  have hConflict :=
    s.certificationDecisions.conflicts_eq_false_of_ne ha hb
      hNe
  exact of_decide_eq_false hConflict hSame

/-
  Recording a decision leaves one decision about its item and
  every other decision as it was.
-/
theorem DecisionStored.rows
    {ctx : RequestContext}
    {payload : DecisionRequest}
    {actor : User}
    {campaign : CertificationCampaign}
    {item : CertificationReviewItem}
    {s : Store}
    {t : Table CertificationDecision}
    (hStored :
      DecisionStored ctx payload actor campaign item s t)
    (hCampaign :
      ∀ d ∈ s.certificationDecisions.rows,
        d.reviewItemId = item.id →
          d.campaignId = campaign.id) :
    ∃ new : CertificationDecision,
      new.reviewItemId = item.id ∧
        new.campaignId = campaign.id ∧
        ∀ d, d ∈ t.rows ↔
          d = new ∨
            (d ∈ s.certificationDecisions.rows ∧
              d.reviewItemId ≠ item.id) := by
  cases hStored with
  | first hNone hFits hTable =>
      let new := newDecision ctx payload actor campaign item
      let fresh :=
        s.certificationDecisions.freshId s.dialect.keyPolicy
      refine ⟨Row.withId new fresh, rfl, rfl, fun d => ?_⟩
      rw [hTable, Table.mem_insert, or_comm]
      refine or_congr_right
        ⟨fun hOld => ⟨hOld, fun hItem => ?_⟩, And.left⟩
      have hOther := List.find?_eq_none.mp hNone d hOld
      exact hOther (beq_iff_eq.mpr hItem)
  | again existing hSome hTable =>
      have hMem :
          existing ∈ s.certificationDecisions.rows :=
        List.mem_of_find?_eq_some hSome
      have hFound :
          (existing.reviewItemId == item.id) = true :=
        List.find?_some
          (p := fun d : CertificationDecision =>
            d.reviewItemId == item.id)
          hSome
      have hItem : existing.reviewItemId = item.id :=
        eq_of_beq hFound
      have hVersion :
          s.certificationDecisions.HasVersion
            (updatedDecision ctx payload actor existing) :=
        ⟨existing, hMem, rfl, fun _ => rfl⟩
      refine ⟨updatedDecision ctx payload actor existing,
        hItem, hCampaign existing hMem hItem, fun d => ?_⟩
      rw [hTable, Table.mem_put hVersion]
      refine or_congr_right (and_congr_right fun hOld => ?_)
      refine not_congr ⟨fun hId => ?_, fun hAbout => ?_⟩
      · have hEq : d = existing :=
          s.certificationDecisions.eq_of_mem_of_id_eq hOld
            hMem hId
        rw [hEq]
        exact hItem
      · have hEq : d = existing :=
          decision_unique hOld hMem (hAbout.trans hItem.symm)
        rw [hEq]
        rfl

/- One item was reviewed and one decision about it stored. -/
structure ReviewStored
    (item reviewed : CertificationReviewItem)
    (new : CertificationDecision)
    (s s₁ : Store) : Prop where
  item_mem : item ∈ s.certificationReviewItems.rows
  subject : reviewSubject reviewed = reviewSubject item
  completed : reviewed.status = .completed
  about : new.reviewItemId = item.id
  campaign : new.campaignId = item.campaignId
  campaigns :
    s₁.certificationCampaigns = s.certificationCampaigns
  items :
    s₁.certificationReviewItems =
      s.certificationReviewItems.put reviewed
  decisions :
    ∀ d, d ∈ s₁.certificationDecisions.rows ↔
      d = new ∨
        (d ∈ s.certificationDecisions.rows ∧
          d.reviewItemId ≠ item.id)

namespace ReviewStored

variable {item reviewed : CertificationReviewItem}
variable {new : CertificationDecision}
variable {s s₁ : Store}

theorem id
    (hStored : ReviewStored item reviewed new s s₁) :
    reviewed.id = item.id := by
  have hSame :=
    congrArg CertificationReviewItem.id hStored.subject
  exact hSame

theorem campaignId
    (hStored : ReviewStored item reviewed new s s₁) :
    reviewed.campaignId = item.campaignId := by
  have hSame :=
    congrArg CertificationReviewItem.campaignId
      hStored.subject
  exact hSame

theorem hasVersion
    (hStored : ReviewStored item reviewed new s s₁) :
    s.certificationReviewItems.HasVersion reviewed := by
  refine ⟨item, hStored.item_mem, hStored.id.symm,
    fun a => ?_⟩
  have hSubject :=
    congrArg CertificationReviewItem.accessAssignmentId
      hStored.subject
  have hAssignment :
      reviewed.accessAssignmentId =
        item.accessAssignmentId :=
    hSubject
  change
    decide
        (a.campaignId = reviewed.campaignId ∧
          a.accessAssignmentId =
            reviewed.accessAssignmentId) =
      decide
        (a.campaignId = item.campaignId ∧
          a.accessAssignmentId = item.accessAssignmentId)
  rw [hStored.campaignId, hAssignment]

theorem mem_items
    (hStored : ReviewStored item reviewed new s s₁)
    (a : CertificationReviewItem) :
    a ∈ s₁.certificationReviewItems.rows ↔
      a = reviewed ∨
        (a ∈ s.certificationReviewItems.rows ∧
          a.id ≠ item.id) := by
  rw [hStored.items, ← hStored.id]
  exact Table.mem_put hStored.hasVersion

/- The only row with the key of the item is the item. -/
theorem eq_item
    (hStored : ReviewStored item reviewed new s s₁)
    {a : CertificationReviewItem}
    (ha : a ∈ s.certificationReviewItems.rows)
    (hId : a.id = reviewed.id) :
    a = item :=
  s.certificationReviewItems.eq_of_mem_of_id_eq ha
    hStored.item_mem (hId.trans hStored.id)

/- What the items are about is the same. -/
theorem map_reviewItemsOf
    (hStored : ReviewStored item reviewed new s s₁)
    (campaignId : Int) :
    (s₁.reviewItemsOf campaignId).map reviewSubject =
      (s.reviewItemsOf campaignId).map reviewSubject := by
  unfold Store.reviewItemsOf
  rw [hStored.items]
  refine Table.map_filter_rows_put hStored.hasVersion
    (fun a ha hId => ?_) (fun a ha hId => ?_)
  · rw [hStored.eq_item ha hId, hStored.campaignId]
  · rw [hStored.eq_item ha hId, hStored.subject]

/- The items of other campaigns are the same. -/
theorem reviewItemsOf_ne
    (hStored : ReviewStored item reviewed new s s₁)
    {campaignId : Int}
    (hNe : campaignId ≠ item.campaignId) :
    s₁.reviewItemsOf campaignId =
      s.reviewItemsOf campaignId := by
  refine Table.filter_rows_eq fun a hWanted => ?_
  have hCampaign : a.campaignId = campaignId :=
    eq_of_beq hWanted
  rw [hStored.mem_items]
  constructor
  · rintro (rfl | ⟨hOld, -⟩)
    · exact absurd (hCampaign.symm.trans hStored.campaignId)
        hNe
    · exact hOld
  · refine fun hOld => Or.inr ⟨hOld, fun hId => hNe ?_⟩
    have hEq := hStored.eq_item hOld
      (hId.trans hStored.id.symm)
    rw [← hCampaign, hEq]

/- The decisions of other campaigns are the same. -/
theorem decisionsOf_ne
    (hStored : ReviewStored item reviewed new s s₁)
    (hOf :
      ∀ d ∈ s.certificationDecisions.rows,
        d.reviewItemId = item.id →
          d.campaignId = item.campaignId)
    {campaignId : Int}
    (hNe : campaignId ≠ item.campaignId) :
    s₁.decisionsOf campaignId = s.decisionsOf campaignId := by
  refine Table.filter_rows_eq fun d hWanted => ?_
  have hCampaign : d.campaignId = campaignId :=
    eq_of_beq hWanted
  rw [hStored.decisions]
  constructor
  · rintro (rfl | ⟨hOld, -⟩)
    · exact absurd (hCampaign.symm.trans hStored.campaign)
        hNe
    · exact hOld
  · refine fun hOld => Or.inr ⟨hOld, fun hAbout => hNe ?_⟩
    rw [← hCampaign]
    exact hOf d hOld hAbout

/-
  A review is consistent with everything but the counts of
  its campaign.
-/
theorem consistentExcept
    (hStored : ReviewStored item reviewed new s s₁)
    (hConsistent : Consistent s)
    (hOf :
      ∀ d ∈ s.certificationDecisions.rows,
        d.reviewItemId = item.id →
          d.campaignId = item.campaignId) :
    ConsistentExcept s₁ item.campaignId where
  campaign_of_item a ha := by
    rw [hStored.campaigns]
    have hExcept :=
      (hConsistent.except item.campaignId).campaign_of_item
    rcases (hStored.mem_items a).mp ha with
      rfl | ⟨hOld, -⟩
    · rw [hStored.campaignId]
      exact hExcept item hStored.item_mem
    · exact hExcept a hOld
  item_of_decision d hDecision := by
    rcases (hStored.decisions d).mp hDecision with
      rfl | ⟨hOld, hNe⟩
    · exact ⟨reviewed,
        (hStored.mem_items reviewed).mpr (Or.inl rfl),
        hStored.id.trans hStored.about.symm,
        hStored.campaignId.trans hStored.campaign.symm⟩
    · rcases hConsistent.item_of_decision d hOld with
        ⟨a, ha, hA, hSame⟩
      have hOther : a.id ≠ item.id := by
        rw [hA]
        exact hNe
      exact ⟨a,
        (hStored.mem_items a).mpr (Or.inr ⟨ha, hOther⟩), hA,
        hSame⟩
  completed_iff a ha := by
    rcases (hStored.mem_items a).mp ha with
      rfl | ⟨hOld, hNe⟩
    · refine iff_of_true hStored.completed ⟨new, ?_, ?_⟩
      · exact (hStored.decisions new).mpr (Or.inl rfl)
      · exact hStored.about.trans hStored.id.symm
    · rw [hConsistent.completed_iff a hOld]
      constructor
      · rintro ⟨d, hDecision, hA⟩
        have hOther : d.reviewItemId ≠ item.id := by
          rw [hA]
          exact hNe
        have hKept :=
          (hStored.decisions d).mpr
            (Or.inr ⟨hDecision, hOther⟩)
        exact ⟨d, hKept, hA⟩
      · rintro ⟨d, hDecision, hA⟩
        rcases (hStored.decisions d).mp hDecision with
          rfl | ⟨hKept, -⟩
        · exact absurd (hA.symm.trans hStored.about) hNe
        · exact ⟨d, hKept, hA⟩
  counted c hC hNe := by
    rw [hStored.campaigns] at hC
    rw [recalculated_congr (hStored.reviewItemsOf_ne hNe)
      (hStored.decisionsOf_ne hOf hNe)]
    exact hConsistent.counted c hC
  nothing_pending c hC hNe hClosed a ha := by
    rw [hStored.campaigns] at hC
    rw [hStored.reviewItemsOf_ne hNe] at ha
    exact hConsistent.nothing_pending c hC hClosed a ha

end ReviewStored

theorem kept_of_decided
    {s s' : Store}
    (hConsistent : Consistent s)
    {ctx : RequestContext}
    {itemId : Int}
    {payload : DecisionRequest}
    {actor : User}
    {item : CertificationReviewItem}
    {campaign : CertificationCampaign}
    {t : Table CertificationDecision}
    {event : AuditEvent}
    (hDecided :
      Decided ctx itemId payload s actor item campaign t
        event s') :
    Kept s s' := by
  have hItem := Table.mem_of_get? hDecided.item_found
  have hMem := Table.mem_of_get? hDecided.campaign_found
  have hCampaignId : campaign.id = item.campaignId :=
    Table.id_of_get? hDecided.campaign_found
  have hOf :
      ∀ d ∈ s.certificationDecisions.rows,
        d.reviewItemId = item.id →
          d.campaignId = item.campaignId := by
    intro d hDecision hAbout
    rcases hConsistent.item_of_decision d hDecision with
      ⟨a, ha, hA, hSame⟩
    have hEq : a = item :=
      s.certificationReviewItems.eq_of_mem_of_id_eq ha hItem
        (hA.trans hAbout)
    rw [← hSame, hEq]
  rcases hDecided.decision.rows (fun d hDecision hAbout =>
    (hOf d hDecision hAbout).trans hCampaignId.symm) with
    ⟨new, hAbout, hCampaign, hRows⟩
  let s₁ : Store :=
    { s with
      certificationReviewItems :=
        s.certificationReviewItems.put
          (reviewedItem ctx actor item)
      certificationDecisions := t }
  have hStored :
      ReviewStored item (reviewedItem ctx actor item) new s
        s₁ :=
    { item_mem := hItem
      subject := rfl
      completed := rfl
      about := hAbout
      campaign := hCampaign.trans hCampaignId
      campaigns := rfl
      items := rfl
      decisions := hRows }
  have hExcept := hStored.consistentExcept hConsistent hOf
  rw [← hCampaignId] at hExcept
  let counted := recalculated s₁ campaign
  have hVersion : SameCampaign campaign counted :=
    sameCampaign_recalculated s₁ campaign
  have hSame : SameGovernance (s₁.putCampaign counted) s' := by
    rw [hDecided.stored]
    exact ⟨rfl, rfl, rfl⟩
  have hActive : counted.status = .active := hDecided.active
  have hConsistent₁ : Consistent (s₁.putCampaign counted) := by
    have hExcept' : ConsistentExcept s₁ counted.id := hExcept
    refine hExcept'.putCampaign (hVersion.hasVersion hMem) ?_
      rfl ?_
    · rw [hActive]
      intro hEq
      cases hEq
    · rw [hActive]
      intro hEq
      cases hEq
  refine ⟨hConsistent₁.of_same hSame, ?_⟩
  refine governanceMoved_of_put hStored.campaigns hMem
    hVersion hSame
    { id := rfl
      status := Or.inl rfl
      taken := ?_
      kept := fun _ => hStored.map_reviewItemsOf campaign.id
      closed := ?_ } ?_ ?_
  · intro hDraft
    rw [hDecided.active] at hDraft
    cases hDraft
  · intro hTerminal
    rw [hDecided.active] at hTerminal
    cases hTerminal
  · intro id hNe
    rw [hCampaignId] at hNe
    exact hStored.reviewItemsOf_ne hNe
  · intro id hNe
    rw [hCampaignId] at hNe
    exact hStored.decisionsOf_ne hOf hNe

end Governance

end AccessIQ

------------------------------------------------------------
-- Every Request
------------------------------------------------------------

namespace AccessIQ

namespace Governance

open Foundations Python

variable [Platform]

/- Every request keeps the invariant and moves campaigns. -/
theorem kept_serveReview
    (s : Store)
    (request : ReviewRequest × Environment)
    (hConsistent : Consistent s) :
    Kept s (serveReview s request) := by
  rcases request with ⟨request, env⟩
  cases request with
  | access access =>
      have hSame := sameGovernance_serveAccess s (access, env)
      exact ⟨hConsistent.of_same hSame,
        governanceMoved_of_same hSame⟩
  | governance governance =>
      have hStep := serveGovernance_step s (governance, env)
      change Kept s (serveGovernance s (governance, env))
      generalize serveGovernance s (governance, env) = s'
        at hStep ⊢
      cases hStep with
      | unchanged =>
          exact ⟨hConsistent,
            governanceMoved_of_same ⟨rfl, rfl, rfl⟩⟩
      | created hCreated =>
          exact kept_of_created hConsistent hCreated
      | started hStarted =>
          exact kept_of_started hConsistent hStarted
      | decided hDecided =>
          exact kept_of_decided hConsistent hDecided
      | completed hCompleted =>
          exact kept_of_completed hConsistent hCompleted
      | cancelled hCancelled =>
          exact kept_of_cancelled hConsistent hCancelled

end Governance

end AccessIQ
