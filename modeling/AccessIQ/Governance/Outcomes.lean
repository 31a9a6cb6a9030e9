import AccessIQ.Governance.Services

/-
  What the governance requests do.

  One structure for each operation says what a successful
  call leaves behind; a call that raises leaves nothing, since
  its transaction is rolled back.

  Key definitions include:
    * `recalculated`
    * `Created`
    * `Started`
    * `Completed`
    * `Cancelled`
    * `Decided`
    * `GovernanceRequest`
    * `GovernanceStep`

  Key theorems include:
    * `wp_recalculateCampaignCounts`
    * `wp_createCampaign`
    * `wp_startCampaign`
    * `wp_completeCampaign`
    * `wp_cancelCampaign`
    * `wp_recordDecision`
    * `serveGovernance_step`
-/

------------------------------------------------------------
-- Versions Of A Campaign
------------------------------------------------------------

namespace AccessIQ

open Foundations Governance

/- The store with another version of a campaign. -/
def Store.putCampaign
    (s : Store)
    (c : CertificationCampaign) :
    Store :=
  { s with
    certificationCampaigns := s.certificationCampaigns.put c }

namespace Governance

/- Two versions of a campaign share what is never updated. -/
structure SameCampaign
    (a b : CertificationCampaign) : Prop where
  id : b.id = a.id
  name : b.name = a.name
  description : b.description = a.description
  createdBy : b.createdBy = a.createdBy
  defaultReviewerId :
    b.defaultReviewerId = a.defaultReviewerId
  createdAt : b.createdAt = a.createdAt

theorem SameCampaign.trans
    {a b c : CertificationCampaign}
    (hAB : SameCampaign a b)
    (hBC : SameCampaign b c) :
    SameCampaign a c :=
  ⟨hBC.id.trans hAB.id, hBC.name.trans hAB.name,
    hBC.description.trans hAB.description,
    hBC.createdBy.trans hAB.createdBy,
    hBC.defaultReviewerId.trans hAB.defaultReviewerId,
    hBC.createdAt.trans hAB.createdAt⟩

theorem SameCampaign.hasVersion
    {t : Table CertificationCampaign}
    {loaded new : CertificationCampaign}
    (hSame : SameCampaign loaded new)
    (hMem : loaded ∈ t.rows) :
    t.HasVersion new := by
  refine ⟨loaded, hMem, hSame.id.symm, fun a => ?_⟩
  change decide (a.name = new.name) =
    decide (a.name = loaded.name)
  rw [hSame.name]

/-
  The counts of a campaign, calculated from its items and
  decisions.
-/
def recalculated
    (s : Store)
    (campaign : CertificationCampaign) :
    CertificationCampaign :=
  { campaign with
    totalItems := (s.reviewItemsOf campaign.id).length
    completedItems := s.completedItemCount campaign.id
    approvalCount := s.decisionCount campaign.id .approve
    revocationCount := s.decisionCount campaign.id .revoke
    abstainCount := s.decisionCount campaign.id .abstain }

end Governance

/-
  Where the loaded version is the stored one, an update
  stores the new version.
-/
theorem Governance.SameCampaign.write_loaded
    {loaded new : CertificationCampaign}
    (hSame : SameCampaign loaded new) :
    loaded.write new loaded = new := by
  unfold CertificationCampaign.write
  simp only [writeColumn_loaded, ← hSame.id, ← hSame.name,
    ← hSame.description, ← hSame.createdBy,
    ← hSame.defaultReviewerId, ← hSame.createdAt]

theorem Store.updateCertificationCampaign_eq
    {s : Store}
    {loaded new : CertificationCampaign}
    (hGet :
      s.certificationCampaigns.get? loaded.id = some loaded)
    (hSame : SameCampaign loaded new) :
    s.updateCertificationCampaign loaded new =
      .ok (s.putCampaign new) := by
  unfold Store.updateCertificationCampaign
  rw [← hSame.id] at hGet ⊢
  refine Store.updateIn_eq_put new rfl hGet
    hSame.write_loaded (fun a => ?_) rfl
  change decide (a.name = new.name) =
    decide (a.name = loaded.name)
  rw [hSame.name]

end AccessIQ

------------------------------------------------------------
-- Rules
------------------------------------------------------------

namespace AccessIQ

namespace Governance

open Foundations

variable {w : World Question Reply}
variable {c s : Store}
variable {p : List DomainEvent}

theorem wp_flushCampaign
    {loaded new : CertificationCampaign}
    (hGet :
      s.certificationCampaigns.get? loaded.id = some loaded)
    (hSame : SameCampaign loaded new)
    {post : Post Store DomainEvent PyException Unit}
    (hFail :
      w.mayFail →
        post (.error (.database .operational))
          ⟨c, s, true, p⟩)
    (hOk : post (.ok ()) ⟨c, s.putCampaign new, false, p⟩) :
    (flushCampaign loaded new).wp w post
      ⟨c, s, false, p⟩ := by
  unfold flushCampaign
  by_cases hEq : new = loaded
  · subst hEq
    have hPut : s.putCampaign new = s := by
      unfold Store.putCampaign
      rw [Table.put_of_mem (Table.mem_of_get? hGet)]
    rw [if_pos rfl]
    rw [hPut] at hOk
    exact hOk
  · rw [if_neg hEq, Program.wp_flush_,
      Store.updateCertificationCampaign_eq hGet hSame]
    refine ⟨hFail, ?_, fun e hError => by cases hError⟩
    intro s' hEq
    cases hEq
    exact hOk

theorem sameCampaign_recalculated
    (s : Store)
    (campaign : CertificationCampaign) :
    SameCampaign campaign (recalculated s campaign) :=
  ⟨rfl, rfl, rfl, rfl, rfl, rfl⟩

theorem sameCampaign_started
    (ctx : RequestContext)
    (campaign : CertificationCampaign) :
    SameCampaign campaign (startedCampaign ctx campaign) :=
  ⟨rfl, rfl, rfl, rfl, rfl, rfl⟩

theorem sameCampaign_completed
    (ctx : RequestContext)
    (campaign : CertificationCampaign) :
    SameCampaign campaign
      (completedCampaign ctx campaign) :=
  ⟨rfl, rfl, rfl, rfl, rfl, rfl⟩

theorem sameCampaign_cancelled
    (ctx : RequestContext)
    (campaign : CertificationCampaign) :
    SameCampaign campaign
      (cancelledCampaign ctx campaign) :=
  ⟨rfl, rfl, rfl, rfl, rfl, rfl⟩

/- The counts are those of the items and decisions read. -/
theorem wp_recalculateCampaignCounts
    {campaign : CertificationCampaign}
    (hGet :
      s.certificationCampaigns.get? campaign.id =
        some campaign)
    {post :
      Post Store DomainEvent PyException
        CertificationCampaign}
    (hFail :
      w.mayFail →
        post (.error (.database .operational))
          ⟨c, s, true, p⟩)
    (hOk :
      post (.ok (recalculated s campaign))
        ⟨c, s.putCampaign (recalculated s campaign), false,
          p⟩) :
    (recalculateCampaignCounts campaign).wp w post
      ⟨c, s, false, p⟩ := by
  simp only [recalculateCampaignCounts, Program.wp_bind,
    Program.wp_view, Program.bindPost_ok]
  exact wp_flushCampaign hGet
    (sameCampaign_recalculated s campaign) hFail hOk

/- An audit event is written, or the call raises. -/
theorem wp_recordGovernanceAudit
    {ctx : RequestContext}
    {actor : User}
    {targetUserId : Int}
    {action : AuditAction}
    {result : AuditResult}
    {reason : String}
    {post : Post Store DomainEvent PyException Unit}
    (hError : ∀ e b, post (.error e) ⟨c, s, b, p⟩)
    (hOk :
      ∀ event,
        post (.ok ())
          ⟨c, s.withAuditEvent event, false, p⟩) :
    (recordGovernanceAudit ctx actor targetUserId action
        result reason).wp w post ⟨c, s, false, p⟩ := by
  simp only [recordGovernanceAudit,
    getGovernanceAuditEntitlement, createAuditEvent,
    Program.wp_bind, Program.wp_view,
    Program.wp_getOrRaise, Program.bindPost_ok,
    Program.bindPost_error, wp_recordAuditEvent,
    Program.wp_pure]
  refine ⟨fun _ => hError _ _, ?_⟩
  intro entitlement _
  exact ⟨fun _ => hError _ _, fun _ => hOk _,
    fun _ => hError _ _⟩

/- The version of a campaign that was put is found. -/
theorem get?_putCampaign
    {loaded new : CertificationCampaign}
    (hGet :
      s.certificationCampaigns.get? loaded.id = some loaded)
    (hSame : SameCampaign loaded new) :
    (s.putCampaign new).certificationCampaigns.get? new.id =
      some new := by
  have hVersion :=
    hSame.hasVersion (Table.mem_of_get? hGet)
  exact (Table.get?_put hVersion new.id).trans (if_pos rfl)

/- Of two versions the last one stays. -/
theorem putCampaign_putCampaign
    {loaded new new' : CertificationCampaign}
    (hGet :
      s.certificationCampaigns.get? loaded.id = some loaded)
    (hSame : SameCampaign loaded new)
    (hSame' : SameCampaign loaded new') :
    (s.putCampaign new).putCampaign new' =
      s.putCampaign new' := by
  have hMem := Table.mem_of_get? hGet
  unfold Store.putCampaign
  rw [Table.put_put (hSame.hasVersion hMem)
    (hSame'.hasVersion hMem)
    (hSame.id.trans hSame'.id.symm)]

end Governance

end AccessIQ

------------------------------------------------------------
-- Campaigns
------------------------------------------------------------

namespace AccessIQ

namespace Governance

open Foundations Python

variable {w : World Question Reply}
variable {c s : Store}
variable {p : List DomainEvent}

/- No campaign is found under the name. -/
def CampaignNameFree
    [Platform]
    (s : Store)
    (name : String) : Prop :=
  s.certificationCampaigns.rows.find?
      (fun campaign =>
        s.dialect.lower campaign.name ==
          Platform.lower (strip name)) =
    none

/- What a successful call of `create_campaign` does. -/
def Created
    (ctx : RequestContext)
    (payload : CampaignCreateRequest)
    (s : Store)
    (actor : User)
    (campaign : CertificationCampaign)
    (s' : Store) : Prop :=
  ∃ reviewer,
    s.users.get? payload.reviewerId = some reviewer ∧
      ∃ hFits : s.certificationCampaigns.Fits
          (newCampaign ctx payload actor reviewer),
        ∃ event,
          campaign =
              { newCampaign ctx payload actor reviewer with
                id :=
                  s.certificationCampaigns.freshId
                    s.dialect.keyPolicy } ∧
            s' =
              { s with
                certificationCampaigns :=
                  s.certificationCampaigns.insert
                    s.dialect.keyPolicy
                    (newCampaign ctx payload actor reviewer)
                    hFits }.withAuditEvent event

/- What a successful call of `start_campaign` does. -/
inductive Started
    (ctx : RequestContext)
    (campaignId : Int)
    (s : Store)
    (campaign : CertificationCampaign)
    (s' : Store) : Prop
  | again
      (loaded : CertificationCampaign)
      (hGet :
        s.certificationCampaigns.get? campaignId =
          some loaded)
      (hDraft : loaded.status = .draft)
      (hItems : s.reviewItemsOf loaded.id ≠ [])
      (event : AuditEvent)
      (hCampaign : campaign = startedCampaign ctx loaded)
      (hStored :
        s' = (s.putCampaign campaign).withAuditEvent event) :
      Started ctx campaignId s campaign s'
  | generated
      (loaded : CertificationCampaign)
      (hGet :
        s.certificationCampaigns.get? campaignId =
          some loaded)
      (hDraft : loaded.status = .draft)
      (hNone : s.reviewItemsOf loaded.id = [])
      (items : List CertificationReviewItem)
      (hItems : newReviewItems ctx loaded s = some items)
      (s₁ : Store)
      (hInserted :
        s.insertCertificationReviewItems items = .ok s₁)
      (event : AuditEvent)
      (hCampaign :
        campaign =
          startedCampaign ctx (recalculated s₁ loaded))
      (hStored :
        s' = (s₁.putCampaign campaign).withAuditEvent
          event) :
      Started ctx campaignId s campaign s'

/- What a successful call of `complete_campaign` does. -/
def Completed
    (ctx : RequestContext)
    (campaignId : Int)
    (s : Store)
    (campaign : CertificationCampaign)
    (s' : Store) : Prop :=
  ∃ loaded,
    s.certificationCampaigns.get? campaignId =
        some loaded ∧
      loaded.status = .active ∧
      (recalculated s loaded).totalItems ≤
        (recalculated s loaded).completedItems ∧
      campaign =
        completedCampaign ctx (recalculated s loaded) ∧
      ∃ event,
        s' = (s.putCampaign campaign).withAuditEvent event

/- What a successful call of `cancel_campaign` does. -/
def Cancelled
    (ctx : RequestContext)
    (campaignId : Int)
    (s : Store)
    (campaign : CertificationCampaign)
    (s' : Store) : Prop :=
  ∃ loaded,
    s.certificationCampaigns.get? campaignId =
        some loaded ∧
      (loaded.status = .draft ∨ loaded.status = .active) ∧
      campaign = cancelledCampaign ctx loaded ∧
      ∃ event,
        s' = (s.putCampaign campaign).withAuditEvent event

/- The statuses a transition starts from. -/
theorem status_of_valid_transition
    {status next : CampaignStatus}
    (hValid : ¬ next ∉ validCampaignTransitions status) :
    match next with
    | .draft => False
    | .active => status = .draft
    | .completed => status = .active
    | .cancelled => status = .draft ∨ status = .active := by
  cases status <;> cases next <;>
    simp [validCampaignTransitions] at hValid ⊢

theorem wp_cancelCampaign
    (ctx : RequestContext)
    (campaignId : Int)
    (actor : User) :
    (cancelCampaign ctx campaignId actor).wp w
      (BodyPost c p
        (fun campaign _ s' =>
          Cancelled ctx campaignId s campaign s')
        (fun _ => True))
      ⟨c, s, false, p⟩ := by
  simp only [cancelCampaign, lookupCampaign,
    validateTransition, Program.wp_bind, Program.wp_view,
    Program.wp_getOrRaise, Program.wp_raiseIf,
    Program.bindPost_ok, Program.bindPost_error,
    bodyPost_error, and_true, true_and, implies_true]
  intro loaded hGet hValid
  have hId : loaded.id = campaignId := Table.id_of_get? hGet
  have hStatus := status_of_valid_transition hValid
  have hLoaded :
      s.certificationCampaigns.get? loaded.id =
        some loaded := by
    rw [hId]
    exact hGet
  refine wp_flushCampaign hLoaded
    (sameCampaign_cancelled ctx loaded)
    (fun _ => ⟨rfl, rfl, trivial⟩) ?_
  rw [Program.bindPost_ok, Program.wp_bind]
  refine wp_recordGovernanceAudit
    (fun e b => ⟨rfl, rfl, trivial⟩) fun event => ?_
  exact ⟨rfl, rfl, rfl, loaded, hGet, hStatus, rfl, event,
    rfl⟩

theorem wp_completeCampaign
    (ctx : RequestContext)
    (campaignId : Int)
    (actor : User) :
    (completeCampaign ctx campaignId actor).wp w
      (BodyPost c p
        (fun campaign _ s' =>
          Completed ctx campaignId s campaign s')
        (fun _ => True))
      ⟨c, s, false, p⟩ := by
  simp only [completeCampaign, lookupCampaign,
    validateTransition, Program.wp_bind, Program.wp_view,
    Program.wp_getOrRaise, Program.wp_raiseIf,
    Program.bindPost_ok, Program.bindPost_error,
    bodyPost_error, and_true, true_and, implies_true]
  intro loaded hGet hValid
  have hId : loaded.id = campaignId := Table.id_of_get? hGet
  have hStatus := status_of_valid_transition hValid
  have hLoaded :
      s.certificationCampaigns.get? loaded.id =
        some loaded := by
    rw [hId]
    exact hGet
  have hCounted := sameCampaign_recalculated s loaded
  refine wp_recalculateCampaignCounts hLoaded
    (fun _ => ⟨rfl, rfl, trivial⟩) ?_
  rw [Program.bindPost_ok, Program.wp_bind,
    Program.wp_raiseIf]
  refine ⟨fun _ => ⟨rfl, rfl, trivial⟩, fun hDecided => ?_⟩
  rw [Program.bindPost_ok, Program.wp_bind]
  have hCompleted :=
    sameCampaign_completed ctx (recalculated s loaded)
  refine wp_flushCampaign
    (get?_putCampaign hLoaded hCounted) hCompleted
    (fun _ => ⟨rfl, rfl, trivial⟩) ?_
  rw [putCampaign_putCampaign hLoaded hCounted
    (hCounted.trans hCompleted)]
  rw [Program.bindPost_ok, Program.wp_bind]
  refine wp_recordGovernanceAudit
    (fun e b => ⟨rfl, rfl, trivial⟩) fun event => ?_
  exact ⟨rfl, rfl, rfl, loaded, hGet, hStatus,
    Nat.le_of_not_lt hDecided, rfl, event, rfl⟩

/- Generating review items changes nothing else. -/
theorem insertCertificationReviewItems_eq_ok
    {items : List CertificationReviewItem}
    {s₁ : Store}
    (hInserted :
      s.insertCertificationReviewItems items = .ok s₁) :
    ∃ t,
      s.certificationReviewItems.tryInsertAll
          s.dialect.keyPolicy s.reviewItemReferencesResolve
          items =
        .ok t ∧
      s₁ = { s with certificationReviewItems := t } := by
  unfold Store.insertCertificationReviewItems at hInserted
  cases hTry :
      s.certificationReviewItems.tryInsertAll
        s.dialect.keyPolicy s.reviewItemReferencesResolve
        items with
  | error e =>
      rw [hTry] at hInserted
      cases hInserted
  | ok t =>
      rw [hTry] at hInserted
      cases hInserted
      exact ⟨t, rfl, rfl⟩

/-
  The campaign comes back unchanged where it has items, and
  else with the counts of the items generated for it.
-/
theorem wp_generateReviewItems
    {ctx : RequestContext}
    {campaign : CertificationCampaign}
    (hGet :
      s.certificationCampaigns.get? campaign.id =
        some campaign)
    {post :
      Post Store DomainEvent PyException
        CertificationCampaign}
    (hError : ∀ e s' b, post (.error e) ⟨c, s', b, p⟩)
    (hAgain :
      s.reviewItemsOf campaign.id ≠ [] →
        post (.ok campaign) ⟨c, s, false, p⟩)
    (hGenerated :
      s.reviewItemsOf campaign.id = [] →
        ∀ items s₁,
          newReviewItems ctx campaign s = some items →
            s.insertCertificationReviewItems items =
                .ok s₁ →
              post (.ok (recalculated s₁ campaign))
                ⟨c, s₁.putCampaign (recalculated s₁ campaign),
                  false, p⟩) :
    (generateReviewItems ctx campaign).wp w post
      ⟨c, s, false, p⟩ := by
  rw [generateReviewItems, Program.wp_bind, Program.wp_view,
    Program.bindPost_ok]
  by_cases hItems : (s.reviewItemsOf campaign.id).length ≠ 0
  · rw [if_pos hItems, Program.wp_bind, Program.wp_view]
    apply hAgain
    intro hNil
    rw [hNil] at hItems
    exact hItems rfl
  · rw [if_neg hItems]
    have hNil : s.reviewItemsOf campaign.id = [] :=
      List.eq_nil_of_length_eq_zero (not_not.mp hItems)
    simp only [Program.wp_bind, Program.wp_view,
      Program.bindPost_ok, Program.wp_getOrRaise,
      Program.bindPost_error]
    refine ⟨fun _ => hError _ _ _, fun items hNew => ?_⟩
    by_cases hEmpty : items ≠ []
    · rw [if_pos hEmpty, Program.wp_bind,
        Program.wp_flush_]
      refine ⟨fun _ => hError _ _ _, ?_,
        fun e _ => hError _ _ _⟩
      intro s₁ hInserted
      rcases insertCertificationReviewItems_eq_ok hInserted
        with ⟨t, -, hStore⟩
      have hGet₁ :
          s₁.certificationCampaigns.get? campaign.id =
            some campaign := by
        rw [hStore]
        exact hGet
      exact wp_recalculateCampaignCounts hGet₁
        (fun _ => hError _ _ _)
        (hGenerated hNil items s₁ hNew hInserted)
    · rw [if_neg hEmpty]
      have hNone : items = [] := not_not.mp hEmpty
      subst hNone
      exact wp_recalculateCampaignCounts hGet
        (fun _ => hError _ _ _)
        (hGenerated hNil [] s hNew rfl)

theorem wp_startCampaign
    (ctx : RequestContext)
    (campaignId : Int)
    (actor : User) :
    (startCampaign ctx campaignId actor).wp w
      (BodyPost c p
        (fun campaign _ s' =>
          Started ctx campaignId s campaign s')
        (fun _ => True))
      ⟨c, s, false, p⟩ := by
  simp only [startCampaign, lookupCampaign,
    validateTransition, Program.wp_bind, Program.wp_view,
    Program.wp_getOrRaise, Program.wp_raiseIf,
    Program.bindPost_ok, Program.bindPost_error,
    bodyPost_error, and_true, true_and, implies_true]
  intro loaded hGet hValid
  have hId : loaded.id = campaignId := Table.id_of_get? hGet
  have hDraft := status_of_valid_transition hValid
  have hLoaded :
      s.certificationCampaigns.get? loaded.id =
        some loaded := by
    rw [hId]
    exact hGet
  refine wp_generateReviewItems hLoaded
    (fun e s' b => ⟨rfl, rfl, trivial⟩) ?_ ?_
  · intro hItems
    rw [Program.bindPost_ok, Program.wp_bind]
    refine wp_flushCampaign hLoaded
      (sameCampaign_started ctx loaded)
      (fun _ => ⟨rfl, rfl, trivial⟩) ?_
    rw [Program.bindPost_ok, Program.wp_bind]
    refine wp_recordGovernanceAudit
      (fun e b => ⟨rfl, rfl, trivial⟩) fun event => ?_
    exact ⟨rfl, rfl, rfl,
      .again loaded hGet hDraft hItems event rfl rfl⟩
  · intro hNone items s₁ hItems hInserted
    rcases insertCertificationReviewItems_eq_ok hInserted
      with ⟨t, -, hStore⟩
    have hLoaded₁ :
        s₁.certificationCampaigns.get? loaded.id =
          some loaded := by
      rw [hStore]
      exact hLoaded
    have hCounted := sameCampaign_recalculated s₁ loaded
    have hStarted :=
      sameCampaign_started ctx (recalculated s₁ loaded)
    rw [Program.bindPost_ok, Program.wp_bind]
    refine wp_flushCampaign
      (get?_putCampaign hLoaded₁ hCounted) hStarted
      (fun _ => ⟨rfl, rfl, trivial⟩) ?_
    rw [putCampaign_putCampaign hLoaded₁ hCounted
      (hCounted.trans hStarted)]
    rw [Program.bindPost_ok, Program.wp_bind]
    refine wp_recordGovernanceAudit
      (fun e b => ⟨rfl, rfl, trivial⟩) fun event => ?_
    exact ⟨rfl, rfl, rfl,
      .generated loaded hGet hDraft hNone items hItems s₁
        hInserted event rfl rfl⟩

theorem wp_createCampaign
    [Platform]
    (ctx : RequestContext)
    (payload : CampaignCreateRequest)
    (actor : User) :
    (createCampaign ctx payload actor).wp w
      (BodyPost c p
        (fun campaign _ s' =>
          CampaignNameFree s payload.name ∧
            Created ctx payload s actor campaign s')
        (fun _ => True))
      ⟨c, s, false, p⟩ := by
  simp only [createCampaign, checkDuplicateCampaignName,
    Program.wp_bind, Program.wp_view,
    Program.wp_getOrRaise, Program.wp_raiseIf,
    Program.bindPost_ok, Program.bindPost_error,
    bodyPost_error, and_true, true_and, implies_true,
    Program.wp_flush]
  intro hFree reviewer hReviewer s' n hInsert
  rcases Store.insertInto_eq_ok_iff.mp hInsert with
    ⟨-, hFits, rfl, rfl⟩
  refine wp_recordGovernanceAudit
    (fun e b => ⟨rfl, rfl, trivial⟩) fun event => ?_
  have hNameFree : CampaignNameFree s payload.name :=
    Option.not_isSome_iff_eq_none.mp hFree
  exact ⟨rfl, rfl, rfl, hNameFree, reviewer, hReviewer,
    hFits, event, rfl, rfl⟩

end Governance

end AccessIQ

------------------------------------------------------------
-- Decisions
------------------------------------------------------------

namespace AccessIQ

namespace Governance

open Foundations

variable {w : World Question Reply}
variable {c s : Store}
variable {p : List DomainEvent}

/- The decisions after one about an item was recorded. -/
inductive DecisionStored
    (ctx : RequestContext)
    (payload : DecisionRequest)
    (actor : User)
    (campaign : CertificationCampaign)
    (item : CertificationReviewItem)
    (s : Store)
    (t : Table CertificationDecision) : Prop
  | first
      (hNone : s.decisionRecord item.id = none)
      (hFits :
        s.certificationDecisions.Fits
          (newDecision ctx payload actor campaign item))
      (hTable :
        t =
          s.certificationDecisions.insert
            s.dialect.keyPolicy
            (newDecision ctx payload actor campaign item)
            hFits) :
      DecisionStored ctx payload actor campaign item s t
  | again
      (existing : CertificationDecision)
      (hSome : s.decisionRecord item.id = some existing)
      (hTable :
        t =
          s.certificationDecisions.put
            (updatedDecision ctx payload actor existing)) :
      DecisionStored ctx payload actor campaign item s t

theorem updateCertificationReviewItem_eq_ok
    {ctx : RequestContext}
    {actor : User}
    {item : CertificationReviewItem}
    (hGet :
      s.certificationReviewItems.get? item.id = some item)
    {s₁ : Store}
    (hUpdated :
      s.updateCertificationReviewItem item
          (reviewedItem ctx actor item) =
        .ok s₁) :
    s₁ =
      { s with
        certificationReviewItems :=
          s.certificationReviewItems.put
            (reviewedItem ctx actor item) } := by
  unfold Store.updateCertificationReviewItem at hUpdated
  by_cases hEq : reviewedItem ctx actor item = item
  · rw [if_pos hEq] at hUpdated
    cases hUpdated
    rw [hEq, Table.put_of_mem (Table.mem_of_get? hGet)]
  · rw [if_neg hEq] at hUpdated
    have hRefs :=
      (Store.updateIn_eq_ok_iff.mp hUpdated).2.1
    have hNew :
        item.write (reviewedItem ctx actor item) item =
          reviewedItem ctx actor item := by
      simp [CertificationReviewItem.write, reviewedItem]
    have hId :
        Row.id (reviewedItem ctx actor item) = item.id :=
      rfl
    rw [Store.updateIn_eq_put _ hId hGet hNew
      (fun _ => rfl) hRefs] at hUpdated
    cases hUpdated
    rfl

theorem updateCertificationDecision_eq_ok
    {ctx : RequestContext}
    {payload : DecisionRequest}
    {actor : User}
    {existing : CertificationDecision}
    {s₁ : Store}
    (hUpdated :
      s.updateCertificationDecision existing
          (updatedDecision ctx payload actor existing) =
        .ok s₁)
    (hMem : existing ∈ s.certificationDecisions.rows) :
    s₁ =
      { s with
        certificationDecisions :=
          s.certificationDecisions.put
            (updatedDecision ctx payload actor
              existing) } := by
  unfold Store.updateCertificationDecision at hUpdated
  by_cases hEq :
      updatedDecision ctx payload actor existing = existing
  · rw [if_pos hEq] at hUpdated
    cases hUpdated
    rw [hEq, Table.put_of_mem hMem]
  · rw [if_neg hEq] at hUpdated
    have hRefs :=
      (Store.updateIn_eq_ok_iff.mp hUpdated).2.1
    have hGet :
        s.certificationDecisions.get? existing.id =
          some existing :=
      s.certificationDecisions.get?_of_mem hMem
    have hNew :
        existing.write
            (updatedDecision ctx payload actor existing)
            existing =
          updatedDecision ctx payload actor existing := by
      simp [CertificationDecision.write, updatedDecision]
    have hId :
        Row.id (updatedDecision ctx payload actor existing) =
          existing.id :=
      rfl
    rw [Store.updateIn_eq_put _ hId hGet hNew
      (fun _ => rfl) hRefs] at hUpdated
    cases hUpdated
    rfl

/- A decision and its item are stored together. -/
theorem flushDecision_eq_ok
    {ctx : RequestContext}
    {payload : DecisionRequest}
    {actor : User}
    {campaign : CertificationCampaign}
    {item : CertificationReviewItem}
    (hGet :
      s.certificationReviewItems.get? item.id = some item)
    {s₁ : Store}
    (hFlushed :
      flushDecision ctx payload actor campaign item
          (s.decisionRecord item.id) s =
        .ok s₁) :
    ∃ t,
      DecisionStored ctx payload actor campaign item s t ∧
        s₁ =
          { s with
            certificationReviewItems :=
              s.certificationReviewItems.put
                (reviewedItem ctx actor item)
            certificationDecisions := t } := by
  unfold flushDecision at hFlushed
  cases hItem :
      s.updateCertificationReviewItem item
        (reviewedItem ctx actor item) with
  | error e =>
      rw [hItem] at hFlushed
      cases hFlushed
  | ok s₂ =>
      rw [hItem] at hFlushed
      have hStore :=
        updateCertificationReviewItem_eq_ok hGet hItem
      subst hStore
      simp only [Except.bind] at hFlushed
      cases hRecord : s.decisionRecord item.id with
      | none =>
          rw [hRecord] at hFlushed
          rcases Store.insertInto_fst_eq_ok hFlushed with
            ⟨hFits, hStore⟩
          exact ⟨_, .first hRecord hFits rfl, hStore⟩
      | some existing =>
          simp only [hRecord] at hFlushed
          have hMem :
              existing ∈ s.certificationDecisions.rows :=
            List.mem_of_find?_eq_some hRecord
          exact ⟨_, .again existing hRecord rfl,
            updateCertificationDecision_eq_ok hFlushed hMem⟩

/- What a successful call of `record_decision` does. -/
structure Decided
    (ctx : RequestContext)
    (itemId : Int)
    (payload : DecisionRequest)
    (s : Store)
    (actor : User)
    (item : CertificationReviewItem)
    (campaign : CertificationCampaign)
    (t : Table CertificationDecision)
    (event : AuditEvent)
    (s' : Store) : Prop where
  item_found :
    s.certificationReviewItems.get? itemId = some item
  campaign_found :
    s.certificationCampaigns.get? item.campaignId =
      some campaign
  active : campaign.status = .active
  decision :
    DecisionStored ctx payload actor campaign item s t
  stored :
    let s₁ : Store :=
      { s with
        certificationReviewItems :=
          s.certificationReviewItems.put
            (reviewedItem ctx actor item)
        certificationDecisions := t }
    s' =
      (s₁.putCampaign
        (recalculated s₁ campaign)).withAuditEvent event

theorem wp_recordDecision
    (ctx : RequestContext)
    (itemId : Int)
    (payload : DecisionRequest)
    (actor : User) :
    (recordDecision ctx itemId payload actor).wp w
      (BodyPost c p
        (fun _ _ s' =>
          ∃ item campaign t event,
            Decided ctx itemId payload s actor item campaign
              t event s')
        (fun _ => True))
      ⟨c, s, false, p⟩ := by
  simp only [recordDecision, lookupReviewItem,
    Store.loadReviewItem, Program.wp_bind, Program.wp_view,
    Program.wp_getOrRaise, Program.wp_raiseIf,
    Program.bindPost_ok, Program.bindPost_error,
    bodyPost_error, and_true, true_and, implies_true,
    Program.wp_flush_, Option.map_eq_some_iff,
    forall_exists_index, and_imp, createAuditEvent,
    forall_apply_eq_imp_iff₂, ne_eq, not_not]
  intro item hItem campaign hCampaign hActive s₁ hFlushed
  have hId : item.id = itemId := Table.id_of_get? hItem
  have hCampaignId : campaign.id = item.campaignId :=
    Table.id_of_get? hCampaign
  have hLoaded :
      s.certificationReviewItems.get? item.id =
        some item := by
    rw [hId]
    exact hItem
  rcases flushDecision_eq_ok hLoaded hFlushed with
    ⟨t, hDecision, hStore⟩
  have hCampaignLoaded :
      s₁.certificationCampaigns.get? campaign.id =
        some campaign := by
    rw [hStore, hCampaignId]
    exact hCampaign
  refine wp_recalculateCampaignCounts hCampaignLoaded
    (fun _ => ⟨rfl, rfl, trivial⟩) ?_
  simp only [Program.wp_bind, Program.bindPost_ok,
    Program.bindPost_error, wp_recordAuditEvent,
    Program.wp_view, Program.wp_getOrRaise, bodyPost_error,
    and_true, true_and, implies_true, Program.wp_pure]
  intro _ _ _
  subst hStore
  exact ⟨rfl, rfl, rfl, item, campaign, t, _, hItem,
    hCampaign, hActive, hDecision, rfl⟩

end Governance

end AccessIQ

------------------------------------------------------------
-- Requests
------------------------------------------------------------

namespace AccessIQ

namespace Governance

open Foundations Python

/- A request of the certification campaign routes. -/
inductive GovernanceRequest where
  | create
      (ctx : RequestContext)
      (payload : CampaignCreateRequest)
  | start (ctx : RequestContext) (campaignId : Int)
  | decide
      (ctx : RequestContext)
      (itemId : Int)
      (payload : DecisionRequest)
  | complete (ctx : RequestContext) (campaignId : Int)
  | cancel (ctx : RequestContext) (campaignId : Int)
  deriving DecidableEq, Repr

variable [Platform]

/- The database after one governance request. -/
def serveGovernance
    (s : Store)
    (request : GovernanceRequest × Environment) :
    Store :=
  match request.1 with
  | .create ctx payload =>
      ((createCampaignRoute ctx payload).serve
        request.2 s).committed
  | .start ctx campaignId =>
      ((startCampaignRoute ctx campaignId).serve
        request.2 s).committed
  | .decide ctx itemId payload =>
      ((recordDecisionRoute ctx itemId payload).serve
        request.2 s).committed
  | .complete ctx campaignId =>
      ((completeCampaignRoute ctx campaignId).serve
        request.2 s).committed
  | .cancel ctx campaignId =>
      ((cancelCampaignRoute ctx campaignId).serve
        request.2 s).committed

/-
  What a governance request commits: nothing, or what its
  service call did.
-/
inductive GovernanceStep
    (s : Store) : Store → Prop
  | unchanged : GovernanceStep s s
  | created
      {ctx : RequestContext}
      {payload : CampaignCreateRequest}
      {actor : User}
      {campaign : CertificationCampaign}
      {s' : Store}
      (hCreated : Created ctx payload s actor campaign s') :
      GovernanceStep s s'
  | started
      {ctx : RequestContext}
      {campaignId : Int}
      {campaign : CertificationCampaign}
      {s' : Store}
      (hStarted : Started ctx campaignId s campaign s') :
      GovernanceStep s s'
  | decided
      {ctx : RequestContext}
      {itemId : Int}
      {payload : DecisionRequest}
      {actor : User}
      {item : CertificationReviewItem}
      {campaign : CertificationCampaign}
      {t : Table CertificationDecision}
      {event : AuditEvent}
      {s' : Store}
      (hDecided :
        Decided ctx itemId payload s actor item campaign t
          event s') :
      GovernanceStep s s'
  | completed
      {ctx : RequestContext}
      {campaignId : Int}
      {campaign : CertificationCampaign}
      {s' : Store}
      (hCompleted :
        Completed ctx campaignId s campaign s') :
      GovernanceStep s s'
  | cancelled
      {ctx : RequestContext}
      {campaignId : Int}
      {campaign : CertificationCampaign}
      {s' : Store}
      (hCancelled :
        Cancelled ctx campaignId s campaign s') :
      GovernanceStep s s'

/- An endpoint commits nothing or what its service call did. -/
theorem committed_cases
    {α : Type}
    {env : Environment}
    {s : Store}
    {ctx : RequestContext}
    {roles : List String}
    {respond : PyException → Option HttpException}
    {body : User → Handler (α × List DomainEvent)}
    {ok : User → α → Store → Prop}
    (hBody :
      ∀ user,
        (body user).wp env.world
          (BodyPost s [] (fun a _ s' => ok user a s')
            (fun _ => True))
          (Moment.start s)) :
    let served :=
      Program.serve env
        (do
          let user ← authenticated ctx roles
          transactional respond (body user))
        s
    served.committed = s ∨
      ∃ user a, ok user a served.committed := by
  intro served
  have hOutcome :
      EndpointOutcome s ctx roles respond
        (fun user a _ s' => ok user a s')
        (fun _ _ => True)
        served.result served.committed served.published :=
    serve_endpoint env.conforms_world
      (fun user _ => hBody user) (fun _ _ => trivial)
  generalize served = r at hOutcome ⊢
  rcases r with ⟨result, committed, published⟩
  cases hOutcome with
  | refused => exact Or.inl rfl
  | succeeded user a events _ hAdmits hOk =>
      exact Or.inr ⟨user, a, hOk⟩
  | failed => exact Or.inl rfl

/- The rule for governance requests. -/
theorem serveGovernance_step
    (s : Store)
    (request : GovernanceRequest × Environment) :
    GovernanceStep s (serveGovernance s request) := by
  rcases request with ⟨request, env⟩
  have hStep :
      ∀ {s' : Store} {done : Prop},
        s' = s ∨ done → (done → GovernanceStep s s') →
          GovernanceStep s s' := by
    intro s' done hCases hDone
    rcases hCases with rfl | hDid
    · exact .unchanged
    · exact hDone hDid
  cases request with
  | create ctx payload =>
      refine hStep (committed_cases fun user =>
        wp_createCampaign ctx payload user) ?_
      rintro ⟨user, campaign, -, hCreated⟩
      exact .created hCreated
  | start ctx campaignId =>
      refine hStep (committed_cases fun user =>
        wp_startCampaign ctx campaignId user) ?_
      rintro ⟨user, campaign, hStarted⟩
      exact .started hStarted
  | decide ctx itemId payload =>
      refine hStep (committed_cases fun user =>
        wp_recordDecision ctx itemId payload user) ?_
      rintro ⟨user, _, item, campaign, t, event, hDecided⟩
      exact .decided hDecided
  | complete ctx campaignId =>
      refine hStep (committed_cases fun user =>
        wp_completeCampaign ctx campaignId user) ?_
      rintro ⟨user, campaign, hCompleted⟩
      exact .completed hCompleted
  | cancel ctx campaignId =>
      refine hStep (committed_cases fun user =>
        wp_cancelCampaign ctx campaignId user) ?_
      rintro ⟨user, campaign, hCancelled⟩
      exact .cancelled hCancelled

end Governance

end AccessIQ
