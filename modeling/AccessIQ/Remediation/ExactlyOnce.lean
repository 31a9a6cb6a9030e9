import AccessIQ.Connectors.Reporting
import AccessIQ.Governance.Campaigns
import AccessIQ.Remediation.Outcomes

/-
  Remediation happens once for each revoked item.

  A remediated item has a job from then on, and no later
  request changes it: the jobs of the database only grow.

  Key definitions include:
    * `RemediationRequest`
    * `JobsSound`
    * `RemediatedOnce`

  Key theorems include:
    * `ItemSteps.done`
    * `request_cases`
    * `jobsSound_serveRemediation`
    * `remediation_exactlyOnce`
-/

------------------------------------------------------------
-- Settled Jobs
------------------------------------------------------------

namespace AccessIQ

namespace Remediation

open Foundations Connectors Governance Python

/- A job whose execution is over. -/
def RemediationStatus.Terminal
    (status : RemediationStatus) : Prop :=
  status = .completed ∨ status = .failed ∨
    status = .skipped

variable {env : Environment}
variable {ctx : RequestContext}
variable {s s₀ : Store}
variable {job done : RemediationJob}
variable {run : Except PyException ProvisioningRun}
variable {event : DomainEvent}
variable {published : List DomainEvent}

theorem sameRemediation_settled
    (ctx : RequestContext)
    (job : RemediationJob)
    (result : ConnectorResult) :
    SameRemediation job (settledJob ctx job result) := by
  unfold settledJob
  cases result.status with
  | success => exact sameRemediation_completed ctx job _
  | skipped => exact sameRemediation_completed ctx job _
  | failed => exact sameRemediation_failed ctx job _
  | retryable => exact sameRemediation_failed ctx job _

theorem terminal_settled
    (ctx : RequestContext)
    (job : RemediationJob)
    (result : ConnectorResult) :
    (settledJob ctx job result).status.Terminal := by
  unfold settledJob
  cases result.status with
  | success => exact Or.inl rfl
  | skipped => exact Or.inr (Or.inr rfl)
  | failed => exact Or.inr (Or.inl rfl)
  | retryable => exact Or.inr (Or.inl rfl)

variable [Platform]

/- An executed job is the same job, and it is over. -/
theorem Execution.settles
    (hExecution :
      Execution env ctx s job run s₀ done event published) :
    SameRemediation job done ∧ done.status.Terminal := by
  have hLinked := sameRemediation_linked s₀ job
  have hFailed :
      ∀ message,
        SameRemediation job
            (failedJob ctx (linkedJob s₀ job) message) ∧
          (failedJob ctx (linkedJob s₀ job)
            message).status.Terminal :=
    fun message =>
      ⟨hLinked.trans (sameRemediation_failed ctx _ message),
        Or.inr (Or.inl rfl)⟩
  cases hExecution with
  | unexecuted => exact hFailed _
  | unaudited => exact hFailed _
  | unserialized => exact hFailed _
  | returned =>
      exact ⟨hLinked.trans (sameRemediation_settled ctx _ _),
        terminal_settled ctx _ _⟩

end Remediation

end AccessIQ

------------------------------------------------------------
-- Results Of Items
------------------------------------------------------------

namespace AccessIQ

namespace Remediation

open Foundations Connectors Governance Python

/- An item had its job before, or got it now. -/
inductive ItemDone
    (s : Store)
    (item : CertificationReviewItem)
    (result : ItemResult) : Prop
  | kept
      (hCreated : result.created = false)
      (hEvents : result.events = [])
      (hFound :
        s.findJobByReviewItem item.id = some result.job)
  | remediated
      (hCreated : result.created = true)
      (hNone : s.findJobByReviewItem item.id = none)
      (hReviewItem : result.job.reviewItemId = item.id)
      (hCampaign : result.job.campaignId = item.campaignId)
      (hTerminal : result.job.status.Terminal)

/- The jobs created for items. -/
def createdJobs
    (results : List ItemResult) :
    List RemediationJob :=
  (results.filter (·.created)).map (·.job)

theorem createdJobs_cons
    (result : ItemResult)
    (results : List ItemResult) :
    createdJobs (result :: results) =
      createdJobs [result] ++ createdJobs results := by
  unfold createdJobs
  rw [← List.map_append, ← List.filter_append]
  rfl

variable [Platform]
variable {env : Environment}
variable {orchestrator : ProvisioningOrchestrator}
variable {ctx : RequestContext}
variable {actor : User}
variable {s s' : Store}
variable {item : CertificationReviewItem}
variable {items : List CertificationReviewItem}
variable {result : ItemResult}
variable {results : List ItemResult}
variable {published : List DomainEvent}

theorem ItemStep.done
    (hStep :
      ItemStep env orchestrator ctx actor s item result s'
        published) :
    ItemDone s item result := by
  cases hStep with
  | kept job hFound => exact .kept rfl rfl hFound
  | remediated jobId done event s₁ s₂ s' published hNone
      hStarted hExecution hDone =>
      rcases hExecution.settles with ⟨hSame, hTerminal⟩
      exact .remediated rfl hNone hSame.reviewItemId
        hSame.campaignId hTerminal

theorem ItemStep.rows
    (hStep :
      ItemStep env orchestrator ctx actor s item result s'
        published) :
    s'.remediationJobs.rows =
      s.remediationJobs.rows ++ createdJobs [result] := by
  cases hStep with
  | kept job hFound => exact (List.append_nil _).symm
  | remediated _ _ _ _ _ _ _ _ _ _ hDone =>
      exact hDone.jobs

/- Another item finds the job it found before. -/
theorem ItemStep.findJob
    (hStep :
      ItemStep env orchestrator ctx actor s item result s'
        published)
    {reviewItemId : Int}
    (hOther : reviewItemId ≠ item.id) :
    s'.findJobByReviewItem reviewItemId =
      s.findJobByReviewItem reviewItemId := by
  unfold Store.findJobByReviewItem
  rw [hStep.rows, List.find?_append]
  have hNone :
      (createdJobs [result]).find?
          (·.reviewItemId == reviewItemId) =
        none := by
    rw [List.find?_eq_none]
    intro job hJob hMatch
    have hDone := hStep.done
    rcases List.mem_map.mp hJob with ⟨made, hMade, rfl⟩
    have hFilter := List.mem_filter.mp hMade
    rcases List.mem_singleton.mp hFilter.1 with rfl
    cases hDone with
    | kept hCreated _ _ =>
        rw [hCreated] at hFilter
        exact Bool.false_ne_true hFilter.2
    | remediated _ _ hReviewItem _ _ =>
        have hEq := eq_of_beq hMatch
        exact hOther (hEq.symm.trans hReviewItem)
  rw [hNone, Option.or_none]

theorem ItemSteps.rows
    (hSteps :
      ItemSteps env orchestrator ctx actor s items results s'
        published) :
    s'.remediationJobs.rows =
      s.remediationJobs.rows ++ createdJobs results := by
  induction hSteps with
  | nil s => exact (List.append_nil _).symm
  | cons s s₁ s' item items result results _ _ hStep _ ih =>
      rw [ih, hStep.rows, createdJobs_cons result results,
        List.append_assoc]

theorem ItemSteps.sameElsewhere
    (hSteps :
      ItemSteps env orchestrator ctx actor s items results s'
        published) :
    SameElsewhere s s' := by
  induction hSteps with
  | nil s => exact sameElsewhere_refl s
  | cons _ _ _ _ _ _ _ _ _ hStep _ ih =>
      exact hStep.sameElsewhere.trans ih

omit [Platform] in
/- Items that find the same jobs are done the same way. -/
theorem forall₂_itemDone_of_same
    {s s₁ : Store}
    (hDone : List.Forall₂ (ItemDone s₁) items results)
    (hSame :
      ∀ item ∈ items,
        s₁.findJobByReviewItem item.id =
          s.findJobByReviewItem item.id) :
    List.Forall₂ (ItemDone s) items results := by
  induction hDone with
  | nil => exact .nil
  | @cons item result items results hFirst _ ih =>
      refine .cons ?_
        (ih fun later hLater =>
          hSame later (List.mem_cons_of_mem _ hLater))
      have hFind := hSame item List.mem_cons_self
      cases hFirst with
      | kept hCreated hEvents hFound =>
          exact .kept hCreated hEvents
            (hFind.symm.trans hFound)
      | remediated hCreated hNone hReviewItem hCampaign
          hTerminal =>
          exact .remediated hCreated
            (hFind.symm.trans hNone) hReviewItem hCampaign
            hTerminal

/-
  Distinct items do not see each other's jobs, so each result
  is what the state before the call says.
-/
theorem ItemSteps.done
    (hSteps :
      ItemSteps env orchestrator ctx actor s items results s'
        published)
    (hDistinct : (items.map (·.id)).Nodup) :
    List.Forall₂ (ItemDone s) items results := by
  induction hSteps with
  | nil s => exact .nil
  | cons s s₁ s' item items result results _ _ hStep _ ih =>
      rw [List.map_cons, List.nodup_cons] at hDistinct
      refine .cons hStep.done
        (forall₂_itemDone_of_same (ih hDistinct.2) ?_)
      intro other hOther
      refine hStep.findJob fun hEq => hDistinct.1 ?_
      rw [← hEq]
      exact List.mem_map_of_mem hOther

/- Items that have their jobs leave everything as it is. -/
theorem ItemSteps.unchanged
    (hSteps :
      ItemSteps env orchestrator ctx actor s items results s'
        published)
    (hKept :
      ∀ item ∈ items,
        (s.findJobByReviewItem item.id).isSome = true) :
    s' = s ∧ published = [] ∧
      ∀ result ∈ results, result.created = false ∧
        result.events = [] := by
  induction hSteps with
  | nil s => exact ⟨rfl, rfl, fun _ hNone => by cases hNone⟩
  | cons s s₁ s' item items result results _ _ hStep _ ih =>
      have hFirst := hKept item List.mem_cons_self
      cases hStep with
      | kept job hFound =>
          rcases ih fun later hLater =>
              hKept later (List.mem_cons_of_mem _ hLater) with
            ⟨hStore, hPublished, hResults⟩
          refine ⟨hStore, ?_, ?_⟩
          · rw [hPublished, List.append_nil]
          · intro result hResult
            rcases List.mem_cons.mp hResult with rfl | hLater
            · exact ⟨rfl, rfl⟩
            · exact hResults result hLater
      | remediated _ _ _ _ _ _ _ hNone _ _ _ =>
          rw [hNone] at hFirst
          cases hFirst

end Remediation

end AccessIQ

------------------------------------------------------------
-- Sound Jobs
------------------------------------------------------------

namespace AccessIQ

namespace Remediation

open Foundations Connectors Governance Python

/- The job is one of a revoked item of its campaign. -/
structure JobSound
    (s : Store)
    (job : RemediationJob) : Prop where
  item :
    ∃ item ∈ s.certificationReviewItems.rows,
      item.id = job.reviewItemId ∧
        item.campaignId = job.campaignId ∧
        s.revoked item = true
  campaign :
    ∃ campaign,
      s.certificationCampaigns.get? job.campaignId =
          some campaign ∧
        campaign.status = .completed
  terminal : job.status.Terminal

/- There is at most one job for an item, and each is sound. -/
structure JobsSound
    (s : Store) : Prop where
  sound : ∀ job ∈ s.remediationJobs.rows, JobSound s job
  distinct :
    (s.remediationJobs.rows.map (·.reviewItemId)).Nodup

theorem JobSound.sameElsewhere
    {s s' : Store}
    {job : RemediationJob}
    (hSound : JobSound s job)
    (hSame : SameElsewhere s s') :
    JobSound s' job := by
  rcases hSame with ⟨_, _, _, _, rfl⟩
  exact
    { item := hSound.item
      campaign := hSound.campaign
      terminal := hSound.terminal }

/- The unique column keeps the jobs of items apart. -/
theorem distinct_reviewItems
    (s : Store) :
    (s.remediationJobs.rows.map (·.reviewItemId)).Nodup := by
  have hUnique := s.remediationJobs.unique
  rw [List.Nodup, List.pairwise_map]
  refine hUnique.imp ?_
  intro a b hConflicts hEq
  have hNot := of_decide_eq_false hConflicts
  exact hNot hEq

/- A found job is the job of the item. -/
theorem findJobByReviewItem_eq_some
    {s : Store}
    {reviewItemId : Int}
    {job : RemediationJob}
    (hFound : s.findJobByReviewItem reviewItemId = some job) :
    job ∈ s.remediationJobs.rows ∧
      job.reviewItemId = reviewItemId := by
  have hMatch := List.find?_some hFound
  exact ⟨List.mem_of_find?_eq_some hFound,
    eq_of_beq hMatch⟩

theorem findJobByReviewItem_of_mem
    {s : Store}
    {job : RemediationJob}
    (hMem : job ∈ s.remediationJobs.rows) :
    s.findJobByReviewItem job.reviewItemId = some job := by
  have hSome :
      (s.findJobByReviewItem job.reviewItemId).isSome =
        true := by
    unfold Store.findJobByReviewItem
    rw [List.find?_isSome]
    exact ⟨job, hMem, beq_self_eq_true _⟩
  rcases Option.isSome_iff_exists.mp hSome with
    ⟨found, hFound⟩
  rcases findJobByReviewItem_eq_some hFound with
    ⟨hStored, hSame⟩
  rw [hFound,
    List.inj_on_of_nodup_map (distinct_reviewItems s) hStored
      hMem hSame]

/- A store without jobs has nothing unsound. -/
theorem jobsSound_of_none
    {s : Store}
    (hNone : s.remediationJobs.rows = []) :
    JobsSound s := by
  refine { sound := ?_, distinct := distinct_reviewItems s }
  intro job hJob
  rw [hNone] at hJob
  cases hJob

variable [Platform]

/- A request to remediate a campaign. -/
structure RemediationRequest where
  env : Environment
  orchestrator : ProvisioningOrchestrator
  ctx : RequestContext
  campaignId : Int

def RemediationRequest.serve
    (request : RemediationRequest)
    (s : Store) :
    Response CampaignRemediationResult :=
  (remediateCampaign request.orchestrator request.ctx
    request.campaignId).serve request.env s

/- The database after one request. -/
def serveRemediation
    (s : Store)
    (request : RemediationRequest) :
    Store :=
  (request.serve s).committed

omit [Platform] in
/- Distinct items are remediated. -/
theorem distinct_remediableReviewItems
    (s : Store)
    (campaignId : Int) :
    ((s.remediableReviewItems campaignId).map
      (·.id)).Nodup := by
  have hSorted := s.certificationReviewItems.sorted
  have hFiltered :=
    hSorted.filter fun item =>
      item.campaignId == campaignId && s.revoked item
  rw [List.Nodup, List.pairwise_map]
  exact hFiltered.imp fun hLt => ne_of_lt hLt

/- What a request does to the jobs of the database. -/
structure RequestFacts
    (s : Store)
    (request : RemediationRequest)
    (result : CampaignRemediationResult)
    (published : List DomainEvent)
    (results : List ItemResult) : Prop where
  campaign :
    ∃ campaign,
      s.certificationCampaigns.get? request.campaignId =
          some campaign ∧
        campaign.status = .completed
  done :
    List.Forall₂ (ItemDone s)
      (s.remediableReviewItems request.campaignId) results
  rows :
    (serveRemediation s request).remediationJobs.rows =
      s.remediationJobs.rows ++ createdJobs results
  result :
    result =
      (campaignResult request.campaignId
        (s.nonRemediableDecisionCount request.campaignId)
        results).1
  unchanged :
    (∀ item ∈ s.remediableReviewItems request.campaignId,
        (s.findJobByReviewItem item.id).isSome = true) →
      serveRemediation s request = s ∧
        published = []

theorem sameElsewhere_serveRemediation
    (s : Store)
    (request : RemediationRequest) :
    SameElsewhere s (serveRemediation s request) := by
  have hOutcome :=
    serve_remediateCampaign request.env request.orchestrator
      request.ctx request.campaignId s
  unfold serveRemediation RemediationRequest.serve
  generalize
    (remediateCampaign request.orchestrator request.ctx
      request.campaignId).serve request.env s = served
    at hOutcome ⊢
  rcases served with ⟨result, committed, published⟩
  cases hOutcome with
  | refused response => exact sameElsewhere_refl _
  | remediated _ _ _ _ _ _ _ _ hSteps =>
      exact hSteps.sameElsewhere
  | failed published => exact sameElsewhere_refl _

/- A request returns with its facts, or changes nothing. -/
theorem request_cases
    (s : Store)
    (request : RemediationRequest) :
    (∃ result results,
        (request.serve s).result = .ok result ∧
          RequestFacts s request result
            (request.serve s).published results) ∨
      (∃ exc, (request.serve s).result = .error exc) ∧
        serveRemediation s request = s := by
  have hOutcome :=
    serve_remediateCampaign request.env request.orchestrator
      request.ctx request.campaignId s
  generalize hServed :
    (remediateCampaign request.orchestrator request.ctx
      request.campaignId).serve request.env s = served
    at hOutcome
  have hServe : request.serve s = served := hServed
  have hCommitted :
      serveRemediation s request = served.committed := by
    unfold serveRemediation
    rw [hServe]
  rcases served with ⟨result, committed, published⟩
  rw [hServe]
  cases hOutcome with
  | refused response =>
      exact Or.inr ⟨⟨_, rfl⟩, hCommitted⟩
  | remediated actor campaign results _ published hAdmits
      hCampaign hCompleted hSteps =>
      have hUnchanged :
          (∀ item ∈
                s.remediableReviewItems request.campaignId,
              (s.findJobByReviewItem item.id).isSome = true) →
            committed = s ∧
              published ++ results.flatMap (·.events) =
                [] := by
        intro hKept
        rcases hSteps.unchanged hKept with
          ⟨hStore, hPublished, hResults⟩
        have hEvents :
            results.flatMap (·.events) = [] := by
          rw [List.flatMap_eq_nil_iff]
          exact fun result hResult =>
            (hResults result hResult).2
        rw [hPublished, hEvents]
        exact ⟨hStore, rfl⟩
      exact Or.inl ⟨_, results, rfl,
        { campaign := ⟨campaign, hCampaign, hCompleted⟩
          done :=
            hSteps.done
              (distinct_remediableReviewItems s
                request.campaignId)
          rows := by
            rw [hCommitted]
            exact hSteps.rows
          result := rfl
          unchanged := by
            rw [hCommitted]
            exact hUnchanged }⟩
  | failed published =>
      exact Or.inr ⟨⟨_, rfl⟩, hCommitted⟩

end Remediation

end AccessIQ

------------------------------------------------------------
-- Runs Of Remediations
------------------------------------------------------------

namespace AccessIQ

namespace Remediation

open Foundations Connectors Governance Python

/- Jobs are only added, and the rest is as it was. -/
def JobsGrow
    (s s' : Store) : Prop :=
  s.remediationJobs.rows <+: s'.remediationJobs.rows ∧
    SameElsewhere s s'

theorem jobsGrow_refl
    (s : Store) :
    JobsGrow s s :=
  ⟨List.prefix_refl _, sameElsewhere_refl s⟩

theorem jobsGrow_trans
    (s₁ s₂ s₃ : Store)
    (hFirst : JobsGrow s₁ s₂)
    (hSecond : JobsGrow s₂ s₃) :
    JobsGrow s₁ s₃ :=
  ⟨hFirst.1.trans hSecond.1, hFirst.2.trans hSecond.2⟩

variable {s s' : Store}

/- A job that was found is found later. -/
theorem JobsGrow.findJob
    (hGrow : JobsGrow s s')
    {reviewItemId : Int}
    {job : RemediationJob}
    (hFound : s.findJobByReviewItem reviewItemId = some job) :
    s'.findJobByReviewItem reviewItemId = some job :=
  hGrow.1.find?_eq_some hFound

theorem JobsGrow.remediableReviewItems
    (hGrow : JobsGrow s s')
    (campaignId : Int) :
    s'.remediableReviewItems campaignId =
      s.remediableReviewItems campaignId :=
  hGrow.2.read (fun s => s.remediableReviewItems campaignId)
    (fun _ _ _ _ _ => rfl)

theorem JobsGrow.nonRemediableDecisionCount
    (hGrow : JobsGrow s s')
    (campaignId : Int) :
    s'.nonRemediableDecisionCount campaignId =
      s.nonRemediableDecisionCount campaignId :=
  hGrow.2.read
    (fun s => s.nonRemediableDecisionCount campaignId)
    (fun _ _ _ _ _ => rfl)

/- What was done for an item, where `all` are the results. -/
theorem ItemDone.found
    {items : List CertificationReviewItem}
    {results all : List ItemResult}
    (hRows :
      s'.remediationJobs.rows =
        s.remediationJobs.rows ++ createdJobs all)
    (hDone : List.Forall₂ (ItemDone s) items results)
    (hAll : ∀ result ∈ results, result ∈ all) :
    List.Forall₂
      (fun item job =>
        s'.findJobByReviewItem item.id = some job)
      items (results.map (·.job)) := by
  induction hDone with
  | nil => exact .nil
  | @cons item result items results hFirst _ ih =>
      refine .cons ?_
        (ih fun later hLater =>
          hAll later (List.mem_cons_of_mem _ hLater))
      have hResult := hAll result List.mem_cons_self
      cases hFirst with
      | kept _ _ hFound =>
          have hPrefix :
              s.remediationJobs.rows <+:
                s'.remediationJobs.rows :=
            ⟨createdJobs all, hRows.symm⟩
          exact hPrefix.find?_eq_some hFound
      | remediated hCreated _ hReviewItem _ _ =>
          have hMade : result.job ∈ createdJobs all :=
            List.mem_map_of_mem
              (List.mem_filter.mpr ⟨hResult, hCreated⟩)
          have hStored :
              result.job ∈ s'.remediationJobs.rows := by
            rw [hRows]
            exact List.mem_append_right _ hMade
          rw [← hReviewItem]
          exact findJobByReviewItem_of_mem hStored

/- The results of the items that had no job. -/
theorem countP_created
    {items : List CertificationReviewItem}
    {results : List ItemResult}
    (hDone : List.Forall₂ (ItemDone s) items results) :
    results.countP (·.created) =
      items.countP fun item =>
        (s.findJobByReviewItem item.id).isNone := by
  induction hDone with
  | nil => rfl
  | cons hFirst _ ih =>
      rw [List.countP_cons, List.countP_cons, ih]
      cases hFirst with
      | kept hCreated _ hFound =>
          rw [hCreated, hFound]
          rfl
      | remediated hCreated hNone _ _ _ =>
          rw [hCreated, hNone]
          rfl

variable [Platform]
variable {request : RemediationRequest}
variable {result : CampaignRemediationResult}
variable {published : List DomainEvent}
variable {results : List ItemResult}

theorem jobsGrow_serveRemediation
    (s : Store)
    (request : RemediationRequest) :
    JobsGrow s (serveRemediation s request) := by
  have hSame := sameElsewhere_serveRemediation s request
  rcases request_cases s request with
    ⟨result, results, -, hFacts⟩ | ⟨-, hUnchanged⟩
  · exact ⟨⟨createdJobs results, hFacts.rows.symm⟩, hSame⟩
  · rw [hUnchanged]
    exact jobsGrow_refl s

/- What a request creates is sound. -/
theorem RequestFacts.sound
    (hFacts : RequestFacts s request result published results)
    {job : RemediationJob}
    (hJob : job ∈ createdJobs results) :
    JobSound (serveRemediation s request) job := by
  have hSame := sameElsewhere_serveRemediation s request
  refine JobSound.sameElsewhere ?_ hSame
  rcases List.mem_map.mp hJob with ⟨made, hMade, rfl⟩
  rcases List.mem_filter.mp hMade with ⟨hResult, hCreated⟩
  rcases List.mem_iff_getElem.mp hResult with
    ⟨i, hBound, rfl⟩
  have hLength := hFacts.done.length_eq
  have hDone :=
    (List.forall₂_iff_get.mp hFacts.done).2 i
      (hLength ▸ hBound) hBound
  have hMem :=
    mem_remediableReviewItems
      (List.get_mem
        (s.remediableReviewItems request.campaignId)
        ⟨i, hLength ▸ hBound⟩)
  cases hDone with
  | kept hNot _ _ =>
      cases hNot.symm.trans hCreated
  | remediated _ _ hReviewItem hCampaign hTerminal =>
      rcases hFacts.campaign with ⟨campaign, hFound, hStatus⟩
      refine
        { item := ⟨_, hMem.1, hReviewItem.symm, hCampaign.symm,
            hMem.2.2⟩
          campaign := ⟨campaign, ?_, hStatus⟩
          terminal := hTerminal }
      rw [← hFound]
      exact congrArg _ (hCampaign.trans hMem.2.1)

theorem jobsSound_serveRemediation
    (s : Store)
    (request : RemediationRequest)
    (hSound : JobsSound s) :
    JobsSound (serveRemediation s request) := by
  have hSame := sameElsewhere_serveRemediation s request
  rcases request_cases s request with
    ⟨result, results, -, hFacts⟩ | ⟨-, hUnchanged⟩
  · refine
      { sound := ?_
        distinct := distinct_reviewItems _ }
    intro job hJob
    rw [hFacts.rows] at hJob
    rcases List.mem_append.mp hJob with hOld | hNew
    · exact (hSound.sound job hOld).sameElsewhere hSame
    · exact hFacts.sound hNew
  · rw [hUnchanged]
    exact hSound

/- The job is the only one of its item, and it is over. -/
structure JobOf
    (s : Store)
    (item : CertificationReviewItem)
    (job : RemediationJob) : Prop where
  stored : job ∈ s.remediationJobs.rows
  reviewItem : job.reviewItemId = item.id
  only :
    ∀ other ∈ s.remediationJobs.rows,
      other.reviewItemId = item.id → other = job
  terminal : job.status.Terminal

omit [Platform] in
theorem JobsSound.jobOf
    (hSound : JobsSound s)
    {item : CertificationReviewItem}
    {job : RemediationJob}
    (hFound : s.findJobByReviewItem item.id = some job) :
    JobOf s item job := by
  rcases findJobByReviewItem_eq_some hFound with
    ⟨hStored, hReviewItem⟩
  refine
    { stored := hStored
      reviewItem := hReviewItem
      only := ?_
      terminal := (hSound.sound job hStored).terminal }
  intro other hOther hEq
  exact List.inj_on_of_nodup_map hSound.distinct hOther
    hStored (hEq.trans hReviewItem.symm)

/-
  What a call that returns has done: the returned jobs are
  those of the revoked items in order, and the counts are
  those of the state before.
-/
structure RemediatedOnce
    (s s' : Store)
    (campaignId : Int)
    (result : CampaignRemediationResult) : Prop where
  campaign : result.campaignId = campaignId
  jobs :
    List.Forall₂ (JobOf s')
      (s.remediableReviewItems campaignId) result.jobs
  createdJobs :
    result.createdJobs =
      (s.remediableReviewItems campaignId).countP fun item =>
        (s.findJobByReviewItem item.id).isNone
  executedJobs : result.executedJobs = result.createdJobs
  skippedDecisions :
    result.skippedDecisions =
      s.nonRemediableDecisionCount campaignId

/- Every revoked item finds the job that was returned. -/
theorem RequestFacts.found
    (hFacts :
      RequestFacts s request result published results) :
    List.Forall₂
      (fun item job =>
        (serveRemediation s request).findJobByReviewItem
            item.id =
          some job)
      (s.remediableReviewItems request.campaignId)
      result.jobs := by
  rw [hFacts.result]
  exact ItemDone.found hFacts.rows hFacts.done
    fun _ hMem => hMem

theorem RequestFacts.remediatedOnce
    (hFacts : RequestFacts s request result published results)
    (hSound : JobsSound s) :
    RemediatedOnce s (serveRemediation s request)
      request.campaignId result := by
  have hSound' := jobsSound_serveRemediation s request hSound
  refine
    { campaign := by rw [hFacts.result]; rfl
      jobs := hFacts.found.imp fun _ _ => hSound'.jobOf
      createdJobs := ?_
      executedJobs := by rw [hFacts.result]; rfl
      skippedDecisions := by rw [hFacts.result]; rfl }
  rw [hFacts.result, ← countP_created hFacts.done]
  rfl

/- A later call creates and executes nothing. -/
theorem RequestFacts.repeated
    (hFacts : RequestFacts s request result published results)
    {again : RemediationRequest}
    (hCampaign : again.campaignId = request.campaignId)
    (hGrow : JobsGrow (serveRemediation s request) s') :
    serveRemediation s' again = s' ∧
      ∀ result',
        (again.serve s').result = .ok result' →
          result' =
              { result with
                createdJobs := 0
                executedJobs := 0 } ∧
            (again.serve s').published = [] := by
  have hFull :=
    jobsGrow_trans _ _ _ (jobsGrow_serveRemediation s request)
      hGrow
  have hItems :=
    hFull.remediableReviewItems again.campaignId
  have hFound :
      List.Forall₂
        (fun item job =>
          s'.findJobByReviewItem item.id = some job)
        (s'.remediableReviewItems again.campaignId)
        result.jobs := by
    rw [hItems, hCampaign]
    exact hFacts.found.imp fun _ _ => hGrow.findJob
  have hKept :
      ∀ item ∈ s'.remediableReviewItems again.campaignId,
        (s'.findJobByReviewItem item.id).isSome = true := by
    have hBoth :
        List.Forall₂
          (fun (item : CertificationReviewItem)
              (job : RemediationJob) =>
            (s'.findJobByReviewItem item.id).isSome = true ∧
              s'.findJobByReviewItem item.id = some job)
          (s'.remediableReviewItems again.campaignId)
          result.jobs := by
      refine hFound.imp fun item job hJob => ⟨?_, hJob⟩
      rw [hJob]
      rfl
    exact ((List.forall₂_and_left _ _).mp hBoth).1
  rcases request_cases s' again with
    ⟨result', results', hReturns, hAgain⟩ |
      ⟨⟨exc, hError⟩, hUnchanged⟩
  · rcases hAgain.unchanged hKept with ⟨hStore, hPublished⟩
    refine ⟨hStore, ?_⟩
    intro result'' hReturns'
    cases hReturns.symm.trans hReturns'
    refine ⟨?_, hPublished⟩
    have hAgainFound := hAgain.found
    rw [hStore] at hAgainFound
    have hJobs : result'.jobs = result.jobs := by
      refine List.right_unique_forall₂' ?_ hAgainFound hFound
      intro item a b hA hB
      exact Option.some.inj (hA.symm.trans hB)
    have hNone :
        results'.countP (·.created) = 0 := by
      rw [countP_created hAgain.done, List.countP_eq_zero]
      intro item hItem
      rw [Option.isNone_eq_false_iff.mpr (hKept item hItem)]
      exact Bool.false_ne_true
    have hDecisions :=
      hFull.nonRemediableDecisionCount again.campaignId
    rw [hAgain.result] at hJobs ⊢
    rw [hFacts.result] at hJobs ⊢
    simp only [campaignResult] at hJobs ⊢
    rw [hJobs, hNone, hDecisions, hCampaign]
  · exact ⟨hUnchanged, fun result' hReturns => by
      cases hError.symm.trans hReturns⟩

/-
  From sound jobs, in every state that remediation requests
  reach: the jobs are sound, a request that returns has
  remediated each revoked item once, and after any further
  requests a repeated one changes nothing and returns the
  same jobs.
-/
theorem remediation_exactlyOnce
    {start : Store}
    (hStart : JobsSound start)
    (requests : List RemediationRequest)
    {s : Store}
    (hReached : serveAll serveRemediation start requests = s) :
    JobsSound s ∧
      ∀ (request : RemediationRequest)
        (result : CampaignRemediationResult),
        (request.serve s).result = .ok result →
          RemediatedOnce s (serveRemediation s request)
              request.campaignId result ∧
            ∀ (more : List RemediationRequest)
              (again : RemediationRequest),
              again.campaignId = request.campaignId →
                let s' :=
                  serveAll serveRemediation
                    (serveRemediation s request) more
                serveRemediation s' again = s' ∧
                  ∀ result',
                    (again.serve s').result = .ok result' →
                      result' =
                          { result with
                            createdJobs := 0
                            executedJobs := 0 } ∧
                        (again.serve s').published = [] := by
  have hSound : JobsSound s := by
    rw [← hReached]
    exact serveAll_invariant jobsSound_serveRemediation hStart
      requests
  refine ⟨hSound, ?_⟩
  intro request result hReturns
  rcases request_cases s request with
    ⟨result', results, hReturns', hFacts⟩ |
      ⟨⟨exc, hError⟩, -⟩
  · cases hReturns'.symm.trans hReturns
    refine ⟨hFacts.remediatedOnce hSound, ?_⟩
    intro more again hCampaign s'
    have hGrow :
        JobsGrow (serveRemediation s request) s' :=
      @serveAll_related _ _ serveRemediation (fun _ => True)
        JobsGrow jobsGrow_refl jobsGrow_trans
        (fun _ _ _ => trivial)
        (fun s r _ => jobsGrow_serveRemediation s r) _ trivial
        more
    exact hFacts.repeated hCampaign hGrow
  · cases hError.symm.trans hReturns

end Remediation

end AccessIQ

------------------------------------------------------------
-- A Remediated Campaign
------------------------------------------------------------

namespace AccessIQ

namespace Remediation

open Foundations Connectors Governance Python Access

attribute [local instance] asciiPlatform

/-
  Two of Bob's assignments are reviewed and revoked; the
  application of the second has no connector.
-/
def revokedReview :
    List (ReviewRequest × Environment) :=
  [(.access
      ⟨.grant, aliceContext,
        { targetUserId := 1, entitlementId := 1 }, alice⟩,
      steadyEnvironment),
    (.access
      ⟨.grant, aliceContext,
        { targetUserId := 1, entitlementId := 9 }, alice⟩,
      steadyEnvironment),
    (.governance
      (.create aliceContext
        { name := "Quarterly Review", reviewerId := 5 }),
      steadyEnvironment),
    (.governance (.start aliceContext 1), steadyEnvironment),
    (.governance
      (.decide aliceContext 1 { decision := .revoke }),
      steadyEnvironment),
    (.governance
      (.decide aliceContext 2 { decision := .revoke }),
      steadyEnvironment),
    (.governance (.complete aliceContext 1),
      steadyEnvironment)]

/- The database after the review. -/
def revokedStore : Store :=
  serveAll serveReview (seededStore .postgresql) revokedReview

/- Alice has the campaign remediated. -/
def remediationRequest : RemediationRequest where
  env := flakyEnvironment
  orchestrator := mockOrchestrator
  ctx := aliceContext
  campaignId := 1

/- Alice's request returns, and repeating it does nothing. -/
theorem remediation_exactlyOnce_revoked :
    ∃ result,
      (remediationRequest.serve revokedStore).result =
          .ok result ∧
        RemediatedOnce revokedStore
            (serveRemediation revokedStore
              remediationRequest)
            1 result ∧
          serveRemediation
              (serveRemediation revokedStore
                remediationRequest)
              remediationRequest =
            serveRemediation revokedStore
              remediationRequest := by
  have hNone : revokedStore.remediationJobs.rows = [] := by
    decide +kernel
  have hSome :
      (remediationRequest.serve
          revokedStore).result.toOption.isSome =
        true := by
    decide +kernel
  have hReached :
      serveAll serveRemediation revokedStore [] =
        revokedStore :=
    serveAll_nil _ _
  rcases eq_ok_of_isSome hSome with ⟨result, hReturns⟩
  have hOnce :=
    (remediation_exactlyOnce (jobsSound_of_none hNone) []
      hReached).2 remediationRequest result hReturns
  exact ⟨result, hReturns, hOnce.1,
    (hOnce.2 [] remediationRequest rfl).1⟩

/- The request returns, with a job for each of the items. -/
example :
    (remediationRequest.serve
        revokedStore).result.toOption.map
        (fun result => result.jobs.map (·.status)) =
      some [.completed, .failed] := by
  decide +kernel

end Remediation

end AccessIQ
