import AccessIQ.Connectors.Trace
import AccessIQ.Remediation.Services

/-
  What remediating one item leaves behind.

  Executing a job ends with the job settled, whatever the
  connector does, or with a database error in a session that
  is broken from then on.

  Key definitions include:
    * `Held`
    * `Settled`
    * `ItemOutcome`

  Key theorems include:
    * `wp_attemptJob`
    * `wp_executeJob`
    * `wp_remediateItem`
-/

------------------------------------------------------------
-- Storing A Job
------------------------------------------------------------

namespace AccessIQ

namespace Remediation

open Foundations Connectors Governance Python

/- Remediation leaves the other tables alone. -/
def SameElsewhere
    (s s' : Store) : Prop :=
  ∃ provisioningJobs entries events jobs,
    s' =
      { s with
        provisioningJobs := provisioningJobs
        provisioningHistory := entries
        auditEvents := events
        remediationJobs := jobs }

theorem sameElsewhere_refl
    (s : Store) :
    SameElsewhere s s :=
  ⟨_, _, _, _, rfl⟩

theorem SameElsewhere.trans
    {s s₁ s₂ : Store}
    (hFirst : SameElsewhere s s₁)
    (hSecond : SameElsewhere s₁ s₂) :
    SameElsewhere s s₂ := by
  rcases hFirst with ⟨_, _, _, _, rfl⟩
  rcases hSecond with
    ⟨provisioningJobs, entries, events, jobs, rfl⟩
  exact ⟨provisioningJobs, entries, events, jobs, rfl⟩

/- What remediation leaves alone reads the same. -/
theorem SameElsewhere.read
    {β : Type}
    {s s' : Store}
    (hSame : SameElsewhere s s')
    (f : Store → β)
    (hFrame :
      ∀ (s : Store) provisioningJobs entries events jobs,
        f { s with
            provisioningJobs := provisioningJobs
            provisioningHistory := entries
            auditEvents := events
            remediationJobs := jobs } =
          f s) :
    f s' = f s := by
  rcases hSame with
    ⟨provisioningJobs, entries, events, jobs, rfl⟩
  exact hFrame s provisioningJobs entries events jobs

/- Items to be remediated still are. -/
theorem SameElsewhere.remediable
    {s s' : Store}
    {items : List CertificationReviewItem}
    (hSame : SameElsewhere s s')
    (hItems :
      ∀ item ∈ items,
        s.certificationReviewItems.get? item.id =
            some item ∧
          s.revoked item = true) :
    ∀ item ∈ items,
      s'.certificationReviewItems.get? item.id =
          some item ∧
        s'.revoked item = true := by
  rcases hSame with ⟨_, _, _, _, rfl⟩
  exact hItems

/-
  The database holds one more remediation job than at `s`, and
  the provisioning jobs and their history as at `s₀`.
-/
structure Held
    (s s₀ s' : Store)
    (job : RemediationJob) : Prop where
  jobs :
    s'.remediationJobs.rows = s.remediationJobs.rows ++ [job]
  provisioningJobs :
    s'.provisioningJobs = s₀.provisioningJobs
  provisioningHistory :
    s'.provisioningHistory = s₀.provisioningHistory
  frame : SameElsewhere s s'

/- Versions of a job share what is never updated. -/
structure SameRemediation
    (a b : RemediationJob) : Prop where
  id : b.id = a.id
  campaignId : b.campaignId = a.campaignId
  reviewItemId : b.reviewItemId = a.reviewItemId
  correlationId : b.correlationId = a.correlationId
  remediationType : b.remediationType = a.remediationType
  createdAt : b.createdAt = a.createdAt
  initiatedBy : b.initiatedBy = a.initiatedBy

theorem sameRemediation_refl
    (job : RemediationJob) :
    SameRemediation job job :=
  ⟨rfl, rfl, rfl, rfl, rfl, rfl, rfl⟩

theorem SameRemediation.trans
    {a b d : RemediationJob}
    (hFirst : SameRemediation a b)
    (hSecond : SameRemediation b d) :
    SameRemediation a d where
  id := hSecond.id.trans hFirst.id
  campaignId := hSecond.campaignId.trans hFirst.campaignId
  reviewItemId :=
    hSecond.reviewItemId.trans hFirst.reviewItemId
  correlationId :=
    hSecond.correlationId.trans hFirst.correlationId
  remediationType :=
    hSecond.remediationType.trans hFirst.remediationType
  createdAt := hSecond.createdAt.trans hFirst.createdAt
  initiatedBy := hSecond.initiatedBy.trans hFirst.initiatedBy

theorem SameRemediation.write_loaded
    {loaded new : RemediationJob}
    (hSame : SameRemediation loaded new) :
    loaded.write new loaded = new := by
  unfold RemediationJob.write
  simp only [writeColumn_loaded, ← hSame.id,
    ← hSame.campaignId, ← hSame.reviewItemId,
    ← hSame.correlationId, ← hSame.remediationType,
    ← hSame.createdAt, ← hSame.initiatedBy]

variable {w : World Question Reply}
variable {ctx : RequestContext}
variable {actor : User}
variable {c s s₀ s₁ : Store}
variable {p : List DomainEvent}
variable {item : CertificationReviewItem}

/- Another version of the job is stored. -/
theorem wp_flushRemediationJob
    {loaded new : RemediationJob}
    (hHeld : Held s s₀ s₁ loaded)
    (hSame : SameRemediation loaded new)
    (hLink :
      new.provisioningJobId = loaded.provisioningJobId ∨
        ∃ job ∈ s₁.provisioningJobs.rows,
          new.provisioningJobId = some job.id)
    {post : Post Store DomainEvent PyException Unit}
    (hDatabase :
      ∀ e s', post (.error (.database e)) ⟨c, s', true, p⟩)
    (hOk :
      ∀ s', Held s s₀ s' new →
        post (.ok ()) ⟨c, s', false, p⟩) :
    (flushRemediationJob loaded new).wp w post
      ⟨c, s₁, false, p⟩ := by
  unfold flushRemediationJob
  by_cases hEq : new = loaded
  · rw [if_pos hEq]
    subst hEq
    exact hOk s₁ hHeld
  · rw [if_neg hEq, Program.wp_flush_]
    have hMem : loaded ∈ s₁.remediationJobs.rows := by
      rw [hHeld.jobs]
      exact List.mem_append_right _ List.mem_cons_self
    have hConflicts :
        ∀ a, Row.conflicts a new = Row.conflicts a loaded := by
      intro a
      change
        decide (a.reviewItemId = new.reviewItemId) =
          decide (a.reviewItemId = loaded.reviewItemId)
      rw [hSame.reviewItemId]
    have hRefs :
        (new.provisioningJobId == loaded.provisioningJobId ||
          s₁.resolves? s₁.provisioningJobs
            new.provisioningJobId) = true := by
      rcases hLink with hUnlinked | ⟨job, hJob, hLinked⟩
      · rw [hUnlinked]
        simp
      · have hContains :
            s₁.provisioningJobs.contains job.id = true :=
          (Table.contains_iff _).mpr ⟨job, hJob, rfl⟩
        rw [hLinked]
        simp [Store.resolves?,
          Store.resolves_of_contains hContains]
    have hUpdate :
        s₁.updateRemediationJob loaded new =
          .ok
            { s₁ with
              remediationJobs :=
                s₁.remediationJobs.put new } := by
      unfold Store.updateRemediationJob
      exact Store.updateIn_eq_put new hSame.id
        (s₁.remediationJobs.get?_of_mem hMem)
        hSame.write_loaded hConflicts hRefs
    rw [hUpdate]
    refine ⟨fun _ => hDatabase _ _, ?_,
      fun e hError => by cases hError⟩
    intro s' hStore
    cases hStore
    refine hOk _
      { jobs :=
          Table.rows_put_last hHeld.jobs hSame.id hConflicts
        provisioningJobs := hHeld.provisioningJobs
        provisioningHistory := hHeld.provisioningHistory
        frame := ?_ }
    exact hHeld.frame.trans ⟨_, _, _, _, rfl⟩

/- An audit event about the job is written. -/
theorem wp_recordJobAudit
    {job : RemediationJob}
    (hHeld : Held s s₀ s₁ job)
    (hItem :
      s.certificationReviewItems.get? job.reviewItemId =
        some item)
    {action : AuditAction}
    {result : AuditResult}
    {reason : String}
    {post : Post Store DomainEvent PyException Unit}
    (hDatabase :
      ∀ e s', post (.error (.database e)) ⟨c, s', true, p⟩)
    (hOk :
      ∀ s', Held s s₀ s' job →
        post (.ok ()) ⟨c, s', false, p⟩) :
    (recordJobAudit ctx job actor action result reason).wp w
      post ⟨c, s₁, false, p⟩ := by
  have hItem₁ :
      s₁.certificationReviewItems.get? job.reviewItemId =
        some item := by
    rw [← hItem]
    exact hHeld.frame.read
      (fun s =>
        s.certificationReviewItems.get? job.reviewItemId)
      (fun _ _ _ _ _ => rfl)
  unfold recordJobAudit lookupReviewItem createAuditEvent
  simp only [Program.wp_bind, Program.wp_view,
    Program.bindPost_ok, Program.bindPost_error,
    Program.wp_getOrRaise, wp_recordAuditEvent,
    Program.wp_pure, hItem₁]
  refine ⟨fun hNone => (Option.some_ne_none _ hNone).elim,
    fun found _ => ⟨fun _ => hDatabase _ _, fun _ => ?_,
      fun _ => hDatabase _ _⟩⟩
  refine hOk _
    { jobs := hHeld.jobs
      provisioningJobs := hHeld.provisioningJobs
      provisioningHistory := hHeld.provisioningHistory
      frame := hHeld.frame.trans ⟨_, _, _, _, rfl⟩ }

end Remediation

end AccessIQ

------------------------------------------------------------
-- Steps Of A Job
------------------------------------------------------------

namespace AccessIQ

namespace Remediation

open Foundations Connectors Governance Python

variable {w : World Question Reply}
variable {ctx : RequestContext}
variable {actor : User}
variable {c s s₀ s₁ : Store}
variable {p : List DomainEvent}
variable {item : CertificationReviewItem}
variable {job : RemediationJob}

theorem sameRemediation_started
    (ctx : RequestContext)
    (job : RemediationJob) :
    SameRemediation job (startedJob ctx job) :=
  ⟨rfl, rfl, rfl, rfl, rfl, rfl, rfl⟩

theorem sameRemediation_completed
    (ctx : RequestContext)
    (job : RemediationJob)
    (status : RemediationStatus) :
    SameRemediation job (completedJob ctx job status) :=
  ⟨rfl, rfl, rfl, rfl, rfl, rfl, rfl⟩

theorem sameRemediation_failed
    (ctx : RequestContext)
    (job : RemediationJob)
    (message : String) :
    SameRemediation job (failedJob ctx job message) :=
  ⟨rfl, rfl, rfl, rfl, rfl, rfl, rfl⟩

/- The job with the latest provisioning job as its own. -/
def linkedJob
    (s : Store)
    (job : RemediationJob) :
    RemediationJob :=
  match s.latestProvisioningJob job.correlationId with
  | none => job
  | some provisioningJob =>
      { job with
        provisioningJobId := some provisioningJob.id }

theorem sameRemediation_linked
    (s : Store)
    (job : RemediationJob) :
    SameRemediation job (linkedJob s job) := by
  unfold linkedJob
  split
  · exact sameRemediation_refl job
  · exact ⟨rfl, rfl, rfl, rfl, rfl, rfl, rfl⟩

theorem wp_linkProvisioningJob
    (hHeld : Held s s₀ s₁ job)
    {post : Post Store DomainEvent PyException RemediationJob}
    (hDatabase :
      ∀ e s', post (.error (.database e)) ⟨c, s', true, p⟩)
    (hOk :
      ∀ s', Held s s₀ s' (linkedJob s₀ job) →
        post (.ok (linkedJob s₀ job)) ⟨c, s', false, p⟩) :
    (linkProvisioningJob job).wp w post
      ⟨c, s₁, false, p⟩ := by
  have hLatest :
      s₁.latestProvisioningJob job.correlationId =
        s₀.latestProvisioningJob job.correlationId := by
    unfold Store.latestProvisioningJob
    rw [hHeld.provisioningJobs]
  have hSame := sameRemediation_linked s₀ job
  unfold linkProvisioningJob
  rw [Program.wp_bind, Program.wp_view, Program.bindPost_ok,
    hLatest]
  unfold linkedJob at hOk hSame
  cases hFound :
      s₀.latestProvisioningJob job.correlationId with
  | none =>
      rw [hFound] at hOk
      exact hOk s₁ hHeld
  | some provisioningJob =>
      rw [hFound] at hOk hSame
      have hMem :
          provisioningJob ∈ s₁.provisioningJobs.rows := by
        rw [hHeld.provisioningJobs]
        exact List.mem_reverse.mp
          (List.mem_of_find?_eq_some hFound)
      simp only
      rw [Program.wp_bind]
      refine wp_flushRemediationJob hHeld hSame
        (Or.inr ⟨provisioningJob, hMem, rfl⟩) hDatabase ?_
      intro s' hLinked
      exact hOk s' hLinked

variable
  (hItem :
    s.certificationReviewItems.get? job.reviewItemId =
      some item)

include hItem

theorem wp_startJob
    (hHeld : Held s s₀ s₁ job)
    {post :
      Post Store DomainEvent PyException
        (RemediationJob × List DomainEvent)}
    (hDatabase :
      ∀ e s', post (.error (.database e)) ⟨c, s', true, p⟩)
    (hOk :
      ∀ s', Held s s₀ s' (startedJob ctx job) →
        post
          (.ok
            (startedJob ctx job,
              [remediationStartedEvent ctx
                (startedJob ctx job)]))
          ⟨c, s', false, p⟩) :
    (startJob ctx job actor).wp w post
      ⟨c, s₁, false, p⟩ := by
  unfold startJob
  simp only [Program.wp_bind]
  refine wp_flushRemediationJob hHeld
    (sameRemediation_started ctx job) (Or.inl rfl) hDatabase
    ?_
  intro s₂ hStarted
  rw [Program.bindPost_ok, Program.wp_bind]
  refine wp_recordJobAudit hStarted hItem hDatabase ?_
  intro s₃ hDone
  exact hOk s₃ hDone

theorem wp_completeJob
    (hHeld : Held s s₀ s₁ job)
    (status : RemediationStatus)
    (message : Option String)
    {post :
      Post Store DomainEvent PyException
        (RemediationJob × List DomainEvent)}
    (hDatabase :
      ∀ e s', post (.error (.database e)) ⟨c, s', true, p⟩)
    (hOk :
      ∀ s', Held s s₀ s' (completedJob ctx job status) →
        post
          (.ok
            (completedJob ctx job status,
              [remediationCompletedEvent ctx
                (completedJob ctx job status)]))
          ⟨c, s', false, p⟩) :
    (completeJob ctx job actor status message).wp w post
      ⟨c, s₁, false, p⟩ := by
  unfold completeJob
  simp only [Program.wp_bind]
  refine wp_flushRemediationJob hHeld
    (sameRemediation_completed ctx job status) (Or.inl rfl)
    hDatabase ?_
  intro s₂ hCompleted
  rw [Program.bindPost_ok, Program.wp_bind]
  refine wp_recordJobAudit hCompleted hItem hDatabase ?_
  intro s₃ hDone
  exact hOk s₃ hDone

theorem wp_failJob
    (hHeld : Held s s₀ s₁ job)
    (message : String)
    {post :
      Post Store DomainEvent PyException
        (RemediationJob × List DomainEvent)}
    (hDatabase :
      ∀ e s', post (.error (.database e)) ⟨c, s', true, p⟩)
    (hOk :
      let failed := failedJob ctx (linkedJob s₀ job) message
      ∀ s', Held s s₀ s' failed →
        post
          (.ok
            (failed,
              [remediationFailedEvent ctx failed message]))
          ⟨c, s', false, p⟩) :
    (failJob ctx job actor message).wp w post
      ⟨c, s₁, false, p⟩ := by
  have hSame := sameRemediation_linked s₀ job
  have hItem' :
      s.certificationReviewItems.get?
          (failedJob ctx (linkedJob s₀ job)
            message).reviewItemId =
        some item := by
    rw [← hItem]
    exact congrArg _ hSame.reviewItemId
  unfold failJob
  rw [Program.wp_bind]
  refine wp_linkProvisioningJob hHeld hDatabase ?_
  intro s₂ hLinked
  rw [Program.bindPost_ok, Program.wp_bind]
  refine wp_flushRemediationJob hLinked
    (sameRemediation_failed ctx _ message) (Or.inl rfl)
    hDatabase ?_
  intro s₃ hFailed
  rw [Program.bindPost_ok, Program.wp_bind]
  refine wp_recordJobAudit hFailed hItem' hDatabase ?_
  intro s₄ hDone
  exact hOk s₄ hDone

omit hItem

theorem linkedJob_of_none
    {s : Store}
    {job : RemediationJob}
    (hNone : s.latestProvisioningJob job.correlationId = none) :
    linkedJob s job = job := by
  unfold linkedJob
  rw [hNone]

theorem linkedJob_of_some
    {s : Store}
    {job : RemediationJob}
    {latest : ProvisioningJob}
    (hLatest :
      s.latestProvisioningJob job.correlationId =
        some latest) :
    linkedJob s job =
      { job with provisioningJobId := some latest.id } := by
  unfold linkedJob
  rw [hLatest]

theorem linkedJob_linkedJob
    (s : Store)
    (job : RemediationJob) :
    linkedJob s (linkedJob s job) = linkedJob s job := by
  cases hFound :
      s.latestProvisioningJob job.correlationId with
  | none => rw [linkedJob_of_none hFound,
      linkedJob_of_none hFound]
  | some latest =>
      rw [linkedJob_of_some hFound]
      exact linkedJob_of_some hFound

/- A job as the result of its connector settles it. -/
def settledJob
    (ctx : RequestContext)
    (job : RemediationJob)
    (result : ConnectorResult) :
    RemediationJob :=
  match result.status with
  | .success => completedJob ctx job .completed
  | .skipped => completedJob ctx job .skipped
  | .failed => failedJob ctx job result.message
  | .retryable => failedJob ctx job result.message

/- The event of a job that was settled. -/
def settledEvent
    (ctx : RequestContext)
    (job : RemediationJob)
    (result : ConnectorResult) :
    DomainEvent :=
  match result.status with
  | .success => remediationCompletedEvent ctx job
  | .skipped => remediationCompletedEvent ctx job
  | .failed => remediationFailedEvent ctx job result.message
  | .retryable =>
      remediationFailedEvent ctx job result.message

include hItem

theorem wp_settleJob
    (hHeld : Held s s₀ s₁ (linkedJob s₀ job))
    (result : ConnectorResult)
    {post :
      Post Store DomainEvent PyException
        (RemediationJob × List DomainEvent)}
    (hDatabase :
      ∀ e s', post (.error (.database e)) ⟨c, s', true, p⟩)
    (hOk :
      let done := settledJob ctx (linkedJob s₀ job) result
      ∀ s', Held s s₀ s' done →
        post (.ok (done, [settledEvent ctx done result]))
          ⟨c, s', false, p⟩) :
    (settleJob ctx (linkedJob s₀ job) actor result).wp w post
      ⟨c, s₁, false, p⟩ := by
  have hItem' :
      s.certificationReviewItems.get?
          (linkedJob s₀ job).reviewItemId =
        some item := by
    rw [(sameRemediation_linked s₀ job).reviewItemId]
    exact hItem
  have hLinked := linkedJob_linkedJob s₀ job
  unfold settleJob
  unfold settledJob settledEvent at hOk
  cases hStatus : result.status with
  | success =>
      rw [hStatus] at hOk
      exact wp_completeJob hItem' hHeld _ _ hDatabase hOk
  | skipped =>
      rw [hStatus] at hOk
      exact wp_completeJob hItem' hHeld _ _ hDatabase hOk
  | failed =>
      rw [hStatus] at hOk
      refine wp_failJob hItem' hHeld _ hDatabase ?_
      rw [hLinked]
      exact hOk
  | retryable =>
      rw [hStatus] at hOk
      refine wp_failJob hItem' hHeld _ hDatabase ?_
      rw [hLinked]
      exact hOk

end Remediation

end AccessIQ

------------------------------------------------------------
-- Executing A Job
------------------------------------------------------------

namespace AccessIQ

namespace Remediation

open Foundations Connectors Governance Python

variable [Platform]

/- The run that executes a job, where a connector is found. -/
def jobRun
    (orchestrator : ProvisioningOrchestrator)
    (ctx : RequestContext)
    (actor : User)
    (s : Store)
    (job : RemediationJob)
    (item : CertificationReviewItem) :
    Except PyException ProvisioningRun := do
  let (connectorName, operation, payload) ←
    operationForJob s job item
  let connector ← orchestrator.registry.get connectorName
  return orchestrator.run ctx
    (executeArguments job item actor connectorName operation
      payload)
    connector

/- How the execution of a started job ended. -/
inductive Execution
    (env : Environment)
    (ctx : RequestContext)
    (s : Store)
    (job : RemediationJob) :
    Except PyException ProvisioningRun →
      Store → RemediationJob → DomainEvent →
        List DomainEvent → Prop
  | unexecuted
      (exc : PyException)
      (s₀ : Store)
      (hJobs : s₀.provisioningJobs = s.provisioningJobs)
      (hHistory :
        s₀.provisioningHistory = s.provisioningHistory) :
      Execution env ctx s job (.error exc) s₀
        (failedJob ctx (linkedJob s₀ job) (exceptionText exc))
        (remediationFailedEvent ctx
          (failedJob ctx (linkedJob s₀ job)
            (exceptionText exc))
          (exceptionText exc))
        []
  | unaudited
      (run : ProvisioningRun)
      (s₀ : Store)
      (hNone : ProvisioningRun.auditEntitlement s = none)
      (hRecorded :
        Recorded s s₀ (run.createdRecord s (nextJobId s))) :
      Execution env ctx s job (.ok run) s₀
        (failedJob ctx (linkedJob s₀ job)
          (exceptionText auditNotSeeded))
        (remediationFailedEvent ctx
          (failedJob ctx (linkedJob s₀ job)
            (exceptionText auditNotSeeded))
          (exceptionText auditNotSeeded))
        []
  | unserialized
      (run : ProvisioningRun)
      (s₀ : Store)
      (record : Record)
      (message : String)
      (hSeeded : ProvisioningRun.auditEntitlement s ≠ none)
      (hMessage :
        serializeFailure (run.ending env s).1 = some message)
      (hJob : record.job = (run.ending env s).2.job)
      (hRecorded : Recorded s s₀ record) :
      Execution env ctx s job (.ok run) s₀
        (failedJob ctx (linkedJob s₀ job) message)
        (remediationFailedEvent ctx
          (failedJob ctx (linkedJob s₀ job) message)
          message)
        []
  | returned
      (run : ProvisioningRun)
      (s₀ : Store)
      (hSeeded : ProvisioningRun.auditEntitlement s ≠ none)
      (hSerialized :
        serializeFailure (run.ending env s).1 = none)
      (hRecorded : Recorded s s₀ (run.ending env s).2) :
      Execution env ctx s job (.ok run) s₀
        (settledJob ctx (linkedJob s₀ job)
          (run.ending env s).1)
        (settledEvent ctx
          (settledJob ctx (linkedJob s₀ job)
            (run.ending env s).1)
          (run.ending env s).1)
        ((run.ending env s).2.pending ++
          (run.ending env s).2.events)

variable {w : World Question Reply}
variable {env : Environment}
variable {orchestrator : ProvisioningOrchestrator}
variable {ctx : RequestContext}
variable {actor : User}
variable {c s s₁ : Store}
variable {p : List DomainEvent}
variable {item : CertificationReviewItem}
variable {job : RemediationJob}

omit [Platform] in
/- A run records in other tables than those of the job. -/
theorem Held.recorded
    {s₂ : Store}
    {record : Record}
    (hHeld : Held s s₁ s₁ job)
    (hRecorded : Recorded s₁ s₂ record) :
    Held s s₂ s₂ job := by
  rcases hRecorded.frame with ⟨jobs, entries, events, rfl⟩
  exact
    { jobs := hHeld.jobs
      provisioningJobs := rfl
      provisioningHistory := rfl
      frame := hHeld.frame.trans ⟨_, _, _, _, rfl⟩ }

/- Without a call to make, nothing is run. -/
theorem jobRun_of_error
    {exc : PyException}
    (hOperation : operationForJob s job item = .error exc) :
    jobRun orchestrator ctx actor s job item = .error exc := by
  unfold jobRun
  rw [hOperation]
  rfl

/- A call is run on its connector, if there is one. -/
theorem jobRun_of_ok
    {connectorName : String}
    {operation : ConnectorOperation}
    {payload : Payload}
    (hOperation :
      operationForJob s job item =
        .ok (connectorName, operation, payload)) :
    let arguments :=
      executeArguments job item actor connectorName operation
        payload
    jobRun orchestrator ctx actor s job item =
      (orchestrator.registry.get arguments.connectorName).map
        (orchestrator.run ctx arguments) := by
  intro arguments
  unfold jobRun
  rw [hOperation]
  change (orchestrator.registry.get connectorName).bind _ =
    (orchestrator.registry.get connectorName).map _
  cases orchestrator.registry.get connectorName with
  | error exc => rfl
  | ok connector => rfl

section Handling

variable
  {post :
    Post Store DomainEvent PyException
      (RemediationJob × List DomainEvent)}

/- What the handler is to establish of an execution. -/
variable
  (hDatabase :
    ∀ e s' p', post (.error (.database e)) ⟨c, s', true, p'⟩)
variable
  (hOk :
    ∀ done event s₂ s' published,
      Execution env ctx s₁ job
        (jobRun orchestrator ctx actor s₁ job item)
        s₂ done event published →
      Held s s₂ s' done →
        post (.ok (done, [event]))
          ⟨c, s', false, p ++ published⟩)

include hDatabase

/- The handler fails as well when the session is broken. -/
theorem catchPost_failJob_broken
    (e : DatabaseError)
    (s' : Store)
    (p' : List DomainEvent) :
    Program.catchPost w
      (fun exc => failJob ctx job actor (exceptionText exc))
      post (.error (.database e)) ⟨c, s', true, p'⟩ := by
  rw [Program.catchPost_error]
  unfold failJob linkProvisioningJob
  simp only [Program.wp_bind, Program.wp_view_broken]
  exact hDatabase _ s' p'

variable
  (hItem :
    s.certificationReviewItems.get? job.reviewItemId =
      some item)

include hOk hItem

/- The handler settles a job whose execution has failed. -/
theorem catchPost_failJob
    {exc : PyException}
    {s₂ : Store}
    (hHeld : Held s s₂ s₂ job)
    (hExecution :
      let failed :=
        failedJob ctx (linkedJob s₂ job) (exceptionText exc)
      Execution env ctx s₁ job
        (jobRun orchestrator ctx actor s₁ job item)
        s₂ failed
        (remediationFailedEvent ctx failed
          (exceptionText exc))
        []) :
    Program.catchPost w
      (fun exc => failJob ctx job actor (exceptionText exc))
      post (.error exc) ⟨c, s₂, false, p⟩ := by
  rw [Program.catchPost_error]
  apply wp_failJob hItem hHeld
  · intro e s'
    exact hDatabase e s' p
  · intro failed s' hFailed
    have hPost := hOk _ _ s₂ s' [] hExecution hFailed
    rw [List.append_nil] at hPost
    exact hPost

/- A run that returns is linked, and its result settles. -/
theorem wp_settleReturned
    {run : ProvisioningRun}
    {s₂ : Store}
    (hRun :
      jobRun orchestrator ctx actor s₁ job item = .ok run)
    (hHeld : Held s s₂ s₂ job)
    (hSeeded : ProvisioningRun.auditEntitlement s₁ ≠ none)
    (hSerialized :
      serializeFailure (run.ending env s₁).1 = none)
    (hRecorded : Recorded s₁ s₂ (run.ending env s₁).2) :
    (do
      let linked ← linkProvisioningJob job
      settleJob ctx linked actor
          (run.ending env s₁).1).wp w
      (Program.catchPost w
        (fun exc => failJob ctx job actor (exceptionText exc))
        post)
      ⟨c, s₂, false,
        p ++ (run.ending env s₁).2.pending ++
          (run.ending env s₁).2.events⟩ := by
  have hBroken :=
    @catchPost_failJob_broken _ w ctx actor c job post
      hDatabase
  rw [Program.wp_bind]
  apply wp_linkProvisioningJob hHeld
  · intro e s'
    exact hBroken e s' _
  · intro s₃ hLinked
    rw [Program.bindPost_ok]
    apply wp_settleJob hItem hLinked
    · intro e s'
      exact hBroken e s' _
    · intro done s' hDone
      rw [Program.catchPost_ok, List.append_assoc]
      rw [hRun] at hOk
      exact hOk _ _ s₂ s' _
        (.returned _ s₂ hSeeded hSerialized hRecorded)
        hDone

/-
  The `try` block and its handler settle the job, unless the
  database fails.
-/
theorem wp_attemptOrFail
    (hAnswers : Answers w env)
    (hHeld : Held s s₁ s₁ job) :
    (tryCatch (attemptJob orchestrator ctx job item actor)
        fun exc =>
          failJob ctx job actor (exceptionText exc)).wp w post
      ⟨c, s₁, false, p⟩ := by
  rw [Program.wp_tryCatch]
  unfold attemptJob
  rw [Program.wp_bind, Program.wp_view, Program.bindPost_ok]
  cases hOperation : operationForJob s₁ job item with
  | error exc =>
      apply catchPost_failJob hDatabase hOk hItem hHeld
      rw [jobRun_of_error hOperation]
      exact .unexecuted exc s₁ rfl rfl
  | ok call =>
      rcases call with ⟨connectorName, operation, payload⟩
      have hRun :=
        @jobRun_of_ok _ orchestrator ctx actor s₁ item job
          _ _ _ hOperation
      simp only at hRun ⊢
      rw [Program.wp_bind]
      refine Program.wp_mono
        (wp_execute hAnswers orchestrator ctx _)
        fun r m hOutcome => ?_
      cases hOutcome with
      | unknownConnector exc hGet =>
          rw [hGet] at hRun
          apply catchPost_failJob hDatabase hOk hItem hHeld
          rw [hRun]
          exact .unexecuted exc s₁ rfl rfl
      | notSeeded connector s₂ hGet hAudited hNone
          hRecorded =>
          rw [hGet] at hRun
          apply catchPost_failJob hDatabase hOk hItem
            (hHeld.recorded hRecorded)
          rw [hRun]
          exact .unaudited _ s₂ hNone hRecorded
      | ran connector r m hGet hRan =>
          rw [hGet] at hRun
          cases hRan with
          | returned s₂ hReady hSerialized hRecorded =>
              rw [Program.bindPost_ok]
              exact
                wp_settleReturned hDatabase hOk hItem hRun
                  (hHeld.recorded hRecorded)
                  (hReady ⟨rfl, rfl⟩) hSerialized hRecorded
          | unserialized s₂ record message hReady hMessage
              hJob hRecorded =>
              apply catchPost_failJob hDatabase hOk hItem
                (hHeld.recorded hRecorded)
              rw [hRun]
              exact
                .unserialized _ s₂ record message
                  (hReady ⟨rfl, rfl⟩) hMessage hJob hRecorded
          | databaseFailed e s' _ =>
              exact catchPost_failJob_broken hDatabase e s' p

end Handling

/- Starting and executing a job settles it. -/
theorem wp_executeJob
    (hAnswers : Answers w env)
    (hHeld : Held s s s₁ job)
    (hItem :
      s.certificationReviewItems.get? job.reviewItemId =
        some item)
    {post :
      Post Store DomainEvent PyException
        (RemediationJob × List DomainEvent)}
    (hDatabase :
      ∀ e s' p', post (.error (.database e)) ⟨c, s', true, p'⟩)
    (hOk :
      let started := startedJob ctx job
      ∀ done event s₂ s₃ s' published,
        Held s s s₂ started →
        Execution env ctx s₂ started
          (jobRun orchestrator ctx actor s₂ started item)
          s₃ done event published →
        Held s s₃ s' done →
          post
            (.ok
              (done,
                [remediationStartedEvent ctx started,
                  event]))
            ⟨c, s', false, p ++ published⟩) :
    (executeJob orchestrator ctx job actor).wp w post
      ⟨c, s₁, false, p⟩ := by
  have hItem₁ :
      s₁.certificationReviewItems.get? job.reviewItemId =
        some item := by
    rw [← hItem]
    exact hHeld.frame.read
      (fun s =>
        s.certificationReviewItems.get? job.reviewItemId)
      (fun _ _ _ _ _ => rfl)
  unfold executeJob lookupReviewItem
  simp only [Program.wp_bind, Program.wp_view,
    Program.bindPost_ok, Program.wp_getOrRaise, hItem₁,
    Program.bindPost_error]
  refine ⟨fun hNone => (Option.some_ne_none _ hNone).elim,
    fun found hFound => ?_⟩
  cases hFound
  refine wp_startJob hItem hHeld
    (fun e s' => hDatabase e s' p) ?_
  intro s₂ hStarted
  rw [Program.bindPost_ok, Program.wp_bind]
  have hHere : Held s s₂ s₂ (startedJob ctx job) :=
    { jobs := hStarted.jobs
      provisioningJobs := rfl
      provisioningHistory := rfl
      frame := hStarted.frame }
  refine wp_attemptOrFail hDatabase ?_ hItem hAnswers hHere
  intro done event s₃ s' published hExecution hDone
  exact hOk done event s₂ s₃ s' published hStarted
    hExecution hDone

omit [Platform] in
/- A job is created for an item that has none. -/
theorem wp_createJob
    (hItem :
      s.certificationReviewItems.get? item.id = some item)
    (hRevoked : s.revoked item = true)
    (hNone : s.findJobByReviewItem item.id = none)
    {remediationType : RemediationType}
    {post :
      Post Store DomainEvent PyException
        (RemediationJob × List DomainEvent)}
    (hDatabase :
      ∀ e s', post (.error (.database e)) ⟨c, s', true, p⟩)
    (hOk :
      ∀ jobId s',
        let job :=
          { newRemediationJob ctx item remediationType
              actor with
            id := jobId }
        Held s s s' job →
          post (.ok (job, [remediationCreatedEvent ctx job]))
            ⟨c, s', false, p⟩) :
    (createJob ctx item.id remediationType actor).wp w post
      ⟨c, s, false, p⟩ := by
  unfold createJob lookupReviewItem
  simp only [Program.wp_bind, Program.wp_view,
    Program.bindPost_ok, Program.bindPost_error,
    Program.wp_getOrRaise, Program.wp_raiseIf,
    Program.wp_flush, hItem]
  refine ⟨fun hMissing => (Option.some_ne_none _ hMissing).elim,
    fun found hFound => ?_⟩
  cases hFound
  rw [hRevoked, hNone]
  refine ⟨fun hNot => (Bool.noConfusion hNot), fun _ => ?_⟩
  refine ⟨fun hSome => (Bool.noConfusion hSome),
    fun _ => ?_⟩
  refine ⟨fun _ => hDatabase _ _, ?_, fun e _ => hDatabase e _⟩
  intro s₁ jobId hInsert
  rcases Store.insertInto_eq_ok_iff.mp hInsert with
    ⟨-, hFits, rfl, rfl⟩
  have hHeld :
      Held s s
        { s with
          remediationJobs :=
            s.remediationJobs.insert s.dialect.keyPolicy
              (newRemediationJob ctx item remediationType
                actor)
              hFits }
        { newRemediationJob ctx item remediationType
            actor with
          id :=
            s.remediationJobs.freshId s.dialect.keyPolicy } :=
    { jobs :=
        Table.rows_insert s.dialect.keyPolicy
          s.remediationJobs hFits
      provisioningJobs := rfl
      provisioningHistory := rfl
      frame := ⟨_, _, _, _, rfl⟩ }
  refine wp_recordJobAudit hHeld hItem hDatabase ?_
  intro s₂ hDone
  exact hOk _ s₂ hDone

end Remediation

end AccessIQ

------------------------------------------------------------
-- Remediating Items
------------------------------------------------------------

namespace AccessIQ

namespace Remediation

open Foundations Connectors Governance Python

variable [Platform]

/- The job of an item as it is created. -/
def createdJob
    (ctx : RequestContext)
    (actor : User)
    (item : CertificationReviewItem)
    (jobId : Int) :
    RemediationJob :=
  { newRemediationJob ctx item (remediationTypeForItem item)
      actor with
    id := jobId }

/- What remediating one item does to the database. -/
inductive ItemStep
    (env : Environment)
    (orchestrator : ProvisioningOrchestrator)
    (ctx : RequestContext)
    (actor : User)
    (s : Store)
    (item : CertificationReviewItem) :
    ItemResult → Store → List DomainEvent → Prop
  | kept
      (job : RemediationJob)
      (hFound : s.findJobByReviewItem item.id = some job) :
      ItemStep env orchestrator ctx actor s item
        ⟨job, false, []⟩ s []
  | remediated
      (jobId : Int)
      (done : RemediationJob)
      (event : DomainEvent)
      (s₁ s₂ s' : Store)
      (published : List DomainEvent)
      (hNone : s.findJobByReviewItem item.id = none)
      (hStarted :
        Held s s s₁
          (startedJob ctx (createdJob ctx actor item jobId)))
      (hExecution :
        Execution env ctx s₁
          (startedJob ctx (createdJob ctx actor item jobId))
          (jobRun orchestrator ctx actor s₁
            (startedJob ctx
              (createdJob ctx actor item jobId))
            item)
          s₂ done event published)
      (hDone : Held s s₂ s' done) :
      ItemStep env orchestrator ctx actor s item
        ⟨done, true,
          [remediationCreatedEvent ctx
              (createdJob ctx actor item jobId),
            remediationStartedEvent ctx
              (startedJob ctx
                (createdJob ctx actor item jobId)),
            event]⟩
        s' published

variable {w : World Question Reply}
variable {env : Environment}
variable {orchestrator : ProvisioningOrchestrator}
variable {ctx : RequestContext}
variable {actor : User}
variable {c s : Store}
variable {p : List DomainEvent}
variable {item : CertificationReviewItem}

theorem wp_remediateItem
    (hAnswers : Answers w env)
    (hItem :
      s.certificationReviewItems.get? item.id = some item)
    (hRevoked : s.revoked item = true)
    {post : Post Store DomainEvent PyException ItemResult}
    (hDatabase :
      ∀ e s' p', post (.error (.database e)) ⟨c, s', true, p'⟩)
    (hOk :
      ∀ result s' published,
        ItemStep env orchestrator ctx actor s item result s'
            published →
          post (.ok result) ⟨c, s', false, p ++ published⟩) :
    (remediateItem orchestrator ctx actor item).wp w post
      ⟨c, s, false, p⟩ := by
  unfold remediateItem
  rw [Program.wp_bind, Program.wp_view, Program.bindPost_ok]
  cases hFound : s.findJobByReviewItem item.id with
  | some job =>
      have hPost := hOk _ s [] (.kept job hFound)
      rw [List.append_nil] at hPost
      exact hPost
  | none =>
      simp only
      rw [Program.wp_bind]
      refine wp_createJob hItem hRevoked hFound
        (fun e s' => hDatabase e s' p) ?_
      intro jobId s₁ job hCreated
      rw [Program.bindPost_ok, Program.wp_bind]
      refine wp_executeJob hAnswers hCreated hItem hDatabase ?_
      intro started done event s₂ s₃ s' published hStarted
        hExecution hDone
      exact hOk _ s' published
        (.remediated jobId done event s₂ s₃ s' published
          hFound hStarted hExecution hDone)

/- Remediating items one after another. -/
inductive ItemSteps
    (env : Environment)
    (orchestrator : ProvisioningOrchestrator)
    (ctx : RequestContext)
    (actor : User) :
    Store → List CertificationReviewItem →
      List ItemResult → Store → List DomainEvent → Prop
  | nil
      (s : Store) :
      ItemSteps env orchestrator ctx actor s [] [] s []
  | cons
      (s s₁ s' : Store)
      (item : CertificationReviewItem)
      (items : List CertificationReviewItem)
      (result : ItemResult)
      (results : List ItemResult)
      (published rest : List DomainEvent)
      (hStep :
        ItemStep env orchestrator ctx actor s item result s₁
          published)
      (hSteps :
        ItemSteps env orchestrator ctx actor s₁ items results
          s' rest) :
      ItemSteps env orchestrator ctx actor s (item :: items)
        (result :: results) s' (published ++ rest)

theorem ItemStep.sameElsewhere
    {result : ItemResult}
    {s' : Store}
    {published : List DomainEvent}
    (hStep :
      ItemStep env orchestrator ctx actor s item result s'
        published) :
    SameElsewhere s s' := by
  cases hStep with
  | kept job _ => exact sameElsewhere_refl s
  | remediated _ _ _ _ _ _ _ _ _ _ hDone =>
      exact hDone.frame

theorem wp_remediateItems
    (hAnswers : Answers w env)
    {items : List CertificationReviewItem}
    (hItems :
      ∀ item ∈ items,
        s.certificationReviewItems.get? item.id =
            some item ∧
          s.revoked item = true)
    {post :
      Post Store DomainEvent PyException (List ItemResult)}
    (hDatabase :
      ∀ e s' p', post (.error (.database e)) ⟨c, s', true, p'⟩)
    (hOk :
      ∀ results s' published,
        ItemSteps env orchestrator ctx actor s items results
            s' published →
          post (.ok results) ⟨c, s', false, p ++ published⟩) :
    (remediateItems orchestrator ctx actor items).wp w post
      ⟨c, s, false, p⟩ := by
  induction items generalizing s p post with
  | nil =>
      have hPost := hOk [] s [] (.nil s)
      rw [List.append_nil] at hPost
      exact hPost
  | cons item items ih =>
      unfold remediateItems
      rw [Program.wp_bind]
      have hFirst := hItems item List.mem_cons_self
      refine wp_remediateItem hAnswers hFirst.1 hFirst.2
        hDatabase ?_
      intro result s₁ published hStep
      have hRest :=
        hStep.sameElsewhere.remediable fun later hLater =>
          hItems later (List.mem_cons_of_mem _ hLater)
      rw [Program.bindPost_ok, Program.wp_bind]
      refine ih hRest hDatabase ?_
      intro results s' rest hSteps
      rw [List.append_assoc]
      exact hOk _ s' _
        (.cons s s₁ s' item items result results published
          rest hStep hSteps)

end Remediation

end AccessIQ

------------------------------------------------------------
-- Remediation Requests
------------------------------------------------------------

namespace AccessIQ

namespace Remediation

open Foundations Connectors Governance Python

variable [Platform]

/- What `remediate_campaign` leaves behind. -/
inductive RemediationOutcome
    (env : Environment)
    (orchestrator : ProvisioningOrchestrator)
    (ctx : RequestContext)
    (campaignId : Int)
    (s : Store) :
    Except PyException CampaignRemediationResult →
      Store → List DomainEvent → Prop
  | refused
      (response : HttpException) :
      RemediationOutcome env orchestrator ctx campaignId s
        (.error (.http response)) s []
  | remediated
      (actor : User)
      (campaign : CertificationCampaign)
      (results : List ItemResult)
      (s' : Store)
      (published : List DomainEvent)
      (hAdmits : s.Admits ctx remediationRoles actor)
      (hCampaign :
        s.certificationCampaigns.get? campaignId =
          some campaign)
      (hCompleted : campaign.status = .completed)
      (hSteps :
        ItemSteps env orchestrator ctx actor s
          (s.remediableReviewItems campaignId) results s'
          published) :
      RemediationOutcome env orchestrator ctx campaignId s
        (.ok
          (campaignResult campaignId
            (s.nonRemediableDecisionCount campaignId)
            results).1)
        s'
        (published ++
          (campaignResult campaignId
            (s.nonRemediableDecisionCount campaignId)
            results).2)
  | failed
      (published : List DomainEvent) :
      RemediationOutcome env orchestrator ctx campaignId s
        (.error databaseFailure) s published

variable {w : World Question Reply}
variable {env : Environment}
variable {orchestrator : ProvisioningOrchestrator}
variable {ctx : RequestContext}
variable {campaignId : Int}
variable {s : Store}

omit [Platform] in
theorem mem_remediableReviewItems
    {item : CertificationReviewItem}
    (hMem : item ∈ s.remediableReviewItems campaignId) :
    item ∈ s.certificationReviewItems.rows ∧
      item.campaignId = campaignId ∧
      s.revoked item = true := by
  have hFilter := List.mem_filter.mp hMem
  have hBoth := Bool.and_eq_true_iff.mp hFilter.2
  exact ⟨hFilter.1, eq_of_beq hBoth.1, hBoth.2⟩

/- What ends the service call of a request. -/
inductive CampaignError :
    PyException → List DomainEvent → Prop
  | refused
      (error : RemediationServiceError) :
      CampaignError (.remediation error) []
  | failed
      (e : DatabaseError)
      (published : List DomainEvent) :
      CampaignError (.database e) published

theorem wp_executeCampaign
    (hAnswers : Answers w env)
    (actor : User)
    {c : Store}
    {p : List DomainEvent}
    {post :
      Post Store DomainEvent PyException
        (CampaignRemediationResult × List DomainEvent)}
    (hRefused :
      ∀ error,
        post (.error (.remediation error)) ⟨c, s, false, p⟩)
    (hDatabase :
      ∀ e s' p', post (.error (.database e)) ⟨c, s', true, p'⟩)
    (hOk :
      ∀ campaign results s' published,
        s.certificationCampaigns.get? campaignId =
            some campaign →
          campaign.status = .completed →
            ItemSteps env orchestrator ctx actor s
                (s.remediableReviewItems campaignId) results
                s' published →
              post
                (.ok
                  (campaignResult campaignId
                    (s.nonRemediableDecisionCount campaignId)
                    results))
                ⟨c, s', false, p ++ published⟩) :
    (executeCampaign orchestrator ctx campaignId actor).wp w
      post ⟨c, s, false, p⟩ := by
  unfold executeCampaign validateCampaign
  simp only [Program.wp_bind, Program.wp_view,
    Program.bindPost_ok, Program.bindPost_error,
    Program.wp_getOrRaise, Program.wp_raiseIf,
    Program.wp_pure]
  refine ⟨fun _ => hRefused _, ?_⟩
  intro campaign hCampaign
  have hId : campaign.id = campaignId :=
    Table.id_of_get? hCampaign
  refine ⟨fun _ => hRefused _, fun hNot => ?_⟩
  have hCompleted : campaign.status = .completed :=
    not_not.mp hNot
  rw [hId]
  refine wp_remediateItems hAnswers ?_ hDatabase ?_
  · intro item hMem
    rcases mem_remediableReviewItems hMem with
      ⟨hRow, -, hRevoked⟩
    exact ⟨s.certificationReviewItems.get?_of_mem hRow,
      hRevoked⟩
  · intro results s' published hSteps
    exact hOk campaign results s' published hCampaign
      hCompleted hSteps

theorem serve_remediateCampaign
    (env : Environment)
    (orchestrator : ProvisioningOrchestrator)
    (ctx : RequestContext)
    (campaignId : Int)
    (s : Store) :
    let served :=
      (remediateCampaign orchestrator ctx campaignId).serve
        env s
    RemediationOutcome env orchestrator ctx campaignId s
      served.result served.committed served.published := by
  refine Program.serve_of_wp env.conforms_world ?_
  unfold remediateCampaign
  simp only [Moment.start, Program.wp_bind,
    wp_authenticated, Program.bindPost_error,
    Program.bindPost_ok]
  refine ⟨fun _ => .refused _, fun _ _ _ => .refused _, ?_⟩
  intro actor hAdmits
  have hBody :
      (executeCampaign orchestrator ctx campaignId actor).wp
        env.world
        (PublishingPost s
          (fun result events s' published =>
            ∃ campaign results,
              s.certificationCampaigns.get? campaignId =
                  some campaign ∧
                campaign.status = .completed ∧
                ItemSteps env orchestrator ctx actor s
                  (s.remediableReviewItems campaignId)
                  results s' published ∧
                (result, events) =
                  campaignResult campaignId
                    (s.nonRemediableDecisionCount campaignId)
                    results)
          CampaignError)
        ⟨s, s, false, []⟩ := by
    refine wp_executeCampaign (answers_world env) actor ?_ ?_
      ?_
    · exact fun _ => ⟨rfl, .refused _⟩
    · exact fun e s' p' => ⟨rfl, .failed e p'⟩
    · intro campaign results s' published hCampaign
        hCompleted hSteps
      exact ⟨rfl, rfl, campaign, results, hCampaign,
        hCompleted, hSteps, rfl⟩
  refine wp_transactional hBody ?_ ?_ ?_
  · intro _ _ _ p' _ _
    exact .failed _ p'
  · rintro result events s' published
      ⟨campaign, results, hCampaign, hCompleted, hSteps, hEq⟩
    have hResult := congrArg Prod.fst hEq
    have hEvents := congrArg Prod.snd hEq
    simp only at hResult hEvents
    rw [hResult, hEvents]
    exact .remediated actor campaign results s' published
      hAdmits hCampaign hCompleted hSteps
  · intro e s' b published hError
    cases hError with
    | refused error =>
        cases error <;> exact .refused _
    | failed e published => exact .failed published

end Remediation

end AccessIQ
