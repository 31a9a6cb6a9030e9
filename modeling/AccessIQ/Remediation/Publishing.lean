import AccessIQ.Connectors.Publishing
import AccessIQ.Remediation.Linking

/-
  The events a remediation request publishes.

  The orchestrator publishes its events while the request
  still runs, and the request commits at its end.  So events
  of a request describe committed rows, unless the database
  fails after a provisioning run was over.

  Key definitions include:
    * `Describes`
    * `RowsGrow`
    * `EventsCommitted`

  Key theorems include:
    * `ItemSteps.described`
    * `careful_executeCampaign`
    * `request_failure`
    * `events_committed_iff`
-/

------------------------------------------------------------
-- Described Events
------------------------------------------------------------

namespace AccessIQ

namespace Remediation

open Foundations Connectors Governance Python

/- The remediation event is about the job. -/
def Remembers
    (job : RemediationJob) :
    EventKind → Prop
  | .remediationCreated jobId campaignId reviewItemId
        remediationType correlationId =>
      job.id = jobId ∧ job.campaignId = campaignId ∧
        job.reviewItemId = reviewItemId ∧
          job.remediationType = remediationType ∧
            job.correlationId = correlationId
  | .remediationStarted jobId campaignId reviewItemId
        remediationType correlationId =>
      job.id = jobId ∧ job.campaignId = campaignId ∧
        job.reviewItemId = reviewItemId ∧
          job.remediationType = remediationType ∧
            job.correlationId = correlationId
  | .remediationCompleted jobId campaignId reviewItemId
        remediationType status provisioningJobId
        correlationId =>
      job.id = jobId ∧ job.campaignId = campaignId ∧
        job.reviewItemId = reviewItemId ∧
          job.remediationType = remediationType ∧
            job.status = status ∧
              job.provisioningJobId = provisioningJobId ∧
                job.correlationId = correlationId
  | .remediationFailed jobId campaignId reviewItemId
        remediationType message correlationId =>
      job.id = jobId ∧ job.campaignId = campaignId ∧
        job.reviewItemId = reviewItemId ∧
          job.remediationType = remediationType ∧
            job.status = .failed ∧
              job.lastError = some message ∧
                job.correlationId = correlationId
  | _ => False

/- The event is about a provisioning job, or an attempt. -/
def DescribesRun
    (s : Store)
    (event : DomainEvent) : Prop :=
  ∃ account,
    accountOf event.kind = some account ∧
      ∃ job ∈ s.provisioningJobs.rows,
        Explains s.provisioningHistory.rows job account

/- The event is about a job or an attempt that is stored. -/
def Describes
    (s : Store)
    (event : DomainEvent) : Prop :=
  DescribesRun s event ∨
    ∃ job ∈ s.remediationJobs.rows,
      Remembers job event.kind

/- Jobs and their histories are only added to. -/
structure RowsGrow
    (s s' : Store) : Prop where
  provisioningJobs :
    s.provisioningJobs.rows <+: s'.provisioningJobs.rows
  provisioningHistory :
    s.provisioningHistory.rows <+:
      s'.provisioningHistory.rows
  remediationJobs :
    s.remediationJobs.rows <+: s'.remediationJobs.rows

theorem rowsGrow_refl
    (s : Store) :
    RowsGrow s s :=
  ⟨List.prefix_refl _, List.prefix_refl _,
    List.prefix_refl _⟩

theorem RowsGrow.trans
    {s₁ s₂ s₃ : Store}
    (hFirst : RowsGrow s₁ s₂)
    (hSecond : RowsGrow s₂ s₃) :
    RowsGrow s₁ s₃ where
  provisioningJobs :=
    hFirst.provisioningJobs.trans hSecond.provisioningJobs
  provisioningHistory :=
    hFirst.provisioningHistory.trans
      hSecond.provisioningHistory
  remediationJobs :=
    hFirst.remediationJobs.trans hSecond.remediationJobs

/- What was described still is. -/
theorem Describes.grow
    {s s' : Store}
    {event : DomainEvent}
    (hDescribes : Describes s event)
    (hGrow : RowsGrow s s') :
    Describes s' event := by
  rcases hDescribes with
    ⟨account, hAccount, job, hJob, hExplains⟩ |
      ⟨job, hJob, hRemembers⟩
  · have hSame : SameJob job job :=
      ⟨rfl, rfl, rfl, rfl, rfl, rfl, rfl, rfl⟩
    exact Or.inl ⟨account, hAccount, job,
      hGrow.provisioningJobs.subset hJob,
      hExplains.mono hSame
        hGrow.provisioningHistory.subset⟩
  · exact Or.inr ⟨job, hGrow.remediationJobs.subset hJob,
      hRemembers⟩

/- What a record explains is described where it is stored. -/
theorem describes_of_recorded
    {run : ProvisioningRun}
    {record : Record}
    {s s' : Store}
    (hExplained : Explained run record)
    (hRecorded : Recorded s s' record)
    {event : DomainEvent}
    (hEvent : event ∈ record.pending ++ record.events) :
    DescribesRun s' event := by
  rcases hExplained.events event hEvent with
    ⟨account, hAccount, hExplains⟩
  refine ⟨account, hAccount, record.job, ?_,
    { jobId := hExplains.jobId
      connector := hExplains.connector
      operation := hExplains.operation
      correlationId := hExplains.correlationId
      entry := ?_ }⟩
  · rw [hRecorded.jobs]
    exact List.mem_append_right _ List.mem_cons_self
  · intro wanted hWanted
    rcases hExplains.entry wanted hWanted with
      ⟨stored, hStored, hJob, hType, hAttempt⟩
    let mark :
        ProvisioningHistory →
          Int × ProvisioningHistoryEventType × Nat :=
      fun entry =>
        (entry.jobId, entry.eventType, entry.attempt)
    have hMarks :
        s'.provisioningHistory.rows.map mark =
          s.provisioningHistory.rows.map mark ++
            record.history.map mark :=
      hRecorded.history.map_eq fun _ _ => rfl
    have hMark :
        mark stored ∈ s'.provisioningHistory.rows.map mark := by
      rw [hMarks]
      exact List.mem_append_right _
        (List.mem_map_of_mem hStored)
    rcases List.mem_map.mp hMark with ⟨entry, hEntry, hSame⟩
    have hFirst : entry.jobId = stored.jobId :=
      congrArg Prod.fst hSame
    have hSecond : entry.eventType = stored.eventType :=
      congrArg (fun m => m.2.1) hSame
    have hThird : entry.attempt = stored.attempt :=
      congrArg (fun m => m.2.2) hSame
    exact ⟨entry, hEntry, hFirst.trans hJob,
      hSecond.trans hType, hThird.trans hAttempt⟩

theorem remembers_failed
    (ctx : RequestContext)
    (job : RemediationJob)
    (message : String) :
    Remembers (failedJob ctx job message)
      (remediationFailedEvent ctx (failedJob ctx job message)
        message).kind :=
  ⟨rfl, rfl, rfl, rfl, rfl, rfl, rfl⟩

theorem remembers_settled
    (ctx : RequestContext)
    (job : RemediationJob)
    (result : ConnectorResult) :
    Remembers (settledJob ctx job result)
      (settledEvent ctx (settledJob ctx job result)
        result).kind := by
  unfold settledJob settledEvent
  cases result.status with
  | success => exact ⟨rfl, rfl, rfl, rfl, rfl, rfl, rfl⟩
  | skipped => exact ⟨rfl, rfl, rfl, rfl, rfl, rfl, rfl⟩
  | failed => exact remembers_failed ctx job _
  | retryable => exact remembers_failed ctx job _

variable [Platform]
variable {env : Environment}
variable {orchestrator : ProvisioningOrchestrator}
variable {ctx : RequestContext}
variable {actor : User}
variable {s s' s₀ : Store}
variable {item : CertificationReviewItem}
variable {items : List CertificationReviewItem}
variable {result : ItemResult}
variable {results : List ItemResult}
variable {job done : RemediationJob}
variable {run : Except PyException ProvisioningRun}
variable {event : DomainEvent}
variable {published : List DomainEvent}

/- An execution adds to the history, and says how it ended. -/
theorem Execution.events
    (hExecution :
      Execution env ctx s job run s₀ done event published) :
    s.provisioningHistory.rows <+:
        s₀.provisioningHistory.rows ∧
      Remembers done event.kind ∧
        ∀ event ∈ published, DescribesRun s₀ event := by
  have hAppended :
      ∀ {t : Table ProvisioningHistory} {rows},
        s.provisioningHistory.Appends t rows →
          s.provisioningHistory.rows <+: t.rows := by
    rintro t rows ⟨added, hRows, -⟩
    exact ⟨added, hRows.symm⟩
  cases hExecution with
  | unexecuted exc _ hJobs hHistory =>
      refine ⟨?_, remembers_failed ctx _ _,
        fun _ hNone => by cases hNone⟩
      rw [hHistory]
  | unaudited run _ hNone hRecorded =>
      exact ⟨hAppended hRecorded.history,
        remembers_failed ctx _ _,
        fun _ hNone => by cases hNone⟩
  | unserialized run _ record message _ _ _ hRecorded =>
      exact ⟨hAppended hRecorded.history,
        remembers_failed ctx _ _,
        fun _ hNone => by cases hNone⟩
  | returned run _ _ _ hRecorded =>
      exact ⟨hAppended hRecorded.history,
        remembers_settled ctx _ _,
        fun _ hEvent =>
          describes_of_recorded (ending_explained run env s)
            hRecorded hEvent⟩

theorem ItemStep.rowsGrow
    (hStep :
      ItemStep env orchestrator ctx actor s item result s'
        published) :
    RowsGrow s s' where
  provisioningJobs := hStep.provisioningJobs
  provisioningHistory := by
    cases hStep with
    | kept job _ => exact List.prefix_refl _
    | remediated _ _ _ _ _ _ _ _ hStarted hExecution hDone =>
        rw [hDone.provisioningHistory,
          ← hStarted.provisioningHistory]
        exact hExecution.events.1
  remediationJobs := by
    rw [hStep.rows]
    exact List.prefix_append _ _

/- The events of an item describe what the item stored. -/
theorem ItemStep.described
    (hStep :
      ItemStep env orchestrator ctx actor s item result s'
        published) :
    ∀ event ∈ published ++ result.events,
      Describes s' event := by
  cases hStep with
  | kept job _ => exact fun _ hNone => by cases hNone
  | remediated jobId done event s₁ s₂ s' published hNone
      hStarted hExecution hDone =>
      have hStored : done ∈ s'.remediationJobs.rows := by
        rw [hDone.jobs]
        exact List.mem_append_right _ List.mem_cons_self
      have hSame := hExecution.settles.1
      have hEvents := hExecution.events
      intro published hMem
      rcases List.mem_append.mp hMem with hRun | hOwn
      · rcases hEvents.2.2 _ hRun with
          ⟨account, hAccount, job, hJob, hExplains⟩
        refine Or.inl ⟨account, hAccount, job, ?_, ?_⟩
        · rw [hDone.provisioningJobs]
          exact hJob
        · rw [hDone.provisioningHistory]
          exact hExplains
      · refine Or.inr ⟨done, hStored, ?_⟩
        rcases List.mem_cons.mp hOwn with rfl | hRest
        · exact ⟨hSame.id, hSame.campaignId,
            hSame.reviewItemId, hSame.remediationType,
            hSame.correlationId⟩
        · rcases List.mem_cons.mp hRest with rfl | hLast
          · exact ⟨hSame.id, hSame.campaignId,
              hSame.reviewItemId, hSame.remediationType,
              hSame.correlationId⟩
          · rcases List.mem_singleton.mp hLast with rfl
            exact hEvents.2.1

/- So do the events of all items, in the end. -/
theorem ItemSteps.described
    (hSteps :
      ItemSteps env orchestrator ctx actor s items results s'
        published) :
    RowsGrow s s' ∧
      ∀ event ∈ published ++ results.flatMap (·.events),
        Describes s' event := by
  induction hSteps with
  | nil s => exact ⟨rowsGrow_refl s, fun _ hNone => by cases hNone⟩
  | cons s s₁ s' item items result results first rest hStep
      _ ih =>
      refine ⟨hStep.rowsGrow.trans ih.1, ?_⟩
      intro event hEvent
      have hEither :
          event ∈ first ++ result.events ∨
            event ∈ rest ++ results.flatMap (·.events) := by
        rw [List.flatMap_cons] at hEvent
        simp only [List.mem_append] at hEvent ⊢
        tauto
      rcases hEither with hHere | hLater
      · exact (hStep.described event hHere).grow ih.1
      · exact ih.2 event hLater

end Remediation

end AccessIQ

------------------------------------------------------------
-- Careful Remediation
------------------------------------------------------------

namespace AccessIQ

namespace Remediation

open Foundations Connectors Governance Python

theorem careful_lookupReviewItem
    (reviewItemId : Int) :
    (lookupReviewItem reviewItemId).Careful :=
  Program.careful_bind Program.careful_view
    fun _ => Program.careful_getOrRaise _ _

theorem careful_recordJobAudit
    (ctx : RequestContext)
    (job : RemediationJob)
    (actor : User)
    (action : AuditAction)
    (result : AuditResult)
    (reason : String) :
    (recordJobAudit ctx job actor action result
      reason).Careful := by
  unfold recordJobAudit
  refine Program.careful_bind (careful_lookupReviewItem _)
    fun _ => ?_
  exact Program.careful_bind
    (careful_createAuditEvent _ _ _ _ _ _ _ _ _)
    fun _ => trivial

theorem careful_flushRemediationJob
    (loaded new : RemediationJob) :
    (flushRemediationJob loaded new).Careful := by
  unfold flushRemediationJob
  split
  · exact trivial
  · exact Program.careful_flush_ _

theorem careful_linkProvisioningJob
    (job : RemediationJob) :
    (linkProvisioningJob job).Careful := by
  unfold linkProvisioningJob
  refine Program.careful_bind Program.careful_view
    fun s => ?_
  split
  · exact trivial
  · exact Program.careful_bind
      (careful_flushRemediationJob _ _) fun _ => trivial

theorem careful_createJob
    (ctx : RequestContext)
    (reviewItemId : Int)
    (remediationType : RemediationType)
    (actor : User) :
    (createJob ctx reviewItemId remediationType
      actor).Careful := by
  unfold createJob
  refine Program.careful_bind (careful_lookupReviewItem _)
    fun _ => ?_
  refine Program.careful_bind Program.careful_view
    fun _ => ?_
  refine Program.careful_bind (Program.careful_raiseIf _ _)
    fun _ => ?_
  refine Program.careful_bind Program.careful_view
    fun _ => ?_
  refine Program.careful_bind (Program.careful_raiseIf _ _)
    fun _ => ?_
  refine Program.careful_bind (Program.careful_flush _)
    fun _ => ?_
  exact Program.careful_bind
    (careful_recordJobAudit _ _ _ _ _ _) fun _ => trivial

/- A step of a job flushes it and writes an audit event. -/
theorem careful_jobStep
    (loaded new : RemediationJob)
    (ctx : RequestContext)
    (actor : User)
    (action : AuditAction)
    (result : AuditResult)
    (reason : String)
    (events : List DomainEvent) :
    (do
      flushRemediationJob loaded new
      recordJobAudit ctx new actor action result reason
      return (new, events) :
      Handler (RemediationJob × List DomainEvent)).Careful := by
  refine Program.careful_bind (careful_flushRemediationJob _ _)
    fun _ => ?_
  exact Program.careful_bind
    (careful_recordJobAudit _ _ _ _ _ _) fun _ => trivial

theorem careful_failJob
    (ctx : RequestContext)
    (job : RemediationJob)
    (actor : User)
    (message : String) :
    (failJob ctx job actor message).Careful :=
  Program.careful_bind (careful_linkProvisioningJob _)
    fun _ => careful_jobStep _ _ _ _ _ _ _ _

/- In a broken session a job cannot even be failed. -/
theorem givesUp_failJob
    (ctx : RequestContext)
    (job : RemediationJob)
    (actor : User)
    (message : String) :
    (failJob ctx job actor message).GivesUp :=
  Program.givesUp_bind
    (Program.givesUp_bind Program.givesUp_view _) _

variable [Platform]
variable {orchestrator : ProvisioningOrchestrator}
variable {ctx : RequestContext}
variable {actor : User}

theorem careful_attemptJob
    (job : RemediationJob)
    (item : CertificationReviewItem) :
    (attemptJob orchestrator ctx job item actor).Careful := by
  unfold attemptJob
  refine Program.careful_bind Program.careful_view
    fun s => ?_
  split
  · exact trivial
  · refine Program.careful_bind (careful_execute _ _ _)
      fun executed => ?_
    refine Program.careful_bind
      (careful_linkProvisioningJob _) fun _ => ?_
    unfold settleJob
    cases executed.1.status with
    | success => exact careful_jobStep _ _ _ _ _ _ _ _
    | skipped => exact careful_jobStep _ _ _ _ _ _ _ _
    | failed => exact careful_failJob _ _ _ _
    | retryable => exact careful_failJob _ _ _ _

theorem careful_remediateItem
    (item : CertificationReviewItem) :
    (remediateItem orchestrator ctx actor item).Careful := by
  unfold remediateItem executeJob
  refine Program.careful_bind Program.careful_view
    fun s => ?_
  split
  · exact trivial
  · refine Program.careful_bind (careful_createJob _ _ _ _)
      fun _ => ?_
    refine Program.careful_bind ?_ fun _ => trivial
    refine Program.careful_bind (careful_lookupReviewItem _)
      fun _ => ?_
    refine Program.careful_bind
      (careful_jobStep _ _ _ _ _ _ _ _) fun _ => ?_
    refine Program.careful_bind ?_ fun _ => trivial
    exact Program.careful_tryCatch (careful_attemptJob _ _)
      (fun _ => careful_failJob _ _ _ _)
      fun _ => givesUp_failJob _ _ _ _

theorem careful_remediateItems
    (items : List CertificationReviewItem) :
    (remediateItems orchestrator ctx actor
      items).Careful := by
  induction items with
  | nil => exact trivial
  | cons item items ih =>
      refine Program.careful_bind (careful_remediateItem _)
        fun _ => ?_
      exact Program.careful_bind ih fun _ => trivial

theorem careful_executeCampaign
    (campaignId : Int) :
    (executeCampaign orchestrator ctx campaignId
      actor).Careful := by
  unfold executeCampaign validateCampaign
  refine Program.careful_bind ?_ fun _ => ?_
  · refine Program.careful_bind Program.careful_view
      fun _ => ?_
    refine Program.careful_bind
      (Program.careful_getOrRaise _ _) fun _ => ?_
    exact Program.careful_bind
      (Program.careful_raiseIf _ _) fun _ => trivial
  · refine Program.careful_bind Program.careful_view
      fun _ => ?_
    exact Program.careful_bind (careful_remediateItems _)
      fun _ => trivial

end Remediation

end AccessIQ

------------------------------------------------------------
-- Transactions That Fail
------------------------------------------------------------

namespace AccessIQ

open Foundations

variable {α : Type}

/- The `try` block of a transaction. -/
def committing
    (body : Handler (α × List DomainEvent)) :
    Handler (α × List DomainEvent) := do
  let done ← body
  Program.commit
  return done

theorem careful_committing
    {body : Handler (α × List DomainEvent)}
    (hBody : body.Careful) :
    (committing body).Careful :=
  Program.careful_bind hBody fun _ =>
    Program.careful_bind Program.careful_commit
      fun _ => trivial

variable {env : Environment}
variable {body : Handler (α × List DomainEvent)}
variable {session session' : Session Store DomainEvent}

/- The `except` clauses of a transaction. -/
def refusing
    (respond : PyException → Option HttpException)
    (exc : PyException) :
    Handler (α × List DomainEvent) :=
  match respond exc with
  | some response => do
      Program.rollback
      throw (.http response)
  | none =>
      match exc with
      | .database _ => do
          Program.rollback
          throw databaseFailure
      | other => throw other

theorem transactional_eq
    (respond : PyException → Option HttpException)
    (body : Handler (α × List DomainEvent)) :
    transactional respond body =
      tryCatch (committing body) (refusing respond) >>=
        fun done => do
          Program.publish done.2
          return done.1 :=
  rfl

/- They roll back and raise, and nothing can fail. -/
theorem run_refusing
    (respond : PyException → Option HttpException)
    (exc : PyException)
    (env : Environment)
    (session : Session Store DomainEvent) :
    let refused : Handler (α × List DomainEvent) :=
      refusing respond exc
    (∃ session',
        refused.run env session =
            (.error (translated respond exc), session') ∧
          session'.published = session.published) ∧
      refused.publishedAtFailure env session = none := by
  unfold refusing translated
  cases respond exc with
  | some response => exact ⟨⟨_, rfl, rfl⟩, rfl⟩
  | none =>
      cases exc with
      | database e => exact ⟨⟨_, rfl, rfl⟩, rfl⟩
      | _ => exact ⟨⟨_, rfl, rfl⟩, rfl⟩

/- A transaction that raises has published as its body. -/
theorem transactional_of_error
    (respond : PyException → Option HttpException)
    {exc : PyException}
    (hRaises :
      (committing body).run env session =
        (.error exc, session')) :
    (∃ refused,
        (transactional respond body).run env session =
            (.error (translated respond exc), refused) ∧
          refused.published = session'.published) ∧
      (transactional respond body).publishedAtFailure env
          session =
        (committing body).publishedAtFailure env session := by
  have hRefusing :=
    @run_refusing α respond exc env session'
  rcases hRefusing with ⟨⟨refused, hRun, hSame⟩, hNone⟩
  rw [transactional_eq, Program.run_bind,
    Program.run_tryCatch, Program.publishedAtFailure_bind,
    Program.run_tryCatch,
    Program.publishedAtFailure_tryCatch, hRaises]
  simp only [hRun, hNone, Option.or_none]
  exact ⟨⟨refused, rfl, hSame⟩, trivial⟩

/- A transaction that commits publishes its own events. -/
theorem transactional_of_ok
    (respond : PyException → Option HttpException)
    {a : α}
    {events : List DomainEvent}
    (hReturns :
      (committing body).run env session =
        (.ok (a, events), session')) :
    (∃ done,
        (transactional respond body).run env session =
          (.ok a, done)) ∧
      (transactional respond body).publishedAtFailure env
          session =
        (committing body).publishedAtFailure env session := by
  rw [transactional_eq, Program.run_bind,
    Program.run_tryCatch, Program.publishedAtFailure_bind,
    Program.run_tryCatch,
    Program.publishedAtFailure_tryCatch, hReturns]
  refine ⟨⟨_, rfl⟩, ?_⟩
  rw [Option.or_none]
  exact Option.or_none

end AccessIQ

------------------------------------------------------------
-- Committed Events
------------------------------------------------------------

namespace AccessIQ

namespace Remediation

open Foundations Connectors Governance Python

/-
  What a request published describes what is committed, and a
  request that was rolled back published nothing.
-/
structure EventsCommitted
    (served : Response CampaignRemediationResult) :
    Prop where
  described :
    ∀ event ∈ served.published,
      Describes served.committed event
  rolledBack :
    ∀ exc,
      served.result = .error exc → served.published = []

variable [Platform]

/-
  What a request had published when the first flush or commit
  failed, if one fails.
-/
def RemediationRequest.publishedAtFailure
    (request : RemediationRequest)
    (s : Store) :
    Option (List DomainEvent) :=
  (remediateCampaign request.orchestrator request.ctx
    request.campaignId).publishedAtFailure request.env
    ⟨Moment.start s, 0⟩

/- How the `try` block of a request ends. -/
inductive TryOutcome
    (s : Store) :
    Except PyException
        (CampaignRemediationResult × List DomainEvent) →
      Moment Store DomainEvent → Prop
  | returned
      (done : CampaignRemediationResult × List DomainEvent)
      (s' : Store)
      (published : List DomainEvent) :
      TryOutcome s (.ok done) ⟨s', s', false, published⟩
  | refused
      (error : RemediationServiceError)
      (s' : Store) :
      TryOutcome s (.error (.remediation error))
        ⟨s, s', false, []⟩
  | failed
      (e : DatabaseError)
      (s' : Store)
      (published : List DomainEvent) :
      TryOutcome s (.error (.database e))
        ⟨s, s', true, published⟩

theorem wp_committing
    {w : World Question Reply}
    {env : Environment}
    (hAnswers : Answers w env)
    (orchestrator : ProvisioningOrchestrator)
    (ctx : RequestContext)
    (campaignId : Int)
    (actor : User)
    (s : Store) :
    (committing
        (executeCampaign orchestrator ctx campaignId
          actor)).wp w (TryOutcome s) ⟨s, s, false, []⟩ := by
  unfold committing
  rw [Program.wp_bind]
  refine wp_executeCampaign hAnswers actor ?_ ?_ ?_
  · exact fun error => .refused error s
  · exact fun e s' p' => .failed e s' p'
  · intro campaign results s' published _ _ _
    rw [Program.bindPost_ok, Program.wp_bind,
      Program.wp_commit]
    refine ⟨fun _ => .failed _ s' _, ?_⟩
    exact .returned _ s' _

theorem careful_authenticated
    (ctx : RequestContext)
    (roles : List String) :
    (authenticated ctx roles).Careful := by
  unfold authenticated getCurrentUser requireRoles
  refine Program.careful_bind ?_ fun user => ?_
  · refine Program.careful_bind Program.careful_view
      fun _ => ?_
    split <;> exact trivial
  · split <;> exact trivial

/- What a failing database call leaves of a request. -/
theorem request_failure
    (request : RemediationRequest)
    (s : Store) :
    (∀ published,
        request.publishedAtFailure s = some published →
          (∃ exc, (request.serve s).result = .error exc) ∧
            (request.serve s).published = published) ∧
      (request.publishedAtFailure s = none →
        ∀ exc,
          (request.serve s).result = .error exc →
            (request.serve s).published = []) := by
  rcases request with ⟨env, orchestrator, ctx, campaignId⟩
  unfold RemediationRequest.publishedAtFailure
    RemediationRequest.serve Program.serve remediateCampaign
  rw [Program.run_bind, Program.publishedAtFailure_bind,
    Program.publishedAtFailure_of_careful
      (careful_authenticated ctx remediationRoles) env rfl]
  have hWp :
      (authenticated ctx remediationRoles).wp env.world
        (fun _ m => m = Moment.start s) (Moment.start s) := by
    refine (wp_authenticated ctx remediationRoles _).mpr ?_
    exact ⟨fun _ => rfl, fun _ _ _ => rfl, fun _ _ => rfl⟩
  have hStart :=
    Program.run_of_wp env.conforms_world
      (s := ⟨Moment.start s, 0⟩) hWp
  generalize
    (authenticated ctx remediationRoles).run env
      ⟨Moment.start s, 0⟩ = first
    at hStart ⊢
  rcases first with ⟨r, ⟨m, tick⟩⟩
  simp only at hStart
  subst hStart
  cases r with
  | error exc =>
      refine ⟨fun published hFailure => ?_, fun _ _ _ => rfl⟩
      cases hFailure
  | ok actor =>
      have hOutcome :=
        Program.run_of_wp env.conforms_world
          (s := ⟨Moment.start s, tick⟩)
          (wp_committing (answers_world env) orchestrator ctx
            campaignId actor s)
      have hCareful :
          (committing
            (executeCampaign orchestrator ctx campaignId
              actor)).Careful :=
        careful_committing (careful_executeCampaign campaignId)
      have hFailure :=
        Program.publishedAtFailure_of_careful hCareful env
          (s := ⟨Moment.start s, tick⟩) rfl
      generalize hTry :
        (committing
            (executeCampaign orchestrator ctx campaignId
              actor)).run env ⟨Moment.start s, tick⟩ = tried
        at hOutcome hFailure
      rcases tried with ⟨r, ⟨m, tick'⟩⟩
      simp only at hOutcome hFailure
      cases hOutcome with
      | returned done s' published =>
          rcases transactional_of_ok remediationHttpError
              hTry with
            ⟨⟨final, hRun⟩, hSame⟩
          simp only [hRun, hSame, hFailure]
          refine ⟨fun _ hSome => ?_, fun _ _ hError => ?_⟩
          · cases hSome
          · cases hError
      | refused error s' =>
          rcases transactional_of_error remediationHttpError
              hTry with
            ⟨⟨final, hRun, hPublished⟩, hSame⟩
          simp only [hRun, hSame, hFailure, hPublished]
          refine ⟨fun _ hSome => ?_, fun _ _ _ => trivial⟩
          cases hSome
      | failed e s' published =>
          rcases transactional_of_error remediationHttpError
              hTry with
            ⟨⟨final, hRun, hPublished⟩, hSame⟩
          simp only [hRun, hSame, hFailure, hPublished]
          refine ⟨fun _ hSome => ⟨⟨_, rfl⟩, ?_⟩,
            fun hNone => ?_⟩
          · exact Option.some.inj hSome
          · cases hNone

/-
  A request publishes only what is committed, exactly if no
  flush or commit fails, or the first one that does fails
  before anything was published.
-/
theorem events_committed_iff
    (request : RemediationRequest)
    (s : Store) :
    EventsCommitted (request.serve s) ↔
      ∀ published,
        request.publishedAtFailure s = some published →
          published = [] := by
  rcases request_failure request s with ⟨hFailed, hNone⟩
  constructor
  · intro hCommitted published hFailure
    rcases hFailed published hFailure with
      ⟨⟨exc, hError⟩, hPublished⟩
    rw [← hPublished]
    exact hCommitted.rolledBack exc hError
  · intro hEarly
    have hRolledBack :
        ∀ exc,
          (request.serve s).result = .error exc →
            (request.serve s).published = [] := by
      intro exc hError
      cases hFailure : request.publishedAtFailure s with
      | none => exact hNone hFailure exc hError
      | some published =>
          rw [(hFailed published hFailure).2]
          exact hEarly published hFailure
    refine { described := ?_, rolledBack := hRolledBack }
    have hOutcome :=
      serve_remediateCampaign request.env
        request.orchestrator request.ctx request.campaignId s
    change
      RemediationOutcome _ _ _ _ _
        (request.serve s).result (request.serve s).committed
        (request.serve s).published
      at hOutcome
    generalize request.serve s = served
      at hOutcome hRolledBack ⊢
    rcases served with ⟨result, committed, published⟩
    cases hOutcome with
    | refused response =>
        intro event hEvent
        cases hEvent
    | remediated _ _ results _ _ _ _ _ hSteps =>
        exact hSteps.described.2
    | failed published =>
        have hEmpty := hRolledBack _ rfl
        simp only at hEmpty
        intro event hEvent
        simp only [hEmpty] at hEvent
        cases hEvent

end Remediation

end AccessIQ

------------------------------------------------------------
-- A Failing Commit
------------------------------------------------------------

namespace AccessIQ

namespace Remediation

open Foundations Connectors Governance Python Access

attribute [local instance] asciiPlatform

/- Connectors succeed, and one database call fails. -/
def failingEnvironment
    (call : Nat) :
    Environment where
  fails n := n == call
  answer := flakyEnvironment.answer

/- Alice's request, where the commit fails. -/
def failingRequest : RemediationRequest :=
  { remediationRequest with env := failingEnvironment 35 }

/-
  The commit fails, and the events of the provisioning run
  are published all the same.
-/
theorem uncommitted_events_published :
    let served := failingRequest.serve revokedStore
    served.result =
        .error
          (.http ⟨500, "Database operation failed"⟩) ∧
      served.published.length = 11 ∧
      served.committed.provisioningJobs.rows = [] ∧
      ¬ EventsCommitted served := by
  have hPublished :
      (failingRequest.serve revokedStore).published.length =
        11 := by
    decide +kernel
  have hError :
      (failingRequest.serve revokedStore).result =
        .error
          (.http ⟨500, "Database operation failed"⟩) := by
    decide +kernel
  refine ⟨hError, hPublished, by decide +kernel, ?_⟩
  intro hCommitted
  have hEmpty := hCommitted.rolledBack _ hError
  rw [hEmpty] at hPublished
  cases hPublished

end Remediation

end AccessIQ
