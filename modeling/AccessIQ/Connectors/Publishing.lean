import AccessIQ.Connectors.Attempts
import AccessIQ.Foundations.Failures

/-
  The events a run of the orchestrator publishes.

  Every event of a run is about its job, or about an attempt
  that is in the history of the job.  A run whose database
  fails publishes nothing more.

  Key definitions include:
    * `Account`
    * `Explains`
    * `Explained`

  Key theorems include:
    * `Explained.extend`
    * `ending_explained`
    * `careful_execute`
-/

------------------------------------------------------------
-- Explained Events
------------------------------------------------------------

namespace AccessIQ

namespace Connectors

open Foundations Python

/-
  What an event of a provisioning run says about its job: the
  key, unless the event is one of the run, and the entry of
  its history, if it is about an attempt.
-/
structure Account where
  jobId : Option Int
  connector : String
  operation : ConnectorOperation
  correlationId : String
  entry : Option (ProvisioningHistoryEventType × Nat)

/- What a provisioning or connector event says. -/
def accountOf :
    EventKind → Option Account
  | .provisioningStarted connector operation id =>
      some ⟨none, connector, operation, id, none⟩
  | .provisioningCompleted connector operation id _ =>
      some ⟨none, connector, operation, id, none⟩
  | .provisioningFailed connector operation id _ =>
      some ⟨none, connector, operation, id, none⟩
  | .connectorCalled connector operation id attempt =>
      some ⟨none, connector, operation, id,
        some (.connectorInvocation, attempt)⟩
  | .connectorSucceeded connector operation id attempt _ =>
      some ⟨none, connector, operation, id,
        some (.connectorResult, attempt)⟩
  | .connectorFailed connector operation id attempt _ _ =>
      some ⟨none, connector, operation, id,
        some (.connectorResult, attempt)⟩
  | .connectorRetryScheduled connector operation id attempt
        _ _ _ =>
      some ⟨none, connector, operation, id,
        some (.retryRecorded, attempt)⟩
  | .provisioningJobCreated jobId id connector operation =>
      some ⟨some jobId, connector, operation, id, none⟩
  | .provisioningJobStarted jobId id connector operation =>
      some ⟨some jobId, connector, operation, id, none⟩
  | .provisioningJobCompleted jobId id connector operation
        _ =>
      some ⟨some jobId, connector, operation, id, none⟩
  | .provisioningJobFailed jobId id connector operation _ _ =>
      some ⟨some jobId, connector, operation, id, none⟩
  | .provisioningRetryRecorded jobId id connector operation
        attempt _ _ =>
      some ⟨some jobId, connector, operation, id,
        some (.retryRecorded, attempt)⟩
  | _ => none

/- The event is about the job, or an attempt of it. -/
structure Explains
    (history : List ProvisioningHistory)
    (job : ProvisioningJob)
    (account : Account) : Prop where
  jobId : ∀ id ∈ account.jobId, job.id = id
  connector : job.connector = account.connector
  operation : job.operation = account.operation
  correlationId : job.correlationId = account.correlationId
  entry :
    ∀ wanted ∈ account.entry,
      ∃ stored ∈ history,
        stored.jobId = job.id ∧
          stored.eventType = wanted.1 ∧
            stored.attempt = wanted.2

theorem Explains.mono
    {history history' : List ProvisioningHistory}
    {job job' : ProvisioningJob}
    {account : Account}
    (hExplains : Explains history job account)
    (hSame : SameJob job job')
    (hHistory : history ⊆ history') :
    Explains history' job' account where
  jobId id hId := hSame.id.trans (hExplains.jobId id hId)
  connector := hSame.connector.trans hExplains.connector
  operation := hSame.operation.trans hExplains.operation
  correlationId :=
    hSame.correlationId.trans hExplains.correlationId
  entry wanted hWanted := by
    rcases hExplains.entry wanted hWanted with
      ⟨stored, hStored, hJob, hType, hAttempt⟩
    exact ⟨stored, hHistory hStored,
      hJob.trans hSame.id.symm, hType, hAttempt⟩

/- The record explains its events. -/
structure Explained
    (run : ProvisioningRun)
    (record : Record) : Prop where
  connector : record.job.connector = run.connector
  operation : record.job.operation = run.operation
  correlationId :
    record.job.correlationId = run.correlationId
  events :
    ∀ event ∈ record.pending ++ record.events,
      ∃ account,
        accountOf event.kind = some account ∧
          Explains record.history record.job account

variable {run : ProvisioningRun}

/- Later records explain the earlier events. -/
theorem Explained.extend
    {record record' : Record}
    {pending events : List DomainEvent}
    (hExplained : Explained run record)
    (hSame : SameJob record.job record'.job)
    (hHistory : record.history ⊆ record'.history)
    (hPending : record'.pending = record.pending ++ pending)
    (hEvents : record'.events = record.events ++ events)
    (hNew :
      ∀ event ∈ pending ++ events,
        ∃ account,
          accountOf event.kind = some account ∧
            Explains record'.history record'.job account) :
    Explained run record' where
  connector := hSame.connector.trans hExplained.connector
  operation := hSame.operation.trans hExplained.operation
  correlationId :=
    hSame.correlationId.trans hExplained.correlationId
  events event hEvent := by
    rw [hPending, hEvents] at hEvent
    have hOld :
        event ∈ record.pending ++ record.events ∨
          event ∈ pending ++ events := by
      simp only [List.mem_append] at hEvent ⊢
      tauto
    rcases hOld with hOld | hLater
    · rcases hExplained.events event hOld with
        ⟨account, hAccount, hExplains⟩
      exact ⟨account, hAccount,
        hExplains.mono hSame hHistory⟩
    · exact hNew event hLater

theorem explained_created
    (s : Store)
    (jobId : Int) :
    Explained run (run.createdRecord s jobId) where
  connector := rfl
  operation := rfl
  correlationId := rfl
  events event hEvent := by
    rcases List.mem_cons.mp hEvent with rfl | hStarted
    · refine ⟨_, rfl, ⟨?_, rfl, rfl, rfl, ?_⟩⟩
      · rintro id ⟨⟩
        rfl
      · rintro wanted ⟨⟩
    · rcases List.mem_singleton.mp hStarted with rfl
      refine ⟨_, rfl, ⟨?_, rfl, rfl, rfl, ?_⟩⟩
      · rintro id ⟨⟩
      · rintro wanted ⟨⟩

theorem Explained.invoked
    {record : Record}
    (hExplained : Explained run record)
    (s : Store)
    (attempt : Nat) :
    Explained run (run.invokedRecord s record attempt) := by
  have hSame := sameJob_started run.ctx record.job attempt
  refine hExplained.extend hSame ?_ rfl rfl ?_
  · intro entry hEntry
    exact List.mem_append_left _
      (List.mem_append_left _ hEntry)
  · intro event hEvent
    rcases List.mem_cons.mp hEvent with rfl | hCalled
    · refine ⟨_, rfl, ⟨?_, rfl, rfl, rfl, ?_⟩⟩
      · rintro id ⟨⟩
        rfl
      · rintro wanted ⟨⟩
    · rcases List.mem_singleton.mp hCalled with rfl
      refine ⟨_, rfl,
        ⟨?_, hExplained.connector, hExplained.operation,
          hExplained.correlationId, ?_⟩⟩
      · rintro id ⟨⟩
      · rintro wanted ⟨⟩
        exact ⟨run.invocationEntry
            (startedJob run.ctx record.job attempt) attempt,
          List.mem_append_right _ List.mem_cons_self, rfl,
          rfl, rfl⟩

theorem Explained.retried
    {record : Record}
    (hExplained : Explained run record)
    (s : Store)
    (attempt : Nat)
    (exc : ConnectorException) :
    Explained run
      (run.retriedRecord s record attempt exc) := by
  have hSame :=
    sameJob_retried record.job attempt exc.message
  have hEntry :
      ∃ stored ∈
          (run.retriedRecord s record attempt exc).history,
        stored.jobId = record.job.id ∧
          stored.eventType = .retryRecorded ∧
            stored.attempt = attempt :=
    ⟨retryRecordedEntry run.ctx
        (retriedJob record.job attempt exc.message) attempt
        (attempt + 1) (run.policy.nextDelayMs attempt)
        exc.message,
      List.mem_append_right _ List.mem_cons_self, rfl, rfl,
      rfl⟩
  refine hExplained.extend hSame ?_ rfl rfl ?_
  · intro entry hOld
    exact List.mem_append_left _ hOld
  · intro event hEvent
    rcases List.mem_cons.mp hEvent with rfl | hScheduled
    · refine ⟨_, rfl, ⟨?_, rfl, rfl, rfl, ?_⟩⟩
      · rintro id ⟨⟩
        rfl
      · rintro wanted ⟨⟩
        exact hEntry
    · rcases List.mem_singleton.mp hScheduled with rfl
      refine ⟨_, rfl,
        ⟨?_, hExplained.connector, hExplained.operation,
          hExplained.correlationId, ?_⟩⟩
      · rintro id ⟨⟩
      · rintro wanted ⟨⟩
        exact hEntry

/- Whatever comes of the last call, it is explained. -/
theorem Explained.concluded
    {record : Record}
    (hExplained : Explained run record)
    (s : Store)
    (attempt : Nat)
    (reply : ConnectorReply) :
    Explained run
      (run.concludedRecord s record attempt reply).2 := by
  have hEnd :
      ∀ (result : ConnectorResult) (record' : Record)
        (job : DomainEvent) (own other : EventKind)
        (lastError : Option String)
        (last : ProvisioningHistory),
        record'.job =
            settledJob run.ctx record.job attempt result
              lastError →
          record'.history =
              record.history ++
                [connectorResultEntry run.ctx record'.job
                  attempt result] ++
                [last] →
          record'.pending = record.pending ++ [job] →
          record'.events =
              record.events ++
                [run.event own, run.event other] →
          accountOf job.kind =
              some
                ⟨some record.job.id, record.job.connector,
                  record.job.operation,
                  record.job.correlationId, none⟩ →
          accountOf own =
              some
                ⟨none, run.connector, run.operation,
                  run.correlationId,
                  some (.connectorResult, attempt)⟩ →
          accountOf other =
              some
                ⟨none, run.connector, run.operation,
                  run.correlationId, none⟩ →
            Explained run record' := by
    intro result record' job own other lastError last hJob
      hHistory hPending hEvents hAccount hOwn hOther
    have hSame : SameJob record.job record'.job := by
      rw [hJob]
      exact sameJob_settled run.ctx record.job attempt result
        lastError
    refine hExplained.extend hSame ?_ hPending hEvents ?_
    · intro entry hOld
      rw [hHistory]
      exact List.mem_append_left _
        (List.mem_append_left _ hOld)
    · intro event hEvent
      rcases List.mem_cons.mp hEvent with rfl | hRun
      · refine ⟨_, hAccount,
          ⟨?_, hSame.connector, hSame.operation,
            hSame.correlationId, ?_⟩⟩
        · rintro id ⟨⟩
          exact hSame.id
        · rintro wanted ⟨⟩
      · rcases List.mem_cons.mp hRun with rfl | hLast
        · refine ⟨_, hOwn,
            ⟨?_, hSame.connector.trans hExplained.connector,
              hSame.operation.trans hExplained.operation,
              hSame.correlationId.trans
                hExplained.correlationId, ?_⟩⟩
          · rintro id ⟨⟩
          · rintro wanted ⟨⟩
            refine ⟨connectorResultEntry run.ctx record'.job
              attempt result, ?_, rfl, rfl, rfl⟩
            rw [hHistory]
            exact List.mem_append_left _
              (List.mem_append_right _ List.mem_cons_self)
        · rcases List.mem_singleton.mp hLast with rfl
          refine ⟨_, hOther,
            ⟨?_, hSame.connector.trans hExplained.connector,
              hSame.operation.trans hExplained.operation,
              hSame.correlationId.trans
                hExplained.correlationId, ?_⟩⟩
          · rintro id ⟨⟩
          · rintro wanted ⟨⟩
  cases reply with
  | ok result =>
      exact hEnd result
        (run.returnedRecord s record attempt result) _ _ _ _
        _ rfl rfl rfl rfl rfl rfl rfl
  | error exc =>
      exact hEnd (run.resultFromException exc)
        (run.failedRecord s record attempt
          (run.resultFromException exc))
        _ _ _ _ _ rfl rfl rfl rfl rfl rfl rfl

/- A run explains all of its events. -/
theorem ending_explained
    (run : ProvisioningRun)
    (env : Environment)
    (s : Store) :
    Explained run (run.ending env s).2 := by
  have hOutcome :=
    @ProvisioningRun.outcome_eq run
      (fun _ record => Explained run record)
      s (nextJobId s) (run.reply env (nextJobId s))
      (explained_created s (nextJobId s))
      (fun attempt record exc hRecord _ =>
        (hRecord.invoked s attempt).retried s attempt exc)
  rcases hOutcome with ⟨before, hBefore, hEnding⟩
  unfold ProvisioningRun.ending
  rw [hEnding]
  exact (hBefore.invoked s _).concluded s _ _

end Connectors

end AccessIQ

------------------------------------------------------------
-- Careful Runs
------------------------------------------------------------

namespace AccessIQ

namespace Connectors

open Foundations Python

variable {run : ProvisioningRun}

theorem careful_recordHistory
    (entry : ProvisioningHistory) :
    (recordHistory entry).Careful := by
  unfold recordHistory
  split
  · exact trivial
  · exact Program.careful_flush_ _

theorem careful_flushProvisioningJob
    (loaded new : ProvisioningJob) :
    (flushProvisioningJob loaded new).Careful := by
  unfold flushProvisioningJob
  split
  · exact trivial
  · exact Program.careful_flush_ _

theorem careful_createAuditEvent
    (ctx : RequestContext)
    (requesterId targetUserId : Int)
    (action : AuditAction)
    (applicationId entitlementId : Int)
    (result : AuditResult)
    (reason : String)
    (correlationId : Option String) :
    (createAuditEvent ctx requesterId targetUserId action
      applicationId entitlementId result reason
      correlationId).Careful :=
  Program.careful_bind (Program.careful_flush _)
    fun _ => trivial

theorem careful_recordAudit
    (action : AuditAction)
    (result : AuditResult)
    (reason : String) :
    (run.recordAudit action result reason).Careful := by
  unfold ProvisioningRun.recordAudit
  split
  · refine Program.careful_bind ?_ fun _ => ?_
    · exact Program.careful_bind Program.careful_view
        fun _ => Program.careful_getOrRaise _ _
    · exact Program.careful_bind
        (careful_createAuditEvent _ _ _ _ _ _ _ _ _)
        fun _ => trivial
  · exact trivial

theorem careful_begin :
    run.begin.Careful := by
  unfold ProvisioningRun.begin createJob
  refine Program.careful_bind ?_ fun _ => ?_
  · refine Program.careful_bind (Program.careful_flush _)
      fun _ => ?_
    exact Program.careful_bind (careful_recordHistory _)
      fun _ => trivial
  · exact Program.careful_bind (careful_recordAudit _ _ _)
      fun _ => trivial

theorem careful_invoke
    (progress : Progress)
    (attempt : Nat) :
    (run.invoke progress attempt).Careful := by
  unfold ProvisioningRun.invoke startJob
  refine Program.careful_bind ?_ fun _ => ?_
  · refine Program.careful_bind
      (careful_flushProvisioningJob _ _) fun _ => ?_
    exact Program.careful_bind (careful_recordHistory _)
      fun _ => trivial
  · refine Program.careful_bind (careful_recordHistory _)
      fun _ => ?_
    exact Program.careful_bind (careful_recordAudit _ _ _)
      fun _ => trivial

theorem careful_callConnector
    (jobId : Int)
    (attempt : Nat) :
    (run.callConnector jobId attempt).Careful := by
  unfold ProvisioningRun.callConnector
  split
  · exact trivial
  · exact Program.careful_ask _

theorem careful_retry
    (progress : Progress)
    (attempt : Nat)
    (exc : ConnectorException) :
    (run.retry progress attempt exc).Careful := by
  unfold ProvisioningRun.retry recordRetry
  refine Program.careful_bind ?_ fun _ => ?_
  · refine Program.careful_bind
      (careful_flushProvisioningJob _ _) fun _ => ?_
    exact Program.careful_bind (careful_recordHistory _)
      fun _ => trivial
  · refine Program.careful_bind (careful_recordAudit _ _ _)
      fun _ => ?_
    exact Program.careful_bind (careful_recordAudit _ _ _)
      fun _ => trivial

theorem careful_conclude
    (progress : Progress)
    (attempt : Nat)
    (reply : ConnectorReply) :
    (run.conclude progress attempt reply).Careful := by
  have hSettled :
      ∀ loaded new first second result,
        (do
          flushProvisioningJob loaded new
          recordHistory first
          recordHistory second
          return (new, result) :
          Handler
            (ProvisioningJob × List DomainEvent)).Careful := by
    intro loaded new first second result
    refine Program.careful_bind
      (careful_flushProvisioningJob _ _) fun _ => ?_
    refine Program.careful_bind (careful_recordHistory _)
      fun _ => ?_
    exact Program.careful_bind (careful_recordHistory _)
      fun _ => trivial
  cases reply with
  | ok result =>
      refine Program.careful_bind
        (hSettled _ _ _ _ _) fun _ => ?_
      refine Program.careful_bind (careful_recordAudit _ _ _)
        fun _ => ?_
      refine Program.careful_bind (careful_recordAudit _ _ _)
        fun _ => ?_
      exact Program.careful_bind (careful_recordAudit _ _ _)
        fun _ => trivial
  | error exc =>
      refine Program.careful_bind (careful_recordAudit _ _ _)
        fun _ => ?_
      refine Program.careful_bind
        (hSettled _ _ _ _ _) fun _ => ?_
      exact Program.careful_bind (careful_recordAudit _ _ _)
        fun _ => trivial

theorem careful_attemptLoop
    (remaining attempt : Nat)
    (progress : Progress) :
    (run.attemptLoop remaining attempt progress).Careful := by
  induction remaining generalizing attempt progress with
  | zero =>
      unfold ProvisioningRun.attemptLoop
      refine Program.careful_bind (careful_invoke _ _)
        fun _ => ?_
      exact Program.careful_bind (careful_callConnector _ _)
        fun _ => careful_conclude _ _ _
  | succ remaining ih =>
      unfold ProvisioningRun.attemptLoop
      refine Program.careful_bind (careful_invoke _ _)
        fun _ => ?_
      refine Program.careful_bind (careful_callConnector _ _)
        fun reply => ?_
      cases run.retriedException reply attempt with
      | none => exact careful_conclude _ _ _
      | some exc =>
          exact Program.careful_bind (careful_retry _ _ _)
            fun _ => ih _ _

theorem careful_execute
    [Platform]
    (orchestrator : ProvisioningOrchestrator)
    (ctx : RequestContext)
    (arguments : ExecuteArguments) :
    (orchestrator.execute ctx arguments).Careful := by
  unfold ProvisioningOrchestrator.execute
  split
  · exact trivial
  · exact Program.careful_bind careful_begin
      fun _ => careful_attemptLoop _ _ _

end Connectors

end AccessIQ
