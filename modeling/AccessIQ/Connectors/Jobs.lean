import AccessIQ.AuditService

/-
  Provisioning jobs and their history.

  A job is created pending, started once for each attempt of
  its run, and completed or failed at the end.  Every change
  of a job is followed by an entry of its history.  The
  service collects the domain events of its job, which are
  published later.

  Key definitions include:
    * `serializeDetails`
    * `recordHistory`
    * `createJob`
    * `startJob`
    * `recordRetry`
    * `completeJob`
    * `failJob`
-/

------------------------------------------------------------
-- Statements
------------------------------------------------------------

namespace AccessIQ

open Foundations Connectors

/- The status of a job that a connector's result settles. -/
def Connectors.ConnectorStatus.jobStatus :
    ConnectorStatus → ProvisioningJobStatus
  | .success => .success
  | .failed => .failed
  | .retryable => .retryable
  | .skipped => .skipped

/- A stored job after its changed columns are written. -/
def ProvisioningJob.write
    (loaded new stored : ProvisioningJob) :
    ProvisioningJob :=
  { stored with
    status :=
      writeColumn loaded.status new.status stored.status
    attemptCount :=
      writeColumn loaded.attemptCount new.attemptCount
        stored.attemptCount
    retryCount :=
      writeColumn loaded.retryCount new.retryCount
        stored.retryCount
    retryable :=
      writeColumn loaded.retryable new.retryable
        stored.retryable
    lastError :=
      writeColumn loaded.lastError new.lastError
        stored.lastError
    startedAt :=
      writeColumn loaded.startedAt new.startedAt
        stored.startedAt
    completedAt :=
      writeColumn loaded.completedAt new.completedAt
        stored.completedAt
    durationMs :=
      writeColumn loaded.durationMs new.durationMs
        stored.durationMs }

namespace Store

def insertProvisioningJob
    (s : Store)
    (job : ProvisioningJob) :
    Except DatabaseError (Store × Int) :=
  s.insertInto s.provisioningJobs
    (fun t => { s with provisioningJobs := t })
    job true

/- Write the changed columns of a job. -/
def updateProvisioningJob
    (s : Store)
    (loaded new : ProvisioningJob) :
    Except DatabaseError Store :=
  updateIn s.provisioningJobs
    (fun t => { s with provisioningJobs := t })
    loaded.id (ProvisioningJob.write loaded new) true

def insertProvisioningHistory
    (s : Store)
    (entry : ProvisioningHistory) :
    Except DatabaseError Store :=
  (s.insertInto s.provisioningHistory
      (fun t => { s with provisioningHistory := t })
      entry
      (s.resolves s.provisioningJobs entry.jobId)).map
    Prod.fst

end Store

end AccessIQ

------------------------------------------------------------
-- History
------------------------------------------------------------

namespace AccessIQ

namespace Connectors

open Foundations Python

/-
  `_serialize_details`: the details as `json.dumps` writes
  them, or the text of the exception it raises.
-/
def serializeDetails :
    Option Details → Except String (Option Details)
  | none => .ok none
  | some details =>
      match
        details.findSome? fun member =>
          match member.2 with
          | .json _ => none
          | .rejected message => some message
      with
      | some message => .error message
      | none => .ok (some details)

/- An entry of the history of a job, before it has a key. -/
def newHistory
    (ctx : RequestContext)
    (job : ProvisioningJob)
    (eventType : ProvisioningHistoryEventType)
    (status : ProvisioningJobStatus)
    (message : String)
    (attempt : Nat := 0)
    (retryable : Bool := false)
    (durationMs : Option Duration := none)
    (details : Option Details := none) :
    ProvisioningHistory where
  id := 0
  jobId := job.id
  correlationId := job.correlationId
  connector := job.connector
  operation := job.operation
  eventType := eventType
  status := status
  message := message
  attempt := attempt
  retryable := retryable
  durationMs := durationMs
  details := details
  createdAt := ctx.now

/- Serialise the details and flush the entry. -/
def recordHistory
    (entry : ProvisioningHistory) :
    Handler Unit :=
  match serializeDetails entry.details with
  | .error message => throw (.typeError message)
  | .ok details =>
      Program.flush_
        (·.insertProvisioningHistory
          { entry with details := details })

end Connectors

end AccessIQ

------------------------------------------------------------
-- Job Service
------------------------------------------------------------

namespace AccessIQ

namespace Connectors

open Foundations Python

/-
  Flush a job; without a change there is no statement.
-/
def flushProvisioningJob
    (loaded new : ProvisioningJob) :
    Handler Unit :=
  if new = loaded then
    pure ()
  else
    Program.flush_ (·.updateProvisioningJob loaded new)

/- The row `create_job` adds, before it has a key. -/
def newJob
    (ctx : RequestContext)
    (correlationId connector : String)
    (operation : ConnectorOperation)
    (targetType : String)
    (targetId : Option String)
    (maxAttempts : Nat) :
    ProvisioningJob where
  id := 0
  correlationId := correlationId
  connector := connector
  operation := operation
  targetType := targetType
  targetId := targetId
  status := .pending
  attemptCount := 0
  retryCount := 0
  maxAttempts := maxAttempts
  retryable := false
  createdAt := ctx.now

def jobCreatedEntry
    (ctx : RequestContext)
    (job : ProvisioningJob) :
    ProvisioningHistory :=
  newHistory ctx job .jobCreated .pending
    "Provisioning job created"

def jobCreatedEvent
    (ctx : RequestContext)
    (job : ProvisioningJob) :
    DomainEvent :=
  ⟨ctx.now,
    .provisioningJobCreated job.id job.correlationId
      job.connector job.operation⟩

/- The job with the event it appends. -/
def createJob
    (ctx : RequestContext)
    (new : ProvisioningJob) :
    Handler (ProvisioningJob × List DomainEvent) := do
  let id ← Program.flush (·.insertProvisioningJob new)
  let job := { new with id := id }
  recordHistory (jobCreatedEntry ctx job)
  return (job, [jobCreatedEvent ctx job])

/- A job as `start_job` leaves it. -/
def startedJob
    (ctx : RequestContext)
    (job : ProvisioningJob)
    (attempt : Nat) :
    ProvisioningJob :=
  { job with
    startedAt := some (job.startedAt.getD ctx.now)
    status := .running
    attemptCount := max job.attemptCount attempt }

def jobStartedEntry
    (ctx : RequestContext)
    (job : ProvisioningJob)
    (attempt : Nat) :
    ProvisioningHistory :=
  newHistory ctx job .jobStarted .running
    s!"Provisioning job started attempt {attempt}" attempt

def jobStartedEvent
    (ctx : RequestContext)
    (job : ProvisioningJob) :
    DomainEvent :=
  ⟨ctx.now,
    .provisioningJobStarted job.id job.correlationId
      job.connector job.operation⟩

def startJob
    (ctx : RequestContext)
    (job : ProvisioningJob)
    (attempt : Nat) :
    Handler (ProvisioningJob × List DomainEvent) := do
  let started := startedJob ctx job attempt
  flushProvisioningJob job started
  recordHistory (jobStartedEntry ctx started attempt)
  return (started, [jobStartedEvent ctx started])

/- A job as `record_retry` leaves it. -/
def retriedJob
    (job : ProvisioningJob)
    (attempt : Nat)
    (reason : String) :
    ProvisioningJob :=
  { job with
    retryCount := job.retryCount + 1
    attemptCount := max job.attemptCount attempt
    retryable := true
    lastError := some reason }

def retryRecordedEntry
    (ctx : RequestContext)
    (job : ProvisioningJob)
    (attempt nextAttempt delayMs : Nat)
    (reason : String) :
    ProvisioningHistory :=
  newHistory ctx job .retryRecorded .retryable reason attempt
    true none
    (some
      [("next_attempt", .json (.number (.int nextAttempt))),
        ("delay_ms", .json (.number (.int delayMs)))])

def retryRecordedEvent
    (ctx : RequestContext)
    (job : ProvisioningJob)
    (attempt nextAttempt delayMs : Nat) :
    DomainEvent :=
  ⟨ctx.now,
    .provisioningRetryRecorded job.id job.correlationId
      job.connector job.operation attempt nextAttempt
      delayMs⟩

def recordRetry
    (ctx : RequestContext)
    (job : ProvisioningJob)
    (attempt nextAttempt delayMs : Nat)
    (reason : String) :
    Handler (ProvisioningJob × List DomainEvent) := do
  let retried := retriedJob job attempt reason
  flushProvisioningJob job retried
  recordHistory
    (retryRecordedEntry ctx retried attempt nextAttempt
      delayMs reason)
  return (retried,
    [retryRecordedEvent ctx retried attempt nextAttempt
      delayMs])

/-
  A job as a result settles it; `lastError` is the text of
  its failure.
-/
def settledJob
    (ctx : RequestContext)
    (job : ProvisioningJob)
    (attempt : Nat)
    (result : ConnectorResult)
    (lastError : Option String) :
    ProvisioningJob :=
  { job with
    status := result.status.jobStatus
    attemptCount := max job.attemptCount attempt
    retryable := result.retryable
    lastError := lastError
    completedAt := some ctx.now
    durationMs := some result.durationMs }

def connectorResultEntry
    (ctx : RequestContext)
    (job : ProvisioningJob)
    (attempt : Nat)
    (result : ConnectorResult) :
    ProvisioningHistory :=
  newHistory ctx job .connectorResult
    result.status.jobStatus result.message attempt
    result.retryable (some result.durationMs)
    (some result.details)

def jobCompletedEntry
    (ctx : RequestContext)
    (job : ProvisioningJob)
    (attempt : Nat)
    (result : ConnectorResult) :
    ProvisioningHistory :=
  newHistory ctx job .jobCompleted result.status.jobStatus
    "Provisioning job completed" attempt result.retryable
    (some result.durationMs)

def jobFailedEntry
    (ctx : RequestContext)
    (job : ProvisioningJob)
    (attempt : Nat)
    (result : ConnectorResult) :
    ProvisioningHistory :=
  newHistory ctx job .jobFailed result.status.jobStatus
    "Provisioning job failed" attempt result.retryable
    (some result.durationMs)

def jobCompletedEvent
    (ctx : RequestContext)
    (job : ProvisioningJob) :
    DomainEvent :=
  ⟨ctx.now,
    .provisioningJobCompleted job.id job.correlationId
      job.connector job.operation job.status⟩

def jobFailedEvent
    (ctx : RequestContext)
    (job : ProvisioningJob)
    (result : ConnectorResult) :
    DomainEvent :=
  ⟨ctx.now,
    .provisioningJobFailed job.id job.correlationId
      job.connector job.operation result.retryable
      result.message⟩

def completeJob
    (ctx : RequestContext)
    (job : ProvisioningJob)
    (attempt : Nat)
    (result : ConnectorResult) :
    Handler (ProvisioningJob × List DomainEvent) := do
  let completed := settledJob ctx job attempt result none
  flushProvisioningJob job completed
  recordHistory
    (connectorResultEntry ctx completed attempt result)
  recordHistory
    (jobCompletedEntry ctx completed attempt result)
  return (completed, [jobCompletedEvent ctx completed])

def failJob
    (ctx : RequestContext)
    (job : ProvisioningJob)
    (attempt : Nat)
    (result : ConnectorResult) :
    Handler (ProvisioningJob × List DomainEvent) := do
  let failed :=
    settledJob ctx job attempt result (some result.message)
  flushProvisioningJob job failed
  recordHistory
    (connectorResultEntry ctx failed attempt result)
  recordHistory (jobFailedEntry ctx failed attempt result)
  return (failed, [jobFailedEvent ctx failed result])

end Connectors

end AccessIQ
