import AccessIQ.Connectors.Jobs
import AccessIQ.Foundations.Retry

/-
  The provisioning orchestrator.

  A run creates a provisioning job and calls one connector,
  again after a failure that the retry policy retries.  It
  records each step in the history of the job and in the
  audit trail, and publishes its domain events at the end.

  The clock of a request stands still, so a run takes no
  time; a metric is incremented for good once it is.

  Key definitions include:
    * `RetryPolicy`
    * `ConnectorRegistry`
    * `ProvisioningRun`
    * `callConnector`
    * `attemptLoop`
    * `execute`
-/

------------------------------------------------------------
-- Retry Policy
------------------------------------------------------------

namespace AccessIQ

namespace Connectors

open Foundations

/- A policy its constructor accepts. -/
structure RetryPolicy where
  maxAttempts : Nat := 3
  baseDelayMs : Nat := 100
  maxDelayMs : Nat := 1000
  retryableExceptionTypes : List String :=
    ["RetryableConnectorError"]
  maxAttempts_pos : 1 ≤ maxAttempts := by decide
  base_le_max : baseDelayMs ≤ maxDelayMs := by decide
  deriving Repr

/- `RetryPolicy(...)` with the checks of `__post_init__`. -/
def RetryPolicy.ofValues
    (maxAttempts baseDelayMs maxDelayMs : Int)
    (retryableExceptionTypes : List String) :
    Except PyException RetryPolicy :=
  if hAttempts : maxAttempts < 1 then
    .error (.valueError "max_attempts must be at least 1")
  else if hBase : baseDelayMs < 0 then
    .error (.valueError "base_delay_ms cannot be negative")
  else if hMax : maxDelayMs < baseDelayMs then
    .error
      (.valueError
        "max_delay_ms must be greater than base_delay_ms")
  else
    .ok
      { maxAttempts := maxAttempts.toNat
        baseDelayMs := baseDelayMs.toNat
        maxDelayMs := maxDelayMs.toNat
        retryableExceptionTypes := retryableExceptionTypes
        maxAttempts_pos := by omega
        base_le_max := by omega }

namespace RetryPolicy

def isRetryableException
    (policy : RetryPolicy)
    (exc : ConnectorException) :
    Bool :=
  policy.retryableExceptionTypes.any exc.isInstance ||
    exc.retryable

def shouldRetry
    (policy : RetryPolicy)
    (exc : ConnectorException)
    (attempt : Nat) :
    Bool :=
  policy.isRetryableException exc &&
    decide (attempt < policy.maxAttempts)

def nextDelayMs
    (policy : RetryPolicy)
    (attempt : Nat) :
    Nat :=
  cappedBackoff policy.baseDelayMs policy.maxDelayMs attempt

end RetryPolicy

end Connectors

end AccessIQ

------------------------------------------------------------
-- Registry
------------------------------------------------------------

namespace AccessIQ

namespace Connectors

open Python

/- The names of the registered connectors. -/
structure ConnectorRegistry where
  connectors : List String
  deriving DecidableEq, Repr

variable [Platform]

def normalizeConnectorName
    (name : String) :
    String :=
  Platform.lower (strip name)

/- The name of the connector registered under a name. -/
def ConnectorRegistry.get
    (registry : ConnectorRegistry)
    (name : String) :
    Except PyException String :=
  match
    registry.connectors.find? fun connector =>
      normalizeConnectorName connector ==
        normalizeConnectorName name
  with
  | some connector => .ok connector
  | none => .error (.unknownConnector name)

end Connectors

end AccessIQ

------------------------------------------------------------
-- Payloads
------------------------------------------------------------

namespace AccessIQ

namespace Connectors

open Foundations Python

/- A payload value: its text, and whether it is a mapping. -/
structure PayloadValue where
  text : String
  isMapping : Bool := false
  deriving DecidableEq, Repr

/- A payload; a value may be `None`. -/
abbrev Payload := List (String × Option PayloadValue)

def Payload.get?
    (payload : Payload)
    (key : String) :
    Option PayloadValue :=
  (payload.find? fun member => member.1 == key).bind Prod.snd

/- `_optional_payload_value`. -/
def optionalPayloadValue
    (payload : Payload)
    (key : String) :
    Option String :=
  match payload.get? key with
  | none => none
  | some value =>
      if strip value.text = "" then none
      else some value.text

/- `_infer_target_type`. -/
def inferTargetType :
    ConnectorOperation → String
  | .createUser | .updateUser | .disableUser
  | .deleteUser => "user"
  | .createGroup | .updateGroup | .deleteGroup
  | .addGroupMember | .removeGroupMember => "group"
  | .grantEntitlement | .revokeEntitlement => "entitlement"
  | .healthCheck => "connector"

/- `_infer_target_id`. -/
def inferTargetId
    (operation : ConnectorOperation)
    (payload : Payload) :
    Option String :=
  match operation with
  | .createUser => optionalPayloadValue payload "email"
  | .createGroup =>
      optionalPayloadValue payload "display_name"
  | .updateUser | .disableUser | .deleteUser
  | .grantEntitlement | .revokeEntitlement =>
      optionalPayloadValue payload "user_id"
  | .updateGroup | .deleteGroup | .addGroupMember
  | .removeGroupMember =>
      optionalPayloadValue payload "group_id"
  | .healthCheck => none

/- A `ValidationError` of the connector framework. -/
def validationError
    (message : String) :
    ConnectorException where
  className := "ValidationError"
  baseClasses := ["ConnectorError", "Exception"]
  message := message
  retryable := false
  details := []

/- `_require_payload_value`. -/
def requirePayloadValue
    (payload : Payload)
    (key : String) :
    Except ConnectorException Unit :=
  match optionalPayloadValue payload key with
  | some _ => .ok ()
  | none =>
      .error
        (validationError
          s!"Provisioning payload requires {key}")

/- `_require_mapping`. -/
def requireMapping
    (payload : Payload)
    (key : String) :
    Except ConnectorException Unit :=
  match payload.get? key with
  | some value =>
      if value.isMapping then
        .ok ()
      else
        .error
          (validationError
            s!"Provisioning payload requires object {key}")
  | none =>
      .error
        (validationError
          s!"Provisioning payload requires object {key}")

/- What `_call_connector` requires before it calls. -/
def checkPayload
    (operation : ConnectorOperation)
    (payload : Payload) :
    Except ConnectorException Unit :=
  match operation with
  | .createUser | .createGroup => .ok ()
  | .updateUser | .disableUser | .deleteUser =>
      requirePayloadValue payload "user_id"
  | .updateGroup | .deleteGroup =>
      requirePayloadValue payload "group_id"
  | .addGroupMember | .removeGroupMember => do
      requirePayloadValue payload "group_id"
      requirePayloadValue payload "user_id"
  | .grantEntitlement | .revokeEntitlement => do
      requirePayloadValue payload "user_id"
      requireMapping payload "entitlement"
  | .healthCheck =>
      .error
        (validationError
          ("Unsupported provisioning operation: " ++
            operation.value))

end Connectors

end AccessIQ

------------------------------------------------------------
-- Runs
------------------------------------------------------------

namespace AccessIQ

namespace Connectors

open Foundations Python

/- A counter of the metrics registry with its labels. -/
structure Metric where
  name : String
  labels : List (String × String) := []
  deriving DecidableEq, Repr

/- What stays the same while a run goes on. -/
structure ProvisioningRun where
  ctx : RequestContext
  policy : RetryPolicy
  connector : String
  operation : ConnectorOperation
  payload : Payload
  correlationId : String
  requesterId : Option Int
  targetUserId : Option Int

/-
  How far a run is: its job, the events its job service
  collected, its own events, and the metrics it incremented.
-/
structure Progress where
  job : ProvisioningJob
  pending : List DomainEvent
  events : List DomainEvent
  metrics : List Metric

namespace ProvisioningRun

variable (run : ProvisioningRun)

/- `_get_connector_audit_entitlement`. -/
def getConnectorAuditEntitlement :
    Handler Entitlement := do
  let s ← Program.view
  Program.getOrRaise
    (s.entitlementBySlugs "connector-framework"
      "connector-execution")
    (.runtimeError
      "Connector audit entitlement is not seeded")

/- `_record_audit`: nothing without the two users. -/
def recordAudit
    (action : AuditAction)
    (result : AuditResult)
    (reason : String) :
    Handler Unit :=
  match run.requesterId, run.targetUserId with
  | some requesterId, some targetUserId => do
      let entitlement ← getConnectorAuditEntitlement
      let _ ← createAuditEvent run.ctx requesterId
        targetUserId action entitlement.applicationId
        entitlement.id result reason
        (some run.correlationId)
  | _, _ => pure ()

/- An event of the run. -/
def event
    (kind : EventKind) :
    DomainEvent :=
  ⟨run.ctx.now, kind⟩

/- The executions counter under a status. -/
def executions
    (status : String) :
    Metric where
  name := "accessiq_connector_executions_total"
  labels :=
    [("connector", run.connector),
      ("operation", run.operation.value),
      ("status", status)]

/- The row of the job of the run. -/
def newJob :
    ProvisioningJob :=
  Connectors.newJob run.ctx run.correlationId run.connector
    run.operation (inferTargetType run.operation)
    (inferTargetId run.operation run.payload)
    run.policy.maxAttempts

def started :
    DomainEvent :=
  run.event
    (.provisioningStarted run.connector run.operation
      run.correlationId)

def jobCreatedReason
    (jobId : Int) :
    String :=
  s!"Provisioning job {jobId} created for " ++
    s!"{run.connector} {run.operation.value}"

/- Create the job of the run. -/
def begin :
    Handler Progress := do
  let (job, pending) ← createJob run.ctx run.newJob
  run.recordAudit .provisioningJobCreated .succeeded
    (run.jobCreatedReason job.id)
  return {
    job := job
    pending := pending
    events := [run.started]
    metrics := [] }

def connectorCalled :
    String :=
  s!"Connector {run.connector} called for " ++
    s!"{run.operation.value}"

def invocationEntry
    (job : ProvisioningJob)
    (attempt : Nat) :
    ProvisioningHistory :=
  newHistory run.ctx job .connectorInvocation .running
    run.connectorCalled attempt

/- The progress after an attempt was started. -/
def invoked
    (progress : Progress)
    (attempt : Nat) :
    Progress where
  job := startedJob run.ctx progress.job attempt
  pending :=
    progress.pending ++
      [jobStartedEvent run.ctx
        (startedJob run.ctx progress.job attempt)]
  events :=
    progress.events ++
      [run.event
        (.connectorCalled run.connector run.operation
          run.correlationId attempt)]
  metrics :=
    progress.metrics ++
      [{ name := "connector_invocations_total" },
        run.executions "started"]

/- Start an attempt. -/
def invoke
    (progress : Progress)
    (attempt : Nat) :
    Handler Progress := do
  let (job, _) ← startJob run.ctx progress.job attempt
  recordHistory (run.invocationEntry job attempt)
  run.recordAudit .connectorInvocation .succeeded
    run.connectorCalled
  return run.invoked progress attempt

/- The call of an attempt. -/
def call
    (jobId : Int)
    (attempt : Nat) :
    ConnectorCall where
  jobId := jobId
  attempt := attempt
  connector := run.connector
  operation := run.operation

/- `_call_connector`. -/
def callConnector
    (jobId : Int)
    (attempt : Nat) :
    Handler ConnectorReply :=
  match checkPayload run.operation run.payload with
  | .error exc => pure (.error exc)
  | .ok () =>
      Program.ask (.callConnector (run.call jobId attempt))

def retryScheduledReason
    (reason : String) :
    String :=
  s!"Retry scheduled for {run.connector} " ++
    s!"{run.operation.value}: {reason}"

def retryRecordedReason
    (reason : String) :
    String :=
  s!"Retry recorded for {run.connector} " ++
    s!"{run.operation.value}: {reason}"

/- The progress after a retry was scheduled. -/
def retried
    (progress : Progress)
    (attempt : Nat)
    (exc : ConnectorException) :
    Progress where
  job := retriedJob progress.job attempt exc.message
  pending :=
    progress.pending ++
      [retryRecordedEvent run.ctx
        (retriedJob progress.job attempt exc.message) attempt
        (attempt + 1) (run.policy.nextDelayMs attempt)]
  events :=
    progress.events ++
      [run.event
        (.connectorRetryScheduled run.connector run.operation
          run.correlationId attempt (attempt + 1)
          (run.policy.nextDelayMs attempt) exc.message)]
  metrics :=
    progress.metrics ++
      [{ name := "connector_retries_total" }]

/- Schedule the next attempt. -/
def retry
    (progress : Progress)
    (attempt : Nat)
    (exc : ConnectorException) :
    Handler Progress := do
  let _ ← recordRetry run.ctx progress.job attempt
    (attempt + 1) (run.policy.nextDelayMs attempt)
    exc.message
  run.recordAudit .connectorRetryScheduled .succeeded
    (run.retryScheduledReason exc.message)
  run.recordAudit .provisioningRetryRecorded .succeeded
    (run.retryRecordedReason exc.message)
  return run.retried progress attempt exc

/- The dictionary with one entry set. -/
def setDetail
    (details : Details)
    (key : String)
    (value : DetailValue) :
    Details :=
  details.filter (fun member => member.1 != key) ++
    [(key, value)]

/- `_result_from_exception`. -/
def resultFromException
    (exc : ConnectorException) :
    ConnectorResult :=
  ConnectorResult.fromFailure run.connector run.operation
    exc.message exc.retryable (some run.correlationId) 0
    (setDetail exc.details "exception_type"
      (.json (.string exc.className)))

def failedJobReason
    (jobId : Int)
    (message : String) :
    String :=
  s!"Provisioning job {jobId} failed: {message}"

/- The progress after the run failed. -/
def failed
    (progress : Progress)
    (attempt : Nat)
    (result : ConnectorResult) :
    Progress where
  job :=
    settledJob run.ctx progress.job attempt result
      (some result.message)
  pending :=
    progress.pending ++
      [jobFailedEvent run.ctx
        (settledJob run.ctx progress.job attempt result
          (some result.message))
        result]
  events :=
    progress.events ++
      [run.event
          (.connectorFailed run.connector run.operation
            run.correlationId attempt result.retryable
            result.message),
        run.event
          (.provisioningFailed run.connector run.operation
            run.correlationId result.message)]
  metrics :=
    progress.metrics ++
      [{ name := "connector_failures_total" },
        run.executions "failed",
        { name := "accessiq_connector_failures_total"
          labels :=
            [("connector", run.connector),
              ("operation", run.operation.value),
              ("retryable",
                if result.retryable then "true"
                else "false")] }]

/- The run ends with the exception of a call. -/
def fail
    (progress : Progress)
    (attempt : Nat)
    (exc : ConnectorException) :
    Handler (ConnectorResult × List Metric) := do
  let result := run.resultFromException exc
  run.recordAudit .connectorFailure .denied result.message
  let _ ← failJob run.ctx progress.job attempt result
  run.recordAudit .provisioningJobFailed .denied
    (failedJobReason progress.job.id result.message)
  let done := run.failed progress attempt result
  Program.publish done.pending
  Program.publish done.events
  return (result, done.metrics)

def provisioningCompletedReason :
    String :=
  s!"Provisioning completed for {run.connector} " ++
    s!"{run.operation.value}"

def completedJobReason
    (jobId : Int) :
    String :=
  s!"Provisioning job {jobId} completed for " ++
    s!"{run.connector} {run.operation.value}"

/- The text of the status of a result. -/
def statusValue :
    ConnectorStatus → String
  | .success => "SUCCESS"
  | .failed => "FAILED"
  | .retryable => "RETRYABLE"
  | .skipped => "SKIPPED"

/- The progress after a connector returned. -/
def returned
    (progress : Progress)
    (attempt : Nat)
    (result : ConnectorResult) :
    Progress where
  job := settledJob run.ctx progress.job attempt result none
  pending :=
    progress.pending ++
      [jobCompletedEvent run.ctx
        (settledJob run.ctx progress.job attempt result
          none)]
  events :=
    progress.events ++
      [run.event
          (.connectorSucceeded run.connector run.operation
            run.correlationId attempt result.durationMs),
        run.event
          (.provisioningCompleted run.connector
            run.operation run.correlationId result.status)]
  metrics :=
    progress.metrics ++
      [{ name := "connector_success_total" },
        run.executions (statusValue result.status)]

/- The run ends with the result of a call. -/
def finish
    (progress : Progress)
    (attempt : Nat)
    (result : ConnectorResult) :
    Handler (ConnectorResult × List Metric) := do
  let _ ← completeJob run.ctx progress.job attempt result
  run.recordAudit .connectorSuccess .succeeded
    result.message
  run.recordAudit .connectorProvisioningCompleted .succeeded
    run.provisioningCompletedReason
  run.recordAudit .provisioningJobCompleted .succeeded
    (run.completedJobReason progress.job.id)
  let done := run.returned progress attempt result
  Program.publish done.pending
  Program.publish done.events
  return (result, done.metrics)

/- The exception of a call that is retried. -/
def retriedException
    (reply : ConnectorReply)
    (attempt : Nat) :
    Option ConnectorException :=
  match reply with
  | .ok _ => none
  | .error exc =>
      if run.policy.shouldRetry exc attempt then
        some exc
      else
        none

/- The run ends with what came of a call. -/
def conclude
    (progress : Progress)
    (attempt : Nat)
    (reply : ConnectorReply) :
    Handler (ConnectorResult × List Metric) :=
  match reply with
  | .ok result => run.finish progress attempt result
  | .error exc => run.fail progress attempt exc

/-
  The `while True` of `execute`.  A retry needs an attempt
  that remains, which is what `should_retry` checks.
-/
def attemptLoop :
    Nat → Nat → Progress →
      Handler (ConnectorResult × List Metric)
  | 0, attempt, progress => do
      let progress ← run.invoke progress attempt
      let reply ← run.callConnector progress.job.id attempt
      run.conclude progress attempt reply
  | remaining + 1, attempt, progress => do
      let progress ← run.invoke progress attempt
      let reply ← run.callConnector progress.job.id attempt
      match run.retriedException reply attempt with
      | some exc => do
          let progress ← run.retry progress attempt exc
          attemptLoop remaining (attempt + 1) progress
      | none => run.conclude progress attempt reply

end ProvisioningRun

/- `ProvisioningOrchestrator`. -/
structure ProvisioningOrchestrator where
  registry : ConnectorRegistry
  retryPolicy : RetryPolicy := {}

/- The arguments of `execute`, which is given a session. -/
structure ExecuteArguments where
  connectorName : String
  operation : ConnectorOperation
  payload : Payload
  correlationId : Option String := none
  requesterId : Option Int := none
  targetUserId : Option Int := none

/- An empty correlation id is no correlation id. -/
def resolveCorrelationId
    (ctx : RequestContext)
    (correlationId : Option String) :
    String :=
  match correlationId with
  | none => ctx.correlationId
  | some text => if text = "" then ctx.correlationId else text

variable [Platform]

namespace ProvisioningOrchestrator

/- The run of a connector. -/
def run
    (orchestrator : ProvisioningOrchestrator)
    (ctx : RequestContext)
    (arguments : ExecuteArguments)
    (connector : String) :
    ProvisioningRun where
  ctx := ctx
  policy := orchestrator.retryPolicy
  connector := connector
  operation := arguments.operation
  payload := arguments.payload
  correlationId :=
    resolveCorrelationId ctx arguments.correlationId
  requesterId := arguments.requesterId
  targetUserId := arguments.targetUserId

/- `execute`, with the metrics it incremented. -/
def execute
    (orchestrator : ProvisioningOrchestrator)
    (ctx : RequestContext)
    (arguments : ExecuteArguments) :
    Handler (ConnectorResult × List Metric) :=
  match
    orchestrator.registry.get arguments.connectorName
  with
  | .error exc => throw exc
  | .ok connector => do
      let run := orchestrator.run ctx arguments connector
      let progress ← run.begin
      run.attemptLoop (run.policy.maxAttempts - 1) 1 progress

end ProvisioningOrchestrator

end Connectors

end AccessIQ
