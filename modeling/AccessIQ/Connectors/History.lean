import AccessIQ.Connectors.Attempts
import AccessIQ.Foundations.Questions
import AccessIQ.Seed

/-
  The trace of a provisioning run.

  A run that ends normally has called its connector once for
  each attempt, and the history of its job tells exactly the
  attempts it made.

  Key definitions include:
    * `TraceStep`
    * `expectedTrace`
    * `AttemptsMade`
    * `RunTrace`

  Key theorems include:
    * `attemptsMade_next`
    * `asked_attemptLoop`
    * `execute_traced`
-/

------------------------------------------------------------
-- Traces
------------------------------------------------------------

namespace AccessIQ

namespace Connectors

open Foundations Python

/- What an entry of a history says about its run. -/
structure TraceStep where
  eventType : ProvisioningHistoryEventType
  attempt : Nat
  delayMs : Option Int := none
  deriving DecidableEq, Repr

/- The delay a retry recorded in its details. -/
def recordedDelay
    (details : Option Details) :
    Option Int :=
  match
    (details.getD []).find? fun member =>
      member.1 == "delay_ms"
  with
  | some (_, .json (.number (.int delayMs))) => some delayMs
  | _ => none

def traceStep
    (entry : ProvisioningHistory) :
    TraceStep where
  eventType := entry.eventType
  attempt := entry.attempt
  delayMs :=
    if entry.eventType = .retryRecorded then
      recordedDelay entry.details
    else
      none

def startedSteps
    (attempt : Nat) :
    List TraceStep :=
  [⟨.jobStarted, attempt, none⟩,
    ⟨.connectorInvocation, attempt, none⟩]

def retryStep
    (policy : RetryPolicy)
    (attempt : Nat) :
    TraceStep :=
  ⟨.retryRecorded, attempt, some (policy.nextDelayMs attempt)⟩

/- The steps of one attempt, where `last` is the last one. -/
def attemptSteps
    (policy : RetryPolicy)
    (last attempt : Nat) :
    List TraceStep :=
  startedSteps attempt ++
    if attempt < last then
      [retryStep policy attempt]
    else
      []

/- The steps a run ends with. -/
def finalSteps
    (last : Nat)
    (reply : ConnectorReply) :
    List TraceStep :=
  [⟨.connectorResult, last, none⟩,
    ⟨match reply with
      | .ok _ => .jobCompleted
      | .error _ => .jobFailed,
      last, none⟩]

/- The trace of a run that ends at its attempt `last`. -/
def expectedTrace
    (policy : RetryPolicy)
    (last : Nat)
    (reply : ConnectorReply) :
    List TraceStep :=
  [⟨.jobCreated, 0, none⟩] ++
    (List.range' 1 last).flatMap
      (attemptSteps policy last) ++
    finalSteps last reply

/- The trace of a run before an attempt. -/
def traceBefore
    (policy : RetryPolicy)
    (attempt : Nat) :
    List TraceStep :=
  [⟨.jobCreated, 0, none⟩] ++
    (List.range' 1 (attempt - 1)).flatMap fun k =>
      startedSteps k ++ [retryStep policy k]

theorem traceBefore_succ
    (policy : RetryPolicy)
    {attempt : Nat}
    (hPositive : 1 ≤ attempt) :
    traceBefore policy (attempt + 1) =
      traceBefore policy attempt ++ startedSteps attempt ++
        [retryStep policy attempt] := by
  obtain ⟨k, rfl⟩ : ∃ k, attempt = k + 1 :=
    ⟨attempt - 1, by omega⟩
  unfold traceBefore
  rw [Nat.add_sub_cancel, Nat.add_sub_cancel,
    List.range'_1_concat, List.flatMap_append,
    List.flatMap_singleton, Nat.add_comm 1 k]
  simp only [List.append_assoc]

/- Every attempt before the last was retried. -/
theorem expectedTrace_eq
    (policy : RetryPolicy)
    {last : Nat}
    (hPositive : 1 ≤ last)
    (reply : ConnectorReply) :
    expectedTrace policy last reply =
      traceBefore policy last ++ startedSteps last ++
        finalSteps last reply := by
  obtain ⟨k, rfl⟩ : ∃ k, last = k + 1 :=
    ⟨last - 1, by omega⟩
  have hEarlier :
      (List.range' 1 k).flatMap
          (attemptSteps policy (k + 1)) =
        (List.range' 1 k).flatMap fun j =>
          startedSteps j ++ [retryStep policy j] := by
    refine List.flatMap_congr fun j hj => ?_
    have hLt : j < k + 1 := by
      have hRange := List.mem_range'_1.mp hj
      omega
    unfold attemptSteps
    rw [if_pos hLt]
  have hLast :
      attemptSteps policy (k + 1) (k + 1) =
        startedSteps (k + 1) := by
    unfold attemptSteps
    rw [if_neg (lt_irrefl _), List.append_nil]
  unfold expectedTrace traceBefore
  rw [List.range'_1_concat, List.flatMap_append, hEarlier,
    List.flatMap_singleton, Nat.add_comm 1 k, hLast,
    Nat.add_sub_cancel]
  simp only [List.append_assoc]

/- The delays a run recorded, in order. -/
def recordedDelays
    (steps : List TraceStep) :
    List Int :=
  steps.filterMap (·.delayMs)

theorem recordedDelays_expectedTrace
    (policy : RetryPolicy)
    {last : Nat}
    (hPositive : 1 ≤ last)
    (reply : ConnectorReply) :
    recordedDelays (expectedTrace policy last reply) =
      (List.range' 1 (last - 1)).map fun k =>
        ((policy.nextDelayMs k : Nat) : Int) := by
  have hBefore :
      ∀ ks : List Nat,
        (ks.flatMap fun k =>
            startedSteps k ++ [retryStep policy k]).filterMap
            (·.delayMs) =
          ks.map fun k =>
            ((policy.nextDelayMs k : Nat) : Int) := by
    intro ks
    induction ks with
    | nil => rfl
    | cons k ks ih =>
        rw [List.flatMap_cons, List.filterMap_append, ih]
        rfl
  rw [expectedTrace_eq policy hPositive]
  unfold recordedDelays traceBefore
  simp only [List.filterMap_append, hBefore]
  simp [startedSteps, finalSteps]

end Connectors

end AccessIQ

------------------------------------------------------------
-- Before An Attempt
------------------------------------------------------------

namespace AccessIQ

namespace Connectors

open Foundations Python

theorem SameJob.trans
    {a b d : ProvisioningJob}
    (hFirst : SameJob a b)
    (hSecond : SameJob b d) :
    SameJob a d where
  id := hSecond.id.trans hFirst.id
  correlationId :=
    hSecond.correlationId.trans hFirst.correlationId
  connector := hSecond.connector.trans hFirst.connector
  operation := hSecond.operation.trans hFirst.operation
  targetType := hSecond.targetType.trans hFirst.targetType
  targetId := hSecond.targetId.trans hFirst.targetId
  maxAttempts :=
    hSecond.maxAttempts.trans hFirst.maxAttempts
  createdAt := hSecond.createdAt.trans hFirst.createdAt

/- The entry is about the job. -/
def EntryOf
    (job : ProvisioningJob)
    (entry : ProvisioningHistory) : Prop :=
  entry.jobId = job.id ∧
    entry.correlationId = job.correlationId

/- The record of a run of which some attempts were made. -/
structure AttemptsMade
    (run : ProvisioningRun)
    (jobId : Int)
    (attempt : Nat)
    (record : Record) : Prop where
  positive : 1 ≤ attempt
  sameJob : SameJob { run.newJob with id := jobId } record.job
  attemptCount : record.job.attemptCount = attempt - 1
  retryCount : record.job.retryCount = attempt - 1
  trace :
    record.history.map traceStep =
      traceBefore run.policy attempt
  entries : ∀ entry ∈ record.history, EntryOf record.job entry

variable {run : ProvisioningRun}
variable {s : Store}
variable {jobId : Int}

theorem attemptsMade_first :
    AttemptsMade run jobId 1 (run.createdRecord s jobId) where
  positive := le_refl 1
  sameJob := ⟨rfl, rfl, rfl, rfl, rfl, rfl, rfl, rfl⟩
  attemptCount := rfl
  retryCount := rfl
  trace := rfl
  entries := by
    intro entry hEntry
    rcases List.mem_singleton.mp hEntry with rfl
    exact ⟨rfl, rfl⟩

theorem EntryOf.sameJob
    {job job' : ProvisioningJob}
    {entry : ProvisioningHistory}
    (hEntry : EntryOf job entry)
    (hSame : SameJob job job') :
    EntryOf job' entry :=
  ⟨hEntry.1.trans hSame.id.symm,
    hEntry.2.trans hSame.correlationId.symm⟩

/- A failed attempt that is retried adds its steps. -/
theorem attemptsMade_next
    {attempt : Nat}
    {record : Record}
    (hMade : AttemptsMade run jobId attempt record)
    (exc : ConnectorException) :
    AttemptsMade run jobId (attempt + 1)
      (run.retriedRecord s
        (run.invokedRecord s record attempt) attempt
        exc) := by
  have hPositive := hMade.positive
  have hStarted :=
    sameJob_started run.ctx record.job attempt
  have hRetried :=
    sameJob_retried (startedJob run.ctx record.job attempt)
      attempt exc.message
  refine
    { positive := by omega
      sameJob := (hMade.sameJob.trans hStarted).trans hRetried
      attemptCount := ?_
      retryCount := ?_
      trace := ?_
      entries := ?_ }
  · change
      max (max record.job.attemptCount attempt) attempt =
        attempt + 1 - 1
    rw [hMade.attemptCount]
    omega
  · change record.job.retryCount + 1 = attempt + 1 - 1
    rw [hMade.retryCount]
    omega
  · rw [traceBefore_succ run.policy hPositive,
      ← hMade.trace]
    change List.map traceStep (_ ++ _ ++ _ ++ _) = _
    simp only [List.map_append, List.append_assoc]
    rfl
  · intro entry hEntry
    change entry ∈ _ ++ _ ++ _ ++ _ at hEntry
    rcases List.mem_append.mp hEntry with hEarlier | hRetry
    · rcases List.mem_append.mp hEarlier with hEarlier | hCall
      · rcases List.mem_append.mp hEarlier with hOld | hStart
        · exact ((hMade.entries entry hOld).sameJob
            hStarted).sameJob hRetried
        · rcases List.mem_singleton.mp hStart with rfl
          exact ⟨rfl, rfl⟩
      · rcases List.mem_singleton.mp hCall with rfl
        exact ⟨rfl, rfl⟩
    · rcases List.mem_singleton.mp hRetry with rfl
      exact ⟨rfl, rfl⟩

end Connectors

end AccessIQ

------------------------------------------------------------
-- After A Run
------------------------------------------------------------

namespace AccessIQ

namespace Connectors

open Foundations Python

/- What a run records that ends at its attempt `last`. -/
structure RunTrace
    (run : ProvisioningRun)
    (last : Nat)
    (reply : ConnectorReply)
    (result : ConnectorResult)
    (job : ProvisioningJob)
    (history : List ProvisioningHistory) : Prop where
  correlationId : job.correlationId = run.correlationId
  attemptCount : job.attemptCount = last
  retryCount : job.retryCount = job.attemptCount - 1
  status : job.status = result.status.jobStatus
  trace :
    history.map traceStep =
      expectedTrace run.policy last reply
  entries :
    ∀ entry ∈ history,
      entry.jobId = job.id ∧
        entry.correlationId = run.correlationId

variable {run : ProvisioningRun}
variable {s : Store}
variable {jobId : Int}

/- The entries of the last attempt, of which one ends it. -/
def ProvisioningRun.lastEntries
    (run : ProvisioningRun)
    (before settled : ProvisioningJob)
    (last : Nat)
    (result : ConnectorResult)
    (ended : ProvisioningHistory) :
    List ProvisioningHistory :=
  [jobStartedEntry run.ctx (startedJob run.ctx before last)
      last,
    run.invocationEntry (startedJob run.ctx before last) last,
    connectorResultEntry run.ctx settled last result,
    ended]

variable {last : Nat}
variable {before : Record}
variable {result : ConnectorResult}

/- They are all of the job that is settled. -/
theorem entryOf_lastEntries
    {lastError : Option String}
    {ended : ProvisioningHistory} :
    let settled :=
      settledJob run.ctx (startedJob run.ctx before.job last)
        last result lastError
    EntryOf settled ended →
      ∀ entry ∈ run.lastEntries before.job settled last
          result ended,
        EntryOf settled entry := by
  intro settled hEnded entry hEntry
  simp only [ProvisioningRun.lastEntries, List.mem_cons,
    List.not_mem_nil, or_false] at hEntry
  rcases hEntry with rfl | rfl | rfl | rfl
  · exact ⟨rfl, rfl⟩
  · exact ⟨rfl, rfl⟩
  · exact ⟨rfl, rfl⟩
  · exact hEnded

/- Settling the job after more entries completes the trace. -/
theorem runTrace_settled
    {reply : ConnectorReply}
    (hMade : AttemptsMade run jobId last before)
    {lastError : Option String}
    {own history : List ProvisioningHistory}
    (hHistory : history = before.history ++ own)
    (hSteps :
      own.map traceStep =
        startedSteps last ++ finalSteps last reply) :
    let settled :=
      settledJob run.ctx (startedJob run.ctx before.job last)
        last result lastError
    (∀ entry ∈ own, EntryOf settled entry) →
      RunTrace run last reply result settled history := by
  intro settled hOwn
  have hSame : SameJob before.job settled :=
    (sameJob_started run.ctx before.job last).trans
      (sameJob_settled run.ctx _ last result lastError)
  have hCorrelation :
      settled.correlationId = run.correlationId :=
    hSame.correlationId.trans hMade.sameJob.correlationId
  have hCount :
      max (max before.job.attemptCount last) last = last := by
    rw [hMade.attemptCount]
    omega
  refine
    { correlationId := hCorrelation
      attemptCount := hCount
      retryCount := ?_
      status := rfl
      trace := ?_
      entries := ?_ }
  · exact hMade.retryCount.trans
      (congrArg (· - 1) hCount.symm)
  · rw [hHistory, List.map_append, hSteps, hMade.trace,
      expectedTrace_eq run.policy hMade.positive,
      List.append_assoc]
  · rw [hHistory]
    intro entry hEntry
    have hOf : EntryOf settled entry := by
      rcases List.mem_append.mp hEntry with hOld | hNew
      · exact (hMade.entries entry hOld).sameJob hSame
      · exact hOwn entry hNew
    exact ⟨hOf.1, hOf.2.trans hCorrelation⟩

/- The last attempt completes the trace. -/
theorem runTrace_conclude
    (hMade : AttemptsMade run jobId last before)
    (reply : ConnectorReply) :
    let ending :=
      run.concludedRecord s
        (run.invokedRecord s before last) last reply
    RunTrace run last reply ending.1 ending.2.job
      ending.2.history := by
  cases reply with
  | ok result =>
      let settled :=
        settledJob run.ctx
          (startedJob run.ctx before.job last) last result
          none
      let own :=
        run.lastEntries before.job settled last result
          (jobCompletedEntry run.ctx settled last result)
      have hHistory :
          (run.concludedRecord s
              (run.invokedRecord s before last) last
              (.ok result)).2.history =
            before.history ++ own := by
        change _ ++ _ ++ _ ++ _ ++ _ = _
        simp only [List.append_assoc, List.cons_append,
          List.nil_append]
        rfl
      exact
        runTrace_settled hMade hHistory rfl
          (entryOf_lastEntries ⟨rfl, rfl⟩)
  | error exc =>
      let result := run.resultFromException exc
      let settled :=
        settledJob run.ctx
          (startedJob run.ctx before.job last) last result
          (some result.message)
      let own :=
        run.lastEntries before.job settled last result
          (jobFailedEntry run.ctx settled last result)
      have hHistory :
          (run.concludedRecord s
              (run.invokedRecord s before last) last
              (.error exc)).2.history =
            before.history ++ own := by
        change _ ++ _ ++ _ ++ _ ++ _ = _
        simp only [List.append_assoc, List.cons_append,
          List.nil_append]
        rfl
      exact
        runTrace_settled hMade hHistory rfl
          (entryOf_lastEntries ⟨rfl, rfl⟩)

end Connectors

end AccessIQ

------------------------------------------------------------
-- Connector Calls
------------------------------------------------------------

namespace AccessIQ

namespace Connectors

open Foundations Python

variable {run : ProvisioningRun}
variable {env : Environment}

theorem quiet_recordHistory
    (entry : ProvisioningHistory) :
    (recordHistory entry).Quiet := by
  unfold recordHistory
  split
  · exact trivial
  · exact Program.quiet_flush_ _

theorem quiet_flushProvisioningJob
    (loaded new : ProvisioningJob) :
    (flushProvisioningJob loaded new).Quiet := by
  unfold flushProvisioningJob
  split
  · exact trivial
  · exact Program.quiet_flush_ _

theorem quiet_recordAudit
    (action : AuditAction)
    (result : AuditResult)
    (reason : String) :
    (run.recordAudit action result reason).Quiet := by
  unfold ProvisioningRun.recordAudit
  split
  · refine Program.quiet_bind ?_ fun _ => ?_
    · exact Program.quiet_bind Program.quiet_view
        fun _ => Program.quiet_getOrRaise _ _
    · refine Program.quiet_bind ?_ fun _ => trivial
      exact Program.quiet_bind (Program.quiet_flush _)
        fun _ => trivial
  · exact trivial

theorem quiet_begin :
    run.begin.Quiet := by
  unfold ProvisioningRun.begin createJob
  refine Program.quiet_bind ?_ fun _ => ?_
  · refine Program.quiet_bind (Program.quiet_flush _)
      fun _ => ?_
    exact Program.quiet_bind (quiet_recordHistory _)
      fun _ => trivial
  · exact Program.quiet_bind (quiet_recordAudit _ _ _)
      fun _ => trivial

theorem quiet_invoke
    (progress : Progress)
    (attempt : Nat) :
    (run.invoke progress attempt).Quiet := by
  unfold ProvisioningRun.invoke startJob
  refine Program.quiet_bind ?_ fun _ => ?_
  · refine Program.quiet_bind
      (quiet_flushProvisioningJob _ _) fun _ => ?_
    exact Program.quiet_bind (quiet_recordHistory _)
      fun _ => trivial
  · refine Program.quiet_bind (quiet_recordHistory _)
      fun _ => ?_
    exact Program.quiet_bind (quiet_recordAudit _ _ _)
      fun _ => trivial

theorem quiet_retry
    (progress : Progress)
    (attempt : Nat)
    (exc : ConnectorException) :
    (run.retry progress attempt exc).Quiet := by
  unfold ProvisioningRun.retry recordRetry
  refine Program.quiet_bind ?_ fun _ => ?_
  · refine Program.quiet_bind
      (quiet_flushProvisioningJob _ _) fun _ => ?_
    exact Program.quiet_bind (quiet_recordHistory _)
      fun _ => trivial
  · refine Program.quiet_bind (quiet_recordAudit _ _ _)
      fun _ => ?_
    exact Program.quiet_bind (quiet_recordAudit _ _ _)
      fun _ => trivial

theorem quiet_conclude
    (progress : Progress)
    (attempt : Nat)
    (reply : ConnectorReply) :
    (run.conclude progress attempt reply).Quiet := by
  have hSettled :
      ∀ loaded new first second result,
        (do
          flushProvisioningJob loaded new
          recordHistory first
          recordHistory second
          return (new, result) :
          Handler (ProvisioningJob × List DomainEvent)).Quiet := by
    intro loaded new first second result
    refine Program.quiet_bind
      (quiet_flushProvisioningJob _ _) fun _ => ?_
    refine Program.quiet_bind (quiet_recordHistory _)
      fun _ => ?_
    exact Program.quiet_bind (quiet_recordHistory _)
      fun _ => trivial
  cases reply with
  | ok result =>
      refine Program.quiet_bind
        (hSettled _ _ _ _ _) fun _ => ?_
      refine Program.quiet_bind (quiet_recordAudit _ _ _)
        fun _ => ?_
      refine Program.quiet_bind (quiet_recordAudit _ _ _)
        fun _ => ?_
      exact Program.quiet_bind (quiet_recordAudit _ _ _)
        fun _ => trivial
  | error exc =>
      refine Program.quiet_bind (quiet_recordAudit _ _ _)
        fun _ => ?_
      refine Program.quiet_bind
        (hSettled _ _ _ _ _) fun _ => ?_
      exact Program.quiet_bind (quiet_recordAudit _ _ _)
        fun _ => trivial

/- Starting an attempt leaves the job with its key. -/
theorem returns_invoke
    (progress : Progress)
    (attempt : Nat) :
    (run.invoke progress attempt).Returns
      (fun next => next.job.id = progress.job.id) := by
  unfold ProvisioningRun.invoke
  refine Program.returns_bind _ fun _ => ?_
  refine Program.returns_bind _ fun _ => ?_
  exact Program.returns_bind _ fun _ => rfl

theorem returns_retry
    (progress : Progress)
    (attempt : Nat)
    (exc : ConnectorException) :
    (run.retry progress attempt exc).Returns
      (fun next => next.job.id = progress.job.id) := by
  unfold ProvisioningRun.retry
  refine Program.returns_bind _ fun _ => ?_
  refine Program.returns_bind _ fun _ => ?_
  exact Program.returns_bind _ fun _ => rfl

/- The calls of one attempt: none for a bad payload. -/
def attemptCalls
    (run : ProvisioningRun)
    (jobId : Int)
    (attempt : Nat) :
    List Question :=
  match checkPayload run.operation run.payload with
  | .ok () => [.callConnector (run.call jobId attempt)]
  | .error _ => []

theorem asked_callConnector
    (jobId : Int)
    (attempt : Nat)
    (session : Session Store DomainEvent) :
    (run.callConnector jobId attempt).asked env session =
      attemptCalls run jobId attempt := by
  unfold ProvisioningRun.callConnector attemptCalls
  cases checkPayload run.operation run.payload with
  | ok _ => rfl
  | error exc => rfl

theorem run_callConnector
    (jobId : Int)
    (attempt : Nat)
    (session : Session Store DomainEvent) :
    (run.callConnector jobId attempt).run env session =
      (.ok (run.reply env jobId attempt), session) := by
  unfold ProvisioningRun.callConnector ProvisioningRun.reply
  cases checkPayload run.operation run.payload with
  | ok _ => rfl
  | error exc => rfl

/- One attempt asks, and hands the reply on. -/
theorem asked_attempt
    (run : ProvisioningRun)
    (env : Environment)
    {progress : Progress}
    {attempt : Nat}
    (f :
      Progress → ConnectorReply →
        Handler (ConnectorResult × List Metric))
    (session : Session Store DomainEvent) :
    let attempted : Handler (ConnectorResult × List Metric) :=
      do
        let progress ← run.invoke progress attempt
        let reply ← run.callConnector progress.job.id attempt
        f progress reply
    (attempted.asked env session = [] ∧
        ∃ exc, (attempted.run env session).1 = .error exc) ∨
      ∃ next session',
        next.job.id = progress.job.id ∧
          attempted.asked env session =
            attemptCalls run progress.job.id attempt ++
              (f next
                (run.reply env progress.job.id
                  attempt)).asked env session' ∧
          attempted.run env session =
            (f next
              (run.reply env progress.job.id
                attempt)).run env session' := by
  intro attempted
  let call := fun progress : Progress => do
    let reply ← run.callConnector progress.job.id attempt
    f progress reply
  rcases Program.asked_bind_of_quiet (quiet_invoke _ _)
      (returns_invoke progress attempt) call env session with
    hFailed | ⟨next, session', hId, hAsked, hRun⟩
  · exact Or.inl hFailed
  · refine Or.inr ⟨next, session', hId, ?_, ?_⟩
    · rw [show attempted.asked env session = _ from hAsked]
      simp only [call]
      rw [Program.asked_bind, asked_callConnector,
        run_callConnector, hId]
    · rw [show attempted.run env session = _ from hRun]
      simp only [call]
      rw [Program.run_bind, run_callConnector, hId]

/- After its last call a run asks no more. -/
theorem asked_lastCall
    (jobId : Int)
    (progress : Progress)
    (reply : ConnectorReply)
    (session : Session Store DomainEvent)
    {attempt : Nat} :
    attemptCalls run jobId attempt ++
        (run.conclude progress attempt reply).asked env
          session =
      (List.range' attempt 1).flatMap
        (attemptCalls run jobId) := by
  rw [Program.asked_of_quiet (quiet_conclude _ _ _),
    List.append_nil]
  simp

/- The run ends here unless its exception is retried. -/
theorem lastAttempt_of_retriedException
    {reply : Nat → ConnectorReply}
    {remaining attempt : Nat}
    (hRemains : attempt < run.policy.maxAttempts) :
    lastAttempt run.policy.isRetryableException reply
        (remaining + 1) attempt =
      match run.retriedException (reply attempt) attempt with
      | none => attempt
      | some _ =>
          lastAttempt run.policy.isRetryableException reply
            remaining (attempt + 1) := by
  cases hReply : reply attempt with
  | ok result =>
      rw [lastAttempt_of_ok hReply,
        ProvisioningRun.retriedException_ok]
  | error exc =>
      rw [ProvisioningRun.retriedException_error hRemains]
      cases hRetryable :
          run.policy.isRetryableException exc with
      | false =>
          rw [lastAttempt_of_not_retryable hReply hRetryable]
          rfl
      | true =>
          rw [lastAttempt_of_retryable hReply hRetryable]
          rfl

/-
  How the loop goes on from a reply, with `remaining` attempts
  left after this one.
-/
def ProvisioningRun.proceed
    (run : ProvisioningRun)
    (remaining attempt : Nat)
    (progress : Progress)
    (reply : ConnectorReply) :
    Handler (ConnectorResult × List Metric) :=
  match run.retriedException reply attempt with
  | some exc => do
      let progress ← run.retry progress attempt exc
      run.attemptLoop remaining (attempt + 1) progress
  | none => run.conclude progress attempt reply

/-
  From an attempt on, the program calls the connector once for
  each attempt, and up to the last one when it returns.
-/
def CallsUpTo
    (run : ProvisioningRun)
    (env : Environment)
    (jobId : Int)
    (attempt last : Nat)
    (program : Handler (ConnectorResult × List Metric))
    (session : Session Store DomainEvent) : Prop :=
  ∃ made,
    made ≤ last + 1 - attempt ∧
      program.asked env session =
        (List.range' attempt made).flatMap
          (attemptCalls run jobId) ∧
      ((∃ a, (program.run env session).1 = .ok a) →
        made = last + 1 - attempt)

section Calls

variable {jobId : Int}
variable {attempt last : Nat}
variable
  {program rest : Handler (ConnectorResult × List Metric)}
variable {session session' : Session Store DomainEvent}

/- A program that fails need not have called at all. -/
theorem callsUpTo_of_error
    (hAsked : program.asked env session = [])
    (hError :
      ∃ exc, (program.run env session).1 = .error exc) :
    CallsUpTo run env jobId attempt last program session := by
  refine ⟨0, Nat.zero_le _, hAsked, ?_⟩
  rintro ⟨a, hOk⟩
  rcases hError with ⟨exc, hError⟩
  cases hError.symm.trans hOk

theorem callsUpTo_conclude
    {progress : Progress}
    {reply : ConnectorReply}
    (hAsked :
      program.asked env session =
        attemptCalls run jobId attempt ++
          (run.conclude progress attempt reply).asked env
            session') :
    CallsUpTo run env jobId attempt attempt program
      session := by
  have hOne : attempt + 1 - attempt = 1 := by omega
  unfold CallsUpTo
  rw [hOne]
  refine ⟨1, le_refl 1, ?_, fun _ => rfl⟩
  exact hAsked.trans (asked_lastCall _ _ _ _)

/- The calls of an attempt come before those of the rest. -/
theorem CallsUpTo.cons
    (hRest :
      CallsUpTo run env jobId (attempt + 1) last rest session')
    (hFrom : attempt ≤ last)
    (hAsked :
      program.asked env session =
        attemptCalls run jobId attempt ++
          rest.asked env session')
    (hRun :
      program.run env session = rest.run env session') :
    CallsUpTo run env jobId attempt last program session := by
  rcases hRest with ⟨made, hMade, hCalls, hAll⟩
  refine ⟨made + 1, by omega, ?_, ?_⟩
  · rw [hAsked, hCalls, List.range'_succ, List.flatMap_cons]
  · rintro ⟨a, hOk⟩
    rw [hRun] at hOk
    have hDone := hAll ⟨a, hOk⟩
    omega

end Calls

/- A retry calls nothing, and goes on with the same job. -/
theorem callsUpTo_retry
    {jobId : Int}
    {remaining attempt last : Nat}
    {progress : Progress}
    (exc : ConnectorException)
    (hLoop :
      ∀ next session,
        next.job.id = progress.job.id →
          CallsUpTo run env jobId (attempt + 1) last
            (run.attemptLoop remaining (attempt + 1) next)
            session)
    (session : Session Store DomainEvent) :
    CallsUpTo run env jobId (attempt + 1) last
      (do
        let next ← run.retry progress attempt exc
        run.attemptLoop remaining (attempt + 1) next)
      session := by
  rcases Program.asked_bind_of_quiet (quiet_retry _ _ _)
      (returns_retry progress attempt exc)
      (run.attemptLoop remaining (attempt + 1)) env
      session with
    ⟨hAsked, hError⟩ | ⟨next, session', hNext, hAsked, hRun⟩
  · exact callsUpTo_of_error hAsked hError
  · have hCalls := hLoop next session' hNext
    unfold CallsUpTo at hCalls ⊢
    rw [hAsked, hRun]
    exact hCalls

/-
  The loop calls the connector once for each attempt, and for
  all of them when it returns.
-/
theorem asked_attemptLoop
    {remaining attempt : Nat}
    {progress : Progress}
    (hMax : attempt + remaining = run.policy.maxAttempts)
    (session : Session Store DomainEvent) :
    CallsUpTo run env progress.job.id attempt
      (lastAttempt run.policy.isRetryableException
        (run.reply env progress.job.id) remaining attempt)
      (run.attemptLoop remaining attempt progress)
      session := by
  induction remaining generalizing attempt progress session with
  | zero =>
      unfold ProvisioningRun.attemptLoop
      rcases asked_attempt run env
        (fun progress reply =>
          run.conclude progress attempt reply) session with
        ⟨hAsked, hError⟩ | ⟨next, session', -, hAsked, -⟩
      · exact callsUpTo_of_error hAsked hError
      · exact callsUpTo_conclude hAsked
  | succ remaining ih =>
      have hRemains : attempt < run.policy.maxAttempts := by
        omega
      have hMax' :
          attempt + 1 + remaining =
            run.policy.maxAttempts := by
        omega
      rw [lastAttempt_of_retriedException hRemains]
      unfold ProvisioningRun.attemptLoop
      rcases asked_attempt run env
        (run.proceed remaining attempt) session with
        ⟨hAsked, hError⟩ |
          ⟨next, session', hNext, hAsked, hRun⟩
      · exact callsUpTo_of_error hAsked hError
      · generalize hReply :
          run.reply env progress.job.id attempt = reply
          at hAsked hRun ⊢
        unfold ProvisioningRun.proceed at hAsked hRun
        cases hRetried :
            run.retriedException reply attempt with
        | none =>
            simp only [hRetried] at hAsked
            exact callsUpTo_conclude hAsked
        | some exc =>
            simp only [hRetried] at hAsked hRun
            let last :=
              lastAttempt run.policy.isRetryableException
                (run.reply env progress.job.id) remaining
                (attempt + 1)
            have hFrom : attempt + 1 ≤ last :=
              le_lastAttempt remaining (attempt + 1)
            have hLoop :
                ∀ after session,
                  after.job.id = next.job.id →
                    CallsUpTo run env progress.job.id
                      (attempt + 1) last
                      (run.attemptLoop remaining (attempt + 1)
                        after)
                      session := by
              intro after session hAfter
              have hCalls :=
                @ih (attempt + 1) after hMax' session
              rw [hAfter.trans hNext] at hCalls
              exact hCalls
            exact
              (callsUpTo_retry exc hLoop session').cons
                (Nat.le_of_succ_le hFrom) hAsked hRun

end Connectors

end AccessIQ

------------------------------------------------------------
-- The Claimed Trace
------------------------------------------------------------

namespace AccessIQ

namespace Connectors

open Foundations Python

/- The values of the details can be serialised. -/
def JsonDetails
    (details : Details) : Prop :=
  ∀ member ∈ details, ∃ value, member.2 = .json value

/- The details of a reply can be serialised. -/
def JsonReply :
    ConnectorReply → Prop
  | .ok result => JsonDetails result.details
  | .error exc => JsonDetails exc.details

/- The details of every reply can be serialised. -/
def JsonReplies
    (env : Environment) : Prop :=
  ∀ call, JsonReply (env.answer (.callConnector call))

theorem serializeFailure_eq_none
    {result : ConnectorResult}
    (hJson : JsonDetails result.details) :
    serializeFailure result = none := by
  refine @serializeFailure_of_ok result
    (some result.details) ?_
  unfold serializeDetails
  simp only
  split
  · rename_i message hSome
    rcases List.exists_of_findSome?_eq_some hSome with
      ⟨member, hMember, hMatch⟩
    rcases hJson member hMember with ⟨value, hValue⟩
    rw [hValue] at hMatch
    cases hMatch
  · rfl

/-
  How a run ends: after retried exceptions, with a returned
  result or an exception that is not retried again.
-/
structure RunLength
    (run : ProvisioningRun)
    (reply : Nat → ConnectorReply)
    (last : Nat)
    (result : ConnectorResult) : Prop where
  positive : 1 ≤ last
  bounded : last ≤ run.policy.maxAttempts
  retried :
    ∀ attempt, 1 ≤ attempt → attempt < last →
      ∃ exc,
        reply attempt = .error exc ∧
          run.policy.isRetryableException exc = true
  ended :
    reply last = .ok result ∨
      ∃ exc,
        reply last = .error exc ∧
          (run.policy.isRetryableException exc = false ∨
            last = run.policy.maxAttempts) ∧
          result = run.resultFromException exc

variable {run : ProvisioningRun}
variable {s : Store}
variable {jobId : Int}

theorem runLength_attempts
    (reply : Nat → ConnectorReply) :
    RunLength run reply (run.attempts reply)
      (run.outcome s jobId reply).1 := by
  have hMax := run.policy.maxAttempts_pos
  have hEnd :
      (∃ result,
          reply (run.attempts reply) = .ok result) ∨
        ∃ exc,
          reply (run.attempts reply) = .error exc ∧
            (run.policy.isRetryableException exc = false ∨
              run.attempts reply =
                1 + (run.policy.maxAttempts - 1)) :=
    ended_at_lastAttempt (run.policy.maxAttempts - 1) 1
  have hLe :
      run.attempts reply ≤
        1 + (run.policy.maxAttempts - 1) :=
    lastAttempt_le (run.policy.maxAttempts - 1) 1
  have hOutcome :
      ∃ before,
        True ∧
          run.outcome s jobId reply =
            run.concludedRecord s
              (run.invokedRecord s before
                (run.attempts reply))
              (run.attempts reply)
              (reply (run.attempts reply)) :=
    ProvisioningRun.outcome_eq (fun _ _ => True) trivial
      (fun _ _ _ _ _ => trivial)
  rcases hOutcome with ⟨before, -, hResult⟩
  refine
    { positive := le_lastAttempt _ 1
      bounded := by omega
      retried := fun attempt hFrom hBefore =>
        retried_before_lastAttempt hFrom hBefore
      ended := ?_ }
  rw [hResult]
  rcases hEnd with ⟨result, hReply⟩ | ⟨exc, hReply, hLast⟩
  · left
    rw [hReply]
    rfl
  · right
    refine ⟨exc, hReply, ?_, ?_⟩
    · rcases hLast with hNot | hLast
      · exact Or.inl hNot
      · exact Or.inr (by omega)
    · rw [hReply]
      rfl

/- The record of a run traces its attempts. -/
theorem runTrace_outcome
    (reply : Nat → ConnectorReply) :
    let ending := run.outcome s jobId reply
    RunTrace run (run.attempts reply)
      (reply (run.attempts reply)) ending.1 ending.2.job
      ending.2.history := by
  have hOutcome :
      ∃ before,
        AttemptsMade run jobId (run.attempts reply) before ∧
          run.outcome s jobId reply =
            run.concludedRecord s
              (run.invokedRecord s before
                (run.attempts reply))
              (run.attempts reply)
              (reply (run.attempts reply)) :=
    ProvisioningRun.outcome_eq (AttemptsMade run jobId)
      attemptsMade_first
      (fun _ _ exc hMade _ => attemptsMade_next hMade exc)
  rcases hOutcome with ⟨before, hMade, hResult⟩
  simp only [hResult]
  exact runTrace_conclude hMade _

/- The keys of the stored entries do not matter. -/
theorem RunTrace.stored
    {last : Nat}
    {reply : ConnectorReply}
    {result : ConnectorResult}
    {job : ProvisioningJob}
    {history added : List ProvisioningHistory}
    (hTrace : RunTrace run last reply result job history)
    (hAdded :
      List.Forall₂
        (fun entry stored =>
          stored = Row.withId entry (Row.id stored))
        history added) :
    RunTrace run last reply result job added where
  correlationId := hTrace.correlationId
  attemptCount := hTrace.attemptCount
  retryCount := hTrace.retryCount
  status := hTrace.status
  trace := by
    rw [← hTrace.trace]
    exact Table.map_of_keyed hAdded fun _ _ => rfl
  entries := by
    have hEntries := hTrace.entries
    clear hTrace
    induction hAdded with
    | nil =>
        intro entry hEntry
        cases hEntry
    | cons hFirst _ ih =>
        intro entry hEntry
        rcases List.mem_cons.mp hEntry with rfl | hRest
        · have hOld := hEntries _ List.mem_cons_self
          rw [hFirst]
          exact hOld
        · exact ih
            (fun old hOld =>
              hEntries old (List.mem_cons_of_mem _ hOld))
            entry hRest

/- Recorded delays never decrease and keep the bounds. -/
theorem recordedDelays_ordered
    (policy : RetryPolicy)
    {last : Nat}
    (hPositive : 1 ≤ last)
    (reply : ConnectorReply) :
    let delays :=
      recordedDelays (expectedTrace policy last reply)
    delays.Pairwise (· ≤ ·) ∧
      ∀ delayMs ∈ delays,
        (policy.baseDelayMs : Int) ≤ delayMs ∧
          delayMs ≤ policy.maxDelayMs := by
  intro delays
  have hDelays :
      delays =
        (List.range' 1 (last - 1)).map fun k =>
          ((policy.nextDelayMs k : Nat) : Int) :=
    recordedDelays_expectedTrace policy hPositive reply
  rw [hDelays]
  constructor
  · rw [List.pairwise_map]
    refine (List.pairwise_lt_range' _).imp ?_
    intro k j hLt
    have hMono :=
      cappedBackoff_mono policy.baseDelayMs
        policy.maxDelayMs (le_of_lt hLt)
    exact Int.ofNat_le.mpr hMono
  · intro delayMs hDelay
    rcases List.mem_map.mp hDelay with ⟨k, -, rfl⟩
    have hLow := le_cappedBackoff policy.base_le_max k
    have hHigh :=
      cappedBackoff_le policy.baseDelayMs policy.maxDelayMs k
    exact ⟨Int.ofNat_le.mpr hLow, Int.ofNat_le.mpr hHigh⟩

/- Existing users make the audit events of a run resolve. -/
theorem auditsResolve_of_users
    {run : ProvisioningRun}
    {s : Store}
    (hUsers :
      ∀ userId,
        run.requesterId = some userId ∨
            run.targetUserId = some userId →
          s.users.contains userId = true) :
    run.AuditsResolve s := by
  intro action result reason event hEvent
  unfold ProvisioningRun.auditRows at hEvent
  split at hEvent
  · rename_i requesterId targetUserId entitlement hRequester
      hTarget hEntitlement
    rcases List.mem_singleton.mp hEvent with rfl
    have hMem := List.mem_of_find?_eq_some hEntitlement
    have hFound := List.find?_some hEntitlement
    simp only [Bool.and_eq_true] at hFound
    have hApplication :
        s.applications.contains entitlement.applicationId =
          true := by
      cases hGet :
          s.applications.get? entitlement.applicationId with
      | none =>
          rw [hGet] at hFound
          exact absurd hFound.2 Bool.false_ne_true
      | some application =>
          exact Table.contains_of_get? hGet
    have hRequesterExists :=
      hUsers requesterId (Or.inl hRequester)
    have hTargetExists :=
      hUsers targetUserId (Or.inr hTarget)
    have hEntitlementExists :
        s.entitlements.contains entitlement.id = true :=
      (Table.contains_iff _).mpr ⟨entitlement, hMem, rfl⟩
    unfold Store.auditReferencesResolve
    simp only [Bool.and_eq_true]
    exact ⟨⟨⟨Store.resolves_of_contains hRequesterExists,
      Store.resolves_of_contains hTargetExists⟩,
      Store.resolves_of_contains hApplication⟩,
      Store.resolves_of_contains hEntitlementExists⟩
  · cases hEvent

/- A setting of JSON details keeps them JSON. -/
theorem jsonDetails_setDetail
    {details : Details}
    (hJson : JsonDetails details)
    (key : String)
    (value : Json) :
    JsonDetails
      (ProvisioningRun.setDetail details key
        (.json value)) := by
  intro member hMember
  rcases List.mem_append.mp hMember with hOld | hNew
  · exact hJson member (List.mem_of_mem_filter hOld)
  · rcases List.mem_singleton.mp hNew with rfl
    exact ⟨value, rfl⟩

/- A payload is refused with a validation error. -/
theorem checkPayload_error
    {operation : ConnectorOperation}
    {payload : Payload}
    {exc : ConnectorException}
    (hError : checkPayload operation payload = .error exc) :
    ∃ message, exc = validationError message := by
  have hValue :
      ∀ key exc,
        requirePayloadValue payload key = .error exc →
          ∃ message, exc = validationError message := by
    intro key exc hError
    unfold requirePayloadValue at hError
    split at hError
    · cases hError
    · cases hError
      exact ⟨_, rfl⟩
  have hMapping :
      ∀ key exc,
        requireMapping payload key = .error exc →
          ∃ message, exc = validationError message := by
    intro key exc hError
    unfold requireMapping at hError
    split at hError
    · split at hError
      · cases hError
      · cases hError
        exact ⟨_, rfl⟩
    · cases hError
      exact ⟨_, rfl⟩
  have hBoth :
      ∀ (first second : Except ConnectorException Unit),
        (∀ exc, first = .error exc →
            ∃ message, exc = validationError message) →
        (∀ exc, second = .error exc →
            ∃ message, exc = validationError message) →
          (do first; second) = .error exc →
            ∃ message, exc = validationError message := by
    intro first second hFirst hSecond hEq
    cases first with
    | error e => exact hFirst exc hEq
    | ok _ => exact hSecond exc hEq
  cases operation with
  | createUser => cases hError
  | createGroup => cases hError
  | updateUser => exact hValue _ _ hError
  | disableUser => exact hValue _ _ hError
  | deleteUser => exact hValue _ _ hError
  | updateGroup => exact hValue _ _ hError
  | deleteGroup => exact hValue _ _ hError
  | addGroupMember =>
      exact hBoth _ _ (hValue _) (hValue _) hError
  | removeGroupMember =>
      exact hBoth _ _ (hValue _) (hValue _) hError
  | grantEntitlement =>
      exact hBoth _ _ (hValue _) (hMapping _) hError
  | revokeEntitlement =>
      exact hBoth _ _ (hValue _) (hMapping _) hError
  | healthCheck =>
      cases hError
      exact ⟨_, rfl⟩

theorem jsonReply_reply
    {run : ProvisioningRun}
    {env : Environment}
    (hJson : JsonReplies env)
    (jobId : Int)
    (attempt : Nat) :
    JsonReply (run.reply env jobId attempt) := by
  unfold ProvisioningRun.reply
  cases hPayload :
      checkPayload run.operation run.payload with
  | error exc =>
      rcases checkPayload_error hPayload with ⟨message, rfl⟩
      intro member hMember
      cases hMember
  | ok _ => exact hJson (run.call jobId attempt)

/- The result of a run can be serialised. -/
theorem serializeFailure_ending
    {run : ProvisioningRun}
    {env : Environment}
    (hJson : JsonReplies env)
    (s : Store) :
    serializeFailure (run.ending env s).1 = none := by
  have hLength :
      RunLength run (run.reply env (nextJobId s))
        (run.attempts (run.reply env (nextJobId s)))
        (run.ending env s).1 :=
    runLength_attempts _
  have hReply :=
    @jsonReply_reply run env hJson (nextJobId s)
      (run.attempts (run.reply env (nextJobId s)))
  refine serializeFailure_eq_none ?_
  rcases hLength.ended with hReturned | ⟨exc, hRaised, -, hEq⟩
  · rw [hReturned] at hReply
    exact hReply
  · rw [hRaised] at hReply
    rw [hEq]
    exact jsonDetails_setDetail hReply _ _

/-
  What `execute` leaves behind when it returns: one job with
  its history, and nothing else in these tables.
-/
structure ExecuteTraced
    (run : ProvisioningRun)
    (reply : Nat → ConnectorReply)
    (before after : Store)
    (result : ConnectorResult)
    (job : ProvisioningJob)
    (history : List ProvisioningHistory) : Prop where
  length :
    RunLength run reply (run.attempts reply) result
  stored :
    after.provisioningJobs.rows =
      before.provisioningJobs.rows ++ [job]
  recorded :
    after.provisioningHistory.rows =
      before.provisioningHistory.rows ++ history
  trace :
    RunTrace run (run.attempts reply)
      (reply (run.attempts reply)) result job history
  delays :
    let delays := recordedDelays (history.map traceStep)
    delays.Pairwise (· ≤ ·) ∧
      ∀ delayMs ∈ delays,
        (run.policy.baseDelayMs : Int) ≤ delayMs ∧
          delayMs ≤ run.policy.maxDelayMs

/- The job of a run gets the next key. -/
theorem begin_job_id
    {run : ProvisioningRun}
    {env : Environment}
    {c s : Store}
    {p : List DomainEvent}
    {tick : Nat}
    {progress : Progress}
    (hBegin :
      (run.begin.run env ⟨⟨c, s, false, p⟩, tick⟩).1 =
        .ok progress) :
    progress.job.id = nextJobId s := by
  have hWp :
      run.begin.wp env.world
        (fun r _ =>
          ∀ progress, r = .ok progress →
            progress.job.id = nextJobId s)
        ⟨c, s, false, p⟩ := by
    refine wp_begin ?_ ?_ ?_
    · intro e s' _ progress hOk
      cases hOk
    · intro s' _ _ _ progress hOk
      cases hOk
    · rintro s' record _ rfl _ progress hOk
      cases hOk
      rfl
  exact Program.run_of_wp env.conforms_world
    (s := ⟨⟨c, s, false, p⟩, tick⟩) hWp progress hBegin

variable [Platform]

/- A run that returns called the connector at each attempt. -/
theorem asked_execute
    {env : Environment}
    {orchestrator : ProvisioningOrchestrator}
    {ctx : RequestContext}
    {arguments : ExecuteArguments}
    {connector : String}
    (hConnector :
      orchestrator.registry.get arguments.connectorName =
        .ok connector)
    {c s : Store}
    {p : List DomainEvent}
    {tick : Nat}
    (hReturns :
      ∃ a,
        ((orchestrator.execute ctx arguments).run env
          ⟨⟨c, s, false, p⟩, tick⟩).1 = .ok a) :
    let run := orchestrator.run ctx arguments connector
    (orchestrator.execute ctx arguments).asked env
        ⟨⟨c, s, false, p⟩, tick⟩ =
      (List.range' 1
        (run.attempts
          (run.reply env (nextJobId s)))).flatMap
        (attemptCalls run (nextJobId s)) := by
  intro run
  have hExecute :
      orchestrator.execute ctx arguments =
        run.begin >>=
          run.attemptLoop (run.policy.maxAttempts - 1) 1 := by
    unfold ProvisioningOrchestrator.execute
    rw [hConnector]
  rcases hReturns with ⟨a, hReturns⟩
  rw [hExecute, Program.run_bind] at hReturns
  rw [hExecute, Program.asked_bind,
    Program.asked_of_quiet quiet_begin, List.nil_append]
  rcases hBegin :
    run.begin.run env ⟨⟨c, s, false, p⟩, tick⟩ with
    ⟨exc | progress, session'⟩
  · rw [hBegin] at hReturns
    cases hReturns
  · rw [hBegin] at hReturns
    have hId : progress.job.id = nextJobId s :=
      begin_job_id (congrArg Prod.fst hBegin)
    have hPositive := run.policy.maxAttempts_pos
    have hMax :
        1 + (run.policy.maxAttempts - 1) =
          run.policy.maxAttempts := by
      omega
    have hLoop :=
      @asked_attemptLoop run env _ _ progress hMax session'
    rcases hLoop with ⟨made, -, hCalls, hAll⟩
    have hMade := hAll ⟨a, hReturns⟩
    rw [hId] at hCalls hMade
    rw [Nat.add_sub_cancel] at hMade
    rw [hMade] at hCalls
    exact hCalls

/-
  A run of `execute` on a ready database returns; it called
  the connector once for each attempt up to the last, and the
  history of its job traces these attempts.
-/
theorem execute_traced
    {env : Environment}
    (hSteady : env.Steady)
    (hJson : JsonReplies env)
    (orchestrator : ProvisioningOrchestrator)
    (ctx : RequestContext)
    (arguments : ExecuteArguments)
    {connector : String}
    (hConnector :
      orchestrator.registry.get arguments.connectorName =
        .ok connector)
    (session : Session Store DomainEvent)
    (hUnbroken : session.broken = false)
    (hSeeded :
      ProvisioningRun.auditEntitlement session.working ≠ none)
    (hUsers :
      ∀ userId,
        arguments.requesterId = some userId ∨
            arguments.targetUserId = some userId →
          session.working.users.contains userId = true) :
    let run := orchestrator.run ctx arguments connector
    let jobId := nextJobId session.working
    let reply := run.reply env jobId
    let final :=
      (orchestrator.execute ctx arguments).run env session
    (orchestrator.execute ctx arguments).asked env session =
        (List.range' 1 (run.attempts reply)).flatMap
          (attemptCalls run jobId) ∧
      ∃ result metrics job history,
        final.1 = .ok (result, metrics) ∧
          ExecuteTraced run reply session.working
            final.2.working result job history := by
  intro run jobId reply final
  rcases session with ⟨⟨c, s, broken, p⟩, tick⟩
  simp only at hUnbroken hSeeded hUsers
  subst hUnbroken
  have hResolve : run.AuditsResolve s :=
    auditsResolve_of_users hUsers
  have hOutcome :=
    Program.run_of_wp env.conforms_world
      (s := ⟨⟨c, s, false, p⟩, tick⟩)
      (wp_execute (w := env.world) (c := c) (p := p)
        (s := s) (answers_world env) orchestrator ctx
        arguments)
  change
    ExecuteOutcome _ _ _ _ _ _ _ _ final.1
      final.2.toMoment at hOutcome
  have hCalls :
      (∃ a, final.1 = .ok a) →
        (orchestrator.execute ctx arguments).asked env
            ⟨⟨c, s, false, p⟩, tick⟩ =
          (List.range' 1 (run.attempts reply)).flatMap
            (attemptCalls run jobId) :=
    fun hReturns => asked_execute hConnector hReturns
  generalize hFinal : final.2.toMoment = m at hOutcome
  generalize hResult : final.1 = r at hOutcome hCalls ⊢
  cases hOutcome with
  | unknownConnector exc hUnknown =>
      rw [hConnector] at hUnknown
      cases hUnknown
  | notSeeded connector' s' _ _ hNone _ =>
      exact absurd hNone hSeeded
  | ran connector' r m hConnector' hRun =>
      rw [hConnector] at hConnector'
      cases hConnector'
      cases hRun with
      | returned s' _ hSerialized hRecorded =>
          rcases hRecorded.history with
            ⟨history, hHistory, hAdded⟩
          have hLength : RunLength _ _ _ _ :=
            @runLength_attempts run s jobId reply
          have hTrace :=
            (@runTrace_outcome run s jobId reply).stored
              hAdded
          refine ⟨hCalls ⟨_, rfl⟩, (run.ending env s).1, _,
            (run.ending env s).2.job, history, rfl, ?_⟩
          exact
            { length := hLength
              stored := hRecorded.jobs
              recorded := hHistory
              trace := hTrace
              delays := by
                rw [hTrace.trace]
                exact recordedDelays_ordered run.policy
                  hLength.positive _ }
      | unserialized s' record message _ hMessage _ _ =>
          rw [serializeFailure_ending hJson] at hMessage
          cases hMessage
      | databaseFailed e s' hTrouble =>
          rcases hTrouble with hFail | hNot
          · exact absurd hFail hSteady.not_mayFail
          · exact absurd hResolve hNot

end Connectors

end AccessIQ

------------------------------------------------------------
-- A Retried Revocation
------------------------------------------------------------

namespace AccessIQ

namespace Connectors

open Foundations Python

attribute [local instance] asciiPlatform

/-
  An environment whose connectors time out once and succeed
  afterwards.
-/
def flakyEnvironment : Environment where
  fails _ := false
  answer
    | .callConnector call =>
        if call.attempt < 2 then
          .error
            { className := "RetryableConnectorError"
              baseClasses := ["ConnectorError", "Exception"]
              message := "Connector timed out"
              retryable := true
              details := [] }
        else
          .ok
            { connector := call.connector
              operation := call.operation
              status := .success
              message := "Entitlement revoked"
              durationMs := 12500
              details :=
                [("account", .json (.string "bob"))] }

def mockOrchestrator : ProvisioningOrchestrator where
  registry :=
    ⟨["github", "salesforce", "zendesk", "finance"]⟩

/- Alice has Bob's Salesforce access revoked. -/
def salesforceRevocation : ExecuteArguments where
  connectorName := "salesforce"
  operation := .revokeEntitlement
  payload :=
    [("user_id", some ⟨"1", false⟩),
      ("entitlement", some ⟨"Salesforce User", true⟩)]
  requesterId := some 3
  targetUserId := some 1

def salesforceContext : RequestContext :=
  ⟨"corr-salesforce", 1000, 3⟩

theorem flakyEnvironment_jsonReplies :
    JsonReplies flakyEnvironment := by
  intro call
  change JsonReply (if call.attempt < 2 then _ else _)
  by_cases hFirst : call.attempt < 2
  · rw [if_pos hFirst]
    intro member hMember
    cases hMember
  · rw [if_neg hFirst]
    intro member hMember
    rcases List.mem_singleton.mp hMember with rfl
    exact ⟨_, rfl⟩

/- The first call times out, and the second one succeeds. -/
theorem execute_traced_flaky :
    let session : Session Store DomainEvent :=
      ⟨Moment.start (seededStore .postgresql), 0⟩
    let run :=
      mockOrchestrator.run salesforceContext
        salesforceRevocation "salesforce"
    let jobId := nextJobId session.working
    let reply := run.reply flakyEnvironment jobId
    let execute :=
      mockOrchestrator.execute salesforceContext
        salesforceRevocation
    let final := execute.run flakyEnvironment session
    run.attempts reply = 2 ∧
      execute.asked flakyEnvironment session =
        (List.range' 1 (run.attempts reply)).flatMap
          (attemptCalls run jobId) ∧
      ∃ result metrics job history,
        final.1 = .ok (result, metrics) ∧
          ExecuteTraced run reply session.working
            final.2.working result job history := by
  have hConnector :
      mockOrchestrator.registry.get
          salesforceRevocation.connectorName =
        .ok "salesforce" := by
    decide +kernel
  have hUsers :
      ∀ userId,
        salesforceRevocation.requesterId = some userId ∨
            salesforceRevocation.targetUserId =
              some userId →
          (seededStore .postgresql).users.contains userId =
            true := by
    rintro userId (hUser | hUser)
    · cases hUser
      decide +kernel
    · cases hUser
      decide +kernel
  refine ⟨by decide +kernel, ?_⟩
  exact execute_traced (fun _ => rfl)
    flakyEnvironment_jsonReplies mockOrchestrator
    salesforceContext salesforceRevocation hConnector
    ⟨Moment.start (seededStore .postgresql), 0⟩ rfl
    (by decide +kernel) hUsers

end Connectors

end AccessIQ
