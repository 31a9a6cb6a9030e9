import AccessIQ.Connectors.History

/-
  What a run reports about its outcome.

  The orchestrator reports a success where the connector
  returned and a failure where it raised.  The report agrees
  with the status of the result unless a connector returned a
  result that says it failed.

  Key definitions include:
    * `Report`
    * `Report.Agrees`
    * `ReturnedFailure`

  Key theorems include:
    * `report_outcome`
    * `execute_agrees_iff`
-/

------------------------------------------------------------
-- Reports
------------------------------------------------------------

namespace AccessIQ

namespace Connectors

open Foundations Python

/- The events that tell how a run ended. -/
inductive OutcomeMark where
  | connectorSucceeded
  | provisioningCompleted
  | connectorFailed
  | provisioningFailed
  deriving DecidableEq, Repr

def outcomeMark
    (event : DomainEvent) :
    Option OutcomeMark :=
  match event.kind with
  | .connectorSucceeded .. => some .connectorSucceeded
  | .provisioningCompleted .. => some .provisioningCompleted
  | .connectorFailed .. => some .connectorFailed
  | .provisioningFailed .. => some .provisioningFailed
  | _ => none

/- What a run reports about its outcome. -/
structure Report where
  marks : List OutcomeMark
  auditActions : List AuditAction
  metrics : List Metric
  entryTypes : List ProvisioningHistoryEventType
  lastError : Option String
  deriving DecidableEq, Repr

/- The report of what a run published and stored. -/
def reportOf
    (events : List DomainEvent)
    (audits : List AuditEvent)
    (metrics : List Metric)
    (history : List ProvisioningHistory)
    (job : ProvisioningJob) :
    Report where
  marks := events.filterMap outcomeMark
  auditActions := audits.map (·.action)
  metrics := metrics
  entryTypes := history.map (·.eventType)
  lastError := job.lastError

def Record.report
    (record : Record) :
    Report :=
  reportOf (record.pending ++ record.events) record.audits
    record.metrics record.history record.job

/- A result that says the connector did what it was asked. -/
def ConnectorResult.Succeeded
    (result : ConnectorResult) : Prop :=
  result.status = .success ∨ result.status = .skipped

instance
    (result : ConnectorResult) :
    Decidable result.Succeeded :=
  inferInstanceAs (Decidable (_ ∨ _))

def successMetric : Metric where
  name := "connector_success_total"

/-
  The report agrees with the result: a success is reported
  exactly for a result that succeeded, and a failure for any
  other.
-/
structure Report.Agrees
    (report : Report)
    (audited : Prop)
    (result : ConnectorResult) : Prop where
  succeededEvent :
    .connectorSucceeded ∈ report.marks ↔ result.Succeeded
  completedEvent :
    .provisioningCompleted ∈ report.marks ↔ result.Succeeded
  successAudit :
    audited →
      (.connectorSuccess ∈ report.auditActions ↔
        result.Succeeded)
  successMetric :
    successMetric ∈ report.metrics ↔ result.Succeeded
  completedEntry :
    .jobCompleted ∈ report.entryTypes ↔ result.Succeeded
  failedEvents :
    ¬ result.Succeeded →
      .connectorFailed ∈ report.marks ∧
        .provisioningFailed ∈ report.marks
  failedEntry :
    ¬ result.Succeeded → .jobFailed ∈ report.entryTypes
  lastError :
    ¬ result.Succeeded → report.lastError ≠ none

/- A connector returned a result that says it failed. -/
def ReturnedFailure
    (reply : ConnectorReply) : Prop :=
  ∃ result, reply = .ok result ∧ ¬ result.Succeeded

end Connectors

end AccessIQ

------------------------------------------------------------
-- The Report Of A Run
------------------------------------------------------------

namespace AccessIQ

namespace Connectors

open Foundations Python

variable {run : ProvisioningRun}
variable {s : Store}
variable {jobId : Int}

theorem action_auditRows
    {action : AuditAction}
    {result : AuditResult}
    {reason : String} :
    ∀ a ∈
      (run.auditRows s action result reason).map (·.action),
      a = action := by
  intro a hMem
  unfold ProvisioningRun.auditRows at hMem
  split at hMem
  · exact List.mem_singleton.mp hMem
  · cases hMem

/- An audited run writes the audit event of an action. -/
theorem mem_auditRows
    (hReady : AuditReady run s)
    (hAudited : run.Audited)
    {action : AuditAction}
    {result : AuditResult}
    {reason : String} :
    action ∈
      (run.auditRows s action result reason).map
        (·.action) := by
  have hEntitlement := hReady hAudited
  rcases hAudited with ⟨hRequester, hTarget⟩
  rcases Option.isSome_iff_exists.mp hRequester with
    ⟨requesterId, hRequester⟩
  rcases Option.isSome_iff_exists.mp hTarget with
    ⟨targetUserId, hTarget⟩
  rcases Option.ne_none_iff_exists'.mp hEntitlement with
    ⟨entitlement, hEntitlement⟩
  unfold ProvisioningRun.auditRows
  rw [hRequester, hTarget, hEntitlement]
  exact List.mem_singleton.mpr rfl

/- The report after something more was reported. -/
def Report.add
    (report : Report)
    (marks : List OutcomeMark)
    (audits : List AuditEvent)
    (metrics : List Metric)
    (entryTypes : List ProvisioningHistoryEventType)
    (lastError : Option String) :
    Report where
  marks := report.marks ++ marks
  auditActions := report.auditActions ++ audits.map (·.action)
  metrics := report.metrics ++ metrics
  entryTypes := report.entryTypes ++ entryTypes
  lastError := lastError

theorem report_invoked
    (record : Record)
    (attempt : Nat) :
    (run.invokedRecord s record attempt).report =
      record.report.add []
        (run.auditRows s .connectorInvocation .succeeded
          run.connectorCalled)
        [{ name := "connector_invocations_total" },
          run.executions "started"]
        [.jobStarted, .connectorInvocation]
        record.job.lastError := by
  unfold Record.report reportOf Report.add
    ProvisioningRun.invokedRecord ProvisioningRun.invoked
  simp [List.filterMap_cons, outcomeMark, jobStartedEvent, ProvisioningRun.event,
    startedJob, jobStartedEntry,
    ProvisioningRun.invocationEntry, newHistory]

theorem report_retried
    (record : Record)
    (attempt : Nat)
    (exc : ConnectorException) :
    (run.retriedRecord s record attempt exc).report =
      record.report.add []
        (run.auditRows s .connectorRetryScheduled .succeeded
            (run.retryScheduledReason exc.message) ++
          run.auditRows s .provisioningRetryRecorded
            .succeeded (run.retryRecordedReason exc.message))
        [{ name := "connector_retries_total" }]
        [.retryRecorded]
        (some exc.message) := by
  unfold Record.report reportOf Report.add
    ProvisioningRun.retriedRecord ProvisioningRun.retried
  simp [List.filterMap_cons, outcomeMark, retryRecordedEvent,
    ProvisioningRun.event, retriedJob, retryRecordedEntry,
    newHistory]

theorem report_returned
    (record : Record)
    (attempt : Nat)
    (result : ConnectorResult) :
    (run.returnedRecord s record attempt result).report =
      record.report.add
        [.connectorSucceeded, .provisioningCompleted]
        (run.auditRows s .connectorSuccess .succeeded
            result.message ++
          run.auditRows s .connectorProvisioningCompleted
            .succeeded run.provisioningCompletedReason ++
          run.auditRows s .provisioningJobCompleted .succeeded
            (run.completedJobReason record.job.id))
        [successMetric,
          run.executions
            (ProvisioningRun.statusValue result.status)]
        [.connectorResult, .jobCompleted]
        none := by
  unfold Record.report reportOf Report.add
    ProvisioningRun.returnedRecord ProvisioningRun.returned
  simp [List.filterMap_cons, outcomeMark, jobCompletedEvent, successMetric,
    ProvisioningRun.event, settledJob, connectorResultEntry,
    jobCompletedEntry, newHistory]

theorem report_failed
    (record : Record)
    (attempt : Nat)
    (result : ConnectorResult) :
    (run.failedRecord s record attempt result).report =
      record.report.add
        [.connectorFailed, .provisioningFailed]
        (run.auditRows s .connectorFailure .denied
            result.message ++
          run.auditRows s .provisioningJobFailed .denied
            (ProvisioningRun.failedJobReason record.job.id
              result.message))
        [{ name := "connector_failures_total" },
          run.executions "failed",
          { name := "accessiq_connector_failures_total"
            labels :=
              [("connector", run.connector),
                ("operation", run.operation.value),
                ("retryable",
                  if result.retryable then "true"
                  else "false")] }]
        [.connectorResult, .jobFailed]
        (some result.message) := by
  unfold Record.report reportOf Report.add
    ProvisioningRun.failedRecord ProvisioningRun.failed
  simp [List.filterMap_cons, outcomeMark, jobFailedEvent,
    ProvisioningRun.event, settledJob, connectorResultEntry,
    jobFailedEntry, newHistory]

/- Nothing of the report tells an outcome yet. -/
structure Unsettled
    (report : Report) : Prop where
  marks : report.marks = []
  audits : .connectorSuccess ∉ report.auditActions
  metrics : successMetric ∉ report.metrics
  completed : .jobCompleted ∉ report.entryTypes

theorem unsettled_created :
    Unsettled (run.createdRecord s jobId).report where
  marks := rfl
  audits := by
    intro hMem
    cases action_auditRows _ hMem
  metrics := List.not_mem_nil
  completed := by
    intro hMem
    cases List.mem_singleton.mp hMem

/- More of what tells no outcome. -/
theorem Unsettled.add
    {report : Report}
    (hUnsettled : Unsettled report)
    {audits : List AuditEvent}
    {metrics : List Metric}
    {entryTypes : List ProvisioningHistoryEventType}
    {lastError : Option String}
    (hAudits :
      .connectorSuccess ∉ audits.map (·.action))
    (hMetrics : successMetric ∉ metrics)
    (hEntries : .jobCompleted ∉ entryTypes) :
    Unsettled
      (report.add [] audits metrics entryTypes
        lastError) where
  marks := by
    change report.marks ++ [] = []
    rw [hUnsettled.marks]
    rfl
  audits := by
    intro hMem
    rcases List.mem_append.mp hMem with hOld | hNew
    · exact hUnsettled.audits hOld
    · exact hAudits hNew
  metrics := by
    intro hMem
    rcases List.mem_append.mp hMem with hOld | hNew
    · exact hUnsettled.metrics hOld
    · exact hMetrics hNew
  completed := by
    intro hMem
    rcases List.mem_append.mp hMem with hOld | hNew
    · exact hUnsettled.completed hOld
    · exact hEntries hNew

theorem unsettled_invoked
    {record : Record}
    (hUnsettled : Unsettled record.report)
    (attempt : Nat) :
    Unsettled (run.invokedRecord s record attempt).report := by
  rw [report_invoked]
  refine hUnsettled.add ?_ ?_ ?_
  · intro hMem
    cases action_auditRows _ hMem
  · simp [successMetric, ProvisioningRun.executions]
  · decide

theorem unsettled_retried
    {record : Record}
    (hUnsettled : Unsettled record.report)
    (attempt : Nat)
    (exc : ConnectorException) :
    Unsettled
      (run.retriedRecord s record attempt exc).report := by
  rw [report_retried]
  refine hUnsettled.add ?_ ?_ ?_
  · rw [List.map_append]
    intro hMem
    rcases List.mem_append.mp hMem with hFirst | hSecond
    · cases action_auditRows _ hFirst
    · cases action_auditRows _ hSecond
  · simp [successMetric]
  · decide

/- Everything reports a success where the call returned. -/
theorem agrees_returned
    (hReady : AuditReady run s)
    (record : Record)
    (attempt : Nat)
    (result : ConnectorResult) :
    (run.returnedRecord s record attempt
        result).report.Agrees run.Audited result ↔
      result.Succeeded := by
  rw [report_returned]
  have hMarks :
      ∀ mark,
        mark ∈
            [OutcomeMark.connectorSucceeded,
              .provisioningCompleted] →
          mark ∈
            record.report.marks ++
              [.connectorSucceeded,
                .provisioningCompleted] :=
    fun mark hMem => List.mem_append_right _ hMem
  constructor
  · intro hAgrees
    exact hAgrees.succeededEvent.mp
      (hMarks _ List.mem_cons_self)
  · intro hSucceeded
    refine
      { succeededEvent := ?_
        completedEvent := ?_
        successAudit := ?_
        successMetric := ?_
        completedEntry := ?_
        failedEvents := fun hNot => absurd hSucceeded hNot
        failedEntry := fun hNot => absurd hSucceeded hNot
        lastError := fun hNot => absurd hSucceeded hNot }
    · exact iff_of_true (hMarks _ List.mem_cons_self)
        hSucceeded
    · refine iff_of_true (hMarks _ ?_) hSucceeded
      exact List.mem_cons_of_mem _ List.mem_cons_self
    · intro hAudited
      refine iff_of_true ?_ hSucceeded
      refine List.mem_append_right _ ?_
      rw [List.map_append, List.map_append]
      refine List.mem_append_left _
        (List.mem_append_left _ ?_)
      exact mem_auditRows hReady hAudited
    · refine iff_of_true ?_ hSucceeded
      exact List.mem_append_right _ List.mem_cons_self
    · refine iff_of_true ?_ hSucceeded
      refine List.mem_append_right _ ?_
      exact List.mem_cons_of_mem _ List.mem_cons_self

theorem resultFromException_not_succeeded
    (exc : ConnectorException) :
    ¬ (run.resultFromException exc).Succeeded := by
  unfold ConnectorResult.Succeeded
    ProvisioningRun.resultFromException
    ConnectorResult.fromFailure
  cases exc.retryable with
  | true => simp
  | false => simp

/- Everything reports a failure where the call raised. -/
theorem agrees_failed
    {record : Record}
    (hUnsettled : Unsettled record.report)
    (attempt : Nat)
    (exc : ConnectorException) :
    let result := run.resultFromException exc
    (run.failedRecord s record attempt result).report.Agrees
      run.Audited result := by
  intro result
  have hNot : ¬ result.Succeeded :=
    resultFromException_not_succeeded exc
  rw [report_failed]
  refine
    { succeededEvent := iff_of_false ?_ hNot
      completedEvent := iff_of_false ?_ hNot
      successAudit := fun _ => iff_of_false ?_ hNot
      successMetric := iff_of_false ?_ hNot
      completedEntry := iff_of_false ?_ hNot
      failedEvents := fun _ => ⟨?_, ?_⟩
      failedEntry := fun _ => ?_
      lastError := fun _ => Option.some_ne_none _ }
  · change _ ∉ record.report.marks ++ _
    rw [hUnsettled.marks]
    decide
  · change _ ∉ record.report.marks ++ _
    rw [hUnsettled.marks]
    decide
  · intro hMem
    rcases List.mem_append.mp hMem with hOld | hNew
    · exact hUnsettled.audits hOld
    · rw [List.map_append] at hNew
      rcases List.mem_append.mp hNew with hFirst | hSecond
      · cases action_auditRows _ hFirst
      · cases action_auditRows _ hSecond
  · intro hMem
    rcases List.mem_append.mp hMem with hOld | hNew
    · exact hUnsettled.metrics hOld
    · revert hNew
      simp [successMetric, ProvisioningRun.executions]
  · intro hMem
    rcases List.mem_append.mp hMem with hOld | hNew
    · exact hUnsettled.completed hOld
    · revert hNew
      decide
  · exact List.mem_append_right _ List.mem_cons_self
  · refine List.mem_append_right _ ?_
    exact List.mem_cons_of_mem _ List.mem_cons_self
  · refine List.mem_append_right _ ?_
    exact List.mem_cons_of_mem _ List.mem_cons_self

/- The report of a run agrees unless a failure returned. -/
theorem agrees_outcome_iff
    (hReady : AuditReady run s)
    (reply : Nat → ConnectorReply) :
    let ending := run.outcome s jobId reply
    ending.2.report.Agrees run.Audited ending.1 ↔
      ¬ ReturnedFailure (reply (run.attempts reply)) := by
  have hOutcome :
      ∃ before : Record,
        Unsettled before.report ∧
          run.outcome s jobId reply =
            run.concludedRecord s
              (run.invokedRecord s before
                (run.attempts reply))
              (run.attempts reply)
              (reply (run.attempts reply)) :=
    ProvisioningRun.outcome_eq
      (fun _ record => Unsettled record.report)
      unsettled_created
      (fun attempt record exc hUnsettled _ =>
        unsettled_retried
          (unsettled_invoked hUnsettled attempt) attempt exc)
  rcases hOutcome with ⟨before, hUnsettled, hResult⟩
  simp only [hResult]
  cases hReply : reply (run.attempts reply) with
  | ok result =>
      refine (agrees_returned hReady _ _ result).trans ?_
      constructor
      · rintro hSucceeded ⟨result', hEq, hNot⟩
        cases hEq
        exact hNot hSucceeded
      · intro hNone
        by_contra hNot
        exact hNone ⟨result, rfl, hNot⟩
  | error exc =>
      refine iff_of_true
        (agrees_failed (unsettled_invoked hUnsettled _) _ exc)
        ?_
      rintro ⟨result, hEq, -⟩
      cases hEq

end Connectors

end AccessIQ

------------------------------------------------------------
-- Reports Of Execute
------------------------------------------------------------

namespace AccessIQ

namespace Connectors

open Foundations Python

variable [Platform]

/-
  Whenever `execute` returns, what it published and stored
  agrees with its result exactly when the last call of the
  connector did not return a failure.
-/
theorem execute_agrees_iff
    {env : Environment}
    (orchestrator : ProvisioningOrchestrator)
    (ctx : RequestContext)
    (arguments : ExecuteArguments)
    {connector : String}
    (hConnector :
      orchestrator.registry.get arguments.connectorName =
        .ok connector)
    (session : Session Store DomainEvent)
    (hUnbroken : session.broken = false)
    {result : ConnectorResult}
    {metrics : List Metric}
    (hReturns :
      ((orchestrator.execute ctx arguments).run env
        session).1 = .ok (result, metrics)) :
    let run := orchestrator.run ctx arguments connector
    let reply := run.reply env (nextJobId session.working)
    let after :=
      ((orchestrator.execute ctx arguments).run env session).2
    ∃ events audits history job,
      after.published = session.published ++ events ∧
        after.working.auditEvents.rows =
          session.working.auditEvents.rows ++ audits ∧
        after.working.provisioningHistory.rows =
          session.working.provisioningHistory.rows ++
            history ∧
        after.working.provisioningJobs.rows =
          session.working.provisioningJobs.rows ++ [job] ∧
        ((reportOf events audits metrics history job).Agrees
            run.Audited result ↔
          ¬ ReturnedFailure (reply (run.attempts reply))) := by
  intro run reply after
  rcases session with ⟨⟨c, s, broken, p⟩, tick⟩
  simp only at hUnbroken
  subst hUnbroken
  have hOutcome :=
    Program.run_of_wp env.conforms_world
      (s := ⟨⟨c, s, false, p⟩, tick⟩)
      (wp_execute (w := env.world) (c := c) (p := p)
        (s := s) (answers_world env) orchestrator ctx
        arguments)
  rw [hReturns] at hOutcome
  change
    ExecuteOutcome _ _ _ _ _ _ _ _ _ after.toMoment
    at hOutcome
  generalize after.toMoment = m at hOutcome
  cases hOutcome with
  | ran connector' r m hConnector' hRun =>
      rw [hConnector] at hConnector'
      cases hConnector'
      cases hRun with
      | returned s' hReady hSerialized hRecorded =>
          rcases hRecorded.history with
            ⟨history, hHistory, hEntries⟩
          rcases hRecorded.audits with
            ⟨audits, hAudits, hEvents⟩
          have hReport :
              reportOf
                  ((run.ending env s).2.pending ++
                    (run.ending env s).2.events)
                  audits (run.ending env s).2.metrics history
                  (run.ending env s).2.job =
                (run.ending env s).2.report := by
            unfold Record.report reportOf
            rw [Table.map_of_keyed hEntries fun _ _ => rfl,
              Table.map_of_keyed hEvents fun _ _ => rfl]
          refine ⟨_, audits, history, _,
            List.append_assoc _ _ _, hAudits, hHistory,
            hRecorded.jobs, ?_⟩
          rw [hReport]
          exact agrees_outcome_iff hReady _

end Connectors

end AccessIQ

------------------------------------------------------------
-- A Returned Failure
------------------------------------------------------------

namespace AccessIQ

namespace Connectors

open Foundations Python

attribute [local instance] asciiPlatform

theorem eq_ok_of_isSome
    {ε α : Type}
    {r : Except ε α}
    (hSome : r.toOption.isSome = true) :
    ∃ a, r = .ok a := by
  cases r with
  | error e => cases hSome
  | ok a => exact ⟨a, rfl⟩

/- The report of the retried revocation agrees with it. -/
theorem execute_agrees_iff_flaky :
    let session : Session Store DomainEvent :=
      ⟨Moment.start (seededStore .postgresql), 0⟩
    let run :=
      mockOrchestrator.run salesforceContext
        salesforceRevocation "salesforce"
    let reply :=
      run.reply flakyEnvironment (nextJobId session.working)
    let final :=
      (mockOrchestrator.execute salesforceContext
        salesforceRevocation).run flakyEnvironment session
    ∃ result metrics,
      final.1 = .ok (result, metrics) ∧
        ∃ events audits history job,
          final.2.published = session.published ++ events ∧
            final.2.working.auditEvents.rows =
              session.working.auditEvents.rows ++ audits ∧
            final.2.working.provisioningHistory.rows =
              session.working.provisioningHistory.rows ++
                history ∧
            final.2.working.provisioningJobs.rows =
              session.working.provisioningJobs.rows ++
                [job] ∧
            ((reportOf events audits metrics history
                job).Agrees run.Audited result ↔
              ¬ ReturnedFailure
                (reply (run.attempts reply))) := by
  have hConnector :
      mockOrchestrator.registry.get
          salesforceRevocation.connectorName =
        .ok "salesforce" := by
    decide +kernel
  have hSome :
      ((mockOrchestrator.execute salesforceContext
            salesforceRevocation).run flakyEnvironment
          ⟨Moment.start (seededStore .postgresql),
            0⟩).1.toOption.isSome =
        true := by
    decide +kernel
  rcases eq_ok_of_isSome hSome with
    ⟨⟨result, metrics⟩, hReturns⟩
  exact ⟨result, metrics, hReturns,
    execute_agrees_iff mockOrchestrator salesforceContext
      salesforceRevocation hConnector
      ⟨Moment.start (seededStore .postgresql), 0⟩ rfl
      hReturns⟩

/- An environment whose connectors return a failure. -/
def refusingEnvironment : Environment where
  fails _ := false
  answer
    | .callConnector call =>
        .ok
          (ConnectorResult.fromFailure call.connector
            call.operation "Account is locked" false none 0
            [])

/- A returned failure is reported as a success. -/
theorem returned_failure_reported_as_success :
    let final :=
      (mockOrchestrator.execute salesforceContext
          salesforceRevocation).run refusingEnvironment
        ⟨Moment.start (seededStore .postgresql), 0⟩
    final.1.toOption.map (·.1.status) = some .failed ∧
      final.2.published.filterMap outcomeMark =
        [.connectorSucceeded, .provisioningCompleted] ∧
      final.2.working.auditEvents.rows.map (·.action) =
        [.provisioningJobCreated, .connectorInvocation,
          .connectorSuccess, .connectorProvisioningCompleted,
          .provisioningJobCompleted] ∧
      final.1.toOption.map (·.2.contains successMetric) =
        some true ∧
      final.2.working.provisioningHistory.rows.map
          (·.eventType) =
        [.jobCreated, .jobStarted, .connectorInvocation,
          .connectorResult, .jobCompleted] ∧
      final.2.working.provisioningJobs.rows.map
          (fun job => (job.status, job.lastError)) =
        [(.failed, none)] := by
  decide +kernel

end Connectors

end AccessIQ
