import AccessIQ.Connectors.Orchestrator

/-
  What a run of the orchestrator leaves behind.

  The record of a run is computed from the replies of the
  connector alone.  A run that returns has stored exactly its
  record and published its events; one that does not has
  published nothing.

  Key definitions include:
    * `Record`
    * `Recorded`
    * `ProvisioningRun.outcome`
    * `ExecuteOutcome`

  Key theorems include:
    * `wp_attemptLoop`
    * `wp_execute`
-/

------------------------------------------------------------
-- Records
------------------------------------------------------------

namespace AccessIQ

namespace Connectors

open Foundations Python

/-
  The record of a run: how far it is, with the history of its
  job and the audit events it wrote, before they have keys.
-/
structure Record extends Progress where
  history : List ProvisioningHistory
  audits : List AuditEvent

/- The database holds the record of a run that began at `s`. -/
structure Recorded
    (s s' : Store)
    (record : Record) : Prop where
  jobs :
    s'.provisioningJobs.rows =
      s.provisioningJobs.rows ++ [record.job]
  history :
    s.provisioningHistory.Appends s'.provisioningHistory
      record.history
  audits :
    s.auditEvents.Appends s'.auditEvents record.audits
  frame :
    ∃ jobs entries events,
      s' =
        { s with
          provisioningJobs := jobs
          provisioningHistory := entries
          auditEvents := events }

namespace ProvisioningRun

variable (run : ProvisioningRun)

/- The run is to be audited. -/
def Audited : Prop :=
  run.requesterId.isSome = true ∧
    run.targetUserId.isSome = true

/- The entitlement of the audit events of runs. -/
def auditEntitlement
    (s : Store) :
    Option Entitlement :=
  s.entitlementBySlugs "connector-framework"
    "connector-execution"

/- The audit events the run writes for an action. -/
def auditRows
    (s : Store)
    (action : AuditAction)
    (result : AuditResult)
    (reason : String) :
    List AuditEvent :=
  match run.requesterId, run.targetUserId,
    auditEntitlement s with
  | some requesterId, some targetUserId, some entitlement =>
      [newAuditEvent run.ctx requesterId targetUserId action
        entitlement.applicationId entitlement.id result
        reason (some run.correlationId)]
  | _, _, _ => []

theorem auditRows_eq_nil
    {s : Store}
    {action : AuditAction}
    {result : AuditResult}
    {reason : String}
    (hNone : auditEntitlement s = none) :
    run.auditRows s action result reason = [] := by
  unfold auditRows
  rw [hNone]
  split
  · rename_i hSome
    cases hSome
  · rfl

/- The foreign keys of the audit events are satisfied. -/
def AuditsResolve
    (s : Store) : Prop :=
  ∀ action result reason,
    ∀ event ∈ run.auditRows s action result reason,
      s.auditReferencesResolve event = true

/- The record after the job was created. -/
def createdRecord
    (s : Store)
    (jobId : Int) :
    Record :=
  let job := { run.newJob with id := jobId }
  { job := job
    pending := [jobCreatedEvent run.ctx job]
    events := [run.started]
    metrics := []
    history := [jobCreatedEntry run.ctx job]
    audits :=
      run.auditRows s .provisioningJobCreated .succeeded
        (run.jobCreatedReason jobId) }

def invokedRecord
    (s : Store)
    (record : Record)
    (attempt : Nat) :
    Record :=
  let progress := run.invoked record.toProgress attempt
  { toProgress := progress
    history :=
      record.history ++
        [jobStartedEntry run.ctx progress.job attempt] ++
        [run.invocationEntry progress.job attempt]
    audits :=
      record.audits ++
        run.auditRows s .connectorInvocation .succeeded
          run.connectorCalled }

def retriedRecord
    (s : Store)
    (record : Record)
    (attempt : Nat)
    (exc : ConnectorException) :
    Record :=
  let progress := run.retried record.toProgress attempt exc
  { toProgress := progress
    history :=
      record.history ++
        [retryRecordedEntry run.ctx progress.job attempt
          (attempt + 1) (run.policy.nextDelayMs attempt)
          exc.message]
    audits :=
      record.audits ++
        run.auditRows s .connectorRetryScheduled .succeeded
          (run.retryScheduledReason exc.message) ++
        run.auditRows s .provisioningRetryRecorded .succeeded
          (run.retryRecordedReason exc.message) }

def failedRecord
    (s : Store)
    (record : Record)
    (attempt : Nat)
    (result : ConnectorResult) :
    Record :=
  let progress := run.failed record.toProgress attempt result
  { toProgress := progress
    history :=
      record.history ++
        [connectorResultEntry run.ctx progress.job attempt
          result] ++
        [jobFailedEntry run.ctx progress.job attempt result]
    audits :=
      record.audits ++
        run.auditRows s .connectorFailure .denied
          result.message ++
        run.auditRows s .provisioningJobFailed .denied
          (failedJobReason record.job.id result.message) }

def returnedRecord
    (s : Store)
    (record : Record)
    (attempt : Nat)
    (result : ConnectorResult) :
    Record :=
  let progress :=
    run.returned record.toProgress attempt result
  { toProgress := progress
    history :=
      record.history ++
        [connectorResultEntry run.ctx progress.job attempt
          result] ++
        [jobCompletedEntry run.ctx progress.job attempt
          result]
    audits :=
      record.audits ++
        run.auditRows s .connectorSuccess .succeeded
          result.message ++
        run.auditRows s .connectorProvisioningCompleted
          .succeeded run.provisioningCompletedReason ++
        run.auditRows s .provisioningJobCompleted .succeeded
          (run.completedJobReason record.job.id) }

/- The record of a run that ends with a reply. -/
def concludedRecord
    (s : Store)
    (record : Record)
    (attempt : Nat)
    (reply : ConnectorReply) :
    ConnectorResult × Record :=
  match reply with
  | .ok result =>
      (result, run.returnedRecord s record attempt result)
  | .error exc =>
      (run.resultFromException exc,
        run.failedRecord s record attempt
          (run.resultFromException exc))

/-
  How the run ends from an attempt on, where `reply` is what
  comes of each attempt.
-/
def outcomeFrom
    (s : Store)
    (reply : Nat → ConnectorReply) :
    Nat → Nat → Record → ConnectorResult × Record
  | 0, attempt, record =>
      run.concludedRecord s
        (run.invokedRecord s record attempt) attempt
        (reply attempt)
  | remaining + 1, attempt, record =>
      match run.retriedException (reply attempt) attempt with
      | some exc =>
          outcomeFrom s reply remaining (attempt + 1)
            (run.retriedRecord s
              (run.invokedRecord s record attempt) attempt
              exc)
      | none =>
          run.concludedRecord s
            (run.invokedRecord s record attempt) attempt
            (reply attempt)

/- How the run ends. -/
def outcome
    (s : Store)
    (jobId : Int)
    (reply : Nat → ConnectorReply) :
    ConnectorResult × Record :=
  run.outcomeFrom s reply (run.policy.maxAttempts - 1) 1
    (run.createdRecord s jobId)

/- What comes of an attempt to call the connector. -/
def reply
    (env : Environment)
    (jobId : Int)
    (attempt : Nat) :
    ConnectorReply :=
  match checkPayload run.operation run.payload with
  | .error exc => .error exc
  | .ok () => env.answer (.callConnector (run.call jobId attempt))

end ProvisioningRun

end Connectors

end AccessIQ

------------------------------------------------------------
-- Storing A Record
------------------------------------------------------------

namespace AccessIQ

namespace Connectors

open Foundations Python

variable {w : World Question Reply}
variable {c s s₁ : Store}
variable {p : List DomainEvent}
variable {record : Record}

theorem Recorded.job_contained
    (hRecorded : Recorded s s₁ record) :
    s₁.provisioningJobs.contains record.job.id = true := by
  rw [Table.contains_iff, hRecorded.jobs]
  exact ⟨record.job,
    List.mem_append_right _ List.mem_cons_self, rfl⟩

/- What runs leave alone is the same. -/
theorem Recorded.read
    {β : Type}
    (hRecorded : Recorded s s₁ record)
    (f : Store → β)
    (hFrame :
      ∀ (s : Store) jobs history events,
        f { s with
            provisioningJobs := jobs
            provisioningHistory := history
            auditEvents := events } =
          f s) :
    f s₁ = f s := by
  rcases hRecorded.frame with
    ⟨jobs, entries, events, rfl⟩
  exact hFrame s jobs entries events

theorem serializeDetails_eq_ok
    {details details' : Option Details}
    (hOk : serializeDetails details = .ok details') :
    details' = details := by
  cases details with
  | none =>
      cases hOk
      rfl
  | some details =>
      simp only [serializeDetails] at hOk
      split at hOk
      · cases hOk
      · cases hOk
        rfl

/- An entry about the job is stored, or not serialised. -/
theorem wp_recordHistory
    (hRecorded : Recorded s s₁ record)
    {entry : ProvisioningHistory}
    (hJob : entry.jobId = record.job.id)
    {post : Post Store DomainEvent PyException Unit}
    (hDatabase :
      w.mayFail →
        post (.error (.database .operational))
          ⟨c, s₁, true, p⟩)
    (hDetails :
      ∀ message,
        serializeDetails entry.details = .error message →
          post (.error (.typeError message))
            ⟨c, s₁, false, p⟩)
    (hOk :
      ∀ s₂,
        serializeDetails entry.details =
            .ok entry.details →
        Recorded s s₂
            { record with
              history := record.history ++ [entry] } →
          post (.ok ()) ⟨c, s₂, false, p⟩) :
    (recordHistory entry).wp w post ⟨c, s₁, false, p⟩ := by
  unfold recordHistory
  cases hSerialized : serializeDetails entry.details with
  | error message => exact hDetails message hSerialized
  | ok details =>
      have hSame := serializeDetails_eq_ok hSerialized
      subst hSame
      have hRefs :
          s₁.resolves s₁.provisioningJobs entry.jobId =
            true := by
        rw [hJob]
        exact Store.resolves_of_contains
          hRecorded.job_contained
      have hFits : s₁.provisioningHistory.Fits entry :=
        fun _ _ => rfl
      have hInsert :
          s₁.insertProvisioningHistory entry =
            .ok
              { s₁ with
                provisioningHistory :=
                  s₁.provisioningHistory.insert
                    s₁.dialect.keyPolicy entry hFits } := by
        unfold Store.insertProvisioningHistory
        rw [Store.insertInto_eq_ok_iff.mpr
          ⟨hRefs, hFits, rfl, rfl⟩]
        rfl
      rw [Program.wp_flush_, hInsert]
      refine ⟨hDatabase, ?_, fun e hError => by cases hError⟩
      intro s₂ hEq
      cases hEq
      refine hOk _ hSerialized
        { jobs := hRecorded.jobs
          history := hRecorded.history.insert hFits
          audits := hRecorded.audits
          frame := ?_ }
      rcases hRecorded.frame with
        ⟨jobs, entries, events, rfl⟩
      exact ⟨jobs, _, events, rfl⟩

/- Versions of a job share what is never updated. -/
structure SameJob
    (a b : ProvisioningJob) : Prop where
  id : b.id = a.id
  correlationId : b.correlationId = a.correlationId
  connector : b.connector = a.connector
  operation : b.operation = a.operation
  targetType : b.targetType = a.targetType
  targetId : b.targetId = a.targetId
  maxAttempts : b.maxAttempts = a.maxAttempts
  createdAt : b.createdAt = a.createdAt

theorem SameJob.write_loaded
    {loaded new : ProvisioningJob}
    (hSame : SameJob loaded new) :
    loaded.write new loaded = new := by
  unfold ProvisioningJob.write
  simp only [writeColumn_loaded, ← hSame.id,
    ← hSame.correlationId, ← hSame.connector,
    ← hSame.operation, ← hSame.targetType,
    ← hSame.targetId, ← hSame.maxAttempts,
    ← hSame.createdAt]

/- Another version of the job is stored. -/
theorem wp_flushProvisioningJob
    (hRecorded : Recorded s s₁ record)
    {new : ProvisioningJob}
    (hSame : SameJob record.job new)
    {post : Post Store DomainEvent PyException Unit}
    (hDatabase :
      w.mayFail →
        post (.error (.database .operational))
          ⟨c, s₁, true, p⟩)
    (hOk :
      ∀ s₂, Recorded s s₂ { record with job := new } →
        post (.ok ()) ⟨c, s₂, false, p⟩) :
    (flushProvisioningJob record.job new).wp w post
      ⟨c, s₁, false, p⟩ := by
  unfold flushProvisioningJob
  by_cases hEq : new = record.job
  · rw [if_pos hEq]
    subst hEq
    exact hOk s₁ hRecorded
  · rw [if_neg hEq, Program.wp_flush_]
    have hMem : record.job ∈ s₁.provisioningJobs.rows := by
      rw [hRecorded.jobs]
      exact List.mem_append_right _ List.mem_cons_self
    have hUpdate :
        s₁.updateProvisioningJob record.job new =
          .ok
            { s₁ with
              provisioningJobs :=
                s₁.provisioningJobs.put new } := by
      unfold Store.updateProvisioningJob
      exact Store.updateIn_eq_put new hSame.id
        (s₁.provisioningJobs.get?_of_mem hMem)
        hSame.write_loaded (fun _ => rfl) rfl
    rw [hUpdate]
    refine ⟨hDatabase, ?_, fun e hError => by cases hError⟩
    intro s₂ hStore
    cases hStore
    refine hOk _
      { jobs :=
          Table.rows_put_last hRecorded.jobs hSame.id
            (fun _ => rfl)
        history := hRecorded.history
        audits := hRecorded.audits
        frame := ?_ }
    rcases hRecorded.frame with
      ⟨jobs, entries, events, rfl⟩
    exact ⟨_, entries, events, rfl⟩

/- The audit trail is ready for the run. -/
def AuditReady
    (run : ProvisioningRun)
    (s : Store) : Prop :=
  run.Audited → ProvisioningRun.auditEntitlement s ≠ none

/- The audit events of an action are stored. -/
theorem wp_recordAudit
    {run : ProvisioningRun}
    (hRecorded : Recorded s s₁ record)
    {action : AuditAction}
    {result : AuditResult}
    {reason : String}
    {post : Post Store DomainEvent PyException Unit}
    (hDatabase :
      ∀ e, (w.mayFail ∨ ¬ run.AuditsResolve s) →
        post (.error (.database e)) ⟨c, s₁, true, p⟩)
    (hSeeded :
      run.Audited →
        ProvisioningRun.auditEntitlement s = none →
          post
            (.error
              (.runtimeError
                ("Connector audit entitlement is not " ++
                  "seeded")))
            ⟨c, s₁, false, p⟩)
    (hOk :
      ∀ s₂,
        AuditReady run s →
        Recorded s s₂
            { record with
              audits :=
                record.audits ++
                  run.auditRows s action result reason } →
          post (.ok ()) ⟨c, s₂, false, p⟩) :
    (run.recordAudit action result reason).wp w post
      ⟨c, s₁, false, p⟩ := by
  have hNothing :
      AuditReady run s →
        run.auditRows s action result reason = [] →
          post (.ok ()) ⟨c, s₁, false, p⟩ := by
    intro hReady hNone
    refine hOk s₁ hReady ?_
    rw [hNone, List.append_nil]
    exact hRecorded
  unfold ProvisioningRun.recordAudit
  cases hRequester : run.requesterId with
  | none =>
      refine hNothing (fun hAudited => ?_) ?_
      · have hRequested := hAudited.1
        rw [hRequester] at hRequested
        cases hRequested
      · unfold ProvisioningRun.auditRows
        rw [hRequester]
  | some requesterId =>
    cases hTarget : run.targetUserId with
    | none =>
        refine hNothing (fun hAudited => ?_) ?_
        · have hTargeted := hAudited.2
          rw [hTarget] at hTargeted
          cases hTargeted
        · unfold ProvisioningRun.auditRows
          rw [hRequester, hTarget]
    | some targetUserId =>
        have hAudited : run.Audited := by
          unfold ProvisioningRun.Audited
          rw [hRequester, hTarget]
          exact ⟨rfl, rfl⟩
        have hSame :
            s₁.entitlementBySlugs "connector-framework"
                "connector-execution" =
              ProvisioningRun.auditEntitlement s :=
          hRecorded.read
            (fun s =>
              s.entitlementBySlugs "connector-framework"
                "connector-execution")
            (fun _ _ _ _ => rfl)
        simp only [
          ProvisioningRun.getConnectorAuditEntitlement,
          createAuditEvent, Program.wp_bind, Program.wp_view,
          Program.wp_getOrRaise, Program.bindPost_ok,
          Program.bindPost_error, wp_recordAuditEvent,
          Program.wp_pure, hSame]
        refine ⟨hSeeded hAudited, fun e hEntitlement => ?_⟩
        let event :=
          newAuditEvent run.ctx requesterId targetUserId
            action e.applicationId e.id result reason
            (some run.correlationId)
        have hRows :
            run.auditRows s action result reason =
              [event] := by
          unfold ProvisioningRun.auditRows
          rw [hRequester, hTarget, hEntitlement]
        have hResolves :
            s₁.auditReferencesResolve event =
              s.auditReferencesResolve event :=
          hRecorded.read
            (fun s => s.auditReferencesResolve event)
            (fun _ _ _ _ => rfl)
        have hReady : AuditReady run s := by
          intro _ hNone
          rw [hEntitlement] at hNone
          cases hNone
        refine ⟨fun hFail => hDatabase _ (Or.inl hFail),
          fun _ => ?_, fun hUnresolved => ?_⟩
        · refine hOk _ hReady
            { jobs := hRecorded.jobs
              history := hRecorded.history
              audits := ?_
              frame := ?_ }
          · rw [hRows]
            exact hRecorded.audits.insert (fun _ _ => rfl)
          · rcases hRecorded.frame with
              ⟨jobs, entries, events, rfl⟩
            exact ⟨jobs, entries, _, rfl⟩
        · refine hDatabase _ (Or.inr fun hResolve => ?_)
          have hTrue :=
            hResolve action result reason event
              (by rw [hRows]; exact List.mem_cons_self)
          rw [hResolves, hTrue] at hUnresolved
          cases hUnresolved

end Connectors

end AccessIQ

------------------------------------------------------------
-- Steps Of A Run
------------------------------------------------------------

namespace AccessIQ

namespace Connectors

open Foundations Python

variable {w : World Question Reply}
variable {run : ProvisioningRun}
variable {c s s₁ : Store}
variable {p : List DomainEvent}
variable {record : Record}

/- The cause of a database error in a run. -/
def DatabaseTrouble
    (w : World Question Reply)
    (run : ProvisioningRun)
    (s : Store) : Prop :=
  w.mayFail ∨ ¬ run.AuditsResolve s

/- The error of an audit event without its entitlement. -/
def auditNotSeeded : PyException :=
  .runtimeError "Connector audit entitlement is not seeded"

theorem wp_begin
    {post : Post Store DomainEvent PyException Progress}
    (hDatabase :
      ∀ e s', DatabaseTrouble w run s →
        post (.error (.database e)) ⟨c, s', true, p⟩)
    (hSeeded :
      ∀ s',
        run.Audited →
        ProvisioningRun.auditEntitlement s = none →
        Recorded s s'
            (run.createdRecord s
              (s.provisioningJobs.freshId
                s.dialect.keyPolicy)) →
          post (.error auditNotSeeded) ⟨c, s', false, p⟩)
    (hOk :
      ∀ s' record,
        AuditReady run s →
        record =
            run.createdRecord s
              (s.provisioningJobs.freshId
                s.dialect.keyPolicy) →
          Recorded s s' record →
            post (.ok record.toProgress)
              ⟨c, s', false, p⟩) :
    run.begin.wp w post ⟨c, s, false, p⟩ := by
  generalize hKey :
    s.provisioningJobs.freshId s.dialect.keyPolicy = jobId
    at hSeeded hOk
  have hFits : s.provisioningJobs.Fits run.newJob :=
    fun _ _ => rfl
  let jobs :=
    s.provisioningJobs.insert s.dialect.keyPolicy
      run.newJob hFits
  let job := { run.newJob with id := jobId }
  have hInsert :
      s.insertProvisioningJob run.newJob =
        .ok ({ s with provisioningJobs := jobs }, jobId) :=
    Store.insertInto_eq_ok_iff.mpr
      ⟨rfl, hFits, rfl, hKey.symm⟩
  have hInserted :
      Recorded s { s with provisioningJobs := jobs }
        { job := job
          pending := [jobCreatedEvent run.ctx job]
          events := [run.started]
          metrics := []
          history := []
          audits := [] } :=
    { jobs := by
        have hRows :=
          Table.rows_insert s.dialect.keyPolicy
            s.provisioningJobs hFits
        rw [hKey] at hRows
        exact hRows
      history := Table.appends_refl _
      audits := Table.appends_refl _
      frame := ⟨jobs, _, _, rfl⟩ }
  unfold ProvisioningRun.begin createJob
  simp only [Program.wp_bind, Program.wp_flush]
  rw [hInsert]
  refine ⟨fun hFail => hDatabase _ s (Or.inl hFail), ?_,
    fun e hError => by cases hError⟩
  intro s₁ key hEq
  cases hEq
  rw [Program.bindPost_ok, Program.wp_bind]
  have hJob :
      (jobCreatedEntry run.ctx job).jobId = job.id :=
    rfl
  refine wp_recordHistory hInserted hJob
    (fun hFail => hDatabase _ _ (Or.inl hFail))
    (fun message hError => by cases hError) ?_
  intro s₂ _ hCreated
  rw [Program.bindPost_ok, Program.wp_pure,
    Program.bindPost_ok, Program.wp_bind]
  refine wp_recordAudit hCreated
    (fun e hTrouble => hDatabase e s₂ hTrouble) ?_ ?_
  · intro hAudited hNone
    refine hSeeded s₂ hAudited hNone ?_
    have hRows :
        run.auditRows s .provisioningJobCreated .succeeded
            (run.jobCreatedReason jobId) = [] :=
      run.auditRows_eq_nil hNone
    unfold ProvisioningRun.createdRecord
    rw [hRows]
    exact hCreated
  · intro s₃ hReady hDone
    exact hOk s₃ _ hReady rfl hDone

theorem sameJob_started
    (ctx : RequestContext)
    (job : ProvisioningJob)
    (attempt : Nat) :
    SameJob job (startedJob ctx job attempt) :=
  ⟨rfl, rfl, rfl, rfl, rfl, rfl, rfl, rfl⟩

theorem sameJob_retried
    (job : ProvisioningJob)
    (attempt : Nat)
    (reason : String) :
    SameJob job (retriedJob job attempt reason) :=
  ⟨rfl, rfl, rfl, rfl, rfl, rfl, rfl, rfl⟩

theorem sameJob_settled
    (ctx : RequestContext)
    (job : ProvisioningJob)
    (attempt : Nat)
    (result : ConnectorResult)
    (lastError : Option String) :
    SameJob job
      (settledJob ctx job attempt result lastError) :=
  ⟨rfl, rfl, rfl, rfl, rfl, rfl, rfl, rfl⟩

theorem wp_invoke
    (hRecorded : Recorded s s₁ record)
    (hReady : AuditReady run s)
    (attempt : Nat)
    {post : Post Store DomainEvent PyException Progress}
    (hDatabase :
      ∀ e s', DatabaseTrouble w run s →
        post (.error (.database e)) ⟨c, s', true, p⟩)
    (hOk :
      ∀ s' record',
        record' = run.invokedRecord s record attempt →
          Recorded s s' record' →
            post (.ok record'.toProgress)
              ⟨c, s', false, p⟩) :
    (run.invoke record.toProgress attempt).wp w post
      ⟨c, s₁, false, p⟩ := by
  unfold ProvisioningRun.invoke startJob
  simp only [Program.wp_bind]
  refine wp_flushProvisioningJob hRecorded
    (sameJob_started run.ctx record.job attempt)
    (fun hFail => hDatabase _ _ (Or.inl hFail)) ?_
  intro s₂ hStarted
  rw [Program.bindPost_ok, Program.wp_bind]
  refine wp_recordHistory hStarted rfl
    (fun hFail => hDatabase _ _ (Or.inl hFail))
    (fun message hError => by cases hError) ?_
  intro s₃ _ hEntered
  rw [Program.bindPost_ok, Program.wp_pure,
    Program.bindPost_ok, Program.wp_bind]
  refine wp_recordHistory hEntered rfl
    (fun hFail => hDatabase _ _ (Or.inl hFail))
    (fun message hError => by cases hError) ?_
  intro s₄ _ hInvoked
  rw [Program.bindPost_ok, Program.wp_bind]
  refine wp_recordAudit hInvoked
    (fun e hTrouble => hDatabase e s₄ hTrouble)
    (fun hAudited hNone =>
      absurd hNone (hReady hAudited)) ?_
  intro s₅ _ hDone
  exact hOk s₅ _ rfl
    { jobs := hDone.jobs
      history := hDone.history
      audits := hDone.audits
      frame := hDone.frame }

theorem wp_retry
    (hRecorded : Recorded s s₁ record)
    (hReady : AuditReady run s)
    (attempt : Nat)
    (exc : ConnectorException)
    {post : Post Store DomainEvent PyException Progress}
    (hDatabase :
      ∀ e s', DatabaseTrouble w run s →
        post (.error (.database e)) ⟨c, s', true, p⟩)
    (hOk :
      ∀ s' record',
        record' = run.retriedRecord s record attempt exc →
          Recorded s s' record' →
            post (.ok record'.toProgress)
              ⟨c, s', false, p⟩) :
    (run.retry record.toProgress attempt exc).wp w post
      ⟨c, s₁, false, p⟩ := by
  unfold ProvisioningRun.retry recordRetry
  simp only [Program.wp_bind]
  refine wp_flushProvisioningJob hRecorded
    (sameJob_retried record.job attempt exc.message)
    (fun hFail => hDatabase _ _ (Or.inl hFail)) ?_
  intro s₂ hRetried
  rw [Program.bindPost_ok, Program.wp_bind]
  refine wp_recordHistory hRetried rfl
    (fun hFail => hDatabase _ _ (Or.inl hFail))
    (fun message hError => by cases hError) ?_
  intro s₃ _ hEntered
  rw [Program.bindPost_ok, Program.wp_pure,
    Program.bindPost_ok, Program.wp_bind]
  refine wp_recordAudit hEntered
    (fun e hTrouble => hDatabase e s₃ hTrouble)
    (fun hAudited hNone =>
      absurd hNone (hReady hAudited)) ?_
  intro s₄ _ hScheduled
  rw [Program.bindPost_ok, Program.wp_bind]
  refine wp_recordAudit hScheduled
    (fun e hTrouble => hDatabase e s₄ hTrouble)
    (fun hAudited hNone =>
      absurd hNone (hReady hAudited)) ?_
  intro s₅ _ hDone
  exact hOk s₅ _ rfl
    { jobs := hDone.jobs
      history := hDone.history
      audits := hDone.audits
      frame := hDone.frame }

/- The text of why details are not serialised. -/
def serializeFailure
    (result : ConnectorResult) :
    Option String :=
  match serializeDetails (some result.details) with
  | .error message => some message
  | .ok _ => none

theorem serializeFailure_of_error
    {result : ConnectorResult}
    {message : String}
    (hError :
      serializeDetails (some result.details) =
        .error message) :
    serializeFailure result = some message := by
  unfold serializeFailure
  rw [hError]

theorem serializeFailure_of_ok
    {result : ConnectorResult}
    {details : Option Details}
    (hOk :
      serializeDetails (some result.details) =
        .ok details) :
    serializeFailure result = none := by
  unfold serializeFailure
  rw [hOk]

theorem wp_finish
    (hRecorded : Recorded s s₁ record)
    (hReady : AuditReady run s)
    (attempt : Nat)
    (result : ConnectorResult)
    {post :
      Post Store DomainEvent PyException
        (ConnectorResult × List Metric)}
    (hDatabase :
      ∀ e s', DatabaseTrouble w run s →
        post (.error (.database e)) ⟨c, s', true, p⟩)
    (hDetails :
      ∀ message s' record',
        serializeFailure result = some message →
        record'.job =
            (run.returnedRecord s record attempt
              result).job →
        Recorded s s' record' →
          post (.error (.typeError message))
            ⟨c, s', false, p⟩)
    (hOk :
      ∀ s' record',
        serializeFailure result = none →
        record' =
            run.returnedRecord s record attempt result →
        Recorded s s' record' →
          post (.ok (result, record'.metrics))
            ⟨c, s', false,
              p ++ record'.pending ++ record'.events⟩) :
    (run.finish record.toProgress attempt result).wp w post
      ⟨c, s₁, false, p⟩ := by
  unfold ProvisioningRun.finish completeJob
  simp only [Program.wp_bind]
  refine wp_flushProvisioningJob hRecorded
    (sameJob_settled run.ctx record.job attempt result none)
    (fun hFail => hDatabase _ _ (Or.inl hFail)) ?_
  intro s₂ hSettled
  rw [Program.bindPost_ok, Program.wp_bind]
  refine wp_recordHistory hSettled rfl
    (fun hFail => hDatabase _ _ (Or.inl hFail)) ?_ ?_
  · intro message hMessage
    have hFailure := serializeFailure_of_error hMessage
    refine hDetails message s₂ _ hFailure ?_ hSettled
    rfl
  intro s₃ hOkDetails hResult
  have hSerialized := serializeFailure_of_ok hOkDetails
  rw [Program.bindPost_ok, Program.wp_bind]
  refine wp_recordHistory hResult rfl
    (fun hFail => hDatabase _ _ (Or.inl hFail))
    (fun message hError => by cases hError) ?_
  intro s₄ _ hCompleted
  rw [Program.bindPost_ok, Program.wp_pure,
    Program.bindPost_ok, Program.wp_bind]
  refine wp_recordAudit hCompleted
    (fun e hTrouble => hDatabase e s₄ hTrouble)
    (fun hAudited hNone =>
      absurd hNone (hReady hAudited)) ?_
  intro s₅ _ hSuccess
  rw [Program.bindPost_ok, Program.wp_bind]
  refine wp_recordAudit hSuccess
    (fun e hTrouble => hDatabase e s₅ hTrouble)
    (fun hAudited hNone =>
      absurd hNone (hReady hAudited)) ?_
  intro s₆ _ hProvisioned
  rw [Program.bindPost_ok, Program.wp_bind]
  refine wp_recordAudit hProvisioned
    (fun e hTrouble => hDatabase e s₆ hTrouble)
    (fun hAudited hNone =>
      absurd hNone (hReady hAudited)) ?_
  intro s₇ _ hDone
  exact hOk s₇ _ hSerialized rfl
    { jobs := hDone.jobs
      history := hDone.history
      audits := hDone.audits
      frame := hDone.frame }

theorem wp_fail
    (hRecorded : Recorded s s₁ record)
    (hReady : AuditReady run s)
    (attempt : Nat)
    (exc : ConnectorException)
    {post :
      Post Store DomainEvent PyException
        (ConnectorResult × List Metric)}
    (hDatabase :
      ∀ e s', DatabaseTrouble w run s →
        post (.error (.database e)) ⟨c, s', true, p⟩)
    (hDetails :
      ∀ message s' record',
        serializeFailure (run.resultFromException exc) =
          some message →
        record'.job =
            (run.failedRecord s record attempt
              (run.resultFromException exc)).job →
        Recorded s s' record' →
          post (.error (.typeError message))
            ⟨c, s', false, p⟩)
    (hOk :
      ∀ s' record',
        serializeFailure (run.resultFromException exc) =
          none →
        record' =
            run.failedRecord s record attempt
              (run.resultFromException exc) →
        Recorded s s' record' →
          post
            (.ok
              (run.resultFromException exc,
                record'.metrics))
            ⟨c, s', false,
              p ++ record'.pending ++ record'.events⟩) :
    (run.fail record.toProgress attempt exc).wp w post
      ⟨c, s₁, false, p⟩ := by
  unfold ProvisioningRun.fail failJob
  generalize run.resultFromException exc = result
    at hDetails hOk ⊢
  simp only [Program.wp_bind]
  refine wp_recordAudit hRecorded
    (fun e hTrouble => hDatabase e s₁ hTrouble)
    (fun hAudited hNone =>
      absurd hNone (hReady hAudited)) ?_
  intro s₂ _ hFailure
  rw [Program.bindPost_ok, Program.wp_bind,
    Program.wp_bind]
  refine wp_flushProvisioningJob hFailure
    (sameJob_settled run.ctx record.job attempt result
      (some result.message))
    (fun hFail => hDatabase _ _ (Or.inl hFail)) ?_
  intro s₃ hSettled
  rw [Program.bindPost_ok, Program.wp_bind]
  refine wp_recordHistory hSettled rfl
    (fun hFail => hDatabase _ _ (Or.inl hFail)) ?_ ?_
  · intro message hMessage
    have hFailure := serializeFailure_of_error hMessage
    refine hDetails message s₃ _ hFailure ?_ hSettled
    rfl
  intro s₄ hOkDetails hEntered
  have hSerialized := serializeFailure_of_ok hOkDetails
  rw [Program.bindPost_ok, Program.wp_bind]
  refine wp_recordHistory hEntered rfl
    (fun hFail => hDatabase _ _ (Or.inl hFail))
    (fun message hError => by cases hError) ?_
  intro s₅ _ hFailed
  rw [Program.bindPost_ok, Program.wp_pure,
    Program.bindPost_ok, Program.wp_bind]
  refine wp_recordAudit hFailed
    (fun e hTrouble => hDatabase e s₅ hTrouble)
    (fun hAudited hNone =>
      absurd hNone (hReady hAudited)) ?_
  intro s₆ _ hDone
  exact hOk s₆ _ hSerialized rfl
    { jobs := hDone.jobs
      history := hDone.history
      audits := hDone.audits
      frame := hDone.frame }

end Connectors

end AccessIQ

------------------------------------------------------------
-- Whole Runs
------------------------------------------------------------

namespace AccessIQ

namespace Connectors

open Foundations Python

/- The world has one answer for each question. -/
def Answers
    (w : World Question Reply)
    (env : Environment) : Prop :=
  ∀ question reply,
    w.allows question reply → reply = env.answer question

theorem answers_world
    (env : Environment) :
    Answers env.world env :=
  fun _ _ hReply => hReply

/-
  What a run that began at `s` leaves behind, where `ending`
  is its result and its record.
-/
inductive RunOutcome
    (w : World Question Reply)
    (run : ProvisioningRun)
    (s : Store)
    (c : Store)
    (p : List DomainEvent)
    (ending : ConnectorResult × Record) :
    Except PyException (ConnectorResult × List Metric) →
      Moment Store DomainEvent → Prop
  | returned
      (s' : Store)
      (hReady : AuditReady run s)
      (hSerialized : serializeFailure ending.1 = none)
      (hRecorded : Recorded s s' ending.2) :
      RunOutcome w run s c p ending
        (.ok (ending.1, ending.2.metrics))
        ⟨c, s', false,
          p ++ ending.2.pending ++ ending.2.events⟩
  | unserialized
      (s' : Store)
      (record : Record)
      (message : String)
      (hReady : AuditReady run s)
      (hMessage :
        serializeFailure ending.1 = some message)
      (hJob : record.job = ending.2.job)
      (hRecorded : Recorded s s' record) :
      RunOutcome w run s c p ending
        (.error (.typeError message)) ⟨c, s', false, p⟩
  | databaseFailed
      (e : DatabaseError)
      (s' : Store)
      (hTrouble : DatabaseTrouble w run s) :
      RunOutcome w run s c p ending
        (.error (.database e)) ⟨c, s', true, p⟩

variable {w : World Question Reply}
variable {env : Environment}
variable {run : ProvisioningRun}
variable {c s s₁ : Store}
variable {p : List DomainEvent}
variable {record : Record}

theorem wp_callConnector
    (hAnswers : Answers w env)
    (jobId : Int)
    (attempt : Nat)
    {post : Post Store DomainEvent PyException ConnectorReply}
    {m : Moment Store DomainEvent}
    (hOk : post (.ok (run.reply env jobId attempt)) m) :
    (run.callConnector jobId attempt).wp w post m := by
  unfold ProvisioningRun.reply at hOk
  unfold ProvisioningRun.callConnector
  cases hPayload :
      checkPayload run.operation run.payload with
  | error exc =>
      rw [hPayload] at hOk
      exact hOk
  | ok _ =>
      rw [hPayload] at hOk
      intro r hReply
      have hAnswer := hAnswers _ r hReply
      subst hAnswer
      exact hOk

theorem wp_conclude
    (hReady : AuditReady run s)
    (hRecorded : Recorded s s₁ record)
    (attempt : Nat)
    (reply : ConnectorReply) :
    (run.conclude record.toProgress attempt reply).wp w
      (RunOutcome w run s c p
        (run.concludedRecord s record attempt reply))
      ⟨c, s₁, false, p⟩ := by
  cases reply with
  | ok result =>
      refine wp_finish hRecorded hReady attempt result
        (fun e s' hTrouble =>
          .databaseFailed e s' hTrouble)
        (fun message s' record' hMessage hJob hRecorded' =>
          .unserialized s' record' message hReady hMessage
            hJob hRecorded')
        ?_
      rintro s' record' hSerialized rfl hRecorded'
      exact .returned s' hReady hSerialized hRecorded'
  | error exc =>
      refine wp_fail hRecorded hReady attempt exc
        (fun e s' hTrouble =>
          .databaseFailed e s' hTrouble)
        (fun message s' record' hMessage hJob hRecorded' =>
          .unserialized s' record' message hReady hMessage
            hJob hRecorded')
        ?_
      rintro s' record' hSerialized rfl hRecorded'
      exact .returned s' hReady hSerialized hRecorded'

/-
  The loop does what `outcomeFrom` computes.  Each attempt
  extends the record that the ones before it left.
-/
theorem wp_attemptLoop
    (hAnswers : Answers w env)
    (hReady : AuditReady run s)
    (hRecorded : Recorded s s₁ record)
    (remaining attempt : Nat) :
    (run.attemptLoop remaining attempt
        record.toProgress).wp w
      (RunOutcome w run s c p
        (run.outcomeFrom s (run.reply env record.job.id)
          remaining attempt record))
      ⟨c, s₁, false, p⟩ := by
  induction remaining generalizing attempt record s₁ with
  | zero =>
      unfold ProvisioningRun.attemptLoop
        ProvisioningRun.outcomeFrom
      rw [Program.wp_bind]
      refine wp_invoke hRecorded hReady attempt
        (fun e s' hTrouble => .databaseFailed e s' hTrouble)
        ?_
      rintro s₂ record₂ rfl hInvoked
      rw [Program.bindPost_ok, Program.wp_bind]
      refine wp_callConnector hAnswers _ attempt ?_
      exact wp_conclude hReady hInvoked attempt _
  | succ remaining ih =>
      unfold ProvisioningRun.attemptLoop
        ProvisioningRun.outcomeFrom
      rw [Program.wp_bind]
      refine wp_invoke hRecorded hReady attempt
        (fun e s' hTrouble => .databaseFailed e s' hTrouble)
        ?_
      rintro s₂ record₂ rfl hInvoked
      rw [Program.bindPost_ok, Program.wp_bind]
      refine wp_callConnector hAnswers _ attempt ?_
      have hId :
          (run.invokedRecord s record attempt).job.id =
            record.job.id :=
        rfl
      rw [Program.bindPost_ok, hId]
      generalize hReply :
        run.reply env record.job.id attempt = reply
      cases hRetried :
          run.retriedException reply attempt with
      | none => exact wp_conclude hReady hInvoked attempt _
      | some exc =>
          simp only
          rw [Program.wp_bind]
          refine wp_retry hInvoked hReady attempt exc
            (fun e s' hTrouble =>
              .databaseFailed e s' hTrouble) ?_
          rintro s₃ record₃ rfl hRetriedRecord
          exact ih hRetriedRecord (attempt + 1)

variable [Platform]

/- The key the job of a run gets. -/
def nextJobId
    (s : Store) : Int :=
  s.provisioningJobs.freshId s.dialect.keyPolicy

/- How a run that begins at `s` ends. -/
def ProvisioningRun.ending
    (run : ProvisioningRun)
    (env : Environment)
    (s : Store) :
    ConnectorResult × Record :=
  run.outcome s (nextJobId s) (run.reply env (nextJobId s))

/- What `execute` leaves behind. -/
inductive ExecuteOutcome
    (w : World Question Reply)
    (env : Environment)
    (orchestrator : ProvisioningOrchestrator)
    (ctx : RequestContext)
    (arguments : ExecuteArguments)
    (s : Store)
    (c : Store)
    (p : List DomainEvent) :
    Except PyException (ConnectorResult × List Metric) →
      Moment Store DomainEvent → Prop
  | unknownConnector
      (exc : PyException)
      (hUnknown :
        orchestrator.registry.get arguments.connectorName =
          .error exc) :
      ExecuteOutcome w env orchestrator ctx arguments s c p
        (.error exc) ⟨c, s, false, p⟩
  | notSeeded
      (connector : String)
      (s' : Store)
      (hConnector :
        orchestrator.registry.get arguments.connectorName =
          .ok connector)
      (hAudited :
        (orchestrator.run ctx arguments connector).Audited)
      (hNone : ProvisioningRun.auditEntitlement s = none)
      (hRecorded :
        Recorded s s'
          ((orchestrator.run ctx arguments
            connector).createdRecord s (nextJobId s))) :
      ExecuteOutcome w env orchestrator ctx arguments s c p
        (.error auditNotSeeded) ⟨c, s', false, p⟩
  | ran
      (connector : String)
      (r :
        Except PyException (ConnectorResult × List Metric))
      (m : Moment Store DomainEvent)
      (hConnector :
        orchestrator.registry.get arguments.connectorName =
          .ok connector)
      (hRun :
        RunOutcome w
          (orchestrator.run ctx arguments connector) s c p
          ((orchestrator.run ctx arguments connector).ending
            env s)
          r m) :
      ExecuteOutcome w env orchestrator ctx arguments s c p
        r m

theorem wp_execute
    (hAnswers : Answers w env)
    (orchestrator : ProvisioningOrchestrator)
    (ctx : RequestContext)
    (arguments : ExecuteArguments) :
    (orchestrator.execute ctx arguments).wp w
      (ExecuteOutcome w env orchestrator ctx arguments s c p)
      ⟨c, s, false, p⟩ := by
  unfold ProvisioningOrchestrator.execute
  cases hConnector :
      orchestrator.registry.get arguments.connectorName with
  | error exc => exact .unknownConnector exc hConnector
  | ok connector =>
      simp only
      rw [Program.wp_bind]
      generalize hRun :
        orchestrator.run ctx arguments connector = run
      refine wp_begin ?_ ?_ ?_
      · intro e s' hTrouble
        refine .ran connector _ _ hConnector ?_
        rw [hRun]
        exact .databaseFailed e s' hTrouble
      · intro s' hAudited hNone hRecorded
        subst hRun
        exact .notSeeded connector s' hConnector hAudited
          hNone hRecorded
      · rintro s' record hReady hRecord hRecorded
        rw [Program.bindPost_ok]
        have hLoop :=
          wp_attemptLoop (w := w) (c := c) (p := p)
            hAnswers hReady hRecorded
            (run.policy.maxAttempts - 1) 1
        subst hRecord
        refine Program.wp_mono hLoop fun r m hOutcome => ?_
        refine .ran connector r m hConnector ?_
        rw [hRun]
        exact hOutcome

end Connectors

end AccessIQ
