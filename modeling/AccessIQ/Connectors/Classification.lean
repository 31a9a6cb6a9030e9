import AccessIQ.Connectors.Reporting

/-
  Whether a failure can be retried.

  The retry policy asks the types of an exception and then
  its `retryable` attribute; the result of a failed run asks
  the attribute alone.  The two agree unless the policy names
  a type whose exceptions do not say they are retryable.

  Key definitions include:
    * `ClassifiedAs`
    * `RetryPolicy.NamesUnmarked`

  Key theorems include:
    * `isRetryableException_eq_attribute_iff`
    * `execute_classified_iff`
-/

------------------------------------------------------------
-- Two Classifiers
------------------------------------------------------------

namespace AccessIQ

namespace Connectors

/-
  The policy names a type of the exception, whose attribute
  does not say that it is retryable.
-/
def RetryPolicy.NamesUnmarked
    (policy : RetryPolicy)
    (exc : ConnectorException) : Prop :=
  exc.retryable = false ∧
    ∃ cls ∈ policy.retryableExceptionTypes,
      exc.isInstance cls = true

/- The policy and the attribute agree about an exception. -/
theorem isRetryableException_eq_attribute_iff
    (policy : RetryPolicy)
    (exc : ConnectorException) :
    policy.isRetryableException exc = exc.retryable ↔
      ¬ policy.NamesUnmarked exc := by
  unfold RetryPolicy.isRetryableException
    RetryPolicy.NamesUnmarked
  rw [← List.any_eq_true]
  cases exc.retryable with
  | true => simp
  | false => simp

/-
  A result and its job say that a failure can be retried, or
  that it cannot.
-/
structure ClassifiedAs
    (retryable : Bool)
    (result : ConnectorResult)
    (job : ProvisioningJob) : Prop where
  status :
    result.status = if retryable then .retryable else .failed
  flag : result.retryable = retryable
  jobStatus :
    job.status = if retryable then .retryable else .failed
  jobFlag : job.retryable = retryable

/- A failed run is classified by the attribute. -/
theorem classified_failed
    {run : ProvisioningRun}
    {s : Store}
    (record : Record)
    (attempt : Nat)
    (exc : ConnectorException) :
    let result := run.resultFromException exc
    ClassifiedAs exc.retryable result
      (run.failedRecord s record attempt result).job := by
  unfold ProvisioningRun.failedRecord ProvisioningRun.failed
    settledJob ProvisioningRun.resultFromException
    ConnectorResult.fromFailure
  cases hRetryable : exc.retryable with
  | true =>
      exact
        { status := rfl
          flag := rfl
          jobStatus := rfl
          jobFlag := rfl }
  | false =>
      exact
        { status := rfl
          flag := rfl
          jobStatus := rfl
          jobFlag := rfl }

/- A result is classified in one way. -/
theorem ClassifiedAs.unique
    {b b' : Bool}
    {result : ConnectorResult}
    {job : ProvisioningJob}
    (hClassified : ClassifiedAs b result job) :
    ClassifiedAs b' result job ↔ b' = b := by
  constructor
  · intro hClassified'
    exact hClassified'.flag.symm.trans hClassified.flag
  · intro hEq
    rw [hEq]
    exact hClassified

end Connectors

end AccessIQ

------------------------------------------------------------
-- The Classification Of A Run
------------------------------------------------------------

namespace AccessIQ

namespace Connectors

open Foundations Python

/- A run whose last call raised ends by its attribute. -/
theorem classified_outcome
    {run : ProvisioningRun}
    {s : Store}
    {jobId : Int}
    {reply : Nat → ConnectorReply}
    {exc : ConnectorException}
    (hRaised : reply (run.attempts reply) = .error exc) :
    let ending := run.outcome s jobId reply
    ClassifiedAs exc.retryable ending.1 ending.2.job := by
  have hOutcome :
      ∃ before : Record,
        True ∧
          run.outcome s jobId reply =
            run.concludedRecord s
              (run.invokedRecord s before
                (run.attempts reply))
              (run.attempts reply)
              (reply (run.attempts reply)) :=
    ProvisioningRun.outcome_eq (fun _ _ => True) trivial
      (fun _ _ _ _ _ => trivial)
  rcases hOutcome with ⟨before, -, hResult⟩
  simp only [hResult, hRaised]
  exact classified_failed _ _ exc

variable [Platform]

/-
  Whenever `execute` returns after the last call of the
  connector raised, its result and the recorded job are
  classified as the policy classifies the exception exactly
  when the policy does not name an unmarked type of it.
-/
theorem execute_classified_iff
    {env : Environment}
    (orchestrator : ProvisioningOrchestrator)
    (ctx : RequestContext)
    (arguments : ExecuteArguments)
    {connector : String}
    (hConnector :
      orchestrator.registry.get arguments.connectorName =
        .ok connector)
    (session : Session Store DomainEvent)
    (hUnbroken : session.broken = false)
    {result : ConnectorResult}
    {metrics : List Metric}
    (hReturns :
      ((orchestrator.execute ctx arguments).run env
        session).1 = .ok (result, metrics))
    {exc : ConnectorException} :
    let run := orchestrator.run ctx arguments connector
    let policy := orchestrator.retryPolicy
    let reply := run.reply env (nextJobId session.working)
    let after :=
      ((orchestrator.execute ctx arguments).run env session).2
    reply (run.attempts reply) = .error exc →
      ∃ job,
        after.working.provisioningJobs.rows =
          session.working.provisioningJobs.rows ++ [job] ∧
        (ClassifiedAs (policy.isRetryableException exc)
            result job ↔
          ¬ policy.NamesUnmarked exc) := by
  intro run policy reply after hRaised
  rcases session with ⟨⟨c, s, broken, p⟩, tick⟩
  simp only at hUnbroken
  subst hUnbroken
  have hOutcome :=
    Program.run_of_wp env.conforms_world
      (s := ⟨⟨c, s, false, p⟩, tick⟩)
      (wp_execute (w := env.world) (c := c) (p := p)
        (s := s) (answers_world env) orchestrator ctx
        arguments)
  rw [hReturns] at hOutcome
  change
    ExecuteOutcome _ _ _ _ _ _ _ _ _ after.toMoment
    at hOutcome
  generalize after.toMoment = m at hOutcome
  cases hOutcome with
  | ran connector' r m hConnector' hRun =>
      rw [hConnector] at hConnector'
      cases hConnector'
      cases hRun with
      | returned s' hReady hSerialized hRecorded =>
          refine ⟨_, hRecorded.jobs, ?_⟩
          have hClassified :
              ClassifiedAs exc.retryable
                (run.outcome s (nextJobId s) reply).1
                (run.outcome s (nextJobId s) reply).2.job :=
            classified_outcome hRaised
          refine hClassified.unique.trans ?_
          exact
            isRetryableException_eq_attribute_iff policy exc

end Connectors

end AccessIQ

------------------------------------------------------------
-- A Policy That Names A Type
------------------------------------------------------------

namespace AccessIQ

namespace Connectors

open Foundations Python

attribute [local instance] asciiPlatform

/- An exception that does not say it is retryable. -/
def connectionReset : ConnectorException where
  className := "ConnectionResetError"
  baseClasses := ["ConnectionError", "OSError", "Exception"]
  message := "Connection reset by peer"
  retryable := false
  details := []

/- An environment whose connectors raise. -/
def unreachableEnvironment : Environment where
  fails _ := false
  answer
    | .callConnector _ => .error connectionReset

/- An orchestrator that retries a lost connection. -/
def patientOrchestrator : ProvisioningOrchestrator where
  registry := mockOrchestrator.registry
  retryPolicy :=
    { mockOrchestrator.retryPolicy with
      maxAttempts := 2
      retryableExceptionTypes := ["ConnectionError"]
      maxAttempts_pos := Nat.le_succ 1 }

/- A lost connection under the default policy. -/
theorem execute_classified_iff_unreachable :
    let session : Session Store DomainEvent :=
      ⟨Moment.start (seededStore .postgresql), 0⟩
    let policy := mockOrchestrator.retryPolicy
    let final :=
      (mockOrchestrator.execute salesforceContext
        salesforceRevocation).run unreachableEnvironment
        session
    ∃ result metrics,
      final.1 = .ok (result, metrics) ∧
        ∃ job,
          final.2.working.provisioningJobs.rows =
            session.working.provisioningJobs.rows ++ [job] ∧
          (ClassifiedAs
              (policy.isRetryableException connectionReset)
              result job ↔
            ¬ policy.NamesUnmarked connectionReset) := by
  have hConnector :
      mockOrchestrator.registry.get
          salesforceRevocation.connectorName =
        .ok "salesforce" := by
    decide +kernel
  have hSome :
      ((mockOrchestrator.execute salesforceContext
            salesforceRevocation).run unreachableEnvironment
          ⟨Moment.start (seededStore .postgresql),
            0⟩).1.toOption.isSome =
        true := by
    decide +kernel
  rcases eq_ok_of_isSome hSome with
    ⟨⟨result, metrics⟩, hReturns⟩
  refine ⟨result, metrics, hReturns, ?_⟩
  exact
    execute_classified_iff mockOrchestrator
      salesforceContext salesforceRevocation hConnector
      ⟨Moment.start (seededStore .postgresql), 0⟩ rfl
      hReturns rfl

/-
  A lost connection is retried because of its type, and then
  reported as a failure that cannot be retried.
-/
theorem retried_type_reported_as_failed :
    let final :=
      (patientOrchestrator.execute salesforceContext
          salesforceRevocation).run unreachableEnvironment
        ⟨Moment.start (seededStore .postgresql), 0⟩
    patientOrchestrator.retryPolicy.isRetryableException
        connectionReset =
      true ∧
      final.1.toOption.map
          (fun returned =>
            (returned.1.status, returned.1.retryable)) =
        some (.failed, false) ∧
      final.2.working.provisioningJobs.rows.map
          (fun job =>
            (job.status, job.retryable, job.attemptCount)) =
        [(.failed, false, 2)] := by
  decide +kernel

end Connectors

end AccessIQ
