import AccessIQ.Connectors.History
import AccessIQ.Connectors.Mock
import AccessIQ.Foundations.Memory
import AccessIQ.Foundations.Runs

/-
  Repeated runs on a mock connector.

  A mock connector counts its calls for as long as the
  connector object lives: the rollback of a session does not
  undo a call.  So its failures are spent over all the runs
  that one object serves under one correlation id, and not
  in each of them.

  Key definitions include:
    * `Execution`
    * `MockIdentityConnector.run`
    * `Execution.Calls`
    * `SpentRun`

  Key theorems include:
    * `run_eq`
    * `run_spent`
    * `attemptCount_serveAll`
    * `simulated_failures_spent`
-/

------------------------------------------------------------
-- Executions
------------------------------------------------------------

namespace AccessIQ

namespace Connectors

open Foundations Python

/-
  One run of an orchestrator: the payload its connector gets,
  the session it is given, the database calls that fail, how
  long its calls take, and what other connectors answer.
-/
structure Execution where
  orchestrator : ProvisioningOrchestrator
  ctx : RequestContext
  arguments : ExecuteArguments
  payload : DetailValue
  session : Session Store DomainEvent
  fails : Nat → Bool
  durationMs : ConnectorCall → Duration
  others : ConnectorCall → ConnectorReply

namespace Execution

variable (e : Execution)

def correlationId :
    String :=
  resolveCorrelationId e.ctx e.arguments.correlationId

/- The key its calls are counted under. -/
def key :
    String :=
  attemptKey e.arguments.operation (some e.correlationId)

end Execution

namespace MockIdentityConnector

variable (c : MockIdentityConnector)
variable (repr : String → String)

/- How the connectors answer the calls of a run. -/
def answer
    (e : Execution) :
    Recollection AttemptCounts Question Reply
  | .callConnector call, counts =>
      if call.connector = c.name then
        c.execute repr call.operation e.payload
          (some e.correlationId) (e.durationMs call) counts
      else
        (e.others call, counts)

variable [Platform]

/- What becomes of a run, and the counts after it. -/
def run
    (counts : AttemptCounts)
    (e : Execution) :
    (Except PyException (ConnectorResult × List Metric) ×
        Session Store DomainEvent) ×
      AttemptCounts :=
  (e.orchestrator.execute e.ctx e.arguments).runWith e.fails
    (c.answer repr e) e.session counts

def serve
    (counts : AttemptCounts)
    (e : Execution) :
    AttemptCounts :=
  (c.run repr counts e).2

/-
  The environment of a run from counts: the connector was
  called at each attempt before the one that calls it.
-/
def environment
    (counts : AttemptCounts)
    (e : Execution) :
    Environment where
  fails := e.fails
  answer
    | .callConnector call =>
        (c.answer repr e (.callConnector call)
          ((c.recorded e.arguments.operation
            (some e.correlationId))^[call.attempt - 1]
              counts)).1

end MockIdentityConnector

end Connectors

end AccessIQ

------------------------------------------------------------
-- Calls Of An Execution
------------------------------------------------------------

namespace AccessIQ

namespace Connectors

open Foundations Python

variable {c : MockIdentityConnector}
variable {repr : String → String}
variable {counts : AttemptCounts}
variable {e : Execution}

theorem attemptCalls_of_ok
    {run : ProvisioningRun}
    (hPayload :
      checkPayload run.operation run.payload = .ok ())
    (jobId : Int)
    (attempts : List Nat) :
    attempts.flatMap (attemptCalls run jobId) =
      attempts.map fun attempt =>
        .callConnector (run.call jobId attempt) := by
  have hCalls :
      attemptCalls run jobId = fun attempt =>
        [.callConnector (run.call jobId attempt)] := by
    funext attempt
    unfold attemptCalls
    rw [hPayload]
  rw [hCalls, List.map_eq_flatMap]

theorem attemptCalls_of_error
    {run : ProvisioningRun}
    {exc : ConnectorException}
    (hPayload :
      checkPayload run.operation run.payload = .error exc)
    (jobId : Int)
    (attempts : List Nat) :
    attempts.flatMap (attemptCalls run jobId) = [] := by
  have hCalls :
      attemptCalls run jobId = fun _ => [] := by
    funext attempt
    unfold attemptCalls
    rw [hPayload]
  rw [hCalls]
  simp

theorem answer_own
    {call : ConnectorCall}
    (hConnector : call.connector = c.name) :
    c.answer repr e (.callConnector call) counts =
      c.execute repr call.operation e.payload
        (some e.correlationId) (e.durationMs call) counts := by
  unfold MockIdentityConnector.answer
  exact if_pos hConnector

theorem answer_other
    {call : ConnectorCall}
    (hConnector : ¬ call.connector = c.name) :
    c.answer repr e (.callConnector call) counts =
      (e.others call, counts) := by
  unfold MockIdentityConnector.answer
  exact if_neg hConnector

/- The calls of a run to the connector are all counted. -/
theorem remember_calls
    (connector : String)
    (jobId : Int)
    (made : Nat) :
    remember (c.answer repr e) counts
        ((List.range' 1 made).map fun attempt =>
          .callConnector
            ((e.orchestrator.run e.ctx e.arguments
              connector).call jobId attempt)) =
      if connector = c.name then
        (c.recorded e.arguments.operation
          (some e.correlationId))^[made] counts
      else
        counts := by
  induction made with
  | zero => simp
  | succ made ih =>
      rw [List.range'_1_concat, List.map_append,
        remember_append, ih]
      by_cases hConnector : connector = c.name
      · rw [if_pos hConnector, if_pos hConnector,
          Function.iterate_succ_apply', List.map_singleton,
          remember_cons, remember_nil, answer_own hConnector]
        exact MockIdentityConnector.execute_snd ..
      · rw [if_neg hConnector, if_neg hConnector,
          List.map_singleton, remember_cons, remember_nil,
          answer_other hConnector]

/- The oracle answers as the connector remembers. -/
theorem remembered_calls
    (connector : String)
    (jobId : Int)
    (made : Nat) :
    Remembered (c.environment repr counts e)
      (c.answer repr e) counts
      ((List.range' 1 made).map fun attempt =>
        .callConnector
          ((e.orchestrator.run e.ctx e.arguments
            connector).call jobId attempt)) := by
  induction made with
  | zero => exact trivial
  | succ made ih =>
      rw [List.range'_1_concat, List.map_append,
        remembered_append]
      refine ⟨ih, ?_, trivial⟩
      change (c.answer repr e _ _).1 = _
      rw [remember_calls]
      by_cases hConnector : connector = c.name
      · have hAttempt : 1 + made - 1 = made := by omega
        rw [if_pos hConnector]
        change
          (c.answer repr e _
            ((c.recorded e.arguments.operation
              (some e.correlationId))^[1 + made - 1]
                counts)).1 = _
        rw [hAttempt]
      · rw [if_neg hConnector, answer_other hConnector,
          answer_other hConnector]

variable [Platform]

/- A run calls one connector at its attempts in order. -/
theorem asked_execute_inOrder
    (env : Environment)
    (orchestrator : ProvisioningOrchestrator)
    (ctx : RequestContext)
    (arguments : ExecuteArguments)
    (session : Session Store DomainEvent) :
    (orchestrator.execute ctx arguments).asked env session =
        [] ∨
      ∃ connector jobId made,
        orchestrator.registry.get arguments.connectorName =
            .ok connector ∧
          (orchestrator.execute ctx arguments).asked env
              session =
            (List.range' 1 made).flatMap
              (attemptCalls
                (orchestrator.run ctx arguments connector)
                jobId) := by
  unfold ProvisioningOrchestrator.execute
  cases hConnector :
      orchestrator.registry.get arguments.connectorName with
  | error exc => exact Or.inl rfl
  | ok connector =>
      simp only
      generalize hRun :
        orchestrator.run ctx arguments connector = run
      rw [Program.asked_bind,
        Program.asked_of_quiet quiet_begin, List.nil_append]
      rcases run.begin.run env session with
        ⟨exc | progress, session'⟩
      · exact Or.inl rfl
      · have hPositive := run.policy.maxAttempts_pos
        have hMax :
            1 + (run.policy.maxAttempts - 1) =
              run.policy.maxAttempts := by
          omega
        rcases @asked_attemptLoop run env _ _ progress hMax
            session' with
          ⟨made, -, hAsked, -⟩
        refine Or.inr ⟨connector, progress.job.id, made,
          rfl, ?_⟩
        rw [hRun]
        exact hAsked

end Connectors

end AccessIQ

------------------------------------------------------------
-- Counts Of An Execution
------------------------------------------------------------

namespace AccessIQ

namespace Connectors

open Foundations Python

variable [Platform]
variable {c : MockIdentityConnector}
variable {repr : String → String}
variable {counts : AttemptCounts}
variable {e : Execution}

/- The run calls the connector under the key. -/
def Execution.calls
    (e : Execution)
    (c : MockIdentityConnector)
    (key : String) :
    Bool :=
  (match
      e.orchestrator.registry.get e.arguments.connectorName
    with
    | .ok connector => connector == c.name
    | .error _ => false) &&
  (match
      checkPayload e.arguments.operation e.arguments.payload
    with
    | .ok () => true
    | .error _ => false) &&
  e.key == key

/- What a run that calls the connector is. -/
structure Execution.Calls
    (e : Execution)
    (c : MockIdentityConnector)
    (key : String) : Prop where
  registered :
    e.orchestrator.registry.get e.arguments.connectorName =
      .ok c.name
  accepted :
    checkPayload e.arguments.operation e.arguments.payload =
      .ok ()
  key : e.key = key

theorem Execution.calls_iff
    {key : String} :
    e.calls c key = true ↔ e.Calls c key := by
  unfold Execution.calls
  simp only [Bool.and_eq_true, beq_iff_eq]
  constructor
  · rintro ⟨⟨hRegistered, hAccepted⟩, hKey⟩
    refine ⟨?_, ?_, hKey⟩
    · split at hRegistered
      · rename_i connector hConnector
        rw [hConnector, beq_iff_eq.mp hRegistered]
      · cases hRegistered
    · split at hAccepted
      · assumption
      · cases hAccepted
  · intro hCalls
    rw [hCalls.registered, hCalls.accepted]
    exact ⟨⟨beq_self_eq_true _, rfl⟩, hCalls.key⟩

/- A run is one against the environment of its counts. -/
theorem run_eq :
    c.run repr counts e =
      ((e.orchestrator.execute e.ctx e.arguments).run
          (c.environment repr counts e) e.session,
        remember (c.answer repr e) counts
          ((e.orchestrator.execute e.ctx e.arguments).asked
            (c.environment repr counts e) e.session)) := by
  unfold MockIdentityConnector.run
  refine Program.runWith_eq_run
    (o := c.environment repr counts e) ?_
  rcases asked_execute_inOrder (c.environment repr counts e)
      e.orchestrator e.ctx e.arguments e.session with
    hNone | ⟨connector, jobId, made, -, hAsked⟩
  · rw [hNone]
    exact trivial
  · rw [hAsked]
    cases hPayload :
        checkPayload e.arguments.operation
          e.arguments.payload with
    | error exc =>
        rw [attemptCalls_of_error hPayload]
        exact trivial
    | ok _ =>
        rw [attemptCalls_of_ok hPayload]
        exact remembered_calls connector jobId made

/- A run under another key leaves the count as it is. -/
theorem attemptCount_serve_of_not_calls
    {key : String}
    (hOther : e.calls c key = false) :
    attemptCount (c.serve repr counts e) key =
      attemptCount counts key := by
  unfold MockIdentityConnector.serve
  rw [run_eq]
  simp only
  rcases asked_execute_inOrder (c.environment repr counts e)
      e.orchestrator e.ctx e.arguments e.session with
    hNone | ⟨connector, jobId, made, hConnector, hAsked⟩
  · rw [hNone, remember_nil]
  · rw [hAsked]
    cases hPayload :
        checkPayload e.arguments.operation
          e.arguments.payload with
    | error exc =>
        rw [attemptCalls_of_error hPayload, remember_nil]
    | ok _ =>
        rw [attemptCalls_of_ok hPayload, remember_calls]
        by_cases hName : connector = c.name
        · have hKey : ¬ e.key = key := by
            intro hKey
            rw [hName] at hConnector
            have hCalls : e.calls c key = true :=
              Execution.calls_iff.mpr
                ⟨hConnector, hPayload, hKey⟩
            rw [hOther] at hCalls
            cases hCalls
          rw [if_pos hName,
            MockIdentityConnector.attemptCount_recorded,
            if_neg fun hOwn => hKey hOwn.2, Nat.add_zero]
        · rw [if_neg hName]

/- A run that returns has counted its attempts. -/
theorem attemptCount_serve_of_returned
    {key : String}
    (hCalls : e.Calls c key)
    (hServes : c.Serves e.arguments.operation)
    (hUnbroken : e.session.broken = false)
    (hReturns :
      ∃ a, (c.run repr counts e).1.1 = .ok a) :
    let run := e.orchestrator.run e.ctx e.arguments c.name
    attemptCount (c.serve repr counts e) key =
      attemptCount counts key +
        run.attempts
          (run.reply (c.environment repr counts e)
            (nextJobId e.session.working)) := by
  intro run
  rw [run_eq] at hReturns
  unfold MockIdentityConnector.serve
  rw [run_eq]
  simp only at hReturns ⊢
  have hAsked :
      (e.orchestrator.execute e.ctx e.arguments).asked
          (c.environment repr counts e) e.session =
        (List.range' 1
          (run.attempts
            (run.reply (c.environment repr counts e)
              (nextJobId e.session.working)))).flatMap
          (attemptCalls run
            (nextJobId e.session.working)) := by
    rcases hSession : e.session with ⟨⟨d, s, broken, p⟩, tick⟩
    rw [hSession] at hReturns hUnbroken
    simp only at hUnbroken
    subst hUnbroken
    exact asked_execute hCalls.registered hReturns
  rw [hAsked, attemptCalls_of_ok hCalls.accepted,
    remember_calls, if_pos rfl,
    MockIdentityConnector.attemptCount_recorded,
    if_pos ⟨hServes, hCalls.key⟩]

end Connectors

end AccessIQ

------------------------------------------------------------
-- Spent Failures
------------------------------------------------------------

namespace AccessIQ

namespace Connectors

open Foundations Python

variable {c : MockIdentityConnector}
variable {repr : String → String}
variable {counts : AttemptCounts}
variable {e : Execution}

/-
  The database works, and holds what the audit events of the
  run refer to; the payload can be serialised.
-/
structure Execution.Ready
    (e : Execution) : Prop where
  steady : ∀ tick, e.fails tick = false
  unbroken : e.session.broken = false
  seeded :
    ProvisioningRun.auditEntitlement e.session.working ≠ none
  users :
    ∀ userId,
      e.arguments.requesterId = some userId ∨
          e.arguments.targetUserId = some userId →
        e.session.working.users.contains userId = true
  serializable : ∃ value, e.payload = .json value

/- The connector succeeds once its failures are spent. -/
structure MockIdentityConnector.Succeeds
    (c : MockIdentityConnector)
    (operation : ConnectorOperation) : Prop where
  serves : c.Serves operation
  simulated : c.raiseForSimulation = .ok ()

/- The number of attempts a run makes after `spent` calls. -/
def attemptsFrom
    (maxAttempts failures spent : Nat) :
    Nat :=
  min maxAttempts (failures - spent + 1)

theorem reply_of_accepted
    {run : ProvisioningRun}
    (env : Environment)
    (hAccepted :
      checkPayload run.operation run.payload = .ok ())
    (jobId : Int)
    (attempt : Nat) :
    run.reply env jobId attempt =
      env.answer
        (.callConnector (run.call jobId attempt)) := by
  unfold ProvisioningRun.reply
  rw [hAccepted]

/- How an attempt of a run is answered. -/
theorem reply_environment
    {run : ProvisioningRun}
    (hRun :
      run = e.orchestrator.run e.ctx e.arguments c.name)
    (hAccepted :
      checkPayload e.arguments.operation
          e.arguments.payload =
        .ok ())
    (hServes : c.Serves e.arguments.operation)
    (jobId : Int)
    {attempt : Nat}
    (hFirst : 1 ≤ attempt) :
    run.reply (c.environment repr counts e) jobId attempt =
      c.replyOf e.arguments.operation e.payload
        (some e.correlationId)
        (e.durationMs (run.call jobId attempt))
        (attemptCount counts e.key + attempt) := by
  have hAttempt :
      attemptCount counts e.key + (attempt - 1) + 1 =
        attemptCount counts e.key + attempt := by
    omega
  have hReply :
      run.reply (c.environment repr counts e) jobId attempt =
        (c.environment repr counts e).answer
          (.callConnector (run.call jobId attempt)) := by
    apply reply_of_accepted
    rw [hRun]
    exact hAccepted
  subst hRun
  rw [hReply]
  change (c.answer repr e _ _).1 = _
  rw [answer_own rfl]
  change
    (c.execute repr e.arguments.operation e.payload
      (some e.correlationId) _ _).1 = _
  rw [MockIdentityConnector.execute_of_serves repr hServes,
    MockIdentityConnector.attemptCount_recorded,
    if_pos ⟨hServes, rfl⟩]
  change c.replyOf _ _ _ _ (_ + (attempt - 1) + 1) = _
  unfold Execution.key at hAttempt
  rw [hAttempt]
  rfl

/- The attempts of a run that begins after `spent` calls. -/
theorem attempts_of_spent
    {run : ProvisioningRun}
    {operation : ConnectorOperation}
    (hSimulated : c.raiseForSimulation = .ok ())
    {payload : DetailValue}
    {correlationId : Option String}
    {durationMs : Nat → Duration}
    {spent : Nat}
    {reply : Nat → ConnectorReply}
    (hReply :
      ∀ attempt, 1 ≤ attempt →
        reply attempt =
          c.replyOf operation payload correlationId
            (durationMs attempt) (spent + attempt)) :
    run.attempts reply =
      attemptsFrom run.policy.maxAttempts
        c.failuresBeforeSuccess spent := by
  have hPositive := run.policy.maxAttempts_pos
  have hLast :=
    @lastAttempt_of_threshold _ _
      run.policy.isRetryableException reply 1
      (c.failuresBeforeSuccess - spent)
      (by
        intro attempt hFirst hLe
        refine
          ⟨MockIdentityConnector.earlyFailure
            (spent + attempt), ?_, ?_⟩
        · rw [hReply attempt hFirst]
          exact if_pos (by omega)
        · unfold RetryPolicy.isRetryableException
          exact Bool.or_true _)
      (by
        intro attempt hFirst hLt
        refine ⟨c.successResult operation payload
          correlationId (durationMs attempt)
          (spent + attempt), ?_⟩
        rw [hReply attempt hFirst]
        unfold MockIdentityConnector.replyOf
        rw [if_neg (by omega), hSimulated])
      (run.policy.maxAttempts - 1) 1 (le_refl 1)
  unfold ProvisioningRun.attempts attemptsFrom
  rw [hLast]
  omega

/- The result of a run that begins after `spent` calls. -/
def resultFrom
    (c : MockIdentityConnector)
    (run : ProvisioningRun)
    (payload : DetailValue)
    (durationMs : Duration)
    (last : Nat) :
    ConnectorResult :=
  if last ≤ c.failuresBeforeSuccess then
    run.resultFromException
      (MockIdentityConnector.earlyFailure last)
  else
    c.successResult run.operation payload
      (some run.correlationId) durationMs last

theorem status_resultFrom
    (run : ProvisioningRun)
    (payload : DetailValue)
    (durationMs : Duration)
    (last : Nat) :
    (resultFrom c run payload durationMs last).status =
      if last ≤ c.failuresBeforeSuccess then .retryable
      else .success := by
  unfold resultFrom
  split
  · rfl
  · rfl

theorem jsonDetails_resultFrom
    {payload : DetailValue}
    (hPayload : ∃ value, payload = .json value)
    (run : ProvisioningRun)
    (durationMs : Duration)
    (last : Nat) :
    JsonDetails
      (resultFrom c run payload durationMs last).details := by
  unfold resultFrom
  split
  · apply jsonDetails_setDetail
    intro member hMember
    rcases List.mem_singleton.mp hMember with rfl
    exact ⟨_, rfl⟩
  · rcases hPayload with ⟨value, rfl⟩
    intro member hMember
    simp only [MockIdentityConnector.successResult,
      List.mem_cons, List.not_mem_nil, or_false] at hMember
    rcases hMember with rfl | rfl | rfl
    · exact ⟨_, rfl⟩
    · exact ⟨_, rfl⟩
    · exact ⟨_, rfl⟩

theorem result_of_spent
    {run : ProvisioningRun}
    {reply : Nat → ConnectorReply}
    {last total : Nat}
    {payload : DetailValue}
    {durationMs : Duration}
    {result : ConnectorResult}
    (hSimulated : c.raiseForSimulation = .ok ())
    (hReply :
      reply last =
        c.replyOf run.operation payload
          (some run.correlationId) durationMs total)
    (hLength : RunLength run reply last result) :
    result = resultFrom c run payload durationMs total := by
  have hEnded := hLength.ended
  rw [hReply] at hEnded
  unfold MockIdentityConnector.replyOf at hEnded
  unfold resultFrom
  by_cases hEarly : total ≤ c.failuresBeforeSuccess
  · rw [if_pos hEarly] at hEnded ⊢
    rcases hEnded with hOk | ⟨exc, hError, -, hEq⟩
    · cases hOk
    · cases hError
      exact hEq
  · rw [if_neg hEarly, hSimulated] at hEnded
    rw [if_neg hEarly]
    rcases hEnded with hOk | ⟨exc, hError, -, -⟩
    · injection hOk with hEq
      exact hEq.symm
    · cases hError

variable [Platform]

/- What a run records that begins after some calls. -/
structure SpentRun
    (c : MockIdentityConnector)
    (repr : String → String)
    (counts : AttemptCounts)
    (e : Execution)
    (last : Nat)
    (result : ConnectorResult)
    (job : ProvisioningJob) : Prop where
  stored :
    (c.run repr counts e).1.2.working.provisioningJobs.rows =
      e.session.working.provisioningJobs.rows ++ [job]
  attemptCount : job.attemptCount = last
  status : job.status = result.status.jobStatus
  result :
    ∃ durationMs,
      result =
        resultFrom c
          (e.orchestrator.run e.ctx e.arguments c.name)
          e.payload durationMs
          (Connectors.attemptCount counts e.key + last)

/- A run that can be recorded and serialised returns. -/
theorem run_execute_returned
    {env : Environment}
    {orchestrator : ProvisioningOrchestrator}
    {ctx : RequestContext}
    {arguments : ExecuteArguments}
    {connector : String}
    {session : Session Store DomainEvent}
    (hSteady : env.Steady)
    (hRegistered :
      orchestrator.registry.get arguments.connectorName =
        .ok connector)
    (hUnbroken : session.broken = false)
    (hSeeded :
      ProvisioningRun.auditEntitlement session.working ≠
        none) :
    let run := orchestrator.run ctx arguments connector
    let final :=
      (orchestrator.execute ctx arguments).run env session
    run.AuditsResolve session.working →
      serializeFailure (run.ending env session.working).1 =
          none →
        ∃ metrics,
          final.1 =
              .ok
                ((run.ending env session.working).1,
                  metrics) ∧
            Recorded session.working final.2.working
              (run.ending env session.working).2 := by
  rcases session with ⟨⟨d, s, broken, p⟩, tick⟩
  simp only at hUnbroken hSeeded ⊢
  subst hUnbroken
  intro hResolve hSerialized
  have hOutcome :=
    Program.run_of_wp env.conforms_world
      (s := ⟨⟨d, s, false, p⟩, tick⟩)
      (wp_execute (w := env.world) (c := d) (p := p)
        (s := s) (answers_world env) orchestrator ctx
        arguments)
  generalize
    (orchestrator.execute ctx arguments).run env
      ⟨⟨d, s, false, p⟩, tick⟩ = final at hOutcome ⊢
  rcases final with ⟨r, ⟨m, tick'⟩⟩
  simp only at hOutcome ⊢
  cases hOutcome with
  | unknownConnector exc hUnknown =>
      rw [hRegistered] at hUnknown
      cases hUnknown
  | notSeeded connector' s' _ _ hNone _ =>
      exact absurd hNone hSeeded
  | ran connector' r m hConnector' hOutcome =>
      rw [hRegistered] at hConnector'
      cases hConnector'
      cases hOutcome with
      | returned s' _ _ hRecorded =>
          exact ⟨_, rfl, hRecorded⟩
      | unserialized s' record message _ hMessage _ _ =>
          rw [hSerialized] at hMessage
          cases hMessage
      | databaseFailed e' s' hTrouble =>
          rcases hTrouble with hFail | hNot
          · exact absurd hFail hSteady.not_mayFail
          · exact absurd hResolve hNot

section Spending

variable {key : String}
variable (hCalls : e.Calls c key)
variable (hSucceeds : c.Succeeds e.arguments.operation)

include hCalls hSucceeds

/- The attempts of a run are those left of its failures. -/
theorem attempts_spent
    (jobId : Int) :
    let run := e.orchestrator.run e.ctx e.arguments c.name
    run.attempts
        (run.reply (c.environment repr counts e) jobId) =
      attemptsFrom e.orchestrator.retryPolicy.maxAttempts
        c.failuresBeforeSuccess (attemptCount counts key) := by
  intro run
  apply attempts_of_spent hSucceeds.simulated
  intro attempt hFirst
  rw [← hCalls.key]
  exact reply_environment rfl hCalls.accepted
    hSucceeds.serves jobId hFirst

/- The result of a run counts all calls under the key. -/
theorem result_spent
    (s : Store) :
    let run := e.orchestrator.run e.ctx e.arguments c.name
    let last :=
      attemptsFrom e.orchestrator.retryPolicy.maxAttempts
        c.failuresBeforeSuccess (attemptCount counts key)
    (run.ending (c.environment repr counts e) s).1 =
      resultFrom c run e.payload
        (e.durationMs (run.call (nextJobId s) last))
        (attemptCount counts key + last) := by
  intro run last
  have hLength :
      RunLength run _ _
        (run.ending (c.environment repr counts e) s).1 :=
    runLength_attempts _
  have hAttempts :
      run.attempts
          (run.reply (c.environment repr counts e)
            (nextJobId s)) =
        last :=
    attempts_spent hCalls hSucceeds (nextJobId s)
  rw [hAttempts] at hLength
  apply result_of_spent hSucceeds.simulated _ hLength
  rw [← hCalls.key]
  exact reply_environment rfl hCalls.accepted
    hSucceeds.serves _ hLength.positive

/- A run makes the attempts that are left of its failures. -/
theorem run_spent
    (hReady : e.Ready) :
    let last :=
      attemptsFrom e.orchestrator.retryPolicy.maxAttempts
        c.failuresBeforeSuccess (attemptCount counts key)
    ∃ result metrics job,
      (c.run repr counts e).1.1 = .ok (result, metrics) ∧
        SpentRun c repr counts e last result job ∧
        attemptCount (c.serve repr counts e) key =
          attemptCount counts key + last := by
  intro last
  let run := e.orchestrator.run e.ctx e.arguments c.name
  let env := c.environment repr counts e
  let s := e.session.working
  have hAttempts :
      run.attempts (run.reply env (nextJobId s)) = last :=
    attempts_spent hCalls hSucceeds (nextJobId s)
  have hResult :
      (run.ending env s).1 =
        resultFrom c run e.payload
          (e.durationMs (run.call (nextJobId s) last))
          (attemptCount counts key + last) :=
    result_spent hCalls hSucceeds s
  have hSerialized :
      serializeFailure (run.ending env s).1 = none := by
    apply serializeFailure_eq_none
    rw [hResult]
    exact jsonDetails_resultFrom hReady.serializable _ _ _
  have hSteady : env.Steady := hReady.steady
  have hResolve : run.AuditsResolve s :=
    auditsResolve_of_users hReady.users
  rcases run_execute_returned hSteady hCalls.registered
      hReady.unbroken hReady.seeded hResolve hSerialized with
    ⟨metrics, hReturned, hRecorded⟩
  have hRun :
      (c.run repr counts e).1 =
        (e.orchestrator.execute e.ctx e.arguments).run env
          e.session :=
    congrArg Prod.fst run_eq
  rw [← hRun] at hReturned hRecorded
  have hTrace :
      RunTrace run
        (run.attempts (run.reply env (nextJobId s)))
        _ (run.ending env s).1 (run.ending env s).2.job
        (run.ending env s).2.history :=
    runTrace_outcome _
  have hCounted :=
    attemptCount_serve_of_returned hCalls hSucceeds.serves
      hReady.unbroken ⟨_, hReturned⟩
  refine
    ⟨(run.ending env s).1, metrics, (run.ending env s).2.job,
      hReturned, ?_,
      hCounted.trans (congrArg _ hAttempts)⟩
  exact
    { stored := hRecorded.jobs
      attemptCount := by
        rw [hTrace.attemptCount, hAttempts]
      status := hTrace.status
      result := ⟨_, by
        rw [hCalls.key]
        exact hResult⟩ }

end Spending

end Connectors

end AccessIQ

------------------------------------------------------------
-- Repeated Runs
------------------------------------------------------------

namespace AccessIQ

namespace Connectors

open Foundations Python

variable [Platform]
variable {c : MockIdentityConnector}
variable {repr : String → String}

/- Every run under the key is ready and has one policy. -/
def Execution.Alike
    (c : MockIdentityConnector)
    (key : String)
    (maxAttempts : Nat)
    (executions : List Execution) : Prop :=
  ∀ e ∈ executions, e.calls c key = true →
    e.Ready ∧
      e.orchestrator.retryPolicy.maxAttempts = maxAttempts

/- Runs of one key run one operation. -/
theorem operation_of_calls
    {e e' : Execution}
    {key : String}
    (hCalls : e.Calls c key)
    (hCalls' : e'.Calls c key) :
    e.arguments.operation = e'.arguments.operation :=
  attemptKey_operation (hCalls.key.trans hCalls'.key.symm)

/-
  The calls that runs made under a key: all their attempts
  until the failures are spent, and more than these after.
-/
theorem attemptCount_serveAll
    {key : String}
    {maxAttempts : Nat}
    {operation : ConnectorOperation}
    (hSucceeds : c.Succeeds operation)
    (hOperation :
      ∀ e : Execution, e.Calls c key →
        e.arguments.operation = operation)
    {executions : List Execution}
    (hAlike :
      Execution.Alike c key maxAttempts executions) :
    let runs := executions.countP (·.calls c key)
    let spent :=
      attemptCount
        (serveAll (c.serve repr) Dict.empty executions) key
    (runs * maxAttempts ≤ c.failuresBeforeSuccess →
        spent = runs * maxAttempts) ∧
      (c.failuresBeforeSuccess < runs * maxAttempts →
        c.failuresBeforeSuccess < spent) := by
  induction executions using List.reverseRecOn with
  | nil =>
      intro runs spent
      have hRuns : runs * maxAttempts = 0 := Nat.zero_mul _
      have hSpent : spent = 0 := rfl
      omega
  | append_singleton before e ih =>
      have hBefore :
          Execution.Alike c key maxAttempts before :=
        fun e' hMem =>
          hAlike e' (List.mem_append_left _ hMem)
      have hEarlier := ih hBefore
      simp only at hEarlier ⊢
      rw [serveAll_append, serveAll_cons, serveAll_nil,
        List.countP_append, List.countP_singleton]
      generalize serveAll (c.serve repr) Dict.empty before =
        counts at hEarlier ⊢
      generalize before.countP (·.calls c key) = runs
        at hEarlier ⊢
      cases hCalls : e.calls c key with
      | false =>
          rw [attemptCount_serve_of_not_calls hCalls]
          simpa using hEarlier
      | true =>
          have hOwn := Execution.calls_iff.mp hCalls
          rcases hAlike e
              (List.mem_append_right _ List.mem_cons_self)
              hCalls with
            ⟨hReady, hPolicy⟩
          rw [← hOperation e hOwn] at hSucceeds
          rcases @run_spent c repr counts e _ key hOwn
              hSucceeds hReady with
            ⟨-, -, -, -, -, hCount⟩
          rw [hCount, hPolicy, if_pos rfl, Nat.add_mul,
            Nat.one_mul]
          unfold attemptsFrom
          generalize runs * maxAttempts = all at hEarlier ⊢
          have hPositive :=
            e.orchestrator.retryPolicy.maxAttempts_pos
          omega

/-
  Every run under a key spends its attempts on the failures
  that are left, whatever runs under other keys.  The run
  that spends the last one succeeds at once, and so does
  every later one at its first attempt.
-/
theorem simulated_failures_spent
    {before : List Execution}
    {e : Execution}
    {maxAttempts : Nat}
    (hAlike :
      Execution.Alike c e.key maxAttempts (before ++ [e]))
    (hCalls : e.calls c e.key = true)
    (hSucceeds : c.Succeeds e.arguments.operation) :
    let failures := c.failuresBeforeSuccess
    let earlier :=
      before.countP (·.calls c e.key) * maxAttempts
    let counts :=
      serveAll (c.serve repr) Dict.empty before
    ∃ result metrics job,
      (c.run repr counts e).1.1 = .ok (result, metrics) ∧
        SpentRun c repr counts e job.attemptCount result
          job ∧
        (earlier + maxAttempts ≤ failures →
          result.status = .retryable ∧
            job.attemptCount = maxAttempts) ∧
        (earlier ≤ failures →
          failures < earlier + maxAttempts →
            result.status = .success ∧
              job.attemptCount = failures - earlier + 1) ∧
        (failures < earlier →
          result.status = .success ∧
            job.attemptCount = 1) := by
  intro failures earlier counts
  have hOwn := Execution.calls_iff.mp hCalls
  have hLast : e ∈ before ++ [e] :=
    List.mem_append_right _ List.mem_cons_self
  rcases hAlike e hLast hCalls with ⟨hReady, hPolicy⟩
  have hSpent :
      (earlier ≤ failures →
          attemptCount counts e.key = earlier) ∧
        (failures < earlier →
          failures < attemptCount counts e.key) :=
    @attemptCount_serveAll _ c repr e.key maxAttempts
      e.arguments.operation hSucceeds
      (fun e' hCalls' => operation_of_calls hCalls' hOwn)
      before
      (fun e' hMem =>
        hAlike e' (List.mem_append_left _ hMem))
  have hPositive :=
    e.orchestrator.retryPolicy.maxAttempts_pos
  rcases @run_spent c repr counts e _ e.key hOwn
      hSucceeds hReady with
    ⟨result, metrics, job, hOk, hRun, -⟩
  rcases hRun.result with ⟨durationMs, hResult⟩
  have hCount := hRun.attemptCount
  have hStatus :
      result.status =
        if attemptCount counts e.key + job.attemptCount ≤
            failures then
          .retryable
        else
          .success := by
    rw [hResult, hCount]
    exact status_resultFrom _ _ _ _
  have hMade :
      job.attemptCount =
        min maxAttempts
          (failures - attemptCount counts e.key + 1) := by
    rw [hCount, hPolicy]
    rfl
  rw [← hCount] at hRun
  rw [hPolicy] at hPositive
  refine ⟨result, metrics, job, hOk, hRun, ?_, ?_, ?_⟩
  · intro hLeft
    have hAttempts : job.attemptCount = maxAttempts := by
      omega
    refine ⟨?_, hAttempts⟩
    rw [hStatus]
    exact if_pos (by omega)
  · intro hLeft hEnough
    have hAttempts :
        job.attemptCount = failures - earlier + 1 := by
      omega
    refine ⟨?_, hAttempts⟩
    rw [hStatus]
    exact if_neg (by omega)
  · intro hNone
    have hAttempts : job.attemptCount = 1 := by
      omega
    refine ⟨?_, hAttempts⟩
    rw [hStatus]
    exact if_neg (by omega)

end Connectors

end AccessIQ

------------------------------------------------------------
-- A Repeated Revocation
------------------------------------------------------------

namespace AccessIQ

namespace Connectors

open Foundations Python

attribute [local instance] asciiPlatform

/- A connector that fails three times. -/
def flakySalesforce : MockIdentityConnector where
  name := "salesforce"
  displayName := "Salesforce"
  failuresBeforeSuccess := 3

/- The revocation with two attempts for each run. -/
def revocationRun : Execution where
  orchestrator :=
    { mockOrchestrator with
      retryPolicy :=
        { mockOrchestrator.retryPolicy with
          maxAttempts := 2
          maxAttempts_pos := Nat.two_pos } }
  ctx := salesforceContext
  arguments := salesforceRevocation
  payload := .json (.string "Salesforce User")
  session := ⟨Moment.start (seededStore .postgresql), 0⟩
  fails _ := false
  durationMs _ := 12500
  others call := steadyEnvironment.answer (.callConnector call)

/- The same under a correlation id of its own. -/
def otherRevocationRun : Execution :=
  { revocationRun with ctx := ⟨"corr-other", 1000, 3⟩ }

theorem revocationRun_ready :
    revocationRun.Ready where
  steady _ := rfl
  unbroken := rfl
  seeded := by decide +kernel
  users := by
    intro userId hUser
    rcases hUser with hUser | hUser
    · cases hUser
      decide +kernel
    · cases hUser
      decide +kernel
  serializable := ⟨_, rfl⟩

/- The second run spends the last failure and succeeds. -/
theorem simulated_failures_spent_second :
    ∃ result metrics job,
      (flakySalesforce.run id
              (serveAll (flakySalesforce.serve id) Dict.empty
                [revocationRun, otherRevocationRun])
              revocationRun).1.1 =
          .ok (result, metrics) ∧
        SpentRun flakySalesforce id
          (serveAll (flakySalesforce.serve id) Dict.empty
            [revocationRun, otherRevocationRun])
          revocationRun 2 result job ∧
        result.status = .success := by
  have hAlike :
      Execution.Alike flakySalesforce revocationRun.key 2
        ([revocationRun, otherRevocationRun] ++
          [revocationRun]) := by
    intro e hMem hCalls
    simp only [List.cons_append, List.nil_append,
      List.mem_cons, List.not_mem_nil, or_false] at hMem
    rcases hMem with rfl | rfl | rfl
    · exact ⟨revocationRun_ready, rfl⟩
    · exact absurd hCalls (by decide +kernel)
    · exact ⟨revocationRun_ready, rfl⟩
  have hSucceeds :
      flakySalesforce.Succeeds
        revocationRun.arguments.operation :=
    ⟨by decide, rfl⟩
  have hRuns :
      [revocationRun, otherRevocationRun].countP
          (·.calls flakySalesforce revocationRun.key) =
        1 := by
    decide +kernel
  rcases @simulated_failures_spent _ flakySalesforce id
      [revocationRun, otherRevocationRun] revocationRun 2
      hAlike (by decide +kernel) hSucceeds with
    ⟨result, metrics, job, hOk, hRun, -, hLast, -⟩
  rw [hRuns] at hLast
  rcases hLast (by decide) (by decide) with
    ⟨hStatus, hAttempts⟩
  have hTwo : job.attemptCount = 2 := hAttempts
  rw [hTwo] at hRun
  exact ⟨result, metrics, job, hOk, hRun, hStatus⟩

end Connectors

end AccessIQ
