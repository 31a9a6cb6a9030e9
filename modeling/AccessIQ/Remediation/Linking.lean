import AccessIQ.Connectors.Attempts
import AccessIQ.Foundations.Execution
import AccessIQ.Remediation.ExactlyOnce

/-
  The provisioning jobs that remediation jobs are linked to.

  A remediation job is linked to the latest provisioning job
  of the correlation id of the request.  That is its own one
  unless it has none of its own and another one is there.

  Key definitions include:
    * `Turn`
    * `turns`
    * `LinksOwn`
    * `OwnFound`

  Key theorems include:
    * `ItemStep.linked_iff`
    * `links_own_iff`
-/

------------------------------------------------------------
-- The End Of A Run
------------------------------------------------------------

namespace AccessIQ

namespace Connectors

open Foundations Python

/- The result a run ends with after its last reply. -/
def ProvisioningRun.conclusion
    (run : ProvisioningRun)
    (reply : ConnectorReply) :
    ConnectorResult :=
  match reply with
  | .ok result => result
  | .error exc => run.resultFromException exc

/- The result a run that begins at `s` ends with. -/
def ProvisioningRun.lastResult
    (run : ProvisioningRun)
    (env : Environment)
    (s : Store) :
    ConnectorResult :=
  let reply := run.reply env (nextJobId s)
  run.conclusion (reply (run.attempts reply))

variable {run : ProvisioningRun}

theorem concludedRecord_result
    (s : Store)
    (record : Record)
    (attempt : Nat)
    (reply : ConnectorReply) :
    (run.concludedRecord s record attempt reply).1 =
      run.conclusion reply := by
  cases reply with
  | ok result => rfl
  | error exc => rfl

theorem concludedRecord_job
    (s : Store)
    (record : Record)
    (attempt : Nat)
    (reply : ConnectorReply) :
    let job :=
      (run.concludedRecord s record attempt reply).2.job
    job.status = (run.conclusion reply).status.jobStatus ∧
      job.correlationId = record.job.correlationId := by
  cases reply with
  | ok result => exact ⟨rfl, rfl⟩
  | error exc => exact ⟨rfl, rfl⟩

/- The job of a run has the status of its result. -/
theorem ending_facts
    (run : ProvisioningRun)
    (env : Environment)
    (s : Store) :
    (run.ending env s).1 = run.lastResult env s ∧
      (run.ending env s).2.job.status =
          (run.lastResult env s).status.jobStatus ∧
        (run.ending env s).2.job.correlationId =
          run.correlationId := by
  have hOutcome :=
    @ProvisioningRun.outcome_eq run
      (fun _ record =>
        record.job.correlationId = run.correlationId)
      s (nextJobId s) (run.reply env (nextJobId s)) rfl
      (fun _ _ _ hRecord _ => hRecord)
  rcases hOutcome with ⟨before, hBefore, hEnding⟩
  have hJob :=
    @concludedRecord_job run s
      (run.invokedRecord s before
        (run.attempts (run.reply env (nextJobId s))))
      (run.attempts (run.reply env (nextJobId s)))
      (run.reply env (nextJobId s)
        (run.attempts (run.reply env (nextJobId s))))
  unfold ProvisioningRun.ending
  rw [hEnding]
  exact ⟨concludedRecord_result _ _ _ _, hJob.1,
    hJob.2.trans hBefore⟩

end Connectors

end AccessIQ

------------------------------------------------------------
-- Turns Of The Loop
------------------------------------------------------------

namespace AccessIQ

namespace Remediation

open Foundations Connectors Governance Python

/-
  One turn of the loop of `execute_campaign`: its item, the
  database before it, its result, and the database after it.
-/
structure Turn where
  item : CertificationReviewItem
  before : Store
  result : ItemResult
  after : Store

namespace Turn

/- The provisioning jobs that were created in the turn. -/
def provisioned
    (turn : Turn) :
    List ProvisioningJob :=
  turn.after.provisioningJobs.rows.drop
    turn.before.provisioningJobs.rows.length

/- The job of the turn has no link, or one to its own. -/
def LinkedToOwn
    (turn : Turn) : Prop :=
  turn.result.job.provisioningJobId = none ∨
    ∃ own ∈ turn.provisioned,
      turn.result.job.provisioningJobId = some own.id

end Turn

/- The job is linked to a job with one of the statuses. -/
def LinkedWith
    (s : Store)
    (job : RemediationJob)
    (statuses : List ProvisioningJobStatus) : Prop :=
  ∃ linked ∈ s.provisioningJobs.rows,
    job.provisioningJobId = some linked.id ∧
      linked.status ∈ statuses

/- The job says what its provisioning job says. -/
structure StatusesAgree
    (s : Store)
    (job : RemediationJob) : Prop where
  completed :
    job.status = .completed → LinkedWith s job [.success]
  skipped :
    job.status = .skipped → LinkedWith s job [.skipped]
  failed :
    job.status = .failed →
      job.provisioningJobId = none ∨
        LinkedWith s job [.failed, .retryable]

variable [Platform]

/- The turns the loop takes over the items. -/
def turns
    (env : Environment)
    (orchestrator : ProvisioningOrchestrator)
    (ctx : RequestContext)
    (actor : User) :
    List CertificationReviewItem →
      Session Store DomainEvent → List Turn
  | [], _ => []
  | item :: items, session =>
      match (remediateItem orchestrator ctx actor item).run
        env session with
      | (.error _, _) => []
      | (.ok result, session') =>
          ⟨item, session.working, result,
              session'.working⟩ ::
            turns env orchestrator ctx actor items session'

/- Turns that follow one another from one store to another. -/
inductive Follow
    (env : Environment)
    (orchestrator : ProvisioningOrchestrator)
    (ctx : RequestContext)
    (actor : User) :
    Store → List Turn → Store → Prop
  | nil
      (s : Store) :
      Follow env orchestrator ctx actor s [] s
  | cons
      (turn : Turn)
      (rest : List Turn)
      (s' : Store)
      (published : List DomainEvent)
      (hStep :
        ItemStep env orchestrator ctx actor turn.before
          turn.item turn.result turn.after published)
      (hRest :
        Follow env orchestrator ctx actor turn.after rest
          s') :
      Follow env orchestrator ctx actor turn.before
        (turn :: rest) s'

variable {env : Environment}
variable {orchestrator : ProvisioningOrchestrator}
variable {ctx : RequestContext}
variable {actor : User}

/- What the execution of one item says of its turn. -/
theorem itemStep_of_run
    {item : CertificationReviewItem}
    {session session' : Session Store DomainEvent}
    {result : ItemResult}
    (hUnbroken : session.broken = false)
    (hItem :
      session.working.certificationReviewItems.get? item.id =
        some item)
    (hRevoked : session.working.revoked item = true)
    (hReturns :
      (remediateItem orchestrator ctx actor item).run env
          session =
        (.ok result, session')) :
    session'.broken = false ∧
      ∃ published,
        ItemStep env orchestrator ctx actor session.working
          item result session'.working published := by
  rcases session with ⟨⟨c, s, broken, p⟩, tick⟩
  simp only at hUnbroken hItem hRevoked
  subst hUnbroken
  have hWp :
      (remediateItem orchestrator ctx actor item).wp env.world
        (fun r m =>
          ∀ result,
            r = .ok result →
              m.broken = false ∧
                ∃ published,
                  ItemStep env orchestrator ctx actor s item
                    result m.working published)
        ⟨c, s, false, p⟩ := by
    refine wp_remediateItem (answers_world env) hItem hRevoked
      ?_ ?_
    · intro e s' p' result hError
      cases hError
    · intro result s' published hStep result' hEq
      cases hEq
      exact ⟨rfl, published, hStep⟩
  have hOutcome :=
    Program.run_of_wp env.conforms_world
      (s := ⟨⟨c, s, false, p⟩, tick⟩) hWp
  rw [hReturns] at hOutcome
  exact hOutcome result rfl

/- What the execution of the loop says of its turns. -/
theorem follow_turns
    {items : List CertificationReviewItem}
    {session session' : Session Store DomainEvent}
    {results : List ItemResult}
    (hUnbroken : session.broken = false)
    (hItems :
      ∀ item ∈ items,
        session.working.certificationReviewItems.get?
              item.id =
            some item ∧
          session.working.revoked item = true)
    (hReturns :
      (remediateItems orchestrator ctx actor items).run env
          session =
        (.ok results, session')) :
    let taken :=
      turns env orchestrator ctx actor items session
    taken.map (·.item) = items ∧
      taken.map (·.result) = results ∧
        Follow env orchestrator ctx actor session.working
          taken session'.working := by
  induction items generalizing session results with
  | nil =>
      cases hReturns
      exact ⟨rfl, rfl, .nil _⟩
  | cons item items ih =>
      have hFirst := hItems item List.mem_cons_self
      unfold remediateItems at hReturns
      unfold turns
      rcases Program.run_bind_eq_ok hReturns with
        ⟨result, session₁, hRun, hContinued⟩
      rcases Program.run_bind_eq_ok hContinued with
        ⟨results₁, session₂, hLater, hDone⟩
      cases hDone
      rw [hRun]
      rcases itemStep_of_run hUnbroken hFirst.1 hFirst.2
          hRun with
        ⟨hUnbroken₁, published, hStep⟩
      have hRest :=
        hStep.sameElsewhere.remediable fun later hLater =>
          hItems later (List.mem_cons_of_mem _ hLater)
      rcases ih hUnbroken₁ hRest hLater with
        ⟨hTaken, hResults, hFollow⟩
      refine ⟨?_, ?_, ?_⟩
      · exact congrArg (item :: ·) hTaken
      · exact congrArg (result :: ·) hResults
      · exact .cons
          ⟨item, session.working, result, session₁.working⟩ _
          _ published hStep hFollow

/- What a call that returns has done with the items. -/
theorem run_executeCampaign
    {campaignId : Int}
    {session session' : Session Store DomainEvent}
    {result : CampaignRemediationResult}
    {events : List DomainEvent}
    (hUnbroken : session.broken = false)
    (hReturns :
      (executeCampaign orchestrator ctx campaignId actor).run
          env session =
        (.ok (result, events), session')) :
    ∃ results,
      (remediateItems orchestrator ctx actor
            (session.working.remediableReviewItems
              campaignId)).run
          env session =
        (.ok results, session') ∧
        result.jobs = results.map (·.job) := by
  rcases Program.run_bind_eq_ok hReturns with
    ⟨campaign, s₁, hValidated, hRest⟩
  rcases Program.run_bind_eq_ok hValidated with
    ⟨s, s₂, hView, hChecked⟩
  rw [Program.run_view hUnbroken] at hView
  cases hView
  rcases Program.run_bind_eq_ok hChecked with
    ⟨found, s₃, hFound, hState⟩
  rcases Program.run_getOrRaise_eq_ok hFound with
    ⟨hCampaign, rfl⟩
  rcases Program.run_bind_eq_ok hState with
    ⟨u, s₄, hCompleted, hDone⟩
  rcases Program.run_raiseIf_eq_ok hCompleted with ⟨-, rfl⟩
  cases hDone
  have hId : campaign.id = campaignId :=
    Table.id_of_get? hCampaign
  rcases Program.run_bind_eq_ok hRest with
    ⟨s, s₅, hView, hItems⟩
  rw [Program.run_view hUnbroken] at hView
  cases hView
  rcases Program.run_bind_eq_ok hItems with
    ⟨results, s₆, hResults, hLast⟩
  rw [hId] at hResults
  cases hLast
  exact ⟨results, hResults, rfl⟩

end Remediation

end AccessIQ

------------------------------------------------------------
-- The Links Of A Turn
------------------------------------------------------------

namespace AccessIQ

namespace Remediation

open Foundations Connectors Governance Python

theorem settledJob_link
    (ctx : RequestContext)
    (job : RemediationJob)
    (result : ConnectorResult) :
    (settledJob ctx job result).provisioningJobId =
      job.provisioningJobId := by
  unfold settledJob
  cases result.status with
  | success => rfl
  | failed => rfl
  | retryable => rfl
  | skipped => rfl

/- The status a result gives a job. -/
def remediationStatus :
    ConnectorStatus → RemediationStatus
  | .success => .completed
  | .failed => .failed
  | .retryable => .failed
  | .skipped => .skipped

theorem settledJob_status
    (ctx : RequestContext)
    (job : RemediationJob)
    (result : ConnectorResult) :
    (settledJob ctx job result).status =
      remediationStatus result.status := by
  unfold settledJob
  cases result.status with
  | success => rfl
  | failed => rfl
  | retryable => rfl
  | skipped => rfl

/- A new job of the correlation id is the latest one. -/
theorem latestProvisioningJob_of_append
    {s s' : Store}
    {own : ProvisioningJob}
    (hRows :
      s'.provisioningJobs.rows =
        s.provisioningJobs.rows ++ [own]) :
    s'.latestProvisioningJob own.correlationId =
      some own := by
  unfold Store.latestProvisioningJob Table.findLast?
  rw [hRows, List.reverse_append, List.reverse_singleton,
    List.singleton_append]
  exact List.find?_cons_of_pos (beq_self_eq_true _)

theorem linkedJob_of_append
    {s s' : Store}
    {own : ProvisioningJob}
    {job : RemediationJob}
    (hRows :
      s'.provisioningJobs.rows =
        s.provisioningJobs.rows ++ [own])
    (hSame : own.correlationId = job.correlationId) :
    (linkedJob s' job).provisioningJobId = some own.id := by
  have hLatest := latestProvisioningJob_of_append hRows
  rw [hSame] at hLatest
  rw [linkedJob_of_some hLatest]

variable [Platform]

/- The provisioning run of an item, with its connector. -/
def itemRun
    (orchestrator : ProvisioningOrchestrator)
    (ctx : RequestContext)
    (actor : User)
    (s : Store)
    (item : CertificationReviewItem) :
    Except PyException ProvisioningRun :=
  jobRun orchestrator ctx actor s
    (newRemediationJob ctx item (remediationTypeForItem item)
      actor)
    item

variable {env : Environment}
variable {orchestrator : ProvisioningOrchestrator}
variable {ctx : RequestContext}
variable {actor : User}
variable {s s' : Store}
variable {item : CertificationReviewItem}
variable {result : ItemResult}
variable {published : List DomainEvent}
variable {run : ProvisioningRun}

theorem itemRun_sameElsewhere
    (hSame : SameElsewhere s s') :
    itemRun orchestrator ctx actor s' item =
      itemRun orchestrator ctx actor s item := by
  rcases hSame with ⟨_, _, _, _, rfl⟩
  rfl

/- The run of an item has the correlation id of the request. -/
theorem itemRun_correlationId
    (hRun : itemRun orchestrator ctx actor s item = .ok run) :
    run.correlationId = ctx.correlationId := by
  unfold itemRun jobRun at hRun
  generalize hJob :
    newRemediationJob ctx item (remediationTypeForItem item)
      actor = job
    at hRun
  have hCorrelation :
      job.correlationId = ctx.correlationId := by
    rw [← hJob]
    rfl
  cases hOperation : operationForJob s job item with
  | error exc =>
      rw [hOperation] at hRun
      cases hRun
  | ok call =>
      rcases call with ⟨connectorName, operation, payload⟩
      rw [hOperation] at hRun
      change
        (orchestrator.registry.get connectorName).bind _ = _
        at hRun
      cases hGet : orchestrator.registry.get connectorName with
      | error exc =>
          rw [hGet] at hRun
          cases hRun
      | ok connector =>
          rw [hGet] at hRun
          cases hRun
          change
            resolveCorrelationId ctx
                (some job.correlationId) =
              ctx.correlationId
          rw [hCorrelation]
          exact ite_self _

/-
  Without a connector no provisioning job is created, and the
  job is linked to the latest one there is.
-/
theorem ItemStep.unprovisioned
    {exc : PyException}
    (hStep :
      ItemStep env orchestrator ctx actor s item result s'
        published)
    (hNone : s.findJobByReviewItem item.id = none)
    (hRun :
      itemRun orchestrator ctx actor s item = .error exc) :
    s'.provisioningJobs = s.provisioningJobs ∧
      result.job.provisioningJobId =
          (s.latestProvisioningJob ctx.correlationId).map
            (·.id) ∧
        result.job.status = .failed := by
  cases hStep with
  | kept job hFound => cases hNone.symm.trans hFound
  | remediated jobId done event s₁ s₂ s' published _ hStarted
      hExecution hDone =>
      have hItemRun :
          jobRun orchestrator ctx actor s₁
              (startedJob ctx
                (createdJob ctx actor item jobId))
              item =
            .error exc := by
        rw [← hRun]
        exact itemRun_sameElsewhere hStarted.frame
      rw [hItemRun] at hExecution
      cases hExecution with
      | unexecuted exc s₂ hJobs hHistory =>
          have hTable :
              s₂.provisioningJobs = s.provisioningJobs :=
            hJobs.trans hStarted.provisioningJobs
          refine ⟨hDone.provisioningJobs.trans hTable, ?_,
            rfl⟩
          have hLatest :
              s₂.latestProvisioningJob ctx.correlationId =
                s.latestProvisioningJob
                  ctx.correlationId := by
            unfold Store.latestProvisioningJob
            rw [hTable]
          change
            (linkedJob s₂ _).provisioningJobId = _
          cases hFound :
              s.latestProvisioningJob ctx.correlationId with
          | none =>
              rw [linkedJob_of_none (hLatest.trans hFound)]
              rfl
          | some latest =>
              rw [linkedJob_of_some (hLatest.trans hFound)]
              rfl

/-
  With a connector the turn creates one provisioning job and
  links its job to it.
-/
structure OwnJob
    (env : Environment)
    (run : ProvisioningRun)
    (s s' : Store)
    (job : RemediationJob)
    (own : ProvisioningJob) : Prop where
  rows :
    s'.provisioningJobs.rows =
      s.provisioningJobs.rows ++ [own]
  correlationId : own.correlationId = run.correlationId
  linked : job.provisioningJobId = some own.id
  statuses :
    (ProvisioningRun.auditEntitlement s = none ∧
        own.status = .pending ∧ job.status = .failed) ∨
      (ProvisioningRun.auditEntitlement s ≠ none ∧
        own.status =
            (run.lastResult env s).status.jobStatus ∧
          ((serializeFailure (run.lastResult env s) ≠ none ∧
              job.status = .failed) ∨
            serializeFailure (run.lastResult env s) = none ∧
              job.status =
                remediationStatus
                  (run.lastResult env s).status))

theorem ItemStep.provisioned
    (hStep :
      ItemStep env orchestrator ctx actor s item result s'
        published)
    (hNone : s.findJobByReviewItem item.id = none)
    (hRun : itemRun orchestrator ctx actor s item = .ok run) :
    ∃ own, OwnJob env run s s' result.job own := by
  have hRunId := itemRun_correlationId hRun
  cases hStep with
  | kept job hFound => cases hNone.symm.trans hFound
  | remediated jobId done event s₁ s₂ s' published _ hStarted
      hExecution hDone =>
      have hItemRun :
          jobRun orchestrator ctx actor s₁
              (startedJob ctx
                (createdJob ctx actor item jobId))
              item =
            .ok run := by
        rw [← hRun]
        exact itemRun_sameElsewhere hStarted.frame
      have hEntitlement :
          ProvisioningRun.auditEntitlement s₁ =
            ProvisioningRun.auditEntitlement s :=
        hStarted.frame.read ProvisioningRun.auditEntitlement
          (fun _ _ _ _ _ => rfl)
      have hNext : nextJobId s₁ = nextJobId s := by
        have hDialect : s₁.dialect = s.dialect :=
          hStarted.frame.read Store.dialect
            (fun _ _ _ _ _ => rfl)
        unfold nextJobId
        rw [hStarted.provisioningJobs, hDialect]
      have hLast :
          run.lastResult env s₁ = run.lastResult env s := by
        unfold ProvisioningRun.lastResult
        rw [hNext]
      have hEnding := ending_facts run env s₁
      rw [hLast] at hEnding
      rw [hItemRun] at hExecution
      cases hExecution with
      | unaudited run s₂ hUnaudited hRecorded =>
          have hJobs := hRecorded.jobs
          rw [hStarted.provisioningJobs] at hJobs
          exact ⟨_,
            { rows := by
                rw [hDone.provisioningJobs]
                exact hJobs
              correlationId := rfl
              linked := linkedJob_of_append hJobs hRunId
              statuses :=
                Or.inl ⟨hEntitlement.symm.trans hUnaudited,
                  rfl, rfl⟩ }⟩
      | unserialized run s₂ record message hSeeded hMessage
          hJob hRecorded =>
          have hJobs := hRecorded.jobs
          rw [hStarted.provisioningJobs, hJob] at hJobs
          rw [hEnding.1] at hMessage
          exact ⟨_,
            { rows := by
                rw [hDone.provisioningJobs]
                exact hJobs
              correlationId := hEnding.2.2
              linked :=
                linkedJob_of_append hJobs
                  (hEnding.2.2.trans hRunId)
              statuses := by
                rw [hEntitlement] at hSeeded
                refine Or.inr ⟨hSeeded, hEnding.2.1,
                  Or.inl ⟨?_, rfl⟩⟩
                rw [hMessage]
                exact Option.some_ne_none _ }⟩
      | returned run s₂ hSeeded hSerialized hRecorded =>
          have hJobs := hRecorded.jobs
          rw [hStarted.provisioningJobs] at hJobs
          rw [hEnding.1] at hSerialized
          exact ⟨_,
            { rows := by
                rw [hDone.provisioningJobs]
                exact hJobs
              correlationId := hEnding.2.2
              linked := by
                rw [settledJob_link]
                exact linkedJob_of_append hJobs
                  (hEnding.2.2.trans hRunId)
              statuses := by
                rw [hEntitlement] at hSeeded
                refine Or.inr ⟨hSeeded, hEnding.2.1,
                  Or.inr ⟨hSerialized, ?_⟩⟩
                rw [settledJob_status, hEnding.1] }⟩

end Remediation

end AccessIQ

------------------------------------------------------------
-- Turns That Find Their Own
------------------------------------------------------------

namespace AccessIQ

namespace Remediation

open Foundations Connectors Governance Python

/-
  The run is audited, and its end is recorded or a failure
  anyway.
-/
def Settles
    (env : Environment)
    (s : Store)
    (run : ProvisioningRun) : Prop :=
  ProvisioningRun.auditEntitlement s ≠ none ∧
    (serializeFailure (run.lastResult env s) = none ∨
      (run.lastResult env s).status = .failed ∨
        (run.lastResult env s).status = .retryable)

variable [Platform]

/- A turn for the item that begins at `s` links its own. -/
def FindsOwn
    (env : Environment)
    (orchestrator : ProvisioningOrchestrator)
    (ctx : RequestContext)
    (actor : User)
    (s : Store)
    (item : CertificationReviewItem) : Prop :=
  match itemRun orchestrator ctx actor s item with
  | .error _ =>
      s.latestProvisioningJob ctx.correlationId = none
  | .ok run => Settles env s run

variable {env : Environment}
variable {orchestrator : ProvisioningOrchestrator}
variable {ctx : RequestContext}
variable {actor : User}
variable {s s' : Store}
variable {turn : Turn}
variable {published : List DomainEvent}
variable {run : ProvisioningRun}

omit [Platform] in
/- Keys tell provisioning jobs apart. -/
theorem linkedWith_iff
    {job : RemediationJob}
    {own : ProvisioningJob}
    {statuses : List ProvisioningJobStatus}
    (hMem : own ∈ s.provisioningJobs.rows)
    (hLinked : job.provisioningJobId = some own.id) :
    LinkedWith s job statuses ↔ own.status ∈ statuses := by
  constructor
  · rintro ⟨linked, hStored, hSame, hStatus⟩
    have hId : own.id = linked.id :=
      Option.some.inj (hLinked.symm.trans hSame)
    have hEq : own = linked :=
      List.inj_on_of_nodup_map s.provisioningJobs.nodup_ids
        hMem hStored hId
    rw [hEq]
    exact hStatus
  · intro hStatus
    exact ⟨own, hMem, hLinked, hStatus⟩

omit [Platform] in
/- When a job agrees with the one it is linked to. -/
theorem statusesAgree_of_linked
    {job : RemediationJob}
    {own : ProvisioningJob}
    (hMem : own ∈ s.provisioningJobs.rows)
    (hLinked : job.provisioningJobId = some own.id) :
    StatusesAgree s job ↔
      (job.status = .completed → own.status = .success) ∧
        (job.status = .skipped → own.status = .skipped) ∧
          (job.status = .failed →
            own.status = .failed ∨
              own.status = .retryable) := by
  have hSome : job.provisioningJobId ≠ none := by
    rw [hLinked]
    exact Option.some_ne_none _
  constructor
  · rintro ⟨hCompleted, hSkipped, hFailed⟩
    rw [linkedWith_iff hMem hLinked] at hCompleted
    rw [linkedWith_iff hMem hLinked] at hSkipped
    rw [linkedWith_iff hMem hLinked] at hFailed
    refine ⟨fun hStatus => ?_, fun hStatus => ?_,
      fun hStatus => ?_⟩
    · exact List.mem_singleton.mp (hCompleted hStatus)
    · exact List.mem_singleton.mp (hSkipped hStatus)
    · rcases hFailed hStatus with hNone | hMember
      · exact absurd hNone hSome
      · rcases List.mem_cons.mp hMember with hEq | hRest
        · exact Or.inl hEq
        · exact Or.inr (List.mem_singleton.mp hRest)
  · rintro ⟨hCompleted, hSkipped, hFailed⟩
    refine
      { completed := fun hStatus => ?_
        skipped := fun hStatus => ?_
        failed := fun hStatus => Or.inr ?_ }
    · exact (linkedWith_iff hMem hLinked).mpr
        (List.mem_singleton.mpr (hCompleted hStatus))
    · exact (linkedWith_iff hMem hLinked).mpr
        (List.mem_singleton.mpr (hSkipped hStatus))
    · rw [linkedWith_iff hMem hLinked, List.mem_cons,
        List.mem_singleton]
      exact hFailed hStatus

omit [Platform] in
theorem OwnJob.provisioned
    {own : ProvisioningJob}
    (hOwn :
      OwnJob env run turn.before turn.after turn.result.job
        own) :
    turn.provisioned = [own] := by
  unfold Turn.provisioned
  rw [hOwn.rows]
  exact List.drop_left

omit [Platform] in
/- A job agrees with its own when its run settles. -/
theorem OwnJob.statusesAgree_iff
    {own : ProvisioningJob}
    (hOwn :
      OwnJob env run turn.before turn.after turn.result.job
        own)
    (hMem : own ∈ s'.provisioningJobs.rows) :
    StatusesAgree s' turn.result.job ↔
      Settles env turn.before run := by
  rw [statusesAgree_of_linked hMem hOwn.linked]
  unfold Settles
  rcases hOwn.statuses with
    ⟨hNone, hPending, hFailed⟩ |
      ⟨hSeeded, hStatus, hEnd⟩
  · rw [hNone, hPending, hFailed]
    simp
  · rcases hEnd with ⟨hMessage, hFailed⟩ |
      ⟨hSerialized, hJob⟩
    · rw [hStatus, hFailed]
      cases hResult :
          (run.lastResult env turn.before).status <;>
        simp [hSeeded, hMessage, ConnectorStatus.jobStatus]
    · rw [hStatus, hJob]
      cases hResult :
          (run.lastResult env turn.before).status <;>
        simp [hSeeded, hSerialized, remediationStatus,
          ConnectorStatus.jobStatus]

/-
  A turn that starts a job links it to its own, with the same
  status, exactly if it finds its own.
-/
theorem ItemStep.linked_iff
    (hStep :
      ItemStep env orchestrator ctx actor turn.before
        turn.item turn.result turn.after published)
    (hNone :
      turn.before.findJobByReviewItem turn.item.id = none)
    (hLater :
      turn.after.provisioningJobs.rows <+:
        s'.provisioningJobs.rows) :
    (turn.LinkedToOwn ∧
        StatusesAgree s' turn.result.job) ↔
      FindsOwn env orchestrator ctx actor turn.before
        turn.item := by
  unfold FindsOwn
  cases hRun :
      itemRun orchestrator ctx actor turn.before
        turn.item with
  | error exc =>
      rcases hStep.unprovisioned hNone hRun with
        ⟨hTable, hLink, hFailed⟩
      have hProvisioned : turn.provisioned = [] := by
        unfold Turn.provisioned
        rw [hTable]
        exact List.drop_length
      simp only
      cases hLatest :
          turn.before.latestProvisioningJob
            ctx.correlationId with
      | none =>
          rw [hLatest] at hLink
          have hUnlinked :
              turn.result.job.provisioningJobId = none :=
            hLink
          refine iff_of_true ⟨Or.inl hUnlinked, ?_⟩ rfl
          refine
            { completed := fun hStatus => ?_
              skipped := fun hStatus => ?_
              failed := fun _ => Or.inl hUnlinked }
          · cases hFailed.symm.trans hStatus
          · cases hFailed.symm.trans hStatus
      | some latest =>
          rw [hLatest] at hLink
          refine iff_of_false ?_ (Option.some_ne_none _)
          rintro ⟨hUnlinked | ⟨own, hOwn, -⟩, -⟩
          · cases hUnlinked.symm.trans hLink
          · rw [hProvisioned] at hOwn
            cases hOwn
  | ok run =>
      rcases hStep.provisioned hNone hRun with ⟨own, hOwn⟩
      have hMem : own ∈ s'.provisioningJobs.rows := by
        refine hLater.subset ?_
        rw [hOwn.rows]
        exact List.mem_append_right _ List.mem_cons_self
      have hLinked : turn.LinkedToOwn := by
        refine Or.inr ⟨own, ?_, hOwn.linked⟩
        rw [hOwn.provisioned]
        exact List.mem_cons_self
      simp only
      rw [hOwn.statusesAgree_iff hMem]
      exact and_iff_right hLinked

end Remediation

end AccessIQ

------------------------------------------------------------
-- The Links Of A Call
------------------------------------------------------------

namespace AccessIQ

namespace Remediation

open Foundations Connectors Governance Python

/- The links of the jobs that were created. -/
def newLinks
    (taken : List Turn) :
    List Int :=
  (taken.filter (·.result.created)).filterMap
    (·.result.job.provisioningJobId)

theorem newLinks_unlinked
    {turn : Turn}
    {rest : List Turn}
    (hUnlinked :
      ¬ turn.result.created = true ∨
        turn.result.job.provisioningJobId = none) :
    newLinks (turn :: rest) = newLinks rest := by
  unfold newLinks
  rw [List.filter_cons]
  split
  · rename_i hCreated
    rcases hUnlinked with hNot | hNone
    · exact absurd hCreated hNot
    · exact List.filterMap_cons_none hNone
  · rfl

theorem newLinks_linked
    {turn : Turn}
    {rest : List Turn}
    {link : Int}
    (hCreated : turn.result.created = true)
    (hLinked :
      turn.result.job.provisioningJobId = some link) :
    newLinks (turn :: rest) = link :: newLinks rest := by
  unfold newLinks
  rw [List.filter_cons, if_pos hCreated]
  exact List.filterMap_cons_some hLinked

/-
  The jobs of a call that began at `s` and ended at `s'` are
  linked to their own provisioning jobs.
-/
structure LinksOwn
    (s s' : Store)
    (taken : List Turn) : Prop where
  own :
    ∀ turn ∈ taken,
      turn.result.created = true → turn.LinkedToOwn
  agree :
    ∀ turn ∈ taken,
      turn.result.created = true →
        StatusesAgree s' turn.result.job
  distinct : (newLinks taken).Nodup
  fresh :
    ∀ old ∈ s.remediationJobs.rows,
      ∀ link ∈ newLinks taken,
        old.provisioningJobId ≠ some link

/- The links there are refer to provisioning jobs. -/
def LinksResolve
    (s : Store) : Prop :=
  ∀ job ∈ s.remediationJobs.rows,
    ∀ link,
      job.provisioningJobId = some link →
        s.provisioningJobs.contains link = true

variable [Platform]

/- An item that gets its own provisioning job. -/
def Provisions
    (orchestrator : ProvisioningOrchestrator)
    (ctx : RequestContext)
    (actor : User)
    (s : Store)
    (item : CertificationReviewItem) : Prop :=
  s.findJobByReviewItem item.id = none ∧
    ∃ run, itemRun orchestrator ctx actor s item = .ok run

/- An item that gets a job, but has no connector. -/
def Unprovisioned
    (orchestrator : ProvisioningOrchestrator)
    (ctx : RequestContext)
    (actor : User)
    (s : Store)
    (item : CertificationReviewItem) : Prop :=
  s.findJobByReviewItem item.id = none ∧
    ∃ exc, itemRun orchestrator ctx actor s item = .error exc

/-
  No provisioning job of the correlation id is there for an
  item without a connector, neither before the call nor from
  an earlier item, and the runs settle.
-/
structure OwnFound
    (env : Environment)
    (orchestrator : ProvisioningOrchestrator)
    (ctx : RequestContext)
    (actor : User)
    (s : Store)
    (taken : List Turn) : Prop where
  free :
    ∀ turn ∈ taken,
      Unprovisioned orchestrator ctx actor s turn.item →
        s.latestProvisioningJob ctx.correlationId = none
  ordered :
    taken.Pairwise fun earlier later =>
      Unprovisioned orchestrator ctx actor s later.item →
        ¬ Provisions orchestrator ctx actor s earlier.item
  settled :
    ∀ turn ∈ taken,
      s.findJobByReviewItem turn.item.id = none →
        ∀ run,
          itemRun orchestrator ctx actor s turn.item =
              .ok run →
            Settles env turn.before run

variable {env : Environment}
variable {orchestrator : ProvisioningOrchestrator}
variable {ctx : RequestContext}
variable {actor : User}
variable {s s' : Store}
variable {item : CertificationReviewItem}
variable {result : ItemResult}
variable {turn : Turn}
variable {taken : List Turn}
variable {published : List DomainEvent}

/- A job is created for an item that has none. -/
theorem ItemStep.created_iff
    (hStep :
      ItemStep env orchestrator ctx actor s item result s'
        published) :
    result.created = true ↔
      s.findJobByReviewItem item.id = none := by
  cases hStep with
  | kept job hFound =>
      rw [hFound]
      exact iff_of_false Bool.false_ne_true
        (Option.some_ne_none _)
  | remediated _ _ _ _ _ _ _ hNone _ _ _ =>
      exact iff_of_true rfl hNone

/- An item that has its job changes nothing. -/
theorem ItemStep.unchanged
    (hStep :
      ItemStep env orchestrator ctx actor s item result s'
        published)
    (hFound : s.findJobByReviewItem item.id ≠ none) :
    s' = s := by
  cases hStep with
  | kept job _ => rfl
  | remediated _ _ _ _ _ _ _ hNone _ _ _ =>
      exact absurd hNone hFound

/- Provisioning jobs are only added. -/
theorem ItemStep.provisioningJobs
    (hStep :
      ItemStep env orchestrator ctx actor s item result s'
        published) :
    s.provisioningJobs.rows <+: s'.provisioningJobs.rows := by
  by_cases hNone : s.findJobByReviewItem item.id = none
  · cases hRun : itemRun orchestrator ctx actor s item with
    | error exc =>
        rw [(hStep.unprovisioned hNone hRun).1]
    | ok run =>
        rcases hStep.provisioned hNone hRun with ⟨own, hOwn⟩
        rw [hOwn.rows]
        exact List.prefix_append _ _
  · rw [hStep.unchanged hNone]

/- The latest job is missing if it was and none is added. -/
theorem ItemStep.latest_eq_none_iff
    (hStep :
      ItemStep env orchestrator ctx actor s item result s'
        published) :
    s'.latestProvisioningJob ctx.correlationId = none ↔
      s.latestProvisioningJob ctx.correlationId = none ∧
        ¬ Provisions orchestrator ctx actor s item := by
  by_cases hNone : s.findJobByReviewItem item.id = none
  · cases hRun : itemRun orchestrator ctx actor s item with
    | error exc =>
        have hNot :
            ¬ Provisions orchestrator ctx actor s item := by
          rintro ⟨-, run, hOk⟩
          cases hRun.symm.trans hOk
        have hTable := (hStep.unprovisioned hNone hRun).1
        have hLatest :
            s'.latestProvisioningJob ctx.correlationId =
              s.latestProvisioningJob
                ctx.correlationId := by
          unfold Store.latestProvisioningJob
          rw [hTable]
        rw [hLatest]
        exact (and_iff_left hNot).symm
    | ok run =>
        rcases hStep.provisioned hNone hRun with ⟨own, hOwn⟩
        have hLatest :=
          latestProvisioningJob_of_append hOwn.rows
        rw [hOwn.correlationId, itemRun_correlationId hRun]
          at hLatest
        rw [hLatest]
        exact iff_of_false (Option.some_ne_none _)
          fun hBoth => hBoth.2 ⟨hNone, run, hRun⟩
  · rw [hStep.unchanged hNone]
    exact (and_iff_left fun hNew => hNone hNew.1).symm

theorem Follow.provisioningJobs
    (hFollow :
      Follow env orchestrator ctx actor s taken s') :
    s.provisioningJobs.rows <+: s'.provisioningJobs.rows := by
  induction hFollow with
  | nil s => exact List.prefix_refl _
  | cons turn rest s' published hStep _ ih =>
      exact hStep.provisioningJobs.trans ih

/- Keys of provisioning jobs stay, and new ones are new. -/
theorem ItemStep.contains_iff
    (hStep :
      ItemStep env orchestrator ctx actor turn.before
        turn.item turn.result turn.after published)
    (link : Int) :
    turn.after.provisioningJobs.contains link = true ↔
      turn.before.provisioningJobs.contains link = true ∨
        ∃ own ∈ turn.provisioned, own.id = link := by
  have hRows :
      turn.before.provisioningJobs.rows ++
          turn.provisioned =
        turn.after.provisioningJobs.rows :=
    List.prefix_iff_eq_append.mp hStep.provisioningJobs
  rw [Table.contains_iff, Table.contains_iff, ← hRows]
  constructor
  · rintro ⟨job, hJob, hId⟩
    rcases List.mem_append.mp hJob with hOld | hNew
    · exact Or.inl ⟨job, hOld, hId⟩
    · exact Or.inr ⟨job, hNew, hId⟩
  · rintro (⟨job, hOld, hId⟩ | ⟨job, hNew, hId⟩)
    · exact ⟨job, List.mem_append_left _ hOld, hId⟩
    · exact ⟨job, List.mem_append_right _ hNew, hId⟩

theorem ItemStep.provisioned_fresh
    (hStep :
      ItemStep env orchestrator ctx actor turn.before
        turn.item turn.result turn.after published)
    {own : ProvisioningJob}
    (hOwn : own ∈ turn.provisioned) :
    turn.before.provisioningJobs.contains own.id =
      false := by
  have hRows :
      turn.before.provisioningJobs.rows ++
          turn.provisioned =
        turn.after.provisioningJobs.rows :=
    List.prefix_iff_eq_append.mp hStep.provisioningJobs
  have hNodup := turn.after.provisioningJobs.nodup_ids
  rw [← hRows, List.map_append, List.nodup_append] at hNodup
  rw [Bool.eq_false_iff]
  intro hContains
  rcases (Table.contains_iff _).mp hContains with
    ⟨job, hJob, hId⟩
  exact hNodup.2.2 _ (List.mem_map_of_mem hJob) _
    (List.mem_map_of_mem hOwn) hId

/- Links to own jobs are distinct, and new. -/
theorem Follow.newLinks
    (hFollow :
      Follow env orchestrator ctx actor s taken s')
    (hOwn :
      ∀ turn ∈ taken,
        turn.result.created = true → turn.LinkedToOwn) :
    (newLinks taken).Nodup ∧
      ∀ link ∈ newLinks taken,
        s.provisioningJobs.contains link = false := by
  induction hFollow with
  | nil s => exact ⟨List.nodup_nil, fun _ hNone => by cases hNone⟩
  | cons turn rest s' published hStep hRest ih =>
      rcases ih fun later hLater =>
          hOwn later (List.mem_cons_of_mem _ hLater) with
        ⟨hNodup, hFresh⟩
      have hEarlier :
          ∀ link ∈ Remediation.newLinks rest,
            turn.before.provisioningJobs.contains link =
              false := by
        intro link hLink
        rw [Bool.eq_false_iff]
        intro hContains
        have hAfter :=
          (hStep.contains_iff link).mpr (Or.inl hContains)
        cases (hFresh link hLink).symm.trans hAfter
      by_cases hCreated : turn.result.created = true
      · rcases hOwn turn List.mem_cons_self hCreated with
          hNone | ⟨own, hMem, hLinked⟩
        · rw [newLinks_unlinked (Or.inr hNone)]
          exact ⟨hNodup, hEarlier⟩
        · rw [newLinks_linked hCreated hLinked,
            List.nodup_cons]
          have hAfter :
              turn.after.provisioningJobs.contains own.id =
                true :=
            (hStep.contains_iff own.id).mpr
              (Or.inr ⟨own, hMem, rfl⟩)
          refine ⟨⟨fun hLater => ?_, hNodup⟩, ?_⟩
          · cases (hFresh _ hLater).symm.trans hAfter
          · intro link hLink
            rcases List.mem_cons.mp hLink with rfl | hLater
            · exact hStep.provisioned_fresh hMem
            · exact hEarlier link hLater
      · rw [newLinks_unlinked (Or.inl hCreated)]
        exact ⟨hNodup, hEarlier⟩

/-
  A call that goes on after a turn finds its own where the
  turn does, and the rest of the call does from then on.
-/
theorem ItemStep.ownFound_cons
    (hStep :
      ItemStep env orchestrator ctx actor turn.before
        turn.item turn.result turn.after published)
    (hOther : ∀ later ∈ taken, later.item.id ≠ turn.item.id) :
    OwnFound env orchestrator ctx actor turn.before
        (turn :: taken) ↔
      (turn.before.findJobByReviewItem turn.item.id = none →
          FindsOwn env orchestrator ctx actor turn.before
            turn.item) ∧
        OwnFound env orchestrator ctx actor turn.after
          taken := by
  have hLatest := hStep.latest_eq_none_iff
  have hFind :
      ∀ later ∈ taken,
        turn.after.findJobByReviewItem later.item.id =
          turn.before.findJobByReviewItem later.item.id :=
    fun later hLater => hStep.findJob (hOther later hLater)
  have hRun :
      ∀ item,
        itemRun orchestrator ctx actor turn.after item =
          itemRun orchestrator ctx actor turn.before item :=
    fun item => itemRun_sameElsewhere hStep.sameElsewhere
  have hUnprovisioned :
      ∀ later ∈ taken,
        (Unprovisioned orchestrator ctx actor turn.after
            later.item ↔
          Unprovisioned orchestrator ctx actor turn.before
            later.item) := by
    intro later hLater
    unfold Unprovisioned
    rw [hFind later hLater, hRun]
  have hProvisions :
      ∀ later ∈ taken,
        (Provisions orchestrator ctx actor turn.after
            later.item ↔
          Provisions orchestrator ctx actor turn.before
            later.item) := by
    intro later hLater
    unfold Provisions
    rw [hFind later hLater, hRun]
  constructor
  · rintro ⟨hFree, hOrdered, hSettled⟩
    rw [List.pairwise_cons] at hOrdered
    refine ⟨fun hNone => ?_,
      { free := fun later hLater hNew => ?_
        ordered := ?_
        settled := fun later hLater hNone run hOk => ?_ }⟩
    · unfold FindsOwn
      cases hHead :
          itemRun orchestrator ctx actor turn.before
            turn.item with
      | error exc =>
          exact hFree turn List.mem_cons_self
            ⟨hNone, exc, hHead⟩
      | ok run =>
          exact hSettled turn List.mem_cons_self hNone run
            hHead
    · have hBefore := (hUnprovisioned later hLater).mp hNew
      exact hLatest.mpr
        ⟨hFree later (List.mem_cons_of_mem _ hLater) hBefore,
          hOrdered.1 later hLater hBefore⟩
    · refine hOrdered.2.imp_of_mem ?_
      intro earlier later hEarlier hLater hBefore hNew hOwn
      exact hBefore ((hUnprovisioned later hLater).mp hNew)
        ((hProvisions earlier hEarlier).mp hOwn)
    · rw [hFind later hLater] at hNone
      rw [hRun] at hOk
      exact hSettled later (List.mem_cons_of_mem _ hLater)
        hNone run hOk
  · rintro ⟨hHead, hFree, hOrdered, hSettled⟩
    refine
      { free := fun later hLater hNew => ?_
        ordered := List.pairwise_cons.mpr ⟨?_, ?_⟩
        settled := fun later hLater hNone run hOk => ?_ }
    · rcases List.mem_cons.mp hLater with rfl | hRest
      · rcases hNew with ⟨hNone, exc, hError⟩
        have hFinds := hHead hNone
        unfold FindsOwn at hFinds
        rw [hError] at hFinds
        exact hFinds
      · exact (hLatest.mp
          (hFree later hRest
            ((hUnprovisioned later hRest).mpr hNew))).1
    · intro later hRest hNew
      exact (hLatest.mp
        (hFree later hRest
          ((hUnprovisioned later hRest).mpr hNew))).2
    · refine hOrdered.imp_of_mem ?_
      intro earlier later hEarlier hRest hAfter hNew hOwn
      exact hAfter ((hUnprovisioned later hRest).mpr hNew)
        ((hProvisions earlier hEarlier).mpr hOwn)
    · rcases List.mem_cons.mp hLater with rfl | hRest
      · have hFinds := hHead hNone
        unfold FindsOwn at hFinds
        rw [hOk] at hFinds
        exact hFinds
      · rw [← hFind later hRest] at hNone
        rw [← hRun] at hOk
        exact hSettled later hRest hNone run hOk

/- The turns find their own exactly if the call does. -/
theorem Follow.findsOwn_iff
    (hFollow :
      Follow env orchestrator ctx actor s taken s')
    (hDistinct : (taken.map (·.item.id)).Nodup) :
    OwnFound env orchestrator ctx actor s taken ↔
      ∀ turn ∈ taken,
        turn.before.findJobByReviewItem turn.item.id =
            none →
          FindsOwn env orchestrator ctx actor turn.before
            turn.item := by
  induction hFollow with
  | nil s =>
      refine iff_of_true
        { free := fun _ hNone => by cases hNone
          ordered := .nil
          settled := fun _ hNone => by cases hNone }
        fun _ hNone => by cases hNone
  | cons turn rest s' published hStep hRest ih =>
      rw [List.map_cons, List.nodup_cons] at hDistinct
      have hOther :
          ∀ later ∈ rest, later.item.id ≠ turn.item.id := by
        intro later hLater hEq
        refine hDistinct.1 ?_
        rw [← hEq]
        exact List.mem_map_of_mem hLater
      rw [List.forall_mem_cons,
        hStep.ownFound_cons hOther, ih hDistinct.2]

/- Every turn of a call is a step, kept by what follows. -/
theorem Follow.step
    (hFollow :
      Follow env orchestrator ctx actor s taken s')
    (hMem : turn ∈ taken) :
    (∃ published,
        ItemStep env orchestrator ctx actor turn.before
          turn.item turn.result turn.after published) ∧
      turn.after.provisioningJobs.rows <+:
        s'.provisioningJobs.rows := by
  induction hFollow with
  | nil s => cases hMem
  | cons first rest s' published hStep hRest ih =>
      rcases List.mem_cons.mp hMem with rfl | hLater
      · exact ⟨⟨published, hStep⟩, hRest.provisioningJobs⟩
      · exact ih hLater

/- The links of a call are its own where it finds its own. -/
theorem Follow.linksOwn_iff
    (hFollow :
      Follow env orchestrator ctx actor s taken s')
    (hDistinct : (taken.map (·.item.id)).Nodup)
    (hResolve : LinksResolve s) :
    LinksOwn s s' taken ↔
      OwnFound env orchestrator ctx actor s taken := by
  rw [hFollow.findsOwn_iff hDistinct]
  constructor
  · intro hLinks turn hTurn hNone
    rcases hFollow.step hTurn with
      ⟨⟨published, hStep⟩, hLater⟩
    have hCreated := hStep.created_iff.mpr hNone
    exact (hStep.linked_iff hNone hLater).mp
      ⟨hLinks.own turn hTurn hCreated,
        hLinks.agree turn hTurn hCreated⟩
  · intro hFinds
    have hBoth :
        ∀ turn ∈ taken,
          turn.result.created = true →
            turn.LinkedToOwn ∧
              StatusesAgree s' turn.result.job := by
      intro turn hTurn hCreated
      rcases hFollow.step hTurn with
        ⟨⟨published, hStep⟩, hLater⟩
      have hNone := hStep.created_iff.mp hCreated
      exact (hStep.linked_iff hNone hLater).mpr
        (hFinds turn hTurn hNone)
    have hLinks :=
      hFollow.newLinks fun turn hTurn hCreated =>
        (hBoth turn hTurn hCreated).1
    refine
      { own := fun turn hTurn hCreated =>
          (hBoth turn hTurn hCreated).1
        agree := fun turn hTurn hCreated =>
          (hBoth turn hTurn hCreated).2
        distinct := hLinks.1
        fresh := fun old hOld link hLink hLinked => ?_ }
    have hContains := hResolve old hOld link hLinked
    cases (hLinks.2 link hLink).symm.trans hContains

/- A call keeps the links resolved. -/
theorem Follow.linksResolve
    (hFollow :
      Follow env orchestrator ctx actor s taken s')
    (hResolve : LinksResolve s) :
    LinksResolve s' := by
  induction hFollow with
  | nil s => exact hResolve
  | cons turn rest s' published hStep _ ih =>
      refine ih ?_
      intro job hJob link hLinked
      have hContains := hStep.contains_iff link
      rw [hStep.rows] at hJob
      rcases List.mem_append.mp hJob with hOld | hNew
      · exact hContains.mpr
          (Or.inl (hResolve job hOld link hLinked))
      · rcases List.mem_map.mp hNew with ⟨made, hMade, rfl⟩
        rcases List.mem_filter.mp hMade with
          ⟨hResult, hCreated⟩
        rcases List.mem_singleton.mp hResult with rfl
        have hNone := hStep.created_iff.mp hCreated
        cases hRun :
            itemRun orchestrator ctx actor turn.before
              turn.item with
        | error exc =>
            have hLink :=
              (hStep.unprovisioned hNone hRun).2.1
            rw [hLinked] at hLink
            rcases Option.map_eq_some_iff.mp hLink.symm with
              ⟨latest, hLatest, rfl⟩
            refine hContains.mpr
              (Or.inl ((Table.contains_iff _).mpr
                ⟨latest, ?_, rfl⟩))
            exact List.mem_reverse.mp
              (List.mem_of_find?_eq_some hLatest)
        | ok run =>
            rcases hStep.provisioned hNone hRun with
              ⟨own, hOwn⟩
            rw [hOwn.linked] at hLinked
            refine hContains.mpr (Or.inr ⟨own, ?_, ?_⟩)
            · rw [hOwn.provisioned]
              exact List.mem_cons_self
            · exact Option.some.inj hLinked

/-
  In a call that returns, from a store whose links resolve,
  every remediation job that was created is linked to its own
  provisioning job, exactly if no provisioning job of the
  correlation id is there for an item without a connector.
-/
theorem links_own_iff
    (orchestrator : ProvisioningOrchestrator)
    (ctx : RequestContext)
    (campaignId : Int)
    (actor : User)
    {env : Environment}
    {session after : Session Store DomainEvent}
    (hUnbroken : session.broken = false)
    (hResolve : LinksResolve session.working)
    {result : CampaignRemediationResult}
    {events : List DomainEvent}
    (hReturns :
      (executeCampaign orchestrator ctx campaignId actor).run
          env session =
        (.ok (result, events), after)) :
    let s := session.working
    let items := s.remediableReviewItems campaignId
    let taken :=
      turns env orchestrator ctx actor items session
    taken.map (·.item) = items ∧
      taken.map (·.result.job) = result.jobs ∧
        (LinksOwn s after.working taken ↔
          OwnFound env orchestrator ctx actor s taken) := by
  intro s items taken
  rcases run_executeCampaign hUnbroken hReturns with
    ⟨results, hRun, hJobs⟩
  have hItems :
      ∀ item ∈ items,
        s.certificationReviewItems.get? item.id =
            some item ∧
          s.revoked item = true := by
    intro item hMem
    rcases mem_remediableReviewItems hMem with
      ⟨hRow, -, hRevoked⟩
    exact ⟨s.certificationReviewItems.get?_of_mem hRow,
      hRevoked⟩
  rcases follow_turns hUnbroken hItems hRun with
    ⟨hTaken, hResults, hFollow⟩
  have hDistinct : (taken.map (·.item.id)).Nodup := by
    have hIds :=
      distinct_remediableReviewItems s campaignId
    have hMap :
        taken.map (·.item.id) =
          (taken.map (·.item)).map (·.id) := by
      rw [List.map_map]
      rfl
    rw [hMap, hTaken]
    exact hIds
  refine ⟨hTaken, ?_, hFollow.linksOwn_iff hDistinct
    hResolve⟩
  rw [hJobs, ← hResults, List.map_map]
  rfl

end Remediation

end AccessIQ

------------------------------------------------------------
-- A Foreign Link
------------------------------------------------------------

namespace AccessIQ

namespace Remediation

open Foundations Connectors Governance Python Access

attribute [local instance] asciiPlatform

/- A pair is its first part with its second one. -/
theorem eq_mk_of_fst
    {α β : Type}
    {p : α × β}
    {a : α}
    (hFirst : p.1 = a) :
    p = (a, p.2) := by
  rw [← hFirst]

/- The session in which Alice's campaign is remediated. -/
def revokedSession : Session Store DomainEvent :=
  ⟨Moment.start revokedStore, 0⟩

/- Its turns: one with a connector, and then one without. -/
def revokedTurns : List Turn :=
  turns flakyEnvironment mockOrchestrator aliceContext alice
    (revokedSession.working.remediableReviewItems 1)
    revokedSession

theorem linksResolve_revokedSession :
    LinksResolve revokedSession.working := by
  have hNone :
      revokedSession.working.remediationJobs.rows = [] := by
    decide +kernel
  intro job hJob
  rw [hNone] at hJob
  cases hJob

theorem links_own_iff_revoked :
    let final :=
      (executeCampaign mockOrchestrator aliceContext 1
          alice).run flakyEnvironment revokedSession
    ∃ result events,
      final.1 = .ok (result, events) ∧
        revokedTurns.map (·.item) =
            revokedSession.working.remediableReviewItems 1 ∧
          revokedTurns.map (·.result.job) = result.jobs ∧
            (LinksOwn revokedSession.working
                final.2.working revokedTurns ↔
              OwnFound flakyEnvironment mockOrchestrator
                aliceContext alice revokedSession.working
                revokedTurns) := by
  have hSome :
      ((executeCampaign mockOrchestrator aliceContext 1
            alice).run flakyEnvironment
          revokedSession).1.toOption.isSome =
        true := by
    decide +kernel
  rcases eq_ok_of_isSome hSome with
    ⟨⟨result, events⟩, hReturns⟩
  have hUnbroken : revokedSession.broken = false := rfl
  have hRun := eq_mk_of_fst hReturns
  have hLinks :=
    links_own_iff mockOrchestrator aliceContext 1 alice
      hUnbroken linksResolve_revokedSession hRun
  exact ⟨result, events, hReturns, hLinks⟩

/-
  The item without a connector is linked to the provisioning
  job of the other one, which succeeded.
-/
theorem links_foreign_job :
    let final :=
      (executeCampaign mockOrchestrator aliceContext 1
          alice).run flakyEnvironment revokedSession
    final.1.toOption.isSome = true ∧
      final.2.working.remediationJobs.rows.map
          (fun job =>
            (job.id, job.status, job.provisioningJobId)) =
        [(1, .completed, some 1), (2, .failed, some 1)] ∧
      final.2.working.provisioningJobs.rows.map
          (fun job => (job.id, job.status)) =
        [(1, .success)] ∧
      ¬ LinksOwn revokedSession.working final.2.working
        revokedTurns := by
  have hLinks : newLinks revokedTurns = [1, 1] := by
    decide +kernel
  refine ⟨by decide +kernel, by decide +kernel,
    by decide +kernel, ?_⟩
  intro hOwn
  have hDistinct := hOwn.distinct
  rw [hLinks] at hDistinct
  exact absurd hDistinct (by decide)

end Remediation

end AccessIQ
