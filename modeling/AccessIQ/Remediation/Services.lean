import AccessIQ.Connectors.Orchestrator
import AccessIQ.Governance.Services

/-
  The remediation service and its route.

  A completed campaign is remediated item by item: an item
  with a REVOKE decision gets one remediation job, which is
  executed through the orchestrator at once.  Whatever is
  raised while it is executed fails the job, as long as the
  session still works.

  Key definitions include:
    * `linkProvisioningJob`
    * `createJob`
    * `executeJob`
    * `executeCampaign`
    * `remediateCampaign`
-/

------------------------------------------------------------
-- Statements
------------------------------------------------------------

namespace AccessIQ

open Foundations Remediation Governance

/- A stored job after its changed columns are written. -/
def Remediation.RemediationJob.write
    (loaded new stored : RemediationJob) :
    RemediationJob :=
  { stored with
    provisioningJobId :=
      writeColumn loaded.provisioningJobId
        new.provisioningJobId stored.provisioningJobId
    status :=
      writeColumn loaded.status new.status stored.status
    startedAt :=
      writeColumn loaded.startedAt new.startedAt
        stored.startedAt
    completedAt :=
      writeColumn loaded.completedAt new.completedAt
        stored.completedAt
    lastError :=
      writeColumn loaded.lastError new.lastError
        stored.lastError }

namespace Store

def insertRemediationJob
    (s : Store)
    (job : RemediationJob) :
    Except DatabaseError (Store × Int) :=
  s.insertInto s.remediationJobs
    (fun t => { s with remediationJobs := t })
    job
    (s.resolves s.certificationCampaigns job.campaignId &&
      s.resolves s.certificationReviewItems
        job.reviewItemId &&
      s.resolves? s.provisioningJobs
        job.provisioningJobId &&
      s.resolves s.users job.initiatedBy)

/- Write the changed columns of a job. -/
def updateRemediationJob
    (s : Store)
    (loaded new : RemediationJob) :
    Except DatabaseError Store :=
  updateIn s.remediationJobs
    (fun t => { s with remediationJobs := t })
    loaded.id (RemediationJob.write loaded new)
    (new.provisioningJobId == loaded.provisioningJobId ||
      s.resolves? s.provisioningJobs new.provisioningJobId)

/- `_find_job_by_review_item`. -/
def findJobByReviewItem
    (s : Store)
    (reviewItemId : Int) :
    Option RemediationJob :=
  s.remediationJobs.rows.find?
    (·.reviewItemId == reviewItemId)

/- The item was decided to be revoked. -/
def revoked
    (s : Store)
    (item : CertificationReviewItem) :
    Bool :=
  (s.decisionRecord item.id).any (·.decision == .revoke)

/- `_remediable_review_items`. -/
def remediableReviewItems
    (s : Store)
    (campaignId : Int) :
    List CertificationReviewItem :=
  s.certificationReviewItems.rows.filter fun item =>
    item.campaignId == campaignId && s.revoked item

/- `_non_remediable_decision_count`. -/
def nonRemediableDecisionCount
    (s : Store)
    (campaignId : Int) :
    Nat :=
  s.certificationDecisions.rows.countP fun decision =>
    decision.campaignId == campaignId &&
      decision.decision != .revoke

/- The latest provisioning job with a correlation id. -/
def latestProvisioningJob
    (s : Store)
    (correlationId : String) :
    Option ProvisioningJob :=
  s.provisioningJobs.findLast?
    (·.correlationId == correlationId)

end Store

end AccessIQ

------------------------------------------------------------
-- Operations Of Jobs
------------------------------------------------------------

namespace AccessIQ

namespace Remediation

open Foundations Connectors Governance Python

def applicationConnectorNames :
    List (String × String) :=
  [("salesforce", "salesforce"),
    ("github", "github"),
    ("zendesk", "zendesk"),
    ("finance-portal", "finance")]

/- `_remediation_type_for_item`. -/
def remediationTypeForItem
    (item : CertificationReviewItem) :
    RemediationType :=
  match item.groupId with
  | some _ => .removeGroupMember
  | none => .revokeEntitlement

/- `str` of an integer, as a payload value. -/
def idValue
    (id : Int) :
    Option PayloadValue :=
  some { text := toString id }

/-
  `_operation_for_job`: the connector, the operation and the
  payload.  An application or an entitlement that is gone has
  no attributes.
-/
def operationForJob
    (s : Store)
    (job : RemediationJob)
    (item : CertificationReviewItem) :
    Except PyException
      (String × ConnectorOperation × Payload) := do
  let application ←
    match s.applications.get? item.applicationId with
    | some application => .ok application
    | none => .error (.noAttribute "slug")
  let connectorName ←
    match applicationConnectorNames.lookup application.slug with
    | some connectorName => .ok connectorName
    | none =>
        .error
          (.remediation
            (.unsupportedConnector application.slug))
  match job.remediationType with
  | .revokeEntitlement =>
      match s.entitlements.get? item.entitlementId with
      | some entitlement =>
          .ok
            (connectorName, .revokeEntitlement,
              [("user_id", idValue item.userId),
                ("entitlement",
                  some
                    { text := entitlement.name
                      isMapping := true })])
      | none => .error (.noAttribute "id")
  | .removeGroupMember =>
      match item.groupId with
      | some groupId =>
          .ok
            (connectorName, .removeGroupMember,
              [("group_id", idValue groupId),
                ("user_id", idValue item.userId)])
      | none =>
          .error
            (.valueError
              "Review item does not reference a group")
  | .disableUser =>
      .ok
        (connectorName, .disableUser,
          [("user_id", idValue item.userId)])

/- `str` of an exception that fails a job. -/
def exceptionText
    [Platform] :
    PyException → String
  | .remediation error => error.message
  | .noAttribute name =>
      s!"'NoneType' object has no attribute '{name}'"
  | .runtimeError message => message
  | .typeError message => message
  | .valueError message => message
  | .unknownConnector name => s!"Unknown connector: {name}"
  | _ => ""

end Remediation

end AccessIQ

------------------------------------------------------------
-- Job Service
------------------------------------------------------------

namespace AccessIQ

namespace Remediation

open Foundations Connectors Governance Python

/- `_lookup_review_item`. -/
def lookupReviewItem
    (reviewItemId : Int) :
    Handler CertificationReviewItem := do
  let s ← Program.view
  Program.getOrRaise
    (s.certificationReviewItems.get? reviewItemId)
    (.remediation (.reviewItemNotFound reviewItemId))

/- `_record_job_audit`. -/
def recordJobAudit
    (ctx : RequestContext)
    (job : RemediationJob)
    (actor : User)
    (action : AuditAction)
    (result : AuditResult)
    (reason : String) :
    Handler Unit := do
  let item ← lookupReviewItem job.reviewItemId
  let _ ← createAuditEvent ctx actor.id item.userId action
    item.applicationId item.entitlementId result reason
    (some job.correlationId)

/- Flush a job; without a change there is no statement. -/
def flushRemediationJob
    (loaded new : RemediationJob) :
    Handler Unit :=
  if new = loaded then
    pure ()
  else
    Program.flush_ (·.updateRemediationJob loaded new)

/- `_link_provisioning_job`. -/
def linkProvisioningJob
    (job : RemediationJob) :
    Handler RemediationJob := do
  let s ← Program.view
  match s.latestProvisioningJob job.correlationId with
  | none => return job
  | some provisioningJob => do
      let linked :=
        { job with
          provisioningJobId := some provisioningJob.id }
      flushRemediationJob job linked
      return linked

/- The row `create_job` adds, before it has a key. -/
def newRemediationJob
    (ctx : RequestContext)
    (item : CertificationReviewItem)
    (remediationType : RemediationType)
    (actor : User) :
    RemediationJob where
  id := 0
  campaignId := item.campaignId
  reviewItemId := item.id
  correlationId := ctx.correlationId
  remediationType := remediationType
  status := .pending
  createdAt := ctx.now
  initiatedBy := actor.id

def remediationCreatedEvent
    (ctx : RequestContext)
    (job : RemediationJob) :
    DomainEvent :=
  ⟨ctx.now,
    .remediationCreated job.id job.campaignId
      job.reviewItemId job.remediationType
      job.correlationId⟩

def createJob
    (ctx : RequestContext)
    (reviewItemId : Int)
    (remediationType : RemediationType)
    (actor : User) :
    Handler (RemediationJob × List DomainEvent) := do
  let item ← lookupReviewItem reviewItemId
  let s ← Program.view
  Program.raiseIf (s.revoked item = false)
    (.remediation (.unsupportedDecision item.id))
  let s ← Program.view
  Program.raiseIf
    ((s.findJobByReviewItem item.id).isSome = true)
    (.remediation (.duplicateJob item.id))
  let new := newRemediationJob ctx item remediationType actor
  let id ← Program.flush (·.insertRemediationJob new)
  let job := { new with id := id }
  recordJobAudit ctx job actor .remediationCreated .succeeded
    s!"Remediation job {job.id} created"
  return (job, [remediationCreatedEvent ctx job])

/- A job as `start_job` leaves it. -/
def startedJob
    (ctx : RequestContext)
    (job : RemediationJob) :
    RemediationJob :=
  { job with
    status := .running
    startedAt := some ctx.now
    lastError := none }

def remediationStartedEvent
    (ctx : RequestContext)
    (job : RemediationJob) :
    DomainEvent :=
  ⟨ctx.now,
    .remediationStarted job.id job.campaignId
      job.reviewItemId job.remediationType
      job.correlationId⟩

def startJob
    (ctx : RequestContext)
    (job : RemediationJob)
    (actor : User) :
    Handler (RemediationJob × List DomainEvent) := do
  let started := startedJob ctx job
  flushRemediationJob job started
  recordJobAudit ctx started actor .remediationStarted
    .succeeded s!"Remediation job {started.id} started"
  return (started, [remediationStartedEvent ctx started])

/- A job as `complete_job` leaves it. -/
def completedJob
    (ctx : RequestContext)
    (job : RemediationJob)
    (status : RemediationStatus) :
    RemediationJob :=
  { job with
    status := status
    completedAt := some ctx.now
    lastError := none }

def remediationCompletedEvent
    (ctx : RequestContext)
    (job : RemediationJob) :
    DomainEvent :=
  ⟨ctx.now,
    .remediationCompleted job.id job.campaignId
      job.reviewItemId job.remediationType job.status
      job.provisioningJobId job.correlationId⟩

/- An empty message is no message. -/
def completionReason
    (job : RemediationJob)
    (message : Option String) :
    String :=
  match message with
  | some text =>
      if text = "" then
        s!"Remediation job {job.id} completed"
      else
        text
  | none => s!"Remediation job {job.id} completed"

def completeJob
    (ctx : RequestContext)
    (job : RemediationJob)
    (actor : User)
    (status : RemediationStatus := .completed)
    (message : Option String := none) :
    Handler (RemediationJob × List DomainEvent) := do
  let completed := completedJob ctx job status
  flushRemediationJob job completed
  recordJobAudit ctx completed actor .remediationCompleted
    .succeeded (completionReason completed message)
  return (completed,
    [remediationCompletedEvent ctx completed])

/- A job as `fail_job` leaves it. -/
def failedJob
    (ctx : RequestContext)
    (job : RemediationJob)
    (message : String) :
    RemediationJob :=
  { job with
    status := .failed
    completedAt := some ctx.now
    lastError := some message }

def remediationFailedEvent
    (ctx : RequestContext)
    (job : RemediationJob)
    (message : String) :
    DomainEvent :=
  ⟨ctx.now,
    .remediationFailed job.id job.campaignId
      job.reviewItemId job.remediationType message
      job.correlationId⟩

def failJob
    (ctx : RequestContext)
    (job : RemediationJob)
    (actor : User)
    (message : String) :
    Handler (RemediationJob × List DomainEvent) := do
  let linked ← linkProvisioningJob job
  let failed := failedJob ctx linked message
  flushRemediationJob linked failed
  recordJobAudit ctx failed actor .remediationFailed .denied
    s!"Remediation job {failed.id} failed: {message}"
  return (failed,
    [remediationFailedEvent ctx failed message])

variable [Platform]

/- The arguments a job is executed with. -/
def executeArguments
    (job : RemediationJob)
    (item : CertificationReviewItem)
    (actor : User)
    (connectorName : String)
    (operation : ConnectorOperation)
    (payload : Payload) :
    ExecuteArguments where
  connectorName := connectorName
  operation := operation
  payload := payload
  correlationId := some job.correlationId
  requesterId := some actor.id
  targetUserId := some item.userId

/- What becomes of a job whose connector was executed. -/
def settleJob
    (ctx : RequestContext)
    (job : RemediationJob)
    (actor : User)
    (result : ConnectorResult) :
    Handler (RemediationJob × List DomainEvent) :=
  match result.status with
  | .success => completeJob ctx job actor
  | .skipped =>
      completeJob ctx job actor .skipped
        (some result.message)
  | .failed => failJob ctx job actor result.message
  | .retryable => failJob ctx job actor result.message

/- The `try` block of `execute_job`. -/
def attemptJob
    (orchestrator : ProvisioningOrchestrator)
    (ctx : RequestContext)
    (job : RemediationJob)
    (item : CertificationReviewItem)
    (actor : User) :
    Handler (RemediationJob × List DomainEvent) := do
  let s ← Program.view
  match operationForJob s job item with
  | .error exc => throw exc
  | .ok (connectorName, operation, payload) => do
      let (result, _) ←
        orchestrator.execute ctx
          (executeArguments job item actor connectorName
            operation payload)
      let linked ← linkProvisioningJob job
      settleJob ctx linked actor result

/-
  `execute_job`.  Once the job is linked only the database
  raises, and then the session is broken: the job it fails is
  the one that was started.
-/
def executeJob
    (orchestrator : ProvisioningOrchestrator)
    (ctx : RequestContext)
    (job : RemediationJob)
    (actor : User) :
    Handler (RemediationJob × List DomainEvent) := do
  let item ← lookupReviewItem job.reviewItemId
  let (started, startEvents) ← startJob ctx job actor
  let (done, events) ←
    tryCatch (attemptJob orchestrator ctx started item actor)
      fun exc => failJob ctx started actor (exceptionText exc)
  return (done, startEvents ++ events)

end Remediation

end AccessIQ

------------------------------------------------------------
-- Campaign Remediation
------------------------------------------------------------

namespace AccessIQ

namespace Remediation

open Foundations Connectors Governance Python

structure CampaignRemediationResult where
  campaignId : Int
  createdJobs : Nat
  executedJobs : Nat
  skippedDecisions : Nat
  jobs : List RemediationJob
  deriving DecidableEq, Repr

/- `validate_campaign`. -/
def validateCampaign
    (campaignId : Int) :
    Handler CertificationCampaign := do
  let s ← Program.view
  let campaign ←
    Program.getOrRaise
      (s.certificationCampaigns.get? campaignId)
      (.remediation (.campaignNotFound campaignId))
  Program.raiseIf (campaign.status ≠ .completed)
    (.remediation (.invalidCampaignState campaign.id))
  return campaign

/- What one item contributes to the result of a call. -/
structure ItemResult where
  job : RemediationJob
  created : Bool
  events : List DomainEvent

variable [Platform]

/- The body of the loop of `execute_campaign`. -/
def remediateItem
    (orchestrator : ProvisioningOrchestrator)
    (ctx : RequestContext)
    (actor : User)
    (item : CertificationReviewItem) :
    Handler ItemResult := do
  let s ← Program.view
  match s.findJobByReviewItem item.id with
  | some job => return ⟨job, false, []⟩
  | none => do
      let (job, createEvents) ←
        createJob ctx item.id (remediationTypeForItem item)
          actor
      let (done, executeEvents) ←
        executeJob orchestrator ctx job actor
      return ⟨done, true, createEvents ++ executeEvents⟩

def remediateItems
    (orchestrator : ProvisioningOrchestrator)
    (ctx : RequestContext)
    (actor : User) :
    List CertificationReviewItem →
      Handler (List ItemResult)
  | [] => return []
  | item :: items => do
      let result ← remediateItem orchestrator ctx actor item
      let results ←
        remediateItems orchestrator ctx actor items
      return result :: results

/- The result of a call, and the events it appended. -/
def campaignResult
    (campaignId : Int)
    (skippedDecisions : Nat)
    (results : List ItemResult) :
    CampaignRemediationResult × List DomainEvent :=
  let createdJobs := results.countP (·.created)
  ({ campaignId := campaignId
     createdJobs := createdJobs
     executedJobs := createdJobs
     skippedDecisions := skippedDecisions
     jobs := results.map (·.job) },
    results.flatMap (·.events))

def executeCampaign
    (orchestrator : ProvisioningOrchestrator)
    (ctx : RequestContext)
    (campaignId : Int)
    (actor : User) :
    Handler
      (CampaignRemediationResult × List DomainEvent) := do
  let campaign ← validateCampaign campaignId
  let s ← Program.view
  let results ←
    remediateItems orchestrator ctx actor
      (s.remediableReviewItems campaign.id)
  return campaignResult campaign.id
    (s.nonRemediableDecisionCount campaign.id) results

end Remediation

end AccessIQ

------------------------------------------------------------
-- Routes
------------------------------------------------------------

namespace AccessIQ

namespace Remediation

open Foundations Connectors Python

def remediationRoles : List String :=
  ["security_admin", "iam_admin"]

variable [Platform]

/- `_raise_remediation_http_error`. -/
def remediationHttpError :
    PyException → Option HttpException
  | .remediation error =>
      match error with
      | .campaignNotFound _ => some ⟨404, error.message⟩
      | .reviewItemNotFound _ => some ⟨404, error.message⟩
      | .duplicateJob _ => some ⟨409, error.message⟩
      | .invalidCampaignState _ => some ⟨409, error.message⟩
      | .unsupportedDecision _ => some ⟨409, error.message⟩
      | .unsupportedConnector _ => some ⟨409, error.message⟩
  | _ => none

/- `POST /access-reviews/campaigns/{campaign_id}/remediate`. -/
def remediateCampaign
    (orchestrator : ProvisioningOrchestrator)
    (ctx : RequestContext)
    (campaignId : Int) :
    Handler CampaignRemediationResult := do
  let currentUser ← authenticated ctx remediationRoles
  transactional remediationHttpError
    (executeCampaign orchestrator ctx campaignId currentUser)

end Remediation

end AccessIQ
