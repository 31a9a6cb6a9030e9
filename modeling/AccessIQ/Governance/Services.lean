import AccessIQ.Endpoint
import AccessIQ.AuditService

/-
  The certification campaign services and their routes.

  A campaign is created as a draft.  Starting it takes a
  snapshot of the access assignments as review items, each of
  which is decided, and decided again, while the campaign is
  active.  The counts of a campaign are stored with it and
  recalculated by some of the operations.

  Every query of the source is a read of its own, and a flush
  writes the columns changed since the row was loaded.

  Key definitions include:
    * `validateTransition`
    * `recalculateCampaignCounts`
    * `createCampaign`
    * `generateReviewItems`
    * `startCampaign`
    * `completeCampaign`
    * `cancelCampaign`
    * `recordDecision`
-/

------------------------------------------------------------
-- Validation
------------------------------------------------------------

namespace AccessIQ

namespace Governance

open Foundations Python

def validCampaignTransitions :
    CampaignStatus → List CampaignStatus
  | .draft => [.active, .cancelled]
  | .active => [.completed, .cancelled]
  | .completed => []
  | .cancelled => []

/- `_validate_transition`. -/
def validateTransition
    (campaign : CertificationCampaign)
    (nextStatus : CampaignStatus) :
    Handler Unit :=
  Program.raiseIf
    (nextStatus ∉ validCampaignTransitions campaign.status)
    (.governance
      (.invalidCampaignTransition
        (s!"Cannot transition campaign from " ++
          s!"{campaign.status.value} to " ++
          s!"{nextStatus.value}")))

/- Blank text is no text. -/
def normalizeOptionalText
    (value : Option String) :
    Option String :=
  match value with
  | none => none
  | some text =>
      if strip text = "" then none else some (strip text)

end Governance

end AccessIQ

------------------------------------------------------------
-- Column Writes
------------------------------------------------------------

namespace AccessIQ

namespace Governance

open Foundations

/- A stored campaign after its changed columns are written. -/
def CertificationCampaign.write
    (loaded new stored : CertificationCampaign) :
    CertificationCampaign :=
  { stored with
    status :=
      writeColumn loaded.status new.status stored.status
    startedAt :=
      writeColumn loaded.startedAt new.startedAt
        stored.startedAt
    completedAt :=
      writeColumn loaded.completedAt new.completedAt
        stored.completedAt
    cancelledAt :=
      writeColumn loaded.cancelledAt new.cancelledAt
        stored.cancelledAt
    totalItems :=
      writeColumn loaded.totalItems new.totalItems
        stored.totalItems
    completedItems :=
      writeColumn loaded.completedItems new.completedItems
        stored.completedItems
    approvalCount :=
      writeColumn loaded.approvalCount new.approvalCount
        stored.approvalCount
    revocationCount :=
      writeColumn loaded.revocationCount new.revocationCount
        stored.revocationCount
    abstainCount :=
      writeColumn loaded.abstainCount new.abstainCount
        stored.abstainCount }

/- The same of a review item. -/
def CertificationReviewItem.write
    (loaded new stored : CertificationReviewItem) :
    CertificationReviewItem :=
  { stored with
    reviewerId :=
      writeColumn loaded.reviewerId new.reviewerId
        stored.reviewerId
    status :=
      writeColumn loaded.status new.status stored.status
    reviewedAt :=
      writeColumn loaded.reviewedAt new.reviewedAt
        stored.reviewedAt }

/- The same of a decision. -/
def CertificationDecision.write
    (loaded new stored : CertificationDecision) :
    CertificationDecision :=
  { stored with
    reviewerId :=
      writeColumn loaded.reviewerId new.reviewerId
        stored.reviewerId
    decision :=
      writeColumn loaded.decision new.decision
        stored.decision
    comments :=
      writeColumn loaded.comments new.comments
        stored.comments
    updatedAt :=
      writeColumn loaded.updatedAt new.updatedAt
        stored.updatedAt }

end Governance

end AccessIQ

------------------------------------------------------------
-- Queries And Statements
------------------------------------------------------------

namespace AccessIQ

open Foundations Governance

namespace Store

/- The review items of a campaign. -/
def reviewItemsOf
    (s : Store)
    (campaignId : Int) :
    List CertificationReviewItem :=
  s.certificationReviewItems.rows.filter
    (·.campaignId == campaignId)

def completedItemCount
    (s : Store)
    (campaignId : Int) :
    Nat :=
  (s.reviewItemsOf campaignId).countP
    (·.status == .completed)

/- The decisions of a campaign. -/
def decisionsOf
    (s : Store)
    (campaignId : Int) :
    List CertificationDecision :=
  s.certificationDecisions.rows.filter
    (·.campaignId == campaignId)

def decisionCount
    (s : Store)
    (campaignId : Int)
    (decision : CertificationDecisionValue) :
    Nat :=
  (s.decisionsOf campaignId).countP
    (·.decision == decision)

/- The decision about a review item. -/
def decisionRecord
    (s : Store)
    (reviewItemId : Int) :
    Option CertificationDecision :=
  s.certificationDecisions.rows.find?
    (·.reviewItemId == reviewItemId)

def insertCertificationCampaign
    (s : Store)
    (c : CertificationCampaign) :
    Except DatabaseError (Store × Int) :=
  s.insertInto s.certificationCampaigns
    (fun t => { s with certificationCampaigns := t })
    c
    (s.resolves s.users c.createdBy &&
      s.resolves s.users c.defaultReviewerId)

/- Write the changed columns of a campaign. -/
def updateCertificationCampaign
    (s : Store)
    (loaded new : CertificationCampaign) :
    Except DatabaseError Store :=
  updateIn s.certificationCampaigns
    (fun t => { s with certificationCampaigns := t })
    loaded.id (CertificationCampaign.write loaded new) true

/- The foreign keys of a review item are satisfied. -/
def reviewItemReferencesResolve
    (s : Store)
    (item : CertificationReviewItem) :
    Bool :=
  s.resolves s.certificationCampaigns item.campaignId &&
    s.resolves s.accessAssignments
      item.accessAssignmentId &&
    s.resolves s.users item.userId &&
    s.resolves s.applications item.applicationId &&
    s.resolves s.entitlements item.entitlementId &&
    s.resolves? s.groups item.groupId &&
    s.resolves s.users item.reviewerId

def insertCertificationReviewItems
    (s : Store)
    (items : List CertificationReviewItem) :
    Except DatabaseError Store :=
  (s.certificationReviewItems.tryInsertAll
      s.dialect.keyPolicy s.reviewItemReferencesResolve
      items).map
    fun t => { s with certificationReviewItems := t }

/- Write the changed columns of a review item. -/
def updateCertificationReviewItem
    (s : Store)
    (loaded new : CertificationReviewItem) :
    Except DatabaseError Store :=
  if new = loaded then
    .ok s
  else
    updateIn s.certificationReviewItems
      (fun t => { s with certificationReviewItems := t })
      loaded.id (CertificationReviewItem.write loaded new)
      (new.reviewerId == loaded.reviewerId ||
        s.resolves s.users new.reviewerId)

def insertCertificationDecision
    (s : Store)
    (d : CertificationDecision) :
    Except DatabaseError Store :=
  (s.insertInto s.certificationDecisions
      (fun t => { s with certificationDecisions := t })
      d
      (s.resolves s.certificationCampaigns d.campaignId &&
        s.resolves s.certificationReviewItems
          d.reviewItemId &&
        s.resolves s.users d.reviewerId)).map
    Prod.fst

/- Write the changed columns of a decision. -/
def updateCertificationDecision
    (s : Store)
    (loaded new : CertificationDecision) :
    Except DatabaseError Store :=
  if new = loaded then
    .ok s
  else
    updateIn s.certificationDecisions
      (fun t => { s with certificationDecisions := t })
      loaded.id (CertificationDecision.write loaded new)
      (new.reviewerId == loaded.reviewerId ||
        s.resolves s.users new.reviewerId)

end Store

end AccessIQ

------------------------------------------------------------
-- Campaign Service
------------------------------------------------------------

namespace AccessIQ

namespace Governance

open Foundations Python

/- `get_governance_audit_entitlement`. -/
def getGovernanceAuditEntitlement :
    Handler Entitlement := do
  let s ← Program.view
  Program.getOrRaise
    (s.entitlementBySlugs "governance"
      "access-review-certification")
    (.runtimeError
      "Governance audit entitlement is not seeded")

def recordGovernanceAudit
    (ctx : RequestContext)
    (actor : User)
    (targetUserId : Int)
    (action : AuditAction)
    (result : AuditResult)
    (reason : String) :
    Handler Unit := do
  let entitlement ← getGovernanceAuditEntitlement
  let _ ← createAuditEvent ctx actor.id targetUserId action
    entitlement.applicationId entitlement.id result reason

def lookupCampaign
    (campaignId : Int) :
    Handler CertificationCampaign := do
  let s ← Program.view
  Program.getOrRaise
    (s.certificationCampaigns.get? campaignId)
    (.governance (.campaignNotFound campaignId))

/-
  Flush a campaign; without a change there is no statement.
-/
def flushCampaign
    (loaded new : CertificationCampaign) :
    Handler Unit :=
  if new = loaded then
    pure ()
  else
    Program.flush_
      (·.updateCertificationCampaign loaded new)

/- Recalculate and flush the counts of a campaign. -/
def recalculateCampaignCounts
    (campaign : CertificationCampaign) :
    Handler CertificationCampaign := do
  let s ← Program.view
  let totalItems := (s.reviewItemsOf campaign.id).length
  let s ← Program.view
  let completedItems := s.completedItemCount campaign.id
  let s ← Program.view
  let new :=
    { campaign with
      totalItems := totalItems
      completedItems := completedItems
      approvalCount := s.decisionCount campaign.id .approve
      revocationCount := s.decisionCount campaign.id .revoke
      abstainCount := s.decisionCount campaign.id .abstain }
  flushCampaign campaign new
  return new

/- The payload of `POST /access-reviews/campaigns`. -/
structure CampaignCreateRequest where
  name : String
  description : Option String := none
  reviewerId : Int
  deriving DecidableEq, Repr

/- The row `create_campaign` adds, before it has a key. -/
def newCampaign
    (ctx : RequestContext)
    (payload : CampaignCreateRequest)
    (actor reviewer : User) :
    CertificationCampaign where
  id := 0
  name := strip payload.name
  description := normalizeOptionalText payload.description
  status := .draft
  createdBy := actor.id
  defaultReviewerId := reviewer.id
  createdAt := ctx.now

/- The row of the review item of an access assignment. -/
def newReviewItem
    (ctx : RequestContext)
    (campaign : CertificationCampaign)
    (assignment : AccessAssignment)
    (entitlement : Entitlement) :
    CertificationReviewItem where
  id := 0
  campaignId := campaign.id
  accessAssignmentId := assignment.id
  userId := assignment.userId
  applicationId := entitlement.applicationId
  entitlementId := assignment.entitlementId
  reviewerId := campaign.defaultReviewerId
  status := .pending
  createdAt := ctx.now

/-
  The review items of all access assignments, unless one is
  of an entitlement that does not exist.
-/
def newReviewItems
    (ctx : RequestContext)
    (campaign : CertificationCampaign)
    (s : Store) :
    Option (List CertificationReviewItem) :=
  s.accessAssignments.rows.mapM fun assignment =>
    (s.entitlements.get? assignment.entitlementId).map
      (newReviewItem ctx campaign assignment)

/- The campaign is returned as it is afterwards. -/
def generateReviewItems
    (ctx : RequestContext)
    (campaign : CertificationCampaign) :
    Handler CertificationCampaign := do
  let s ← Program.view
  if (s.reviewItemsOf campaign.id).length ≠ 0 then
    -- the existing items are loaded and nothing changes
    let _ ← Program.view
    return campaign
  else
    let s ← Program.view
    let items ←
      Program.getOrRaise (newReviewItems ctx campaign s)
        .attributeError
    if items ≠ [] then
      Program.flush_
        (·.insertCertificationReviewItems items)
    recalculateCampaignCounts campaign

variable [Platform]

def checkDuplicateCampaignName
    (name : String) :
    Handler Unit := do
  let s ← Program.view
  let existing :=
    s.certificationCampaigns.rows.find? fun c =>
      s.dialect.lower c.name == Platform.lower (strip name)
  Program.raiseIf (existing.isSome = true)
    (.governance (.duplicateCampaignName name))

def createCampaign
    (ctx : RequestContext)
    (payload : CampaignCreateRequest)
    (actor : User) :
    Handler (CertificationCampaign × List DomainEvent) := do
  checkDuplicateCampaignName payload.name
  let s ← Program.view
  let reviewer ←
    Program.getOrRaise (s.users.get? payload.reviewerId)
      (.governance (.missingReviewer payload.reviewerId))
  let new := newCampaign ctx payload actor reviewer
  let id ←
    Program.flush (·.insertCertificationCampaign new)
  let campaign := { new with id := id }
  recordGovernanceAudit ctx actor actor.id
    .certificationCampaignCreated .succeeded
    s!"Certification campaign {campaign.id} created"
  return (campaign,
    [⟨ctx.now,
      .certificationCampaignCreated campaign.id
        campaign.name⟩])

omit [Platform]

def startedCampaign
    (ctx : RequestContext)
    (campaign : CertificationCampaign) :
    CertificationCampaign :=
  { campaign with
    status := .active
    startedAt := some ctx.now }

def completedCampaign
    (ctx : RequestContext)
    (campaign : CertificationCampaign) :
    CertificationCampaign :=
  { campaign with
    status := .completed
    completedAt := some ctx.now }

def cancelledCampaign
    (ctx : RequestContext)
    (campaign : CertificationCampaign) :
    CertificationCampaign :=
  { campaign with
    status := .cancelled
    cancelledAt := some ctx.now }

def startCampaign
    (ctx : RequestContext)
    (campaignId : Int)
    (actor : User) :
    Handler (CertificationCampaign × List DomainEvent) := do
  let campaign ← lookupCampaign campaignId
  validateTransition campaign .active
  let generated ← generateReviewItems ctx campaign
  let campaign := startedCampaign ctx generated
  flushCampaign generated campaign
  recordGovernanceAudit ctx actor actor.id
    .certificationCampaignStarted .succeeded
    (s!"Certification campaign {campaign.id} started " ++
      s!"with {campaign.totalItems} review items")
  return (campaign,
    [⟨ctx.now,
      .certificationCampaignStarted campaign.id
        campaign.totalItems⟩])

def completeCampaign
    (ctx : RequestContext)
    (campaignId : Int)
    (actor : User) :
    Handler (CertificationCampaign × List DomainEvent) := do
  let campaign ← lookupCampaign campaignId
  validateTransition campaign .completed
  let counted ← recalculateCampaignCounts campaign
  Program.raiseIf
    (counted.completedItems < counted.totalItems)
    (.governance (.incompleteCampaign counted))
  let campaign := completedCampaign ctx counted
  flushCampaign counted campaign
  recordGovernanceAudit ctx actor actor.id
    .certificationCampaignCompleted .succeeded
    s!"Certification campaign {campaign.id} completed"
  return (campaign,
    [⟨ctx.now,
      .certificationCampaignCompleted campaign.id
        campaign.approvalCount campaign.revocationCount
        campaign.abstainCount⟩])

def cancelCampaign
    (ctx : RequestContext)
    (campaignId : Int)
    (actor : User) :
    Handler (CertificationCampaign × List DomainEvent) := do
  let loaded ← lookupCampaign campaignId
  validateTransition loaded .cancelled
  let campaign := cancelledCampaign ctx loaded
  flushCampaign loaded campaign
  recordGovernanceAudit ctx actor actor.id
    .certificationCampaignCancelled .succeeded
    s!"Certification campaign {campaign.id} cancelled"
  return (campaign,
    [⟨ctx.now, .certificationCampaignCancelled campaign.id⟩])

end Governance

end AccessIQ

------------------------------------------------------------
-- Review Service
------------------------------------------------------------

namespace AccessIQ

namespace Governance

open Foundations

/- A review item with what is loaded along with it. -/
structure LoadedReviewItem where
  item : CertificationReviewItem
  campaign : Option CertificationCampaign
  decisionRecord : Option CertificationDecision
  deriving DecidableEq, Repr

def Store.loadReviewItem
    (s : Store)
    (itemId : Int) :
    Option LoadedReviewItem :=
  (s.certificationReviewItems.get? itemId).map fun item =>
    { item := item
      campaign :=
        s.certificationCampaigns.get? item.campaignId
      decisionRecord := s.decisionRecord item.id }

def lookupReviewItem
    (itemId : Int) :
    Handler LoadedReviewItem := do
  let s ← Program.view
  Program.getOrRaise (Store.loadReviewItem s itemId)
    (.governance (.reviewItemNotFound itemId))

/- The payload of a decision request. -/
structure DecisionRequest where
  decision : CertificationDecisionValue
  comments : Option String := none
  deriving DecidableEq, Repr

def decisionAuditAction :
    CertificationDecisionValue → AuditAction
  | .approve => .certificationReviewApproved
  | .revoke => .certificationReviewRevoked
  | .abstain => .certificationReviewAbstained

/- The row of a first decision, before it has a key. -/
def newDecision
    (ctx : RequestContext)
    (payload : DecisionRequest)
    (actor : User)
    (campaign : CertificationCampaign)
    (item : CertificationReviewItem) :
    CertificationDecision where
  id := 0
  campaignId := campaign.id
  reviewItemId := item.id
  reviewerId := actor.id
  decision := payload.decision
  comments := normalizeOptionalText payload.comments
  createdAt := ctx.now
  updatedAt := ctx.now

/- A decision as decided again. -/
def updatedDecision
    (ctx : RequestContext)
    (payload : DecisionRequest)
    (actor : User)
    (existing : CertificationDecision) :
    CertificationDecision :=
  { existing with
    reviewerId := actor.id
    decision := payload.decision
    comments := normalizeOptionalText payload.comments
    updatedAt := ctx.now }

/- A review item as reviewed. -/
def reviewedItem
    (ctx : RequestContext)
    (actor : User)
    (item : CertificationReviewItem) :
    CertificationReviewItem :=
  { item with
    status := .completed
    reviewerId := actor.id
    reviewedAt := some ctx.now }

/-
  The decision and its item go in one flush, the item first,
  on which the decision depends.
-/
def flushDecision
    (ctx : RequestContext)
    (payload : DecisionRequest)
    (actor : User)
    (campaign : CertificationCampaign)
    (item : CertificationReviewItem)
    (existing : Option CertificationDecision)
    (s : Store) :
    Except DatabaseError Store :=
  (s.updateCertificationReviewItem item
    (reviewedItem ctx actor item)).bind fun s =>
      match existing with
      | none =>
          s.insertCertificationDecision
            (newDecision ctx payload actor campaign item)
      | some existing =>
          s.updateCertificationDecision existing
            (updatedDecision ctx payload actor existing)

/- The event a decision appends. -/
def decisionEvent
    (payload : DecisionRequest)
    (actor : User)
    (campaign : CertificationCampaign)
    (item : CertificationReviewItem) :
    Option CertificationDecision → EventKind
  | none =>
      .certificationDecisionRecorded campaign.id item.id
        actor.id item.userId item.entitlementId
        payload.decision
  | some existing =>
      .certificationDecisionUpdated campaign.id item.id
        actor.id item.userId item.entitlementId
        (some existing.decision) payload.decision

/- The action and the reason a decision is audited with. -/
def decisionAudit
    (payload : DecisionRequest)
    (item : CertificationReviewItem) :
    Option CertificationDecision → AuditAction × String
  | none =>
      (decisionAuditAction payload.decision,
        s!"Review item {item.id} recorded as " ++
          s!"{payload.decision.value}")
  | some existing =>
      (.certificationDecisionUpdated,
        s!"Review item {item.id} updated from " ++
          s!"{existing.decision.value} to " ++
          s!"{payload.decision.value}")

def recordDecision
    (ctx : RequestContext)
    (itemId : Int)
    (payload : DecisionRequest)
    (actor : User) :
    Handler
      (CertificationReviewItem × List DomainEvent) := do
  let loaded ← lookupReviewItem itemId
  let item := loaded.item
  let campaign ←
    Program.getOrRaise loaded.campaign .attributeError
  Program.raiseIf (campaign.status ≠ .active)
    (.governance
      (.invalidCampaignTransition
        ("Decisions can only be recorded for active " ++
          "campaigns")))
  Program.flush_
    (flushDecision ctx payload actor campaign item
      loaded.decisionRecord)
  let _ ← recalculateCampaignCounts campaign
  let (action, reason) :=
    decisionAudit payload item loaded.decisionRecord
  let _ ← createAuditEvent ctx actor.id item.userId action
    item.applicationId item.entitlementId .succeeded reason
  let _ ← lookupReviewItem itemId
  return (reviewedItem ctx actor item,
    [⟨ctx.now,
      decisionEvent payload actor campaign item
        loaded.decisionRecord⟩])

end Governance

end AccessIQ

------------------------------------------------------------
-- Routes
------------------------------------------------------------

namespace AccessIQ

namespace Governance

open Foundations Python

def readRoles : List String :=
  ["security_admin", "iam_admin", "auditor"]

def writeRoles : List String :=
  ["security_admin", "iam_admin"]

variable [Platform]

/- `_raise_governance_http_error`. -/
def governanceHttpError :
    PyException → Option HttpException
  | .governance error =>
      match error with
      | .duplicateCampaignName _ =>
          some ⟨409, "Certification campaign already exists"⟩
      | .campaignNotFound _ => some ⟨404, error.message⟩
      | .reviewItemNotFound _ => some ⟨404, error.message⟩
      | .missingReviewer _ => some ⟨404, "Reviewer not found"⟩
      | .invalidCampaignTransition _ =>
          some ⟨409, error.message⟩
      | .incompleteCampaign _ => some ⟨409, error.message⟩
  | _ => none

/- `POST /access-reviews/campaigns`. -/
def createCampaignRoute
    (ctx : RequestContext)
    (payload : CampaignCreateRequest) :
    Handler CertificationCampaign := do
  let currentUser ← authenticated ctx writeRoles
  transactional governanceHttpError
    (createCampaign ctx payload currentUser)

/- `POST /access-reviews/campaigns/{campaign_id}/start`. -/
def startCampaignRoute
    (ctx : RequestContext)
    (campaignId : Int) :
    Handler CertificationCampaign := do
  let currentUser ← authenticated ctx writeRoles
  transactional governanceHttpError
    (startCampaign ctx campaignId currentUser)

/- `POST /access-reviews/campaigns/{campaign_id}/cancel`. -/
def cancelCampaignRoute
    (ctx : RequestContext)
    (campaignId : Int) :
    Handler CertificationCampaign := do
  let currentUser ← authenticated ctx writeRoles
  transactional governanceHttpError
    (cancelCampaign ctx campaignId currentUser)

/- `POST /access-reviews/campaigns/{campaign_id}/complete`. -/
def completeCampaignRoute
    (ctx : RequestContext)
    (campaignId : Int) :
    Handler CertificationCampaign := do
  let currentUser ← authenticated ctx writeRoles
  transactional governanceHttpError
    (completeCampaign ctx campaignId currentUser)

/- `POST /access-reviews/items/{item_id}/decision`. -/
def recordDecisionRoute
    (ctx : RequestContext)
    (itemId : Int)
    (payload : DecisionRequest) :
    Handler CertificationReviewItem := do
  let currentUser ← authenticated ctx readRoles
  transactional governanceHttpError
    (recordDecision ctx itemId payload currentUser)

end Governance

end AccessIQ
