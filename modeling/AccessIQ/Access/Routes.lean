import AccessIQ.Delegation.Authorization
import AccessIQ.PolicyEngine

/-
  The grant and revoke routes.

  Both routes look up the target user and the entitlement,
  authorize the actor, refuse what the current assignments
  rule out, evaluate the policy, and write the change with
  its audit event in one transaction.  They are one handler,
  `changeAccess`, applied to what differs.

  Key definitions include:
    * `AccessActionRequest`
    * `AccessChange`
    * `changeAccess`
    * `grantAccess`
    * `revokeAccess`
-/

------------------------------------------------------------
-- Statements
------------------------------------------------------------

namespace AccessIQ

open Foundations

namespace Store

/- The assignment of an entitlement to a user. -/
def findAccessAssignment
    (s : Store)
    (userId entitlementId : Int) :
    Option AccessAssignment :=
  s.accessAssignments.rows.find? fun a =>
    a.userId == userId && a.entitlementId == entitlementId

def insertAccessAssignment
    (s : Store)
    (a : AccessAssignment) :
    Except DatabaseError (Store × Int) :=
  s.insertInto s.accessAssignments
    (fun t => { s with accessAssignments := t })
    a
    (s.resolves s.users a.userId &&
      s.resolves s.entitlements a.entitlementId)

/-
  Review items refer to the assignment they were generated
  from.
-/
def accessAssignmentReferenced
    (s : Store)
    (assignmentId : Int) :
    Bool :=
  s.certificationReviewItems.rows.any
    (·.accessAssignmentId == assignmentId)

/-
  A database that enforces foreign keys refuses to delete an
  assignment that is still referred to.
-/
def deleteAccessAssignment
    (s : Store)
    (assignmentId : Int) :
    Except DatabaseError Store :=
  if s.dialect.enforcesForeignKeys = true ∧
      s.accessAssignmentReferenced assignmentId = true then
    .error .integrity
  else
    .ok
      { s with
        accessAssignments :=
          s.accessAssignments.delete assignmentId }

end Store

end AccessIQ

------------------------------------------------------------
-- Access Changes
------------------------------------------------------------

namespace AccessIQ

namespace Access

open Foundations Python Delegation

structure AccessActionRequest where
  targetUserId : Int
  entitlementId : Int
  deriving DecidableEq, Repr

structure AccessResponse where
  id : Int
  userId : Int
  applicationId : Int
  application : String
  entitlementId : Int
  entitlement : String
  status : String
  grantedAt : Timestamp
  deriving DecidableEq, Repr

structure RevokeAccessResponse where
  status : String
  userId : Int
  entitlementId : Int
  deriving DecidableEq, Repr

/-
  What tells a grant from a revocation.  `conflict` is the
  response where the current assignment rules the change out,
  and `write` flushes the change and its audit event.
-/
structure AccessChange (α : Type) where
  action : DelegatedAction
  auditAction : AuditAction
  conflict : Option AccessAssignment → Option HttpException
  policy :
    User → User → Entitlement → Application →
      Option String → PolicyDecision
  reason : PolicyDecision → String
  write :
    RequestContext → AccessActionRequest →
      Option AccessAssignment → AuditEvent → Handler Int
  respond : AccessActionRequest → Int → Handler α

variable {α : Type}

/- `_record_delegated_success`. -/
def recordDelegatedSuccess
    (ctx : RequestContext)
    (authorization : DelegationAuthorization)
    (actor targetUser : User)
    (entitlement : Entitlement)
    (action : DelegatedAction) :
    List DomainEvent :=
  match authorization.delegated, authorization.assignment with
  | true, some assignment =>
      [delegatedAccessGranted ctx actor targetUser
        entitlement action assignment]
  | _, _ => []

/- `_record_delegated_denial`. -/
def recordDelegatedDenial
    (ctx : RequestContext)
    (authorization : DelegationAuthorization)
    (actor targetUser : User)
    (entitlement : Entitlement)
    (action : DelegatedAction)
    (reason : String) :
    List DomainEvent :=
  match authorization.delegated, authorization.assignment with
  | true, some assignment =>
      [delegatedAccessDenied ctx actor targetUser
        entitlement action reason (some assignment)]
  | _, _ => []

/- The audit event of an access change. -/
def AccessChange.audit
    (change : AccessChange α)
    (ctx : RequestContext)
    (actor : User)
    (data : AccessActionRequest)
    (application : Application)
    (result : AuditResult)
    (reason : String) :
    AuditEvent :=
  newAuditEvent ctx actor.id data.targetUserId
    change.auditAction application.id data.entitlementId
    result reason

/- Commit a denied audit event, publish, and answer. -/
def refuseChange
    (change : AccessChange α)
    (ctx : RequestContext)
    (data : AccessActionRequest)
    (currentUser user : User)
    (entitlement : Entitlement)
    (application : Application)
    (authorization : DelegationAuthorization)
    (response : HttpException) :
    Handler α := do
  guardDatabase do
    let _ ← recordAuditEvent
      (change.audit ctx currentUser data application
        .denied response.detail)
    Program.commit
  Program.publish
    (recordDelegatedDenial ctx authorization currentUser
      user entitlement change.action response.detail)
  throw (.http response)

def changeAccess
    [Platform]
    (change : AccessChange α)
    (ctx : RequestContext)
    (data : AccessActionRequest)
    (currentUser : User) :
    Handler α := do
  let s ← Program.view
  let user ←
    Program.getOrRaise (s.users.get? data.targetUserId)
      (.http ⟨404, "User not found"⟩)
  let s ← Program.view
  let entitlement ←
    Program.getOrRaise
      (s.entitlements.get? data.entitlementId)
      (.http ⟨404, "Entitlement not found"⟩)
  -- the application comes with the entitlement's query
  let application ←
    Program.getOrRaise
      (s.applications.get? entitlement.applicationId)
      .attributeError
  let (authorization, denials) ←
    authorizeAccessAction ctx currentUser user entitlement
      change.action
  if authorization.allowed = false then
    guardDatabase Program.commit
    Program.publish denials
    raiseHttp 403 "Insufficient privileges"
  else
    let s ← Program.view
    let assignment :=
      s.findAccessAssignment data.targetUserId
        data.entitlementId
    match change.conflict assignment with
    | some response =>
        refuseChange change ctx data currentUser user
          entitlement application authorization response
    | none =>
        let decision :=
          change.policy currentUser user entitlement
            application authorization.delegationRole
        if decision.allowed = false then
          refuseChange change ctx data currentUser user
            entitlement application authorization
            ⟨403, decision.reason⟩
        else
          let id ← guardDatabase do
            let id ← change.write ctx data assignment
              (change.audit ctx currentUser data application
                .succeeded (change.reason decision))
            Program.commit
            return id
          Program.publish
            (recordDelegatedSuccess ctx authorization
              currentUser user entitlement change.action)
          change.respond data id

end Access

end AccessIQ

------------------------------------------------------------
-- Granting And Revoking
------------------------------------------------------------

namespace AccessIQ

namespace Access

open Foundations Python Delegation

/- Flush the new assignment, then its audit event. -/
def writeGrant
    (ctx : RequestContext)
    (data : AccessActionRequest)
    (_assignment : Option AccessAssignment)
    (event : AuditEvent) :
    Handler Int := do
  let id ← Program.flush
    (·.insertAccessAssignment
      { id := 0
        userId := data.targetUserId
        entitlementId := data.entitlementId
        grantedAt := ctx.now })
  let _ ← recordAuditEvent event
  return id

/-
  The deletion waits for the flush of the audit event, and
  both go in one flush.
-/
def writeRevoke
    (_ctx : RequestContext)
    (_data : AccessActionRequest)
    (assignment : Option AccessAssignment)
    (event : AuditEvent) :
    Handler Int := do
  let assignment ←
    Program.getOrRaise assignment .attributeError
  Program.flush_ fun s =>
    (s.insertAuditEvent event).bind fun inserted =>
      inserted.1.deleteAccessAssignment assignment.id
  return assignment.id

/- Read the assignment again and present it. -/
def respondGrant
    (_data : AccessActionRequest)
    (assignmentId : Int) :
    Handler AccessResponse := do
  let s ← Program.view
  let assignment ←
    Program.getOrRaise
      (s.accessAssignments.get? assignmentId)
      (.http ⟨404, "Access assignment not found"⟩)
  let entitlement ←
    Program.getOrRaise
      (s.entitlements.get? assignment.entitlementId)
      .attributeError
  let application ←
    Program.getOrRaise
      (s.applications.get? entitlement.applicationId)
      .attributeError
  return {
    id := assignment.id
    userId := assignment.userId
    applicationId := application.id
    application := application.name
    entitlementId := entitlement.id
    entitlement := entitlement.name
    status := "active"
    grantedAt := assignment.grantedAt }

def respondRevoke
    (data : AccessActionRequest)
    (_assignmentId : Int) :
    Handler RevokeAccessResponse :=
  return {
    status := "revoked"
    userId := data.targetUserId
    entitlementId := data.entitlementId }

variable [Platform]

def grantChange : AccessChange AccessResponse where
  action := .grantAccess
  auditAction := .grant
  conflict
    | some _ => some ⟨409, "User already has this access"⟩
    | none => none
  policy := evaluateGrantPolicy
  reason decision := decision.reason
  write := writeGrant
  respond := respondGrant

def revokeChange : AccessChange RevokeAccessResponse where
  action := .revokeAccess
  auditAction := .revoke
  conflict
    | some _ => none
    | none => some ⟨404, "Access assignment not found"⟩
  policy := evaluateRevokePolicy
  reason _ := "Access revoked"
  write := writeRevoke
  respond := respondRevoke

/- `POST /access/grant`. -/
def grantAccess
    (ctx : RequestContext)
    (data : AccessActionRequest)
    (currentUser : User) :
    Handler AccessResponse :=
  changeAccess grantChange ctx data currentUser

/- `POST /access/revoke`. -/
def revokeAccess
    (ctx : RequestContext)
    (data : AccessActionRequest)
    (currentUser : User) :
    Handler RevokeAccessResponse :=
  changeAccess revokeChange ctx data currentUser

end Access

end AccessIQ
