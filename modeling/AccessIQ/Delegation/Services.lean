import AccessIQ.Endpoint
import AccessIQ.AuditService

/-
  The delegation service and its routes.

  An administrator assigns a delegate a role within the scope
  of an application, a group or an entitlement, and may
  remove the assignment again, which marks it inactive.

  Key definitions include:
    * `roleSupportsScope`
    * `roleSupportsAccessChange`
    * `assignDelegate`
    * `removeDelegate`
    * `assignDelegation`
    * `removeDelegationAssignment`
    * `Store.auditReference`
-/

------------------------------------------------------------
-- Validation
------------------------------------------------------------

namespace AccessIQ

namespace Delegation

def scopeRoleMatrix :
    DelegationScopeType → List DelegationRole
  | .application =>
      [.applicationOwner, .applicationAdministrator,
        .accessReviewer, .helpdeskDelegate]
  | .entitlement =>
      [.applicationOwner, .applicationAdministrator,
        .helpdeskDelegate]
  | .group => [.groupOwner, .groupAdministrator]

def accessChangeDelegationRoles : List DelegationRole :=
  [.applicationOwner, .applicationAdministrator,
    .helpdeskDelegate]

def roleSupportsScope
    (scopeType : DelegationScopeType)
    (delegationRole : DelegationRole) :
    Bool :=
  (scopeRoleMatrix scopeType).contains delegationRole

def roleSupportsAccessChange
    (delegationRole : DelegationRole) :
    Bool :=
  accessChangeDelegationRoles.contains delegationRole

end Delegation

end AccessIQ

------------------------------------------------------------
-- Queries
------------------------------------------------------------

namespace AccessIQ

open Foundations Delegation

namespace Store

/-
  The database's `active AND (expires_at IS NULL OR
  expires_at > now)`.
-/
def isEffective
    (s : Store)
    (now : Timestamp)
    (a : DelegationAssignment) :
    Bool :=
  a.active &&
    a.expiresAt.all fun expiresAt =>
      s.dialect.bindDateTime (DateTime.utc now) < expiresAt

/- Whether the object a scope names exists. -/
def scopeExists
    (s : Store)
    (scopeType : DelegationScopeType)
    (scopeId : Int) :
    Bool :=
  match scopeType with
  | .application => s.applications.contains scopeId
  | .entitlement => s.entitlements.contains scopeId
  | .group => s.groups.contains scopeId

/-
  The application and the entitlement the audit events about
  a scope refer to, where the scope leads to one.
-/
def auditReference
    (s : Store)
    (scopeType : DelegationScopeType)
    (scopeId : Int) :
    Option (Int × Int) :=
  let entitlement :=
    match scopeType with
    | .entitlement => s.entitlements.get? scopeId
    | .application =>
        s.entitlements.rows.find?
          (·.applicationId == scopeId)
    | .group =>
        s.entitlementBySlugs "scim-provisioning"
          "group-lifecycle"
  entitlement.map fun e => (e.applicationId, e.id)

def insertDelegationAssignment
    (s : Store)
    (a : DelegationAssignment) :
    Except DatabaseError (Store × Int) :=
  s.insertInto s.delegationAssignments
    (fun t => { s with delegationAssignments := t })
    a
    (s.resolves s.users a.delegateUserId &&
      s.resolves s.users a.createdBy)

/- `UPDATE delegation_assignments SET active = false`. -/
def deactivateDelegationAssignment
    (s : Store)
    (assignmentId : Int) :
    Except DatabaseError Store :=
  updateIn s.delegationAssignments
    (fun t => { s with delegationAssignments := t })
    assignmentId
    (fun a => { a with active := false })
    true

end Store

end AccessIQ

------------------------------------------------------------
-- Assigning And Removing
------------------------------------------------------------

namespace AccessIQ

namespace Delegation

open Foundations

/- A naive expiry is read as UTC. -/
def isExpired
    (ctx : RequestContext)
    (expiresAt : DateTime) :
    Bool :=
  expiresAt.instant ≤ ctx.now

def validateScope
    (scopeType : DelegationScopeType)
    (scopeId : Int)
    (delegationRole : DelegationRole) :
    Handler Unit := do
  Program.raiseIf
    (roleSupportsScope scopeType delegationRole = false)
    (.delegation (.invalidScope scopeType delegationRole))
  let s ← Program.view
  Program.raiseIf (s.scopeExists scopeType scopeId = false)
    (.delegation (.scopeNotFound scopeType scopeId))

def preventDuplicateAssignment
    (ctx : RequestContext)
    (delegateUserId : Int)
    (scopeType : DelegationScopeType)
    (scopeId : Int)
    (delegationRole : DelegationRole) :
    Handler Unit := do
  let s ← Program.view
  let existingAssignment :=
    s.delegationAssignments.rows.find? fun a =>
      a.delegateUserId == delegateUserId &&
        a.scopeType == scopeType &&
        a.scopeId == scopeId &&
        a.delegationRole == delegationRole &&
        s.isEffective ctx.now a
  Program.raiseIf (existingAssignment.isSome = true)
    (.delegation
      (.duplicateAssignment delegateUserId scopeType scopeId
        delegationRole))

def auditReferenceForAssignment
    (assignment : DelegationAssignment) :
    Handler (Int × Int) := do
  let s ← Program.view
  Program.getOrRaise
    (s.auditReference assignment.scopeType
      assignment.scopeId)
    (.delegation
      (.scopeNotFound assignment.scopeType
        assignment.scopeId))

def recordAssignmentAudit
    (ctx : RequestContext)
    (assignment : DelegationAssignment)
    (actor : User)
    (action : AuditAction)
    (result : AuditResult)
    (reason : String) :
    Handler Unit := do
  let (applicationId, entitlementId) ←
    auditReferenceForAssignment assignment
  let _ ← createAuditEvent ctx actor.id
    assignment.delegateUserId action applicationId
    entitlementId result reason

/- The payload of `POST /delegation/assignments`. -/
structure DelegationAssignmentCreate where
  delegateUserId : Int
  scopeType : DelegationScopeType
  scopeId : Int
  delegationRole : DelegationRole
  expiresAt : Option DateTime := none
  deriving DecidableEq, Repr

/- The row `assign_delegate` adds, before it has a key. -/
def newAssignment
    (ctx : RequestContext)
    (dialect : Dialect)
    (payload : DelegationAssignmentCreate)
    (actor : User) :
    DelegationAssignment where
  id := 0
  delegateUserId := payload.delegateUserId
  scopeType := payload.scopeType
  scopeId := payload.scopeId
  delegationRole := payload.delegationRole
  createdBy := actor.id
  createdAt := ctx.now
  expiresAt := payload.expiresAt.map dialect.bindDateTime
  active := true

def assignDelegate
    (ctx : RequestContext)
    (payload : DelegationAssignmentCreate)
    (actor : User) :
    Handler (DelegationAssignment × List DomainEvent) := do
  let s ← Program.view
  let delegate ←
    Program.getOrRaise
      (s.users.get? payload.delegateUserId)
      (.delegation
        (.delegateNotFound payload.delegateUserId))
  Program.raiseIf (delegate.active = false)
    (.delegation
      (.inactiveDelegateUser payload.delegateUserId))
  Program.raiseIf (payload.expiresAt.any (isExpired ctx) = true)
    (.delegation .expiredAssignment)
  validateScope payload.scopeType payload.scopeId
    payload.delegationRole
  preventDuplicateAssignment ctx payload.delegateUserId
    payload.scopeType payload.scopeId payload.delegationRole
  let new := newAssignment ctx s.dialect payload actor
  let id ←
    Program.flush (·.insertDelegationAssignment new)
  let assignment := { new with id := id }
  recordAssignmentAudit ctx assignment actor
    .delegationAssigned .succeeded
    s!"Delegation assignment {assignment.id} created"
  return (assignment,
    [⟨ctx.now,
      .delegationAssigned assignment.id
        assignment.delegateUserId assignment.scopeType
        assignment.scopeId assignment.delegationRole⟩])

def lookupAssignment
    (assignmentId : Int) :
    Handler DelegationAssignment := do
  let s ← Program.view
  Program.getOrRaise
    (s.delegationAssignments.get? assignmentId)
    (.delegation (.assignmentNotFound assignmentId))

def removeDelegate
    (ctx : RequestContext)
    (assignmentId : Int)
    (actor : User) :
    Handler (DelegationAssignment × List DomainEvent) := do
  let found ← lookupAssignment assignmentId
  Program.raiseIf (found.active = false)
    (.delegation (.inactiveAssignment assignmentId))
  let assignment := { found with active := false }
  Program.flush_
    (·.deactivateDelegationAssignment assignment.id)
  recordAssignmentAudit ctx assignment actor
    .delegationRemoved .succeeded
    s!"Delegation assignment {assignment.id} removed"
  return (assignment,
    [⟨ctx.now,
      .delegationRemoved assignment.id
        assignment.delegateUserId assignment.scopeType
        assignment.scopeId assignment.delegationRole⟩])

end Delegation

end AccessIQ

------------------------------------------------------------
-- Routes
------------------------------------------------------------

namespace AccessIQ

namespace Delegation

open Foundations Python

def delegationAdminRoles : List String :=
  ["security_admin", "iam_admin"]

def DelegationServiceError.statusCode :
    DelegationServiceError → Nat
  | .assignmentNotFound _ => 404
  | .delegateNotFound _ => 404
  | .scopeNotFound _ _ => 404
  | .duplicateAssignment _ _ _ _ => 409
  | .inactiveDelegateUser _ => 409
  | .inactiveAssignment _ => 409
  | .expiredAssignment => 400
  | .invalidScope _ _ => 400

/- `_raise_delegation_http_error`. -/
def delegationHttpError :
    PyException → Option HttpException
  | .delegation error =>
      some ⟨error.statusCode, error.message⟩
  | _ => none

variable [Platform]

/- `POST /delegation/assignments`. -/
def assignDelegation
    (ctx : RequestContext)
    (payload : DelegationAssignmentCreate) :
    Handler DelegationAssignment := do
  let currentUser ← authenticated ctx delegationAdminRoles
  transactional delegationHttpError
    (assignDelegate ctx payload currentUser)

/- `DELETE /delegation/assignments/{assignment_id}`. -/
def removeDelegationAssignment
    (ctx : RequestContext)
    (assignmentId : Int) :
    Handler DelegationAssignment := do
  let currentUser ← authenticated ctx delegationAdminRoles
  transactional delegationHttpError
    (removeDelegate ctx assignmentId currentUser)

end Delegation

end AccessIQ
