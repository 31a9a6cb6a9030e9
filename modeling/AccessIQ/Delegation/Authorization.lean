import AccessIQ.Delegation.Services

/-
  Authorizing access changes by delegation.

  A global administrator may change any access.  Another
  operator needs an effective assignment with a role that
  supports access changes, within a scope that contains the
  entitlement; the first such assignment by id is used.

  Key definitions include:
    * `DelegationAuthorization`
    * `hasPermission`
    * `authorizeAccessAction`
    * `Store.permittingAssignment`
    * `AuthorizedAs`

  Key theorems include:
    * `permittingAssignment_eq_some`
    * `permittingAssignment_eq_none_iff`
    * `wp_authorizeAccessAction`
-/

------------------------------------------------------------
-- Authorization
------------------------------------------------------------

namespace AccessIQ

namespace Delegation

open Foundations Python

structure DelegationAuthorization where
  allowed : Bool
  delegated : Bool
  reason : String
  assignment : Option DelegationAssignment := none
  deriving DecidableEq, Repr

def DelegationAuthorization.delegationRole
    (authorization : DelegationAuthorization) :
    Option String :=
  authorization.assignment.map (·.delegationRole.value)

def globalAdminRoles : List String :=
  ["security_admin", "iam_admin"]

/- Group scopes contain no entitlement. -/
def assignmentMatchesEntitlement
    (assignment : DelegationAssignment)
    (entitlement : Entitlement) :
    Bool :=
  match assignment.scopeType with
  | .application =>
      assignment.scopeId == entitlement.applicationId
  | .entitlement => assignment.scopeId == entitlement.id
  | .group => false

/- The effective assignments of a delegate, by id. -/
def findEffectiveDelegations
    (ctx : RequestContext)
    (delegateUserId : Int) :
    Handler (List DelegationAssignment) := do
  let s ← Program.view
  return s.delegationAssignments.rows.filter fun a =>
    a.delegateUserId == delegateUserId &&
      s.isEffective ctx.now a

/- The first assignment that permits the change. -/
def hasPermission
    (ctx : RequestContext)
    (delegateUserId : Int)
    (entitlement : Entitlement) :
    Handler (Option DelegationAssignment) := do
  let effective ←
    findEffectiveDelegations ctx delegateUserId
  return effective.find? fun assignment =>
    roleSupportsAccessChange assignment.delegationRole &&
      assignmentMatchesEntitlement assignment entitlement

def recordActionAudit
    (ctx : RequestContext)
    (actor targetUser : User)
    (entitlement : Entitlement)
    (action : AuditAction)
    (result : AuditResult)
    (reason : String) :
    Handler Unit := do
  let _ ← createAuditEvent ctx actor.id targetUser.id action
    entitlement.applicationId entitlement.id result reason

/- The event `record_delegated_access_denied` appends. -/
def delegatedAccessDenied
    (ctx : RequestContext)
    (actor targetUser : User)
    (entitlement : Entitlement)
    (action : DelegatedAction)
    (reason : String)
    (assignment : Option DelegationAssignment) :
    DomainEvent where
  occurredAt := ctx.now
  kind :=
    .delegatedAccessDenied (assignment.map (·.id)) actor.id
      targetUser.id entitlement.id entitlement.applicationId
      action reason

/- The event `record_delegated_access_granted` appends. -/
def delegatedAccessGranted
    (ctx : RequestContext)
    (actor targetUser : User)
    (entitlement : Entitlement)
    (action : DelegatedAction)
    (assignment : DelegationAssignment) :
    DomainEvent where
  occurredAt := ctx.now
  kind :=
    .delegatedAccessGranted assignment.id actor.id
      targetUser.id entitlement.id entitlement.applicationId
      action

def globalAuthorization : DelegationAuthorization where
  allowed := true
  delegated := false
  reason := "Global administrative role"

def deniedAuthorization : DelegationAuthorization where
  allowed := false
  delegated := false
  reason := "No active delegation permits this action"

def delegatedAuthorization
    (assignment : DelegationAssignment) :
    DelegationAuthorization where
  allowed := true
  delegated := true
  reason :=
    s!"Delegation assignment {assignment.id} permits " ++
      "this action"
  assignment := some assignment

variable [Platform]

def isGlobalAdmin
    (actor : User) :
    Bool :=
  globalAdminRoles.contains
    (normalizeOperatorRole actor.operatorRole)

/- The pending events come with the authorization. -/
def authorizeAccessAction
    (ctx : RequestContext)
    (actor targetUser : User)
    (entitlement : Entitlement)
    (action : DelegatedAction) :
    Handler
      (DelegationAuthorization × List DomainEvent) := do
  if isGlobalAdmin actor then
    return (globalAuthorization, [])
  else
    let assignment ← hasPermission ctx actor.id entitlement
    match assignment with
    | none =>
        let authorization := deniedAuthorization
        recordActionAudit ctx actor targetUser entitlement
          .delegatedActionDenied .denied authorization.reason
        return (authorization,
          [delegatedAccessDenied ctx actor targetUser
            entitlement action authorization.reason none])
    | some assignment =>
        let authorization :=
          delegatedAuthorization assignment
        recordActionAudit ctx actor targetUser entitlement
          .delegatedActionAllowed .allowed
          authorization.reason
        return (authorization, [])

end Delegation

end AccessIQ

------------------------------------------------------------
-- Permitting Assignments
------------------------------------------------------------

namespace AccessIQ

open Foundations Python Delegation

/-
  An assignment permits a user to change the access to an
  entitlement at a time.
-/
structure Delegation.Permits
    (s : Store)
    (now : Timestamp)
    (delegateUserId : Int)
    (entitlement : Entitlement)
    (a : DelegationAssignment) : Prop where
  mem : a ∈ s.delegationAssignments.rows
  delegate : a.delegateUserId = delegateUserId
  effective : s.isEffective now a = true
  role : roleSupportsAccessChange a.delegationRole = true
  scope : assignmentMatchesEntitlement a entitlement = true

/- The assignment `has_permission` returns. -/
def Store.permittingAssignment
    (s : Store)
    (now : Timestamp)
    (delegateUserId : Int)
    (entitlement : Entitlement) :
    Option DelegationAssignment :=
  (s.delegationAssignments.rows.filter fun a =>
    a.delegateUserId == delegateUserId &&
      s.isEffective now a).find? fun a =>
        roleSupportsAccessChange a.delegationRole &&
          assignmentMatchesEntitlement a entitlement

namespace Delegation

theorem permits_of_permittingAssignment
    {s : Store}
    {now : Timestamp}
    {delegateUserId : Int}
    {entitlement : Entitlement}
    {a : DelegationAssignment}
    (hSome :
      s.permittingAssignment now delegateUserId entitlement =
        some a) :
    Permits s now delegateUserId entitlement a := by
  have hMem := List.mem_of_find?_eq_some hSome
  have hTest := List.find?_some hSome
  simp only [List.mem_filter, Bool.and_eq_true,
    beq_iff_eq] at hMem hTest
  exact
    { mem := hMem.1
      delegate := hMem.2.1
      effective := hMem.2.2
      role := hTest.1
      scope := hTest.2 }

theorem permittingAssignment_eq_none_iff
    {s : Store}
    {now : Timestamp}
    {delegateUserId : Int}
    {entitlement : Entitlement} :
    s.permittingAssignment now delegateUserId entitlement =
        none ↔
      ∀ a, ¬ Permits s now delegateUserId entitlement a := by
  constructor
  · intro hNone a hPermits
    have hTest := List.find?_eq_none.mp hNone a (by
      simp [hPermits.mem, hPermits.delegate,
        hPermits.effective])
    simp [hPermits.role, hPermits.scope] at hTest
  · intro hAbsent
    cases hSome : s.permittingAssignment now delegateUserId
        entitlement with
    | none => rfl
    | some a =>
        exact absurd (permits_of_permittingAssignment hSome)
          (hAbsent a)

/- The role of a permitting assignment. -/
theorem Permits.role_cases
    {s : Store}
    {now : Timestamp}
    {delegateUserId : Int}
    {entitlement : Entitlement}
    {a : DelegationAssignment}
    (hPermits :
      Permits s now delegateUserId entitlement a) :
    a.delegationRole = .applicationOwner ∨
      a.delegationRole = .applicationAdministrator ∨
      a.delegationRole = .helpdeskDelegate := by
  have hRole := hPermits.role
  simpa [roleSupportsAccessChange,
    accessChangeDelegationRoles] using hRole

/- The scope of a permitting assignment. -/
theorem Permits.scope_cases
    {s : Store}
    {now : Timestamp}
    {delegateUserId : Int}
    {entitlement : Entitlement}
    {a : DelegationAssignment}
    (hPermits :
      Permits s now delegateUserId entitlement a) :
    (a.scopeType = .entitlement ∧
        a.scopeId = entitlement.id) ∨
      (a.scopeType = .application ∧
        a.scopeId = entitlement.applicationId) := by
  have hScope := hPermits.scope
  unfold assignmentMatchesEntitlement at hScope
  cases hType : a.scopeType with
  | application =>
      rw [hType] at hScope
      exact Or.inr ⟨rfl, by simpa using hScope⟩
  | entitlement =>
      rw [hType] at hScope
      exact Or.inl ⟨rfl, by simpa using hScope⟩
  | group =>
      rw [hType] at hScope
      cases hScope

end Delegation

end AccessIQ

------------------------------------------------------------
-- Outcomes
------------------------------------------------------------

namespace AccessIQ

namespace Delegation

open Foundations Python

variable [Platform]

/- The audit event about an authorization. -/
def authorizationAudit
    (ctx : RequestContext)
    (actor targetUser : User)
    (entitlement : Entitlement)
    (action : AuditAction)
    (result : AuditResult)
    (authorization : DelegationAuthorization) :
    AuditEvent :=
  newAuditEvent ctx actor.id targetUser.id action
    entitlement.applicationId entitlement.id result
    authorization.reason

/-
  How an access change was authorized, and the store with the
  audit event about it.
-/
inductive AuthorizedAs
    (ctx : RequestContext)
    (s : Store)
    (actor targetUser : User)
    (entitlement : Entitlement) :
    DelegationAuthorization → Store → Prop
  | globally
      (hGlobal : isGlobalAdmin actor = true) :
      AuthorizedAs ctx s actor targetUser entitlement
        globalAuthorization s
  | delegated
      (a : DelegationAssignment)
      (hLocal : isGlobalAdmin actor = false)
      (hSome :
        s.permittingAssignment ctx.now actor.id
          entitlement = some a) :
      AuthorizedAs ctx s actor targetUser entitlement
        (delegatedAuthorization a)
        (s.withAuditEvent
          (authorizationAudit ctx actor targetUser
            entitlement .delegatedActionAllowed .allowed
            (delegatedAuthorization a)))

/- Nothing permits an actor to change an access. -/
structure Unauthorized
    (ctx : RequestContext)
    (s : Store)
    (actor : User)
    (entitlement : Entitlement) : Prop where
  notGlobal : isGlobalAdmin actor = false
  notDelegated :
    s.permittingAssignment ctx.now actor.id entitlement =
      none

/- The foreign keys of an audit event about an access. -/
def AccessReferencesResolve
    (s : Store)
    (actor targetUser : User)
    (entitlement : Entitlement) : Prop :=
  s.resolves s.users actor.id = true ∧
    s.resolves s.users targetUser.id = true ∧
    s.resolves s.applications entitlement.applicationId =
      true ∧
    s.resolves s.entitlements entitlement.id = true

omit [Platform] in
theorem auditReferencesResolve_newAuditEvent
    {s : Store}
    {actor targetUser : User}
    {entitlement : Entitlement}
    {ctx : RequestContext}
    {action : AuditAction}
    {result : AuditResult}
    {reason : String}
    {correlationId : Option String} :
    s.auditReferencesResolve
        (newAuditEvent ctx actor.id targetUser.id action
          entitlement.applicationId entitlement.id result
          reason correlationId) = true ↔
      AccessReferencesResolve s actor targetUser
        entitlement := by
  simp [Store.auditReferencesResolve, newAuditEvent,
    AccessReferencesResolve, and_assoc]

omit [Platform] in
theorem wp_recordActionAudit
    {w : World Question Reply}
    {c s : Store}
    {p : List DomainEvent}
    {ctx : RequestContext}
    {actor targetUser : User}
    {entitlement : Entitlement}
    {action : AuditAction}
    {result : AuditResult}
    {reason : String}
    {post : Post Store DomainEvent PyException Unit}
    (hOk :
      post (.ok ())
        ⟨c,
          s.withAuditEvent
            (newAuditEvent ctx actor.id targetUser.id action
              entitlement.applicationId entitlement.id
              result reason),
          false, p⟩)
    (hError :
      ∀ e,
        (w.mayFail ∨
          ¬ AccessReferencesResolve s actor targetUser
            entitlement) →
        post (.error (.database e)) ⟨c, s, true, p⟩) :
    (recordActionAudit ctx actor targetUser entitlement
        action result reason).wp w post
      ⟨c, s, false, p⟩ := by
  simp only [recordActionAudit, createAuditEvent,
    Program.wp_bind, wp_recordAuditEvent,
    Program.bindPost_ok, Program.bindPost_error,
    Program.wp_pure]
  refine ⟨fun hFail => hError _ (Or.inl hFail),
    fun _ => hOk, fun hResolve => hError _ (Or.inr ?_)⟩
  rw [← auditReferencesResolve_newAuditEvent, hResolve]
  exact Bool.false_ne_true

/-
  An access change is authorized globally or by delegation,
  refused, or its audit event cannot be written.
-/
theorem wp_authorizeAccessAction
    {w : World Question Reply}
    {c s : Store}
    {p : List DomainEvent}
    {ctx : RequestContext}
    {actor targetUser : User}
    {entitlement : Entitlement}
    {action : DelegatedAction}
    {post :
      Post Store DomainEvent PyException
        (DelegationAuthorization × List DomainEvent)}
    (hAuthorized :
      ∀ authorization s',
        AuthorizedAs ctx s actor targetUser entitlement
            authorization s' →
          post (.ok (authorization, []))
            ⟨c, s', false, p⟩)
    (hDenied :
      Unauthorized ctx s actor entitlement →
        post
          (.ok
            (deniedAuthorization,
              [delegatedAccessDenied ctx actor targetUser
                entitlement action
                deniedAuthorization.reason none]))
          ⟨c,
            s.withAuditEvent
              (authorizationAudit ctx actor targetUser
                entitlement .delegatedActionDenied .denied
                deniedAuthorization),
            false, p⟩)
    (hError :
      ∀ e,
        (w.mayFail ∨
          ¬ AccessReferencesResolve s actor targetUser
            entitlement) →
        post (.error (.database e)) ⟨c, s, true, p⟩) :
    (authorizeAccessAction ctx actor targetUser entitlement
        action).wp w post ⟨c, s, false, p⟩ := by
  unfold authorizeAccessAction
  cases hGlobal : isGlobalAdmin actor with
  | true => exact hAuthorized _ _ (.globally hGlobal)
  | false =>
      simp only [Bool.false_eq_true, if_false,
        hasPermission, findEffectiveDelegations,
        Program.wp_bind, Program.wp_view,
        Program.bindPost_ok, Program.wp_pure]
      cases hSome : s.permittingAssignment ctx.now actor.id
          entitlement with
      | none =>
          have hFind := hSome
          unfold Store.permittingAssignment at hFind
          rw [hFind]
          simp only [Program.wp_bind]
          refine wp_recordActionAudit ?_ hError
          exact hDenied ⟨hGlobal, hSome⟩
      | some a =>
          have hFind := hSome
          unfold Store.permittingAssignment at hFind
          rw [hFind]
          simp only [Program.wp_bind]
          refine wp_recordActionAudit ?_ hError
          exact hAuthorized _ _ (.delegated a hGlobal hSome)

end Delegation

end AccessIQ
