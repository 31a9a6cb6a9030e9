import AccessIQ.Delegation.Services

/-
  What the delegation requests do.

  `Assigned` and `AssignRefused` say once what a call of
  `assign_delegate` can do, `Removed` and `RemoveRefused` the
  same of `remove_delegate`; the invariants of delegation are
  derived from them.

  Key definitions include:
    * `SameDelegation`
    * `Auditable`
    * `Assigned`
    * `AssignRefused`
    * `Removed`
    * `RemoveRefused`

  Key theorems include:
    * `wp_assignDelegate`
    * `wp_removeDelegate`
    * `assignDelegation_outcome`
    * `removeDelegationAssignment_outcome`
-/

------------------------------------------------------------
-- Assignment Audit
------------------------------------------------------------

namespace AccessIQ

namespace Delegation

open Foundations

variable {w : World Question Reply}
variable {c s : Store}
variable {p : List DomainEvent}

/- Two assignments delegate the same role in one scope. -/
def SameDelegation
    (a b : DelegationAssignment) : Prop :=
  a.delegateUserId = b.delegateUserId ∧
    a.scopeType = b.scopeType ∧
    a.scopeId = b.scopeId ∧
    a.delegationRole = b.delegationRole

instance
    (a b : DelegationAssignment) :
    Decidable (SameDelegation a b) :=
  inferInstanceAs (Decidable (_ ∧ _ ∧ _ ∧ _))

/-
  An audit event of `actorId` about an assignment can be
  written: its scope leads to an entitlement, and the foreign
  keys of the event are satisfied.
-/
def Auditable
    (s : Store)
    (actorId : Int)
    (a : DelegationAssignment) : Prop :=
  ∃ applicationId entitlementId,
    s.auditReference a.scopeType a.scopeId =
        some (applicationId, entitlementId) ∧
      s.resolves s.users actorId = true ∧
      s.resolves s.users a.delegateUserId = true ∧
      s.resolves s.applications applicationId = true ∧
      s.resolves s.entitlements entitlementId = true

/- The audit event of an assignment is written or refused. -/
theorem wp_recordAssignmentAudit
    {ctx : RequestContext}
    {a : DelegationAssignment}
    {actor : User}
    {action : AuditAction}
    {result : AuditResult}
    {reason : String}
    {post : Post Store DomainEvent PyException Unit}
    (hOk :
      Auditable s actor.id a → ∀ event,
        post (.ok ()) ⟨c, s.withAuditEvent event, false, p⟩)
    (hFail :
      w.mayFail →
        post (.error (.database .operational))
          ⟨c, s, true, p⟩)
    (hScope :
      ¬ Auditable s actor.id a →
        post
          (.error
            (.delegation
              (.scopeNotFound a.scopeType a.scopeId)))
          ⟨c, s, false, p⟩)
    (hRefs :
      ¬ Auditable s actor.id a →
        post (.error (.database .integrity))
          ⟨c, s, true, p⟩) :
    (recordAssignmentAudit ctx a actor action result
        reason).wp w post ⟨c, s, false, p⟩ := by
  simp only [recordAssignmentAudit,
    auditReferenceForAssignment, createAuditEvent,
    Program.wp_bind, Program.wp_view,
    Program.wp_getOrRaise, Program.bindPost_ok,
    Program.bindPost_error, wp_recordAuditEvent,
    Program.wp_pure]
  refine ⟨fun hNone => hScope ?_, ?_⟩
  · rintro ⟨applicationId, entitlementId, hSome, -⟩
    exact Option.some_ne_none _ (hSome.symm.trans hNone)
  · rintro ⟨applicationId, entitlementId⟩ hSome
    refine ⟨hFail, fun hResolve => ?_, fun hResolve => ?_⟩
    · simp only [Store.auditReferencesResolve,
        newAuditEvent, Bool.and_eq_true] at hResolve
      rcases hResolve with
        ⟨⟨⟨hActor, hDelegate⟩, hApplication⟩,
          hEntitlement⟩
      exact hOk
        ⟨applicationId, entitlementId, hSome, hActor,
          hDelegate, hApplication, hEntitlement⟩ _
    · refine hRefs ?_
      rintro ⟨applicationId', entitlementId', hSome',
        hActor, hDelegate, hApplication, hEntitlement⟩
      have hEq := Option.some.inj (hSome.symm.trans hSome')
      cases hEq
      simp [Store.auditReferencesResolve, newAuditEvent,
        hActor, hDelegate, hApplication,
        hEntitlement] at hResolve

end Delegation

end AccessIQ

------------------------------------------------------------
-- Assigning
------------------------------------------------------------

namespace AccessIQ

namespace Delegation

open Foundations

/- What a successful call of `assign_delegate` does. -/
structure Assigned
    (ctx : RequestContext)
    (payload : DelegationAssignmentCreate)
    (s : Store)
    (actor : User)
    (assignment : DelegationAssignment)
    (events : List DomainEvent)
    (s' : Store) : Prop where
  delegate :
    ∃ delegate,
      s.users.get? payload.delegateUserId =
          some delegate ∧
        delegate.active = true
  unexpired : payload.expiresAt.any (isExpired ctx) = false
  supported :
    roleSupportsScope payload.scopeType
      payload.delegationRole = true
  scope :
    s.scopeExists payload.scopeType payload.scopeId = true
  noDuplicate :
    ∀ a ∈ s.delegationAssignments.rows,
      SameDelegation a
          (newAssignment ctx s.dialect payload actor) →
        s.isEffective ctx.now a = false
  assignment_eq :
    assignment =
      { newAssignment ctx s.dialect payload actor with
        id :=
          s.delegationAssignments.freshId
            s.dialect.keyPolicy }
  events_eq :
    events =
      [⟨ctx.now,
        .delegationAssigned assignment.id
          assignment.delegateUserId assignment.scopeType
          assignment.scopeId assignment.delegationRole⟩]
  auditable : Auditable s actor.id assignment
  stored :
    ∃ hFits : s.delegationAssignments.Fits
        (newAssignment ctx s.dialect payload actor),
      ∃ event,
        s' =
          { s with
            delegationAssignments :=
              s.delegationAssignments.insert
                s.dialect.keyPolicy
                (newAssignment ctx s.dialect payload actor)
                hFits }.withAuditEvent event

/- Why a call of `assign_delegate` raises. -/
inductive AssignRefused
    (mayFail : Prop)
    (ctx : RequestContext)
    (payload : DelegationAssignmentCreate)
    (s : Store)
    (actor : User) :
    PyException → Prop
  | delegateNotFound
      (hNone :
        s.users.get? payload.delegateUserId = none) :
      AssignRefused mayFail ctx payload s actor
        (.delegation
          (.delegateNotFound payload.delegateUserId))
  | inactiveDelegate
      (delegate : User)
      (hSome :
        s.users.get? payload.delegateUserId =
          some delegate)
      (hInactive : delegate.active = false) :
      AssignRefused mayFail ctx payload s actor
        (.delegation
          (.inactiveDelegateUser payload.delegateUserId))
  | expired
      (hExpired :
        payload.expiresAt.any (isExpired ctx) = true) :
      AssignRefused mayFail ctx payload s actor
        (.delegation .expiredAssignment)
  | invalidScope
      (hUnsupported :
        roleSupportsScope payload.scopeType
          payload.delegationRole = false) :
      AssignRefused mayFail ctx payload s actor
        (.delegation
          (.invalidScope payload.scopeType
            payload.delegationRole))
  | scopeNotFound
      (hMissing :
        s.scopeExists payload.scopeType payload.scopeId =
          false) :
      AssignRefused mayFail ctx payload s actor
        (.delegation
          (.scopeNotFound payload.scopeType
            payload.scopeId))
  | duplicate
      (a : DelegationAssignment)
      (ha : a ∈ s.delegationAssignments.rows)
      (hSame :
        SameDelegation a
          (newAssignment ctx s.dialect payload actor))
      (hEffective : s.isEffective ctx.now a = true) :
      AssignRefused mayFail ctx payload s actor
        (.delegation
          (.duplicateAssignment payload.delegateUserId
            payload.scopeType payload.scopeId
            payload.delegationRole))
  | notStored
      (hConflict :
        ¬ ((s.resolves s.users payload.delegateUserId &&
              s.resolves s.users actor.id) = true ∧
            s.delegationAssignments.Fits
              (newAssignment ctx s.dialect payload
                actor))) :
      AssignRefused mayFail ctx payload s actor
        (.database .integrity)
  | notAudited
      (e : PyException)
      (hUnauditable :
        ¬ Auditable s actor.id
          (newAssignment ctx s.dialect payload actor))
      (hError :
        e = .database .integrity ∨
          e = .delegation
            (.scopeNotFound payload.scopeType
              payload.scopeId)) :
      AssignRefused mayFail ctx payload s actor e
  | databaseFailed
      (hFail : mayFail) :
      AssignRefused mayFail ctx payload s actor
        (.database .operational)

theorem wp_validateScope
    {w : World Question Reply}
    {c s : Store}
    {p : List DomainEvent}
    (scopeType : DelegationScopeType)
    (scopeId : Int)
    (role : DelegationRole)
    (post : Post Store DomainEvent PyException Unit) :
    (validateScope scopeType scopeId role).wp w post
        ⟨c, s, false, p⟩ ↔
      (roleSupportsScope scopeType role = false →
        post
          (.error
            (.delegation (.invalidScope scopeType role)))
          ⟨c, s, false, p⟩) ∧
      (roleSupportsScope scopeType role = true →
        (s.scopeExists scopeType scopeId = false →
          post
            (.error
              (.delegation
                (.scopeNotFound scopeType scopeId)))
            ⟨c, s, false, p⟩) ∧
        (s.scopeExists scopeType scopeId = true →
          post (.ok ()) ⟨c, s, false, p⟩)) := by
  simp [validateScope]

theorem wp_preventDuplicateAssignment
    {w : World Question Reply}
    {c s : Store}
    {p : List DomainEvent}
    {ctx : RequestContext}
    {payload : DelegationAssignmentCreate}
    (actor : User)
    {post : Post Store DomainEvent PyException Unit}
    (hDuplicate :
      ∀ a ∈ s.delegationAssignments.rows,
        SameDelegation a
            (newAssignment ctx s.dialect payload actor) →
          s.isEffective ctx.now a = true →
          post
            (.error
              (.delegation
                (.duplicateAssignment
                  payload.delegateUserId payload.scopeType
                  payload.scopeId payload.delegationRole)))
            ⟨c, s, false, p⟩)
    (hNone :
      (∀ a ∈ s.delegationAssignments.rows,
        SameDelegation a
            (newAssignment ctx s.dialect payload actor) →
          s.isEffective ctx.now a = false) →
        post (.ok ()) ⟨c, s, false, p⟩) :
    (preventDuplicateAssignment ctx payload.delegateUserId
        payload.scopeType payload.scopeId
        payload.delegationRole).wp w post
      ⟨c, s, false, p⟩ := by
  simp only [preventDuplicateAssignment, Program.wp_bind,
    Program.wp_view, Program.bindPost_ok,
    Program.wp_raiseIf, List.find?_isSome,
    Bool.and_eq_true, beq_iff_eq]
  constructor
  · rintro ⟨a, ha, ⟨⟨⟨hUser, hType⟩, hScope⟩, hRole⟩,
      hEffective⟩
    exact hDuplicate a ha ⟨hUser, hType, hScope, hRole⟩
      hEffective
  · intro hAbsent
    refine hNone fun a ha hSame => ?_
    cases hEffective : s.isEffective ctx.now a with
    | false => rfl
    | true =>
        rcases hSame with ⟨hUser, hType, hScope, hRole⟩
        exact absurd
          ⟨a, ha, ⟨⟨⟨hUser, hType⟩, hScope⟩, hRole⟩,
            hEffective⟩
          hAbsent

/- `assign_delegate` does what it says, or says why not. -/
theorem wp_assignDelegate
    {w : World Question Reply}
    {c s : Store}
    {p : List DomainEvent}
    (ctx : RequestContext)
    (payload : DelegationAssignmentCreate)
    (actor : User) :
    (assignDelegate ctx payload actor).wp w
      (BodyPost c p (Assigned ctx payload s actor)
        (AssignRefused w.mayFail ctx payload s actor))
      ⟨c, s, false, p⟩ := by
  simp only [assignDelegate, Program.wp_bind,
    Program.wp_view, Program.wp_getOrRaise,
    Program.wp_raiseIf, Program.bindPost_ok,
    Program.bindPost_error, bodyPost_error,
    wp_validateScope, Bool.not_eq_false,
    Bool.not_eq_true, true_and]
  refine ⟨fun hNone => .delegateNotFound hNone, ?_⟩
  intro delegate hSome
  refine ⟨fun hOff => .inactiveDelegate _ hSome hOff, ?_⟩
  intro hActive
  refine ⟨fun hExpired => .expired hExpired, ?_⟩
  intro hUnexpired
  refine ⟨fun hRole => .invalidScope hRole, ?_⟩
  intro hSupported
  refine ⟨fun hMissing => .scopeNotFound hMissing, ?_⟩
  intro hScope
  refine wp_preventDuplicateAssignment actor
    (fun a ha hSame hEffective =>
      ⟨rfl, rfl, .duplicate a ha hSame hEffective⟩) ?_
  intro hNoDuplicate
  simp only [Program.bindPost_ok, Program.wp_bind,
    Program.wp_flush, Program.bindPost_error,
    bodyPost_error, databaseError_eq, true_and]
  refine ⟨fun hFail => .databaseFailed hFail, ?_, ?_⟩
  · intro s' n hInsert
    rcases Store.insertInto_eq_ok_iff.mp hInsert with
      ⟨-, hFits, rfl, rfl⟩
    refine wp_recordAssignmentAudit ?_ ?_ ?_ ?_
    · intro hAuditable event
      exact ⟨rfl, rfl, rfl,
        { delegate := ⟨delegate, hSome, hActive⟩
          unexpired := hUnexpired
          supported := hSupported
          scope := hScope
          noDuplicate := hNoDuplicate
          assignment_eq := rfl
          events_eq := rfl
          auditable := hAuditable
          stored := ⟨hFits, event, rfl⟩ }⟩
    · intro hFail
      exact ⟨rfl, rfl, .databaseFailed hFail⟩
    · intro hUnauditable
      exact ⟨rfl, rfl,
        .notAudited _ hUnauditable (Or.inr rfl)⟩
    · intro hUnauditable
      exact ⟨rfl, rfl,
        .notAudited _ hUnauditable (Or.inl rfl)⟩
  · intro e hError
    rcases Store.insertInto_eq_error_iff.mp hError with
      ⟨rfl, hConflict⟩
    exact .notStored hConflict

end Delegation

end AccessIQ

------------------------------------------------------------
-- Removing
------------------------------------------------------------

namespace AccessIQ

namespace Delegation

open Foundations

/- The column a removal writes. -/
def deactivate
    (a : DelegationAssignment) :
    DelegationAssignment :=
  { a with active := false }

/- What a successful call of `remove_delegate` does. -/
structure Removed
    (ctx : RequestContext)
    (assignmentId : Int)
    (s : Store)
    (actor : User)
    (assignment : DelegationAssignment)
    (events : List DomainEvent)
    (s' : Store) : Prop where
  found :
    ∃ a,
      s.delegationAssignments.get? assignmentId = some a ∧
        a.active = true ∧ assignment = deactivate a
  events_eq :
    events =
      [⟨ctx.now,
        .delegationRemoved assignment.id
          assignment.delegateUserId assignment.scopeType
          assignment.scopeId assignment.delegationRole⟩]
  auditable : Auditable s actor.id assignment
  stored :
    ∃ hFits : s.delegationAssignments.FitsUpdate
        assignmentId deactivate,
      ∃ event,
        s' =
          { s with
            delegationAssignments :=
              s.delegationAssignments.modify assignmentId
                deactivate hFits }.withAuditEvent event

/- Why a call of `remove_delegate` raises. -/
inductive RemoveRefused
    (mayFail : Prop)
    (assignmentId : Int)
    (s : Store)
    (actor : User) :
    PyException → Prop
  | assignmentNotFound
      (hNone :
        s.delegationAssignments.get? assignmentId = none) :
      RemoveRefused mayFail assignmentId s actor
        (.delegation (.assignmentNotFound assignmentId))
  | inactiveAssignment
      (a : DelegationAssignment)
      (hSome :
        s.delegationAssignments.get? assignmentId = some a)
      (hInactive : a.active = false) :
      RemoveRefused mayFail assignmentId s actor
        (.delegation (.inactiveAssignment assignmentId))
  | conflict
      (hConflict :
        ¬ s.delegationAssignments.FitsUpdate assignmentId
          deactivate) :
      RemoveRefused mayFail assignmentId s actor
        (.database .integrity)
  | notAudited
      (a : DelegationAssignment)
      (e : PyException)
      (hSome :
        s.delegationAssignments.get? assignmentId = some a)
      (hUnauditable : ¬ Auditable s actor.id a) :
      RemoveRefused mayFail assignmentId s actor e
  | databaseFailed
      (hFail : mayFail) :
      RemoveRefused mayFail assignmentId s actor
        (.database .operational)

/- `remove_delegate` does what it says, or says why not. -/
theorem wp_removeDelegate
    {w : World Question Reply}
    {c s : Store}
    {p : List DomainEvent}
    (ctx : RequestContext)
    (assignmentId : Int)
    (actor : User) :
    (removeDelegate ctx assignmentId actor).wp w
      (BodyPost c p (Removed ctx assignmentId s actor)
        (RemoveRefused w.mayFail assignmentId s actor))
      ⟨c, s, false, p⟩ := by
  simp only [removeDelegate, lookupAssignment,
    Program.wp_bind, Program.wp_view,
    Program.wp_getOrRaise, Program.wp_raiseIf,
    Program.wp_flush_, Program.bindPost_ok,
    Program.bindPost_error, bodyPost_error,
    databaseError_eq, Bool.not_eq_false, true_and]
  refine ⟨fun hNone => .assignmentNotFound hNone, ?_⟩
  intro a hSome
  refine ⟨fun hOff => .inactiveAssignment a hSome hOff, ?_⟩
  intro hActive
  have hId : a.id = assignmentId := Table.id_of_get? hSome
  subst hId
  refine ⟨fun hFail => .databaseFailed hFail, ?_, ?_⟩
  · intro s' hUpdate
    rcases Store.updateIn_eq_ok_iff.mp hUpdate with
      ⟨-, -, hFits, rfl⟩
    refine wp_recordAssignmentAudit ?_ ?_ ?_ ?_
    · intro hAuditable event
      exact ⟨rfl, rfl, rfl,
        { found := ⟨a, hSome, hActive, rfl⟩
          events_eq := rfl
          auditable := hAuditable
          stored := ⟨hFits, event, rfl⟩ }⟩
    · intro hFail
      exact ⟨rfl, rfl, .databaseFailed hFail⟩
    · intro hUnauditable
      exact ⟨rfl, rfl,
        .notAudited a _ hSome hUnauditable⟩
    · intro hUnauditable
      exact ⟨rfl, rfl,
        .notAudited a _ hSome hUnauditable⟩
  · intro e hError
    rcases Store.updateIn_eq_error_iff.mp hError with
      ⟨hMissing, -⟩ | ⟨-, rfl, hConflict⟩
    · rw [Table.contains_of_get? hSome] at hMissing
      cases hMissing
    · exact .conflict fun hFits => hConflict ⟨rfl, hFits⟩

end Delegation

end AccessIQ

------------------------------------------------------------
-- Requests
------------------------------------------------------------

namespace AccessIQ

namespace Delegation

open Foundations Python

variable [Platform]

theorem assignDelegation_outcome
    (env : Environment)
    (s : Store)
    (ctx : RequestContext)
    (payload : DelegationAssignmentCreate) :
    let served := (assignDelegation ctx payload).serve env s
    EndpointOutcome s ctx delegationAdminRoles
      delegationHttpError (Assigned ctx payload s)
      (AssignRefused env.world.mayFail ctx payload s)
      served.result served.committed served.published :=
  serve_endpoint env.conforms_world
    (fun user _ => wp_assignDelegate ctx payload user)
    (fun _ hFail => .databaseFailed hFail)

theorem removeDelegationAssignment_outcome
    (env : Environment)
    (s : Store)
    (ctx : RequestContext)
    (assignmentId : Int) :
    let served :=
      (removeDelegationAssignment ctx assignmentId).serve
        env s
    EndpointOutcome s ctx delegationAdminRoles
      delegationHttpError (Removed ctx assignmentId s)
      (RemoveRefused env.world.mayFail assignmentId s)
      served.result served.committed served.published :=
  serve_endpoint env.conforms_world
    (fun user _ => wp_removeDelegate ctx assignmentId user)
    (fun _ hFail => .databaseFailed hFail)

end Delegation

end AccessIQ
