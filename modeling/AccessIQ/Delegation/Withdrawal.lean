import AccessIQ.Foundations.Runs
import AccessIQ.Delegation.Outcomes
import AccessIQ.Seed

/-
  Withdrawing a delegation.

  The unique constraint of the assignments includes the
  active flag, so a removal can be stored only while no
  removed assignment delegates the same role in the same
  scope.

  Key definitions include:
    * `DelegationRequest`
    * `serveDelegation`
    * `DelegationStep`
    * `Audited`
    * `Withdrawn`

  Key theorems include:
    * `serveDelegation_step`
    * `DelegationStep.audited`
    * `fitsUpdate_deactivate_iff`
    * `withdrawn_iff`
-/

------------------------------------------------------------
-- Delegation Requests
------------------------------------------------------------

namespace AccessIQ

namespace Delegation

open Foundations Python

inductive DelegationRequest where
  | assign
      (ctx : RequestContext)
      (payload : DelegationAssignmentCreate)
  | remove
      (ctx : RequestContext)
      (assignmentId : Int)

variable [Platform]

/- The database after one delegation request. -/
def serveDelegation
    (s : Store)
    (request : DelegationRequest × Environment) :
    Store :=
  match request.1 with
  | .assign ctx payload =>
      ((assignDelegation ctx payload).serve
        request.2 s).committed
  | .remove ctx assignmentId =>
      ((removeDelegationAssignment ctx assignmentId).serve
        request.2 s).committed

/-
  What a delegation request commits: nothing, or what its
  service call did.
-/
inductive DelegationStep
    (s : Store) : Store → Prop
  | unchanged : DelegationStep s s
  | assigned
      {ctx : RequestContext}
      {payload : DelegationAssignmentCreate}
      {actor : User}
      {assignment : DelegationAssignment}
      {events : List DomainEvent}
      {s' : Store}
      (hAssigned :
        Assigned ctx payload s actor assignment events s') :
      DelegationStep s s'
  | removed
      {ctx : RequestContext}
      {assignmentId : Int}
      {actor : User}
      {assignment : DelegationAssignment}
      {events : List DomainEvent}
      {s' : Store}
      (hRemoved :
        Removed ctx assignmentId s actor assignment events
          s') :
      DelegationStep s s'

theorem serveDelegation_step
    (s : Store)
    (request : DelegationRequest × Environment) :
    DelegationStep s (serveDelegation s request) := by
  rcases request with
    ⟨⟨ctx, payload⟩ | ⟨ctx, assignmentId⟩, env⟩
  · have hOutcome :=
      assignDelegation_outcome env s ctx payload
    unfold serveDelegation
    simp only
    generalize (assignDelegation ctx payload).serve env s =
      served at hOutcome ⊢
    rcases served with ⟨result, committed, published⟩
    cases hOutcome with
    | refused => exact .unchanged
    | failed => exact .unchanged
    | succeeded user a _ _ _ hOk => exact .assigned hOk
  · have hOutcome :=
      removeDelegationAssignment_outcome env s ctx
        assignmentId
    unfold serveDelegation
    simp only
    generalize
      (removeDelegationAssignment ctx assignmentId).serve
        env s = served at hOutcome ⊢
    rcases served with ⟨result, committed, published⟩
    cases hOutcome with
    | refused => exact .unchanged
    | failed => exact .unchanged
    | succeeded user a _ _ _ hOk => exact .removed hOk

end Delegation

end AccessIQ

------------------------------------------------------------
-- Audited Assignments
------------------------------------------------------------

namespace AccessIQ

namespace Delegation

open Foundations Python

/-
  Every assignment was audited when it was made, so an audit
  event about it can be written again.
-/
def Audited
    (s : Store) : Prop :=
  ∀ a ∈ s.delegationAssignments.rows,
    ∃ actorId, Auditable s actorId a

theorem Auditable.by_actor
    {s : Store}
    {actorId : Int}
    {a : DelegationAssignment}
    (hAuditable : Auditable s actorId a)
    {other : Int}
    (hActor : s.resolves s.users other = true) :
    Auditable s other a := by
  rcases hAuditable with
    ⟨applicationId, entitlementId, hReference, -, hRest⟩
  exact ⟨applicationId, entitlementId, hReference, hActor,
    hRest⟩

/- A successful assignment keeps every assignment audited. -/
theorem Assigned.audited
    {ctx : RequestContext}
    {payload : DelegationAssignmentCreate}
    {s s' : Store}
    {actor : User}
    {assignment : DelegationAssignment}
    {events : List DomainEvent}
    (hAssigned :
      Assigned ctx payload s actor assignment events s')
    (hAudited : Audited s) :
    Audited s' := by
  rcases hAssigned.stored with ⟨hFits, event, rfl⟩
  intro a ha
  rcases (Table.mem_insert _ _ hFits).mp ha with ha | rfl
  · exact hAudited a ha
  · have hAuditable := hAssigned.auditable
    rw [hAssigned.assignment_eq] at hAuditable
    exact ⟨actor.id, hAuditable⟩

/- So does a successful removal. -/
theorem Removed.audited
    {ctx : RequestContext}
    {assignmentId : Int}
    {s s' : Store}
    {actor : User}
    {assignment : DelegationAssignment}
    {events : List DomainEvent}
    (hRemoved :
      Removed ctx assignmentId s actor assignment events s')
    (hAudited : Audited s) :
    Audited s' := by
  rcases hRemoved.stored with ⟨hFits, event, rfl⟩
  intro a ha
  rcases (Table.mem_modify _ hFits).mp ha with ⟨r, hr, rfl⟩
  rcases hAudited r hr with ⟨actorId, hAuditable⟩
  refine ⟨actorId, ?_⟩
  by_cases hId : Row.id r = assignmentId
  · rw [Table.updateRow_of_id hId]
    exact hAuditable
  · rw [Table.updateRow_of_id_ne hId]
    exact hAuditable

theorem DelegationStep.audited
    {s s' : Store}
    (hStep : DelegationStep s s')
    (hAudited : Audited s) :
    Audited s' := by
  cases hStep with
  | unchanged => exact hAudited
  | assigned hAssigned => exact hAssigned.audited hAudited
  | removed hRemoved => exact hRemoved.audited hAudited

variable [Platform]

theorem audited_serveDelegation
    (s : Store)
    (request : DelegationRequest × Environment)
    (hAudited : Audited s) :
    Audited (serveDelegation s request) :=
  (serveDelegation_step s request).audited hAudited

end Delegation

end AccessIQ

------------------------------------------------------------
-- Withdrawal
------------------------------------------------------------

namespace AccessIQ

namespace Delegation

open Foundations Python

/-
  A request withdrew an assignment: it succeeded, the
  assignment is inactive, and every other one is as before.
-/
def Withdrawn
    (s : Store)
    (a : DelegationAssignment)
    (served : Response DelegationAssignment) : Prop :=
  served.result = .ok (deactivate a) ∧
    served.committed.delegationAssignments.get? a.id =
      some (deactivate a) ∧
    ∀ i, i ≠ a.id →
      served.committed.delegationAssignments.get? i =
        s.delegationAssignments.get? i

/-
  The removal of an active assignment fits the unique
  constraint exactly when no inactive assignment delegates
  the same.
-/
theorem fitsUpdate_deactivate_iff
    {t : Table DelegationAssignment}
    {a : DelegationAssignment}
    (ha : a ∈ t.rows)
    (hActive : a.active = true) :
    t.FitsUpdate a.id deactivate ↔
      ∀ b ∈ t.rows, SameDelegation b a →
        b.active = true := by
  constructor
  · intro hFits b hb hSame
    by_cases hId : Row.id b = a.id
    · have hEq : b = a := t.eq_of_mem_of_id_eq hb ha hId
      rw [hEq, hActive]
    · have hFree := hFits a ha rfl b hb hId
      cases hOff : b.active with
      | true => rfl
      | false =>
          rcases hSame with ⟨hUser, hType, hScope, hRole⟩
          exact absurd hFree (by
            simp [Row.conflicts, deactivate, hUser, hType,
              hScope, hRole, hOff])
  · intro hAll r hr hId b hb hNe
    have hEq : r = a := t.eq_of_mem_of_id_eq hr ha hId
    subst hEq
    refine decide_eq_false ?_
    rintro ⟨hUser, hType, hScope, hRole, hOff⟩
    have hOn := hAll b hb ⟨hUser, hType, hScope, hRole⟩
    rw [hOff] at hOn
    cases hOn

theorem Removed.withdrawn
    {ctx : RequestContext}
    {s s' : Store}
    {actor : User}
    {a assignment : DelegationAssignment}
    {events : List DomainEvent}
    (ha : a ∈ s.delegationAssignments.rows)
    (hRemoved :
      Removed ctx a.id s actor assignment events s') :
    Withdrawn s a ⟨.ok assignment, s', events⟩ := by
  have hGet : s.delegationAssignments.get? a.id = some a :=
    s.delegationAssignments.get?_of_mem ha
  rcases hRemoved.found with ⟨b, hFound, -, hEq⟩
  have hSame : a = b :=
    Option.some.inj (hGet.symm.trans hFound)
  subst hSame
  rcases hRemoved.stored with ⟨hFits, event, rfl⟩
  refine ⟨congrArg Except.ok hEq, ?_, ?_⟩
  · exact Table.get?_modify_self _ hFits hGet
  · intro i hNe
    exact Table.get?_modify_ne _ hFits hNe

variable [Platform]

/-
  After any run of delegation requests that started without
  assignments, an administrator's request to remove an active
  assignment withdraws it exactly when no inactive assignment
  delegates the same role to the same user in the same scope.
-/
theorem withdrawn_iff
    {start : Store}
    (hStart : start.delegationAssignments.rows = [])
    (requests : List (DelegationRequest × Environment))
    {s : Store}
    (hReached : serveAll serveDelegation start requests = s)
    {ctx : RequestContext}
    {user : User}
    (hAdmits : s.Admits ctx delegationAdminRoles user)
    {a : DelegationAssignment}
    (ha : a ∈ s.delegationAssignments.rows)
    (hActive : a.active = true)
    {env : Environment}
    (hSteady : env.Steady) :
    Withdrawn s a
        ((removeDelegationAssignment ctx a.id).serve env s) ↔
      ∀ b ∈ s.delegationAssignments.rows,
        SameDelegation b a → b.active = true := by
  have hAudited : Audited s := by
    rw [← hReached]
    refine serveAll_invariant audited_serveDelegation ?_
      requests
    intro b hb
    rw [hStart] at hb
    cases hb
  have hGet : s.delegationAssignments.get? a.id = some a :=
    s.delegationAssignments.get?_of_mem ha
  rw [← fitsUpdate_deactivate_iff ha hActive]
  have hOutcome :=
    removeDelegationAssignment_outcome env s ctx a.id
  generalize
    (removeDelegationAssignment ctx a.id).serve env s =
      served at hOutcome ⊢
  rcases served with ⟨result, committed, published⟩
  cases hOutcome with
  | refused response hRefused =>
      exact absurd hAdmits (hRefused user)
  | succeeded actor assignment _ _ hAdmits' hOk =>
      constructor
      · intro _
        rcases hOk.stored with ⟨hFits, -⟩
        exact hFits
      · intro _
        exact hOk.withdrawn ha
  | failed actor e hAdmits' hErr =>
      constructor
      · rintro ⟨hOk, -⟩
        cases hOk
      · intro hFits
        exfalso
        cases hErr with
        | assignmentNotFound hNone =>
            rw [hGet] at hNone
            cases hNone
        | inactiveAssignment b hSome hOff =>
            rw [hGet] at hSome
            cases hSome
            rw [hActive] at hOff
            cases hOff
        | conflict hConflict => exact hConflict hFits
        | notAudited b _ hSome hUnauditable =>
            rw [hGet] at hSome
            cases hSome
            rcases hAudited a ha with ⟨_, hAuditable⟩
            exact hUnauditable
              (hAuditable.by_actor hAdmits'.resolves)
        | databaseFailed hFail =>
            exact hSteady.not_mayFail hFail

end Delegation

end AccessIQ

------------------------------------------------------------
-- Two Rounds
------------------------------------------------------------

namespace AccessIQ

namespace Delegation

open Foundations Python

attribute [local instance] asciiPlatform

def administratorContext : RequestContext where
  correlationId := "request-1"
  now := 0
  subject := 3

def salesforceHelpdesk : DelegationAssignmentCreate where
  delegateUserId := 2
  scopeType := .application
  scopeId := 1
  delegationRole := .helpdeskDelegate

/- The key of the assignment varies with the round. -/
def salesforceHelpdeskAssignment
    (id : Int) :
    DelegationAssignment where
  id := id
  delegateUserId := 2
  scopeType := .application
  scopeId := 1
  delegationRole := .helpdeskDelegate
  createdBy := 3
  createdAt := 0
  expiresAt := none

def firstRound : List (DelegationRequest × Environment) :=
  [(.assign administratorContext salesforceHelpdesk,
    steadyEnvironment)]

def secondRound : List (DelegationRequest × Environment) :=
  [(.assign administratorContext salesforceHelpdesk,
      steadyEnvironment),
    (.remove administratorContext 1, steadyEnvironment),
    (.assign administratorContext salesforceHelpdesk,
      steadyEnvironment)]

theorem withdrawn_iff_first_round :
    let s :=
      serveAll serveDelegation (seededStore .sqlite)
        firstRound
    Withdrawn s (salesforceHelpdeskAssignment 1)
        ((removeDelegationAssignment administratorContext
          1).serve steadyEnvironment s) ↔
      ∀ b ∈ s.delegationAssignments.rows,
        SameDelegation b (salesforceHelpdeskAssignment 1) →
          b.active = true := by
  intro s
  have hAdmits :
      s.Admits administratorContext delegationAdminRoles
        alice :=
    ⟨rfl, by decide⟩
  exact withdrawn_iff rfl firstRound rfl hAdmits (by decide)
    rfl steadyEnvironment_steady

/-
  Assigned, removed and assigned again, the assignment can no
  longer be withdrawn: the database refuses the removal.
-/
theorem not_withdrawn_second_round :
    let s :=
      serveAll serveDelegation (seededStore .sqlite)
        secondRound
    (seededStore .sqlite).delegationAssignments.rows = [] ∧
      salesforceHelpdeskAssignment 2 ∈
        s.delegationAssignments.rows ∧
      (salesforceHelpdeskAssignment 2).active = true ∧
      ((removeDelegationAssignment administratorContext
          2).serve steadyEnvironment s).result =
        .error databaseFailure ∧
      ¬ Withdrawn s (salesforceHelpdeskAssignment 2)
        ((removeDelegationAssignment administratorContext
          2).serve steadyEnvironment s) := by
  intro s
  have hResult :
      ((removeDelegationAssignment administratorContext
          2).serve steadyEnvironment s).result =
        .error databaseFailure :=
    rfl
  refine ⟨rfl, by decide, rfl, hResult, ?_⟩
  rintro ⟨hOk, -⟩
  rw [hResult] at hOk
  cases hOk

end Delegation

end AccessIQ
