import AccessIQ.Delegation.Withdrawal

/-
  Renewing a delegation.

  The check for a duplicate looks at effective assignments,
  the unique constraint at the active flag, which an expired
  assignment keeps.  An expiry is judged by its instant, and
  stored as the database stores a datetime.  The audit event
  of an assignment needs an entitlement its scope leads to.

  Key definitions include:
    * `Duplicated`
    * `AssignsAsDocumented`
    * `Assignable`

  Key theorems include:
    * `assignDelegation_of_duplicated`
    * `assigns_as_documented_iff`
    * `expired_delegation_not_renewed`
-/

------------------------------------------------------------
-- The Documented Behaviour
------------------------------------------------------------

namespace AccessIQ

namespace Delegation

open Foundations Python

/- What `payload` asks to delegate. -/
def Requests
    (payload : DelegationAssignmentCreate)
    (a : DelegationAssignment) : Prop :=
  a.delegateUserId = payload.delegateUserId ∧
    a.scopeType = payload.scopeType ∧
    a.scopeId = payload.scopeId ∧
    a.delegationRole = payload.delegationRole

/- An effective assignment delegates the same already. -/
def Duplicated
    (s : Store)
    (now : Timestamp)
    (payload : DelegationAssignmentCreate) : Prop :=
  ∃ a ∈ s.delegationAssignments.rows,
    Requests payload a ∧ s.isEffective now a = true

/-
  The checks of a request that come before the one for a
  duplicate.
-/
structure ChecksPass
    (s : Store)
    (ctx : RequestContext)
    (payload : DelegationAssignmentCreate) :
    Prop where
  delegate :
    ∃ delegate,
      s.users.get? payload.delegateUserId =
          some delegate ∧
        delegate.active = true
  scope :
    s.scopeExists payload.scopeType payload.scopeId = true
  supported :
    roleSupportsScope payload.scopeType
      payload.delegationRole = true
  unexpired : payload.expiresAt.any (isExpired ctx) = false

/- What `assign_delegate` raises for a duplicate. -/
def duplicateError
    (payload : DelegationAssignmentCreate) :
    PyException :=
  .delegation
    (.duplicateAssignment payload.delegateUserId
      payload.scopeType payload.scopeId
      payload.delegationRole)

/-
  A request is answered as documented: with the error for a
  duplicate if there is one, and else with a new assignment
  that is stored and effective.
-/
def AssignsAsDocumented
    (s : Store)
    (ctx : RequestContext)
    (payload : DelegationAssignmentCreate)
    (served : Response DelegationAssignment) : Prop :=
  (Duplicated s ctx.now payload →
    served.result =
      .error
        (translated delegationHttpError
          (duplicateError payload))) ∧
  (¬ Duplicated s ctx.now payload →
    ∃ a,
      served.result = .ok a ∧ Requests payload a ∧
        s.delegationAssignments.contains a.id = false ∧
        served.committed.delegationAssignments.get? a.id =
          some a ∧
        served.committed.isEffective ctx.now a = true)

/-
  Nothing but a duplicate stands in the way: no assignment
  with the active flag delegates the same, the scope leads to
  an entitlement for the audit event, and the expiry is in
  the future as the database stores it.
-/
structure Assignable
    (s : Store)
    (ctx : RequestContext)
    (payload : DelegationAssignmentCreate) :
    Prop where
  unflagged :
    ∀ a ∈ s.delegationAssignments.rows,
      Requests payload a → a.active = false
  reference :
    ∃ applicationId entitlementId,
      s.auditReference payload.scopeType payload.scopeId =
          some (applicationId, entitlementId) ∧
        s.resolves s.applications applicationId = true ∧
        s.resolves s.entitlements entitlementId = true
  expiry :
    ∀ expiresAt ∈ payload.expiresAt,
      ctx.now < s.dialect.bindDateTime expiresAt

end Delegation

end AccessIQ

------------------------------------------------------------
-- Duplicates
------------------------------------------------------------

namespace AccessIQ

namespace Delegation

open Foundations Python

/- With a duplicate, the call raises the error for it. -/
theorem wp_assignDelegate_of_duplicated
    {w : World Question Reply}
    {c s : Store}
    {p : List DomainEvent}
    {ctx : RequestContext}
    {payload : DelegationAssignmentCreate}
    (actor : User)
    (hChecks : ChecksPass s ctx payload)
    (hDuplicated : Duplicated s ctx.now payload) :
    (assignDelegate ctx payload actor).wp w
      (BodyPost c p (fun _ _ _ => False)
        (fun e => e = duplicateError payload))
      ⟨c, s, false, p⟩ := by
  rcases hChecks.delegate with ⟨delegate, hSome, hActive⟩
  simp only [assignDelegate, Program.wp_bind,
    Program.wp_view, Program.wp_getOrRaise,
    Program.wp_raiseIf, Program.bindPost_ok,
    Program.bindPost_error, bodyPost_error,
    wp_validateScope, hSome, hChecks.unexpired,
    hChecks.supported, hChecks.scope]
  refine ⟨fun hNone => (Option.some_ne_none _ hNone).elim, ?_⟩
  intro found hFound
  cases hFound
  refine ⟨fun hOff => (Bool.false_ne_true
    (hOff.symm.trans hActive)).elim, fun _ => ?_⟩
  refine ⟨fun hOff => (Bool.false_ne_true hOff).elim,
    fun _ => ?_⟩
  refine ⟨fun hOff => (Bool.false_ne_true
    hOff.symm).elim, fun _ => ?_⟩
  refine ⟨fun hOff => (Bool.false_ne_true
    hOff.symm).elim, fun _ => ?_⟩
  apply wp_preventDuplicateAssignment actor
  · intro a _ _ _
    exact ⟨rfl, rfl, rfl⟩
  · intro hNone
    rcases hDuplicated with ⟨a, ha, hSame, hEffective⟩
    have hOff := hNone a ha hSame
    rw [hEffective] at hOff
    cases hOff

variable [Platform]

/- So does the request, if the database works. -/
theorem assignDelegation_of_duplicated
    {s : Store}
    {ctx : RequestContext}
    {payload : DelegationAssignmentCreate}
    {user : User}
    (hAdmits : s.Admits ctx delegationAdminRoles user)
    (hChecks : ChecksPass s ctx payload)
    (hDuplicated : Duplicated s ctx.now payload)
    {env : Environment}
    (hSteady : env.Steady) :
    ((assignDelegation ctx payload).serve env s).result =
      .error
        (translated delegationHttpError
          (duplicateError payload)) := by
  have hOutcome :
      EndpointOutcome s ctx delegationAdminRoles
        delegationHttpError (fun _ _ _ _ => False)
        (fun _ e => e = duplicateError payload)
        ((assignDelegation ctx payload).serve env s).result
        ((assignDelegation ctx payload).serve
          env s).committed
        ((assignDelegation ctx payload).serve
          env s).published :=
    serve_endpoint env.conforms_world
      (fun actor _ =>
        wp_assignDelegate_of_duplicated actor hChecks
          hDuplicated)
      (fun _ hFail => (hSteady.not_mayFail hFail).elim)
  generalize (assignDelegation ctx payload).serve env s =
    served at hOutcome ⊢
  rcases served with ⟨result, committed, published⟩
  cases hOutcome with
  | refused response hRefused =>
      exact absurd hAdmits (hRefused user)
  | succeeded _ _ _ _ _ hOk => exact hOk.elim
  | failed _ _ _ hErr =>
      rw [hErr]

end Delegation

end AccessIQ

------------------------------------------------------------
-- Exactly When
------------------------------------------------------------

namespace AccessIQ

namespace Delegation

open Foundations Python

/-
  The new assignment fits the unique constraint exactly when
  no assignment with the active flag delegates the same.
-/
theorem fits_newAssignment_iff
    {t : Table DelegationAssignment}
    {ctx : RequestContext}
    {dialect : Dialect}
    {payload : DelegationAssignmentCreate}
    {actor : User} :
    t.Fits (newAssignment ctx dialect payload actor) ↔
      ∀ a ∈ t.rows, Requests payload a →
        a.active = false := by
  constructor
  · intro hFits a ha hSame
    have hFree := hFits a ha
    cases hOn : a.active with
    | false => rfl
    | true =>
        rcases hSame with ⟨hUser, hType, hScope, hRole⟩
        exact absurd hFree (by
          simp [Row.conflicts, newAssignment, hUser, hType,
            hScope, hRole, hOn])
  · intro hAll a ha
    refine decide_eq_false ?_
    rintro ⟨hUser, hType, hScope, hRole, hOn⟩
    have hOff := hAll a ha ⟨hUser, hType, hScope, hRole⟩
    rw [hOn] at hOff
    cases hOff

/- A new assignment is effective if its expiry is to come. -/
theorem isEffective_newAssignment_iff
    {s : Store}
    {ctx : RequestContext}
    {payload : DelegationAssignmentCreate}
    {actor : User}
    {id : Int} :
    s.isEffective ctx.now
        { newAssignment ctx s.dialect payload actor with
          id := id } = true ↔
      ∀ expiresAt ∈ payload.expiresAt,
        ctx.now < s.dialect.bindDateTime expiresAt := by
  unfold Store.isEffective newAssignment
  cases payload.expiresAt <;> simp

variable [Platform]

/-
  An administrator's request whose other checks pass is
  answered as documented exactly when an effective assignment
  delegates the same, or nothing stands in the way of a new
  one.  The state may be any, in particular any that requests
  and the passing of time lead to.
-/
theorem assigns_as_documented_iff
    {s : Store}
    {ctx : RequestContext}
    {payload : DelegationAssignmentCreate}
    {user : User}
    (hAdmits : s.Admits ctx delegationAdminRoles user)
    (hChecks : ChecksPass s ctx payload)
    {env : Environment}
    (hSteady : env.Steady) :
    AssignsAsDocumented s ctx payload
        ((assignDelegation ctx payload).serve env s) ↔
      Duplicated s ctx.now payload ∨
        Assignable s ctx payload := by
  by_cases hDuplicated : Duplicated s ctx.now payload
  · have hResult := assignDelegation_of_duplicated hAdmits
      hChecks hDuplicated hSteady
    constructor
    · intro _
      exact Or.inl hDuplicated
    · intro _
      exact ⟨fun _ => hResult,
        fun hNot => absurd hDuplicated hNot⟩
  · rcases hChecks.delegate with ⟨delegate, hSome, hActive⟩
    have hDelegate :
        s.resolves s.users payload.delegateUserId = true :=
      Store.resolves_of_get? hSome
    have hOutcome :=
      assignDelegation_outcome env s ctx payload
    generalize (assignDelegation ctx payload).serve env s =
      served at hOutcome ⊢
    rcases served with ⟨result, committed, published⟩
    cases hOutcome with
    | refused response hRefused =>
        exact absurd hAdmits (hRefused user)
    | succeeded actor a _ _ hAdmits' hOk =>
        rcases hOk.stored with ⟨hFits, event, rfl⟩
        have hEq := hOk.assignment_eq
        constructor
        · rintro ⟨_, hAssigns⟩
          rcases hAssigns hDuplicated with
            ⟨b, hResult, _, _, _, hEffective⟩
          have hSame : a = b := Except.ok.inj hResult
          rw [← hSame, hEq] at hEffective
          right
          refine
            { unflagged := fits_newAssignment_iff.mp hFits
              reference := ?_
              expiry :=
                isEffective_newAssignment_iff.mp
                  hEffective }
          rcases hOk.auditable with
            ⟨applicationId, entitlementId, hReference, _, _,
              hApplication, hEntitlement⟩
          rw [hEq] at hReference
          exact ⟨applicationId, entitlementId, hReference,
            hApplication, hEntitlement⟩
        · rintro (hYes | hAssignable)
          · exact absurd hYes hDuplicated
          · refine ⟨fun hYes => absurd hYes hDuplicated, ?_⟩
            intro _
            refine ⟨a, rfl, ?_, ?_, ?_, ?_⟩
            · rw [hEq]
              exact ⟨rfl, rfl, rfl, rfl⟩
            · rw [hEq]
              exact Table.contains_freshId _ _
            · rw [hEq]
              exact Table.get?_insert_freshId _ _ hFits
            · rw [hEq]
              exact isEffective_newAssignment_iff.mpr
                hAssignable.expiry
    | failed actor e hAdmits' hErr =>
        constructor
        · rintro ⟨_, hAssigns⟩
          rcases hAssigns hDuplicated with ⟨_, hResult, _⟩
          cases hResult
        · rintro (hYes | hAssignable)
          · exact absurd hYes hDuplicated
          · exfalso
            cases hErr with
            | delegateNotFound hNone =>
                rw [hSome] at hNone
                cases hNone
            | inactiveDelegate found hFound hOff =>
                rw [hSome] at hFound
                cases hFound
                rw [hActive] at hOff
                cases hOff
            | expired hExpired =>
                rw [hChecks.unexpired] at hExpired
                cases hExpired
            | invalidScope hUnsupported =>
                rw [hChecks.supported] at hUnsupported
                cases hUnsupported
            | scopeNotFound hMissing =>
                rw [hChecks.scope] at hMissing
                cases hMissing
            | duplicate a ha hSame hEffective =>
                exact hDuplicated
                  ⟨a, ha, hSame, hEffective⟩
            | notStored hConflict =>
                apply hConflict
                refine ⟨?_, fits_newAssignment_iff.mpr
                  hAssignable.unflagged⟩
                rw [hDelegate, hAdmits'.resolves]
                rfl
            | notAudited _ hUnauditable _ =>
                rcases hAssignable.reference with
                  ⟨applicationId, entitlementId, hReference,
                    hApplication, hEntitlement⟩
                exact hUnauditable
                  ⟨applicationId, entitlementId, hReference,
                    hAdmits'.resolves, hDelegate,
                    hApplication, hEntitlement⟩
            | databaseFailed hFail =>
                exact hSteady.not_mayFail hFail

end Delegation

end AccessIQ

------------------------------------------------------------
-- After An Expiry
------------------------------------------------------------

namespace AccessIQ

namespace Delegation

open Foundations Python

attribute [local instance] asciiPlatform

/- A helpdesk delegation that ends at an instant. -/
def helpdeskUntil
    (expiresAt : Timestamp) :
    DelegationAssignmentCreate :=
  { salesforceHelpdesk with
    expiresAt := some (DateTime.utc expiresAt) }

/- The administrator at a later instant. -/
def administratorAt
    (now : Timestamp) :
    RequestContext :=
  { administratorContext with now := now }

theorem checksPass_helpdeskUntil :
    ChecksPass (seededStore .sqlite) administratorContext
      (helpdeskUntil 10) where
  delegate := ⟨sarah, rfl, rfl⟩
  scope := by decide
  supported := by decide
  unexpired := by decide

theorem admits_administrator :
    (seededStore .sqlite).Admits administratorContext
      delegationAdminRoles alice :=
  ⟨rfl, by decide⟩

theorem assigns_as_documented_iff_seeded :
    AssignsAsDocumented (seededStore .sqlite)
        administratorContext (helpdeskUntil 10)
        ((assignDelegation administratorContext
          (helpdeskUntil 10)).serve steadyEnvironment
          (seededStore .sqlite)) ↔
      Duplicated (seededStore .sqlite)
          administratorContext.now (helpdeskUntil 10) ∨
        Assignable (seededStore .sqlite)
          administratorContext (helpdeskUntil 10) :=
  assigns_as_documented_iff admits_administrator
    checksPass_helpdeskUntil steadyEnvironment_steady

/-
  A delegation that has run out cannot be given again: the
  check lets it pass, and the database refuses the row.
-/
theorem expired_delegation_not_renewed :
    let s :=
      serveAll serveDelegation (seededStore .sqlite)
        [(.assign administratorContext (helpdeskUntil 10),
          steadyEnvironment)]
    let served :=
      (assignDelegation (administratorAt 20)
        (helpdeskUntil 30)).serve steadyEnvironment s
    s.Admits (administratorAt 20) delegationAdminRoles
        alice ∧
      ChecksPass s (administratorAt 20)
        (helpdeskUntil 30) ∧
      ¬ Duplicated s 20 (helpdeskUntil 30) ∧
      served.result = .error databaseFailure ∧
      ¬ AssignsAsDocumented s (administratorAt 20)
        (helpdeskUntil 30) served := by
  intro s served
  have hResult : served.result = .error databaseFailure :=
    rfl
  have hNot : ¬ Duplicated s 20 (helpdeskUntil 30) := by
    have hNone :
        ∀ a ∈ s.delegationAssignments.rows,
          s.isEffective 20 a = false := by
      decide
    rintro ⟨a, ha, _, hEffective⟩
    rw [hNone a ha] at hEffective
    cases hEffective
  refine ⟨⟨rfl, by decide⟩, ?_, hNot, hResult, ?_⟩
  · exact
      { delegate := ⟨sarah, rfl, rfl⟩
        scope := by decide
        supported := by decide
        unexpired := by decide }
  · rintro ⟨_, hAssigns⟩
    rcases hAssigns hNot with ⟨a, hOk, _⟩
    rw [hResult] at hOk
    cases hOk

end Delegation

end AccessIQ
