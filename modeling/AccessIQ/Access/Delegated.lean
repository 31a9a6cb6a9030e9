import AccessIQ.Access.Outcomes
import AccessIQ.Delegation.Withdrawal

/-
  Which delegations let an access change pass.

  Authorization hands the policy the first matching
  assignment by id.  Unless helpdesk and administrative
  delegations meet at an administrator entitlement, any
  assignment that the policy allows is as good as the first,
  and a later assignment never takes a permission away.

  Key definitions include:
    * `AccessKind.passes`
    * `Mixed`
    * `SameDelegations`

  Key theorems include:
    * `forbidden_iff`
    * `passes_iff_of_not_mixed`
    * `passes_insert`
    * `passes_eq_of_sameDelegations`
    * `delegatedChange_passes`
-/

------------------------------------------------------------
-- Passing Authorization And Policy
------------------------------------------------------------

namespace AccessIQ

open Foundations Python Delegation Access

variable [Platform]

/- What `authorizeAccessAction` answers. -/
def Store.accessAuthorization
    (s : Store)
    (now : Timestamp)
    (actor : User)
    (entitlement : Entitlement) :
    DelegationAuthorization :=
  if isGlobalAdmin actor then
    globalAuthorization
  else
    match s.permittingAssignment now actor.id entitlement with
    | none => deniedAuthorization
    | some a => delegatedAuthorization a

namespace Access

def AccessKind.policy :
    AccessKind →
      User → User → Entitlement → Application →
        Option String → PolicyDecision
  | .grant => evaluateGrantPolicy
  | .revoke => evaluateRevokePolicy

/-
  A change passes authorization, and the policy under the
  role that authorization found.
-/
def AccessKind.passes
    (kind : AccessKind)
    (s : Store)
    (now : Timestamp)
    (actor targetUser : User)
    (entitlement : Entitlement)
    (application : Application) :
    Bool :=
  let authorization :=
    s.accessAuthorization now actor entitlement
  authorization.allowed &&
    (kind.policy actor targetUser entitlement application
      authorization.delegationRole).allowed

theorem accessAuthorization_of_authorizedAs
    {ctx : RequestContext}
    {s s₁ : Store}
    {actor targetUser : User}
    {entitlement : Entitlement}
    {authorization : DelegationAuthorization}
    (hAuthorized :
      AuthorizedAs ctx s actor targetUser entitlement
        authorization s₁) :
    s.accessAuthorization ctx.now actor entitlement =
        authorization ∧
      authorization.allowed = true := by
  unfold Store.accessAuthorization
  cases hAuthorized with
  | globally hGlobal =>
      rw [if_pos hGlobal]
      exact ⟨rfl, rfl⟩
  | delegated a hLocal hSome =>
      rw [hLocal, if_neg Bool.false_ne_true, hSome]
      exact ⟨rfl, rfl⟩

theorem accessAuthorization_of_unauthorized
    {ctx : RequestContext}
    {s : Store}
    {actor : User}
    {entitlement : Entitlement}
    (hUnauthorized : Unauthorized ctx s actor entitlement) :
    s.accessAuthorization ctx.now actor entitlement =
      deniedAuthorization := by
  unfold Store.accessAuthorization
  rw [hUnauthorized.notGlobal, if_neg Bool.false_ne_true,
    hUnauthorized.notDelegated]

end Access

end AccessIQ

------------------------------------------------------------
-- Forbidden Requests
------------------------------------------------------------

namespace AccessIQ

namespace Access

open Foundations Python Delegation

/- The answer is 403. -/
def Forbidden
    {α : Type}
    (result : Except PyException α) : Prop :=
  ∃ detail, result = .error (.http ⟨403, detail⟩)

/-
  The current assignments rule the change out: the pair is
  already granted, or there is nothing to revoke.
-/
def AccessRequest.Conflicts
    (request : AccessRequest)
    (s : Store) : Prop :=
  match request.kind with
  | .grant => request.data.pair ∈ s.accessPairs
  | .revoke => request.data.pair ∉ s.accessPairs

variable {α : Type}
variable [Platform]

/-
  Where nothing fails and nothing conflicts, a request is
  forbidden exactly when it does not pass.
-/
theorem AccessOutcome.forbidden_iff
    {mayFail : Prop}
    (hSteady : ¬ mayFail)
    {change : AccessChange α}
    {effects : change.Effects}
    (hAnswers : effects.Answers)
    {kind : AccessKind}
    (hPolicy : change.policy = kind.policy)
    {ctx : RequestContext}
    {data : AccessActionRequest}
    {actor : User}
    {s s' : Store}
    {result : Except PyException α}
    {events : List DomainEvent}
    (hOutcome :
      AccessOutcome mayFail change effects ctx data actor s
        result s' events)
    (target : AccessTarget s data)
    (hActor : s.resolves s.users actor.id = true)
    (hNoConflict :
      change.conflict
          (s.findAccessAssignment data.targetUserId
            data.entitlementId) =
        none) :
    Forbidden result ↔
      kind.passes s ctx.now actor target.user
          target.entitlement target.application =
        false := by
  unfold AccessKind.passes
  rw [← hPolicy]
  cases hOutcome with
  | userNotFound hNone =>
      cases target.user_found.symm.trans hNone
  | entitlementNotFound hNone =>
      cases target.entitlement_found.symm.trans hNone
  | applicationNotFound entitlement hSome hNone =>
      cases target.entitlement_found.symm.trans hSome
      cases target.application_found.symm.trans hNone
  | databaseFailed target' e hError hReason =>
      rcases hReason with hFail | hUnknown |
        ⟨authorization, s₁, hAuthorized, -, hAllowed, -⟩
      · exact absurd hFail hSteady
      · cases hActor.symm.trans hUnknown
      · cases target'.eq target
        rcases accessAuthorization_of_authorizedAs
          hAuthorized with ⟨hEq, hAuthorization⟩
        have hPasses :
            (change.policy actor target.user
              target.entitlement target.application
              authorization.delegationRole).allowed = true :=
          hAllowed
        simp only [hEq, hAuthorization, hPasses,
          Bool.and_self, Bool.true_eq_false, iff_false]
        rintro ⟨detail, hDetail⟩
        cases hDetail
        rcases hError with hFailure | ⟨error, hDatabase⟩
        · cases hFailure
        · cases hDatabase
  | unauthorized target' hUnauthorized =>
      cases target'.eq target
      rw [accessAuthorization_of_unauthorized hUnauthorized]
      exact ⟨fun _ => rfl, fun _ => ⟨_, rfl⟩⟩
  | conflict target' authorization s₁ response hAuthorized
      hConflict =>
      cases hNoConflict.symm.trans hConflict
  | denied target' authorization s₁ hAuthorized hConflict
      hDenied =>
      cases target'.eq target
      rcases accessAuthorization_of_authorizedAs hAuthorized
        with ⟨hEq, hAuthorization⟩
      have hRefused :
          (change.policy actor target.user
            target.entitlement target.application
            authorization.delegationRole).allowed = false :=
        hDenied
      simp only [hEq, hRefused, Bool.and_false, iff_true]
      exact ⟨_, rfl⟩
  | changed target' authorization s₁ _ n hAuthorized
      hConflict hAllowed hEffect =>
      cases target'.eq target
      rcases accessAuthorization_of_authorizedAs hAuthorized
        with ⟨hEq, hAuthorization⟩
      have hPasses :
          (change.policy actor target.user
            target.entitlement target.application
            authorization.delegationRole).allowed = true :=
        hAllowed
      rcases hAnswers target
          (AuthorizedAs.sameButAudit hAuthorized) hEffect with
        ⟨answer, hAnswer⟩
      simp only [hEq, hAuthorization, hPasses, hAnswer,
        Bool.and_self, Bool.true_eq_false, iff_false]
      rintro ⟨detail, hDetail⟩
      cases hDetail

omit [Platform] in
theorem forbidden_map_iff
    {result : Except PyException α} :
    Forbidden (result.map fun _ => ()) ↔
      Forbidden result := by
  cases result with
  | ok a =>
      exact ⟨fun ⟨_, hDetail⟩ => (by cases hDetail),
        fun ⟨_, hDetail⟩ => (by cases hDetail)⟩
  | error e =>
      exact ⟨fun ⟨detail, hDetail⟩ =>
          ⟨detail, by cases hDetail; rfl⟩,
        fun ⟨detail, hDetail⟩ =>
          ⟨detail, by cases hDetail; rfl⟩⟩

/- The same of a request of either kind. -/
theorem forbidden_iff
    {s : Store}
    {request : AccessRequest}
    {env : Environment}
    (hSteady : env.Steady)
    (target : AccessTarget s request.data)
    (hActor :
      s.resolves s.users request.actor.id = true)
    (hNoConflict : ¬ request.Conflicts s) :
    Forbidden (request.serve env s).result ↔
      request.kind.passes s request.ctx.now request.actor
          target.user target.entitlement
          target.application =
        false := by
  rcases request with ⟨kind, ctx, data, actor⟩
  cases kind with
  | grant =>
      have hNone :
          s.findAccessAssignment data.targetUserId
            data.entitlementId = none := by
        by_contra hSome
        exact hNoConflict
          (pair_mem_accessPairs_iff.mpr hSome)
      have hOutcome :=
        grantAccess_outcome env s ctx data actor
      refine forbidden_map_iff.trans
        (hOutcome.forbidden_iff hSteady.not_mayFail
          grantEffects_answers rfl target hActor ?_)
      rw [hNone]
      rfl
  | revoke =>
      have hOutcome :=
        revokeAccess_outcome env s ctx data actor
      refine forbidden_map_iff.trans
        (hOutcome.forbidden_iff hSteady.not_mayFail
          revokeEffects_answers rfl target hActor ?_)
      cases hFind : s.findAccessAssignment data.targetUserId
          data.entitlementId with
      | none =>
          refine absurd ?_ hNoConflict
          intro hPair
          exact pair_mem_accessPairs_iff.mp hPair hFind
      | some a => rfl

end Access

end AccessIQ

------------------------------------------------------------
-- Delegation Roles
------------------------------------------------------------

namespace AccessIQ

namespace Access

open Foundations Python Delegation

variable [Platform]

/-
  Among the roles that support access changes, the policy
  tells only the helpdesk delegate apart, and only for an
  administrator entitlement.
-/
theorem roleMayChange_of_supports
    {role : DelegationRole}
    (hSupports : roleSupportsAccessChange role = true)
    (requesterRole : String)
    (administrator : Prop) :
    RoleMayChange requesterRole administrator
        (normalizeDelegationRole (some role.value)) ↔
      (administrator → role ≠ .helpdeskDelegate) := by
  rw [normalizeDelegationRole_value]
  simp only [RoleMayChange,
    value_mem_delegatedAccessPolicyRoles,
    value_mem_delegatedAdminPolicyRoles]
  cases role with
  | applicationOwner => simp
  | applicationAdministrator => simp
  | helpdeskDelegate => simp
  | accessReviewer => cases hSupports
  | groupOwner => cases hSupports
  | groupAdministrator => cases hSupports

/- Two roles the policy cannot tell apart. -/
theorem policy_allowed_congr
    (kind : AccessKind)
    (actor targetUser : User)
    (entitlement : Entitlement)
    (application : Application)
    {role role' : DelegationRole}
    (hRole : roleSupportsAccessChange role = true)
    (hRole' : roleSupportsAccessChange role' = true)
    (hAlike :
      isAdministratorEntitlement entitlement = true →
        (role = .helpdeskDelegate ↔
          role' = .helpdeskDelegate)) :
    (kind.policy actor targetUser entitlement application
        (some role.value)).allowed =
      (kind.policy actor targetUser entitlement application
        (some role'.value)).allowed := by
  have hMay :
      (isAdministratorEntitlement entitlement = true →
          role ≠ .helpdeskDelegate) ↔
        (isAdministratorEntitlement entitlement = true →
          role' ≠ .helpdeskDelegate) :=
    forall_congr' fun hAdministrator =>
      not_congr (hAlike hAdministrator)
  rw [Bool.eq_iff_iff]
  cases kind with
  | grant =>
      simp only [AccessKind.policy,
        evaluateGrantPolicy_allowed_iff,
        roleMayChange_of_supports hRole,
        roleMayChange_of_supports hRole', hMay]
  | revoke =>
      simp only [AccessKind.policy,
        evaluateRevokePolicy_allowed_iff,
        roleMayChange_of_supports hRole,
        roleMayChange_of_supports hRole', hMay]

/-
  The policy allows the change under the role of an
  assignment that authorization may use.
-/
def AccessKind.SomeAllows
    (kind : AccessKind)
    (s : Store)
    (now : Timestamp)
    (actor targetUser : User)
    (entitlement : Entitlement)
    (application : Application) : Prop :=
  ∃ a,
    Permits s now actor.id entitlement a ∧
      (kind.policy actor targetUser entitlement application
        (some a.delegationRole.value)).allowed = true

/-
  Helpdesk and administrative delegations of an actor meet at
  an administrator entitlement.
-/
def Mixed
    (s : Store)
    (now : Timestamp)
    (actor : User)
    (entitlement : Entitlement) : Prop :=
  isAdministratorEntitlement entitlement = true ∧
    (∃ a, Permits s now actor.id entitlement a ∧
      a.delegationRole = .helpdeskDelegate) ∧
    ∃ b, Permits s now actor.id entitlement b ∧
      b.delegationRole ≠ .helpdeskDelegate

theorem alike_of_not_mixed
    {s : Store}
    {now : Timestamp}
    {actor : User}
    {entitlement : Entitlement}
    (hNotMixed : ¬ Mixed s now actor entitlement)
    {a b : DelegationAssignment}
    (ha : Permits s now actor.id entitlement a)
    (hb : Permits s now actor.id entitlement b)
    (hAdministrator :
      isAdministratorEntitlement entitlement = true) :
    a.delegationRole = .helpdeskDelegate ↔
      b.delegationRole = .helpdeskDelegate := by
  constructor
  · intro hHelpdesk
    by_contra hOther
    exact hNotMixed
      ⟨hAdministrator, ⟨a, ha, hHelpdesk⟩, b, hb, hOther⟩
  · intro hHelpdesk
    by_contra hOther
    exact hNotMixed
      ⟨hAdministrator, ⟨b, hb, hHelpdesk⟩, a, ha, hOther⟩

end Access

end AccessIQ

------------------------------------------------------------
-- Passing By Delegation
------------------------------------------------------------

namespace AccessIQ

namespace Access

open Foundations Python Delegation

variable [Platform]
variable {kind : AccessKind}
variable {s : Store}
variable {now : Timestamp}
variable {actor targetUser : User}
variable {entitlement : Entitlement}
variable {application : Application}

/- Passing is being allowed under the first assignment. -/
theorem passes_iff_first
    (hLocal : isGlobalAdmin actor = false) :
    kind.passes s now actor targetUser entitlement
        application =
        true ↔
      ∃ a,
        s.permittingAssignment now actor.id entitlement =
            some a ∧
          (kind.policy actor targetUser entitlement
            application
            (some a.delegationRole.value)).allowed = true := by
  unfold AccessKind.passes Store.accessAuthorization
  rw [hLocal, if_neg Bool.false_ne_true]
  cases hFirst :
      s.permittingAssignment now actor.id entitlement with
  | none => simp [deniedAuthorization]
  | some a =>
      simp [delegatedAuthorization,
        DelegationAuthorization.delegationRole]

/- Some assignment allows what passes. -/
theorem someAllows_of_passes
    (hLocal : isGlobalAdmin actor = false)
    (hPasses :
      kind.passes s now actor targetUser entitlement
        application = true) :
    kind.SomeAllows s now actor targetUser entitlement
      application := by
  rcases (passes_iff_first hLocal).mp hPasses with
    ⟨a, hFirst, hAllowed⟩
  exact ⟨a, permits_of_permittingAssignment hFirst, hAllowed⟩

/-
  Unless delegations are mixed, any assignment that allows
  the change lets it pass.
-/
theorem passes_iff_of_not_mixed
    (hLocal : isGlobalAdmin actor = false)
    (hNotMixed : ¬ Mixed s now actor entitlement) :
    kind.passes s now actor targetUser entitlement
        application =
        true ↔
      kind.SomeAllows s now actor targetUser entitlement
        application := by
  refine ⟨someAllows_of_passes hLocal, ?_⟩
  rintro ⟨a, ha, hAllowed⟩
  rw [passes_iff_first hLocal]
  cases hFirst :
      s.permittingAssignment now actor.id entitlement with
  | none =>
      exact absurd ha
        (permittingAssignment_eq_none_iff.mp hFirst a)
  | some b =>
      have hb := permits_of_permittingAssignment hFirst
      refine ⟨b, rfl, ?_⟩
      rw [← hAllowed]
      exact policy_allowed_congr kind actor targetUser
        entitlement application hb.role ha.role
        (alike_of_not_mixed hNotMixed hb ha)

/- The store with one more delegation assignment. -/
def withDelegation
    (s : Store)
    (d : DelegationAssignment)
    (hFits : s.delegationAssignments.Fits d) :
    Store :=
  { s with
    delegationAssignments :=
      s.delegationAssignments.insert s.dialect.keyPolicy d
        hFits }

/- A later assignment does not replace the first. -/
omit [Platform] in
theorem permittingAssignment_withDelegation
    {d : DelegationAssignment}
    (hFits : s.delegationAssignments.Fits d)
    {delegateUserId : Int}
    {a : DelegationAssignment}
    (hFirst :
      s.permittingAssignment now delegateUserId entitlement =
        some a) :
    (withDelegation s d hFits).permittingAssignment now
        delegateUserId entitlement =
      some a := by
  unfold Store.permittingAssignment at hFirst ⊢
  change
    List.find? _
      (List.filter
        (fun a =>
          a.delegateUserId == delegateUserId &&
            s.isEffective now a)
        (s.delegationAssignments.rows ++ [_])) = _
  rw [List.filter_append, List.find?_append, hFirst,
    Option.some_or]

/- One more assignment takes no permission away. -/
theorem passes_withDelegation
    (hLocal : isGlobalAdmin actor = false)
    {d : DelegationAssignment}
    (hFits : s.delegationAssignments.Fits d)
    (hPasses :
      kind.passes s now actor targetUser entitlement
        application = true) :
    kind.passes (withDelegation s d hFits) now actor
        targetUser entitlement application =
      true := by
  rcases (passes_iff_first hLocal).mp hPasses with
    ⟨a, hFirst, hAllowed⟩
  exact (passes_iff_first hLocal).mpr
    ⟨a, permittingAssignment_withDelegation hFits hFirst,
      hAllowed⟩

/- An assignment but for the order of its creation. -/
def withoutOrder
    (a : DelegationAssignment) :
    DelegationAssignment :=
  { a with id := 0, createdAt := 0 }

/- The same delegations, created in any order. -/
structure SameDelegations
    (s s' : Store) : Prop where
  dialect : s'.dialect = s.dialect
  assignments :
    (s'.delegationAssignments.rows.map withoutOrder).Perm
      (s.delegationAssignments.rows.map withoutOrder)

omit [Platform] in
theorem SameDelegations.symm
    {s s' : Store}
    (hSame : SameDelegations s s') :
    SameDelegations s' s :=
  ⟨hSame.dialect.symm, hSame.assignments.symm⟩

/- What permits in one store permits in the other. -/
omit [Platform] in
theorem SameDelegations.permits
    {s s' : Store}
    (hSame : SameDelegations s s')
    {delegateUserId : Int}
    {a : DelegationAssignment}
    (ha : Permits s now delegateUserId entitlement a) :
    ∃ b,
      Permits s' now delegateUserId entitlement b ∧
        b.delegationRole = a.delegationRole := by
  have hMem : withoutOrder a ∈
      s'.delegationAssignments.rows.map withoutOrder :=
    hSame.assignments.mem_iff.mpr
      (List.mem_map_of_mem ha.mem)
  rcases List.mem_map.mp hMem with ⟨b, hb, hEq⟩
  rcases a with ⟨ida, ua, sta, sia, ra, cba, caa, ea, aa⟩
  rcases b with ⟨idb, ub, stb, sib, rb, cbb, cab, eb, ab⟩
  simp only [withoutOrder, DelegationAssignment.mk.injEq,
    true_and] at hEq
  rcases hEq with ⟨rfl, rfl, rfl, rfl, rfl, rfl, rfl⟩
  refine ⟨_,
    { mem := hb
      delegate := ha.delegate
      effective := ?_
      role := ha.role
      scope := ha.scope }, rfl⟩
  have hEffective := ha.effective
  unfold Store.isEffective at hEffective ⊢
  rw [hSame.dialect]
  exact hEffective

/- Without a mixture the order of creation is irrelevant. -/
theorem passes_eq_of_sameDelegations
    (hLocal : isGlobalAdmin actor = false)
    {s s' : Store}
    (hSame : SameDelegations s s')
    (hNotMixed : ¬ Mixed s now actor entitlement) :
    kind.passes s' now actor targetUser entitlement
        application =
      kind.passes s now actor targetUser entitlement
        application := by
  have hNotMixed' : ¬ Mixed s' now actor entitlement := by
    rintro ⟨hAdministrator, ⟨a, ha, hHelpdesk⟩, b, hb,
      hOther⟩
    rcases hSame.symm.permits ha with ⟨a', ha', hRoleA⟩
    rcases hSame.symm.permits hb with ⟨b', hb', hRoleB⟩
    exact hNotMixed
      ⟨hAdministrator, ⟨a', ha', hRoleA.trans hHelpdesk⟩,
        b', hb', hRoleB ▸ hOther⟩
  rw [Bool.eq_iff_iff, passes_iff_of_not_mixed hLocal
    hNotMixed, passes_iff_of_not_mixed hLocal hNotMixed']
  constructor
  · rintro ⟨a, ha, hAllowed⟩
    rcases hSame.symm.permits ha with ⟨b, hb, hRole⟩
    exact ⟨b, hb, by rw [hRole]; exact hAllowed⟩
  · rintro ⟨a, ha, hAllowed⟩
    rcases hSame.permits ha with ⟨b, hb, hRole⟩
    exact ⟨b, hb, by rw [hRole]; exact hAllowed⟩

/-
  Authorization and policy of an actor without a global role,
  for every store, time, target and kind of change.  The
  handler forbids exactly what does not pass; what passes is
  allowed under some assignment, and without a mixture the
  converse holds and the order of creation is irrelevant; one
  more assignment never takes a permission away.
-/
theorem delegatedChange_passes
    {s : Store}
    {request : AccessRequest}
    (hLocal : isGlobalAdmin request.actor = false)
    (target : AccessTarget s request.data) :
    let now := request.ctx.now
    let passes := fun s : Store =>
      request.kind.passes s now request.actor target.user
        target.entitlement target.application
    let someAllows :=
      request.kind.SomeAllows s now request.actor
        target.user target.entitlement target.application
    let mixed := Mixed s now request.actor target.entitlement
    (∀ env : Environment,
        env.Steady →
          s.resolves s.users request.actor.id = true →
            ¬ request.Conflicts s →
              (Forbidden (request.serve env s).result ↔
                passes s = false)) ∧
      (passes s = true → someAllows) ∧
      (¬ mixed → (passes s = true ↔ someAllows)) ∧
      (∀ d hFits,
        passes s = true →
          passes (withDelegation s d hFits) = true) ∧
      ∀ s',
        SameDelegations s s' →
          ¬ mixed → passes s' = passes s := by
  intro now passes someAllows mixed
  refine ⟨?_, someAllows_of_passes hLocal,
    passes_iff_of_not_mixed hLocal, ?_, ?_⟩
  · intro env hSteady hActor hNoConflict
    exact forbidden_iff hSteady target hActor hNoConflict
  · intro d hFits hPasses
    exact passes_withDelegation hLocal hFits hPasses
  · intro s' hSame hNotMixed
    exact passes_eq_of_sameDelegations hLocal hSame hNotMixed

end Access

end AccessIQ

------------------------------------------------------------
-- Reviewers And Mixtures
------------------------------------------------------------

namespace AccessIQ

namespace Access

open Foundations Python Delegation

attribute [local instance] asciiPlatform

/- The seeded database after some delegations. -/
def seededDelegations
    (delegations : List DelegationAssignmentCreate) :
    Store :=
  serveAll serveDelegation (seededStore .sqlite)
    (delegations.map fun d =>
      (.assign administratorContext d, steadyEnvironment))

/- A delegation over all of Salesforce. -/
def salesforceDelegation
    (delegateUserId : Int)
    (role : DelegationRole) :
    DelegationAssignmentCreate where
  delegateUserId := delegateUserId
  scopeType := .application
  scopeId := 1
  delegationRole := role

/- The first user is granted an entitlement of Salesforce. -/
def grantBob
    (actor : User)
    (entitlementId : Int) :
    AccessRequest where
  kind := .grant
  ctx :=
    { correlationId := "request-2"
      now := 0
      subject := actor.id }
  data :=
    { targetUserId := 1
      entitlementId := entitlementId }
  actor := actor

/- An owner of Salesforce grants its administration. -/
def ownerTarget :
    AccessTarget
      (seededDelegations
        [salesforceDelegation 6 .applicationOwner])
      (grantBob maya 2).data where
  user := bob
  entitlement :=
    ⟨2, "Salesforce Administrator", "administrator", 1⟩
  application := ⟨1, "Salesforce", "salesforce"⟩
  user_found := rfl
  entitlement_found := rfl
  application_found := rfl

theorem delegatedChange_passes_owner :
    let s :=
      seededDelegations
        [salesforceDelegation 6 .applicationOwner]
    let request := grantBob maya 2
    let target := ownerTarget
    let now := request.ctx.now
    let passes := fun s : Store =>
      request.kind.passes s now request.actor target.user
        target.entitlement target.application
    let someAllows :=
      request.kind.SomeAllows s now request.actor
        target.user target.entitlement target.application
    let mixed := Mixed s now request.actor target.entitlement
    (∀ env : Environment,
        env.Steady →
          s.resolves s.users request.actor.id = true →
            ¬ request.Conflicts s →
              (Forbidden (request.serve env s).result ↔
                passes s = false)) ∧
      (passes s = true → someAllows) ∧
      (¬ mixed → (passes s = true ↔ someAllows)) ∧
      (∀ d hFits,
        passes s = true →
          passes (withDelegation s d hFits) = true) ∧
      ∀ s',
        SameDelegations s s' →
          ¬ mixed → passes s' = passes s :=
  delegatedChange_passes (by decide) ownerTarget

def sarahReviews : List DelegationAssignmentCreate :=
  [salesforceDelegation 2 .accessReviewer]

def helpdeskBeforeOwner : List DelegationAssignmentCreate :=
  [salesforceDelegation 6 .helpdeskDelegate,
    salesforceDelegation 6 .applicationOwner]

def ownerBeforeHelpdesk : List DelegationAssignmentCreate :=
  [salesforceDelegation 6 .applicationOwner,
    salesforceDelegation 6 .helpdeskDelegate]

/-
  A helpdesk operator who reviews Salesforce is forbidden
  what the policy allows under the reviewer's role, and a
  helpdesk delegation given before the ownership forbids what
  the same delegations in the other order do not.
-/
theorem not_passes_iff_and_not_order_independent :
    (isGlobalAdmin sarah = false ∧
      (∃ a ∈
          (seededDelegations
            sarahReviews).delegationAssignments.rows,
        a.delegateUserId = sarah.id ∧
          (seededDelegations sarahReviews).isEffective 0 a =
            true ∧
          assignmentMatchesEntitlement a
              ⟨1, "Salesforce User", "user", 1⟩ =
            true ∧
          (evaluateGrantPolicy sarah bob
              ⟨1, "Salesforce User", "user", 1⟩
              ⟨1, "Salesforce", "salesforce"⟩
              (some a.delegationRole.value)).allowed =
            true) ∧
      ((grantBob sarah 1).serve steadyEnvironment
          (seededDelegations sarahReviews)).result =
        .error (.http ⟨403, "Insufficient privileges"⟩)) ∧
      isGlobalAdmin maya = false ∧
        ((grantBob maya 2).serve steadyEnvironment
            (seededDelegations helpdeskBeforeOwner)).result =
          .error
            (.http
              ⟨403,
                "Delegation does not permit administrator " ++
                  "access changes"⟩) ∧
        ((grantBob maya 2).serve steadyEnvironment
            (seededDelegations ownerBeforeHelpdesk)).result =
          .ok () :=
  ⟨⟨by decide, by decide, rfl⟩, by decide, rfl, rfl⟩

end Access

end AccessIQ
