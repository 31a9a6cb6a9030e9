import AccessIQ.Access.Outcomes

/-
  No escalation through grant or revoke.

  A request that changes the assignments comes from an active
  actor who may change the access: a global administrator, or
  a delegate whose effective assignment covers the
  entitlement with a sufficient role.

  Key definitions include:
    * `MayChange`
    * `Justified`

  Key theorems include:
    * `mayChange_of_authorizedAs`
    * `accessRequest_justified`
-/

------------------------------------------------------------
-- Who May Change An Access
------------------------------------------------------------

namespace AccessIQ

namespace Access

open Foundations Python Delegation

variable [Platform]

/-
  At a time, an actor may change the access to an
  entitlement.
-/
inductive MayChange
    (s : Store)
    (now : Timestamp)
    (actor : User)
    (entitlement : Entitlement) : Prop
  | globally
      (hRole :
        normalizeOperatorRole actor.operatorRole =
            "security_admin" ∨
          normalizeOperatorRole actor.operatorRole =
            "iam_admin") :
      MayChange s now actor entitlement
  | delegated
      (a : DelegationAssignment)
      (hMem : a ∈ s.delegationAssignments.rows)
      (hDelegate : a.delegateUserId = actor.id)
      (hActive : a.active = true)
      (hUnexpired :
        ∀ expiresAt, a.expiresAt = some expiresAt →
          s.dialect.bindDateTime (DateTime.utc now) <
            expiresAt)
      (hRole :
        a.delegationRole = .applicationOwner ∨
          a.delegationRole = .applicationAdministrator ∨
          a.delegationRole = .helpdeskDelegate)
      (hScope :
        (a.scopeType = .entitlement ∧
            a.scopeId = entitlement.id) ∨
          (a.scopeType = .application ∧
            a.scopeId = entitlement.applicationId))
      (hAdministrator :
        Platform.lower entitlement.slug = "administrator" →
          a.delegationRole = .applicationOwner ∨
            a.delegationRole = .applicationAdministrator) :
      MayChange s now actor entitlement

/-
  Authorization and policy together let only those pass who
  may change the access.
-/
theorem mayChange_of_authorizedAs
    {ctx : RequestContext}
    {s s₁ : Store}
    {actor targetUser : User}
    {entitlement : Entitlement}
    {authorization : DelegationAuthorization}
    (hAuthorized :
      AuthorizedAs ctx s actor targetUser entitlement
        authorization s₁)
    (hRole :
      RoleMayChange
        (normalizeOperatorRole actor.operatorRole)
        (isAdministratorEntitlement entitlement = true)
        (normalizeDelegationRole
          authorization.delegationRole)) :
    MayChange s ctx.now actor entitlement := by
  cases hAuthorized with
  | globally hGlobal =>
      refine .globally ?_
      simpa [isGlobalAdmin, globalAdminRoles] using hGlobal
  | delegated a hLocal hSome =>
      have hPermits := permits_of_permittingAssignment hSome
      have hEffective := hPermits.effective
      simp only [Store.isEffective, Bool.and_eq_true]
        at hEffective
      have hNormal :
          normalizeDelegationRole
              (delegatedAuthorization a).delegationRole =
            some a.delegationRole.value :=
        normalizeDelegationRole_value a.delegationRole
      rw [hNormal] at hRole
      refine .delegated a hPermits.mem hPermits.delegate
        hEffective.1 ?_ hPermits.role_cases
        hPermits.scope_cases ?_
      · intro expiresAt hExpires
        have hLater := hEffective.2
        rw [hExpires] at hLater
        simpa using hLater
      · intro hSlug
        rw [← value_mem_delegatedAdminPolicyRoles]
        refine hRole.1 ?_
        simpa [isAdministratorEntitlement] using hSlug

end Access

end AccessIQ

------------------------------------------------------------
-- Justified Changes
------------------------------------------------------------

namespace AccessIQ

namespace Access

open Foundations Python Delegation

variable [Platform]

/-
  A change of the assignments is justified: the actor is
  active and may change the access, a granted user is active
  and, for the finance portal, in the Finance department, and
  exactly the requested pair is added or removed.
-/
structure Justified
    (request : AccessRequest)
    (s s' : Store) : Prop where
  actor_active : request.actor.active = true
  target :
    ∃ target : AccessTarget s request.data,
      MayChange s request.ctx.now request.actor
          target.entitlement ∧
        (request.kind = .grant →
          target.user.active = true ∧
            (Platform.lower target.application.slug =
                "finance-portal" →
              Platform.lower target.user.department =
                "finance"))
  change :
    match request.kind with
    | .grant =>
        request.data.pair ∉ s.accessPairs ∧
          s'.accessPairs =
            insert request.data.pair s.accessPairs
    | .revoke =>
        request.data.pair ∈ s.accessPairs ∧
          s'.accessPairs =
            s.accessPairs \ {request.data.pair}

/- What changes no assignment changes no pair. -/
omit [Platform] in
theorem accessPairs_of_sameButAudit
    {s s₁ : Store}
    (hSame : SameButAudit s s₁) :
    s₁.accessPairs = s.accessPairs := by
  rcases hSame with ⟨t, rfl⟩
  rfl

theorem grant_justified
    {env : Environment}
    {s : Store}
    {ctx : RequestContext}
    {data : AccessActionRequest}
    {actor : User}
    {r : Except PyException AccessResponse}
    {s' : Store}
    {events : List DomainEvent}
    (hOutcome :
      AccessOutcome env.world.mayFail grantChange
        grantEffects ctx data actor s r s' events) :
    s'.accessAssignments = s.accessAssignments ∨
      Justified ⟨.grant, ctx, data, actor⟩ s s' := by
  cases hOutcome with
  | userNotFound => exact Or.inl rfl
  | entitlementNotFound => exact Or.inl rfl
  | applicationNotFound => exact Or.inl rfl
  | databaseFailed => exact Or.inl rfl
  | unauthorized => exact Or.inl rfl
  | conflict target authorization s₁ response hAuthorized =>
      rcases AuthorizedAs.sameButAudit hAuthorized with
        ⟨t, rfl⟩
      exact Or.inl rfl
  | denied target authorization s₁ hAuthorized =>
      rcases AuthorizedAs.sameButAudit hAuthorized with
        ⟨t, rfl⟩
      exact Or.inl rfl
  | changed target authorization s₁ _ n hAuthorized
      hConflict hAllowed hEffect =>
      have hPolicy :=
        (evaluateGrantPolicy_allowed_iff _ _ _ _ _).mp
          hAllowed
      have hSame := AuthorizedAs.sameButAudit hAuthorized
      refine Or.inr
        { actor_active := hPolicy.2.1
          target :=
            ⟨target,
              mayChange_of_authorizedAs hAuthorized
                hPolicy.2.2.2,
              fun _ => ⟨hPolicy.1, hPolicy.2.2.1⟩⟩
          change := ⟨?_, ?_⟩ }
      · rw [pair_mem_accessPairs_iff, not_not]
        cases hFind :
            s.findAccessAssignment data.targetUserId
              data.entitlementId with
        | none => rfl
        | some a =>
            rw [hFind] at hConflict
            cases hConflict
      · rw [← accessPairs_of_sameButAudit hSame]
        exact accessPairs_of_grantEffect hEffect

theorem revoke_justified
    {env : Environment}
    {s : Store}
    {ctx : RequestContext}
    {data : AccessActionRequest}
    {actor : User}
    {r : Except PyException RevokeAccessResponse}
    {s' : Store}
    {events : List DomainEvent}
    (hOutcome :
      AccessOutcome env.world.mayFail revokeChange
        revokeEffects ctx data actor s r s' events) :
    s'.accessAssignments = s.accessAssignments ∨
      Justified ⟨.revoke, ctx, data, actor⟩ s s' := by
  cases hOutcome with
  | userNotFound => exact Or.inl rfl
  | entitlementNotFound => exact Or.inl rfl
  | applicationNotFound => exact Or.inl rfl
  | databaseFailed => exact Or.inl rfl
  | unauthorized => exact Or.inl rfl
  | conflict target authorization s₁ response hAuthorized =>
      rcases AuthorizedAs.sameButAudit hAuthorized with
        ⟨t, rfl⟩
      exact Or.inl rfl
  | denied target authorization s₁ hAuthorized =>
      rcases AuthorizedAs.sameButAudit hAuthorized with
        ⟨t, rfl⟩
      exact Or.inl rfl
  | changed target authorization s₁ _ n hAuthorized
      hConflict hAllowed hEffect =>
      have hPolicy :=
        (evaluateRevokePolicy_allowed_iff actor target.user
          target.entitlement target.application
          authorization.delegationRole).mp hAllowed
      have hSame := AuthorizedAs.sameButAudit hAuthorized
      refine Or.inr
        { actor_active := hPolicy.1
          target :=
            ⟨target,
              mayChange_of_authorizedAs hAuthorized
                hPolicy.2,
              fun hGrant => nomatch hGrant⟩
          change := ⟨?_, ?_⟩ }
      · rw [pair_mem_accessPairs_iff]
        intro hNone
        rw [hNone] at hConflict
        cases hConflict
      · rw [← accessPairs_of_sameButAudit hSame]
        exact accessPairs_of_revokeEffect hEffect

/-
  Whatever the store, the time, the actor and the request, a
  grant or revoke leaves the assignments as they are or makes
  a justified change.
-/
theorem accessRequest_justified
    (s : Store)
    (request : AccessRequest)
    (env : Environment) :
    let s' := (request.serve env s).committed
    s'.accessAssignments = s.accessAssignments ∨
      Justified request s s' := by
  rcases request with ⟨kind, ctx, data, actor⟩
  cases kind with
  | grant =>
      exact grant_justified
        (grantAccess_outcome env s ctx data actor)
  | revoke =>
      exact revoke_justified
        (revokeAccess_outcome env s ctx data actor)

end Access

end AccessIQ
