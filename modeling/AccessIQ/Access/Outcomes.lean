import AccessIQ.Access.Routes

/-
  What a grant or revoke request does.

  `AccessOutcome` has one constructor for every way a request
  can end and says what it leaves behind; the properties of
  the two routes are case analyses over it.

  Key definitions include:
    * `AccessChange.Effects`
    * `grantEffects`
    * `revokeEffects`
    * `AccessTarget`
    * `AccessOutcome`

    * `AccessRequest`
    * `serveAccess`
    * `Store.accessPairs`

  Key theorems include:
    * `changeAccess_outcome`
    * `grantAccess_outcome`
    * `revokeAccess_outcome`
    * `accessPairs_of_grantEffect`
    * `accessPairs_of_revokeEffect`
-/

------------------------------------------------------------
-- Effects
------------------------------------------------------------

namespace AccessIQ

namespace Access

open Foundations Python Delegation

variable {α : Type}

/-
  What the two halves of an access change that are its own do
  to the store: `effect` relates the stores around a
  successful write, `blocked` is what can keep the database
  from taking it, and `response` is the answer read from the
  committed store.
-/
structure AccessChange.Effects
    (change : AccessChange α) where
  effect :
    RequestContext → AccessActionRequest → Store →
      AuditEvent → Int → Store → Prop
  blocked : AccessActionRequest → Store → Prop
  response :
    AccessActionRequest → Store → Int →
      Except PyException α
  wp_write :
    ∀ (w : World Question Reply)
      (ctx : RequestContext)
      (data : AccessActionRequest)
      (c s : Store)
      (p : List DomainEvent)
      (event : AuditEvent)
      (post : Post Store DomainEvent PyException Int),
      change.conflict
          (s.findAccessAssignment data.targetUserId
            data.entitlementId) =
        none →
      (∀ n s', ¬ blocked data s →
        effect ctx data s event n s' →
          post (.ok n) ⟨c, s', false, p⟩) →
      (∀ e s',
        (w.mayFail ∨
            s.auditReferencesResolve event = false ∨
            blocked data s) →
          post (.error (.database e)) ⟨c, s', true, p⟩) →
      (change.write ctx data
          (s.findAccessAssignment data.targetUserId
            data.entitlementId)
          event).wp w post ⟨c, s, false, p⟩
  wp_respond :
    ∀ (w : World Question Reply)
      (data : AccessActionRequest)
      (s : Store)
      (p : List DomainEvent)
      (n : Int)
      (post : Post Store DomainEvent PyException α),
      post (response data s n) ⟨s, s, false, p⟩ →
        (change.respond data n).wp w post ⟨s, s, false, p⟩

/- The row a grant adds, before it has a key. -/
def newAccessAssignment
    (ctx : RequestContext)
    (data : AccessActionRequest) :
    AccessAssignment where
  id := 0
  userId := data.targetUserId
  entitlementId := data.entitlementId
  grantedAt := ctx.now

/- A grant adds the pair and its audit event. -/
def GrantEffect
    (ctx : RequestContext)
    (data : AccessActionRequest)
    (s : Store)
    (event : AuditEvent)
    (n : Int)
    (s' : Store) : Prop :=
  ∃ hFits : s.accessAssignments.Fits
      (newAccessAssignment ctx data),
    n = s.accessAssignments.freshId s.dialect.keyPolicy ∧
      s' =
        { s with
          accessAssignments :=
            s.accessAssignments.insert s.dialect.keyPolicy
              (newAccessAssignment ctx data)
              hFits }.withAuditEvent event

/- A revocation removes the pair and adds its audit event. -/
def RevokeEffect
    (data : AccessActionRequest)
    (s : Store)
    (event : AuditEvent)
    (n : Int)
    (s' : Store) : Prop :=
  ∃ a,
    s.findAccessAssignment data.targetUserId
        data.entitlementId =
      some a ∧
    n = a.id ∧
    s' =
      { s.withAuditEvent event with
        accessAssignments :=
          s.accessAssignments.delete a.id }

/- A review item keeps the assignment of the pair alive. -/
def RevokeBlocked
    (data : AccessActionRequest)
    (s : Store) : Prop :=
  s.dialect.enforcesForeignKeys = true ∧
    ∃ a,
      s.findAccessAssignment data.targetUserId
          data.entitlementId =
        some a ∧
      s.accessAssignmentReferenced a.id = true

theorem fits_of_findAccessAssignment_eq_none
    {s : Store}
    (ctx : RequestContext)
    {data : AccessActionRequest}
    (hNone :
      s.findAccessAssignment data.targetUserId
        data.entitlementId = none) :
    s.accessAssignments.Fits
      (newAccessAssignment ctx data) := by
  intro a ha
  have hOther := List.find?_eq_none.mp hNone a ha
  refine decide_eq_false ?_
  simpa [newAccessAssignment] using hOther

/- What `respondGrant` answers. -/
def grantResponse
    (s : Store)
    (n : Int) :
    Except PyException AccessResponse :=
  match s.accessAssignments.get? n with
  | none =>
      .error (.http ⟨404, "Access assignment not found"⟩)
  | some assignment =>
      match s.entitlements.get? assignment.entitlementId with
      | none => .error .attributeError
      | some entitlement =>
          match
            s.applications.get? entitlement.applicationId with
          | none => .error .attributeError
          | some application =>
              .ok
                { id := assignment.id
                  userId := assignment.userId
                  applicationId := application.id
                  application := application.name
                  entitlementId := entitlement.id
                  entitlement := entitlement.name
                  status := "active"
                  grantedAt := assignment.grantedAt }

variable [Platform]

/-
  A grant's foreign keys are those of the user and the
  entitlement it looked up.
-/
def grantEffects : grantChange.Effects where
  effect := GrantEffect
  blocked data s :=
    (s.resolves s.users data.targetUserId &&
      s.resolves s.entitlements data.entitlementId) = false
  response _ s n := grantResponse s n
  wp_write := by
    intro w ctx data c s p event post hConflict hOk hError
    have hNone :
        s.findAccessAssignment data.targetUserId
          data.entitlementId = none := by
      cases hFind : s.findAccessAssignment data.targetUserId
          data.entitlementId with
      | none => rfl
      | some a =>
          rw [hFind] at hConflict
          cases hConflict
    have hFits :=
      fits_of_findAccessAssignment_eq_none ctx hNone
    simp only [grantChange, writeGrant, Program.wp_bind,
      Program.wp_flush, Program.bindPost_ok,
      Program.bindPost_error, databaseError_eq,
      wp_recordAuditEvent, Program.wp_pure]
    refine ⟨fun hFail => hError _ _ (Or.inl hFail), ?_, ?_⟩
    · intro s' n hInsert
      rcases Store.insertInto_eq_ok_iff.mp hInsert with
        ⟨hRefs, hFits', rfl, rfl⟩
      have hFree :
          ¬ (s.resolves s.users data.targetUserId &&
              s.resolves s.entitlements data.entitlementId) =
            false := by
        rw [Bool.not_eq_false]
        exact hRefs
      refine ⟨fun hFail => hError _ _ (Or.inl hFail),
        fun hResolve => hOk _ _ hFree ⟨hFits', rfl, rfl⟩,
        fun hResolve => hError _ _ (Or.inr (Or.inl ?_))⟩
      exact hResolve
    · intro e hInsert
      rcases Store.insertInto_eq_error_iff.mp hInsert with
        ⟨-, hRefused⟩
      refine hError _ _ (Or.inr (Or.inr ?_))
      cases hRefs :
          s.resolves s.users data.targetUserId &&
            s.resolves s.entitlements data.entitlementId with
      | false => rfl
      | true => exact absurd ⟨hRefs, hFits⟩ hRefused
  wp_respond := by
    intro w data s p n post hPost
    unfold grantResponse at hPost
    simp only [grantChange, respondGrant, Program.wp_bind,
      Program.wp_view, Program.bindPost_ok]
    cases hAssignment : s.accessAssignments.get? n with
    | none => simpa [hAssignment] using hPost
    | some assignment =>
        cases hEntitlement :
            s.entitlements.get? assignment.entitlementId with
        | none =>
            simpa [hAssignment, hEntitlement] using hPost
        | some entitlement =>
            cases hApplication :
                s.applications.get?
                  entitlement.applicationId with
            | none =>
                simpa [hAssignment, hEntitlement,
                  hApplication] using hPost
            | some application =>
                simpa [hAssignment, hEntitlement,
                  hApplication] using hPost

def revokeEffects : revokeChange.Effects where
  effect _ := RevokeEffect
  blocked := RevokeBlocked
  response data _ _ :=
    .ok
      { status := "revoked"
        userId := data.targetUserId
        entitlementId := data.entitlementId }
  wp_write := by
    intro w ctx data c s p event post hConflict hOk hError
    cases hFind : s.findAccessAssignment data.targetUserId
        data.entitlementId with
    | none =>
        rw [hFind] at hConflict
        cases hConflict
    | some a =>
        simp only [revokeChange, writeRevoke,
          Program.wp_bind, Program.wp_getOrRaise,
          Program.bindPost_ok, Program.wp_flush_,
          Program.bindPost_error, databaseError_eq,
          Program.wp_pure, reduceCtorEq,
          IsEmpty.forall_iff, true_and, Option.some.injEq,
          forall_eq']
        refine ⟨fun hFail => hError _ _ (Or.inl hFail), ?_,
          ?_⟩
        · intro s' hFlush
          cases hResolve :
              s.auditReferencesResolve event with
          | false =>
              rw [Store.insertAuditEvent_of_not_resolve
                hResolve] at hFlush
              cases hFlush
          | true =>
              rw [Store.insertAuditEvent_of_resolve
                hResolve] at hFlush
              simp only [Except.bind,
                Store.deleteAccessAssignment] at hFlush
              split at hFlush
              · cases hFlush
              · rename_i hDeletable
                cases hFlush
                refine hOk _ _ ?_ ⟨a, hFind, rfl, rfl⟩
                rintro ⟨hEnforces, b, hFindB, hReferenced⟩
                rw [hFind] at hFindB
                cases hFindB
                exact hDeletable ⟨hEnforces, hReferenced⟩
        · intro e hFlush
          cases hResolve :
              s.auditReferencesResolve event with
          | false =>
              exact hError _ _ (Or.inr (Or.inl hResolve))
          | true =>
              rw [Store.insertAuditEvent_of_resolve
                hResolve] at hFlush
              simp only [Except.bind,
                Store.deleteAccessAssignment] at hFlush
              split at hFlush
              · rename_i hBlocked
                exact hError _ _ (Or.inr (Or.inr
                  ⟨hBlocked.1, a, hFind, hBlocked.2⟩))
              · cases hFlush
  wp_respond := by
    intro w data s p n post hPost
    simpa [revokeChange, respondRevoke] using hPost

end Access

end AccessIQ

------------------------------------------------------------
-- Outcomes
------------------------------------------------------------

namespace AccessIQ

namespace Access

open Foundations Python Delegation

/- The rows a request names, as far as they exist. -/
structure AccessTarget
    (s : Store)
    (data : AccessActionRequest) where
  user : User
  entitlement : Entitlement
  application : Application
  user_found :
    s.users.get? data.targetUserId = some user
  entitlement_found :
    s.entitlements.get? data.entitlementId =
      some entitlement
  application_found :
    s.applications.get? entitlement.applicationId =
      some application

/- The rows are those found under their keys. -/
theorem AccessTarget.eq
    {s : Store}
    {data : AccessActionRequest}
    (target target' : AccessTarget s data) :
    target = target' := by
  rcases target with ⟨user, entitlement, application,
    hUser, hEntitlement, hApplication⟩
  rcases target' with ⟨user', entitlement', application',
    hUser', hEntitlement', hApplication'⟩
  cases hUser.symm.trans hUser'
  cases hEntitlement.symm.trans hEntitlement'
  cases hApplication.symm.trans hApplication'
  rfl

/- Only the audit trail differs. -/
def SameButAudit
    (s s' : Store) : Prop :=
  ∃ t, s' = { s with auditEvents := t }

variable {α : Type}
variable [Platform]

theorem AuthorizedAs.sameButAudit
    {ctx : RequestContext}
    {s s' : Store}
    {actor targetUser : User}
    {entitlement : Entitlement}
    {authorization : DelegationAuthorization}
    (hAuthorized :
      AuthorizedAs ctx s actor targetUser entitlement
        authorization s') :
    SameButAudit s s' := by
  cases hAuthorized with
  | globally hGlobal => exact ⟨s.auditEvents, rfl⟩
  | delegated a hLocal hSome => exact ⟨_, rfl⟩

/- The decision a request's policy comes to. -/
def AccessChange.decision
    (change : AccessChange α)
    (actor : User)
    {s : Store}
    {data : AccessActionRequest}
    (target : AccessTarget s data)
    (authorization : DelegationAuthorization) :
    PolicyDecision :=
  change.policy actor target.user target.entitlement
    target.application authorization.delegationRole

/-
  Every way a grant or revoke request can end: its answer,
  the database it leaves and the events it publishes.
-/
inductive AccessOutcome
    (mayFail : Prop)
    (change : AccessChange α)
    (effects : change.Effects)
    (ctx : RequestContext)
    (data : AccessActionRequest)
    (actor : User)
    (s : Store) :
    Except PyException α → Store → List DomainEvent → Prop
  | userNotFound
      (hNone : s.users.get? data.targetUserId = none) :
      AccessOutcome mayFail change effects ctx data actor s
        (.error (.http ⟨404, "User not found"⟩)) s []
  | entitlementNotFound
      (hNone :
        s.entitlements.get? data.entitlementId = none) :
      AccessOutcome mayFail change effects ctx data actor s
        (.error (.http ⟨404, "Entitlement not found"⟩)) s []
  | applicationNotFound
      (entitlement : Entitlement)
      (hSome :
        s.entitlements.get? data.entitlementId =
          some entitlement)
      (hNone :
        s.applications.get? entitlement.applicationId =
          none) :
      AccessOutcome mayFail change effects ctx data actor s
        (.error .attributeError) s []
  | databaseFailed
      (target : AccessTarget s data)
      (e : PyException)
      (hError :
        e = databaseFailure ∨ ∃ error, e = .database error)
      (hReason :
        mayFail ∨ s.resolves s.users actor.id = false ∨
          ∃ authorization s₁,
            AuthorizedAs ctx s actor target.user
                target.entitlement authorization s₁ ∧
              change.conflict
                  (s.findAccessAssignment data.targetUserId
                    data.entitlementId) =
                none ∧
              (change.decision actor target
                authorization).allowed = true ∧
              effects.blocked data s₁) :
      AccessOutcome mayFail change effects ctx data actor s
        (.error e) s []
  | unauthorized
      (target : AccessTarget s data)
      (hUnauthorized :
        Unauthorized ctx s actor target.entitlement) :
      AccessOutcome mayFail change effects ctx data actor s
        (.error (.http ⟨403, "Insufficient privileges"⟩))
        (s.withAuditEvent
          (authorizationAudit ctx actor target.user
            target.entitlement .delegatedActionDenied
            .denied deniedAuthorization))
        [delegatedAccessDenied ctx actor target.user
          target.entitlement change.action
          deniedAuthorization.reason none]
  | conflict
      (target : AccessTarget s data)
      (authorization : DelegationAuthorization)
      (s₁ : Store)
      (response : HttpException)
      (hAuthorized :
        AuthorizedAs ctx s actor target.user
          target.entitlement authorization s₁)
      (hConflict :
        change.conflict
            (s.findAccessAssignment data.targetUserId
              data.entitlementId) =
          some response) :
      AccessOutcome mayFail change effects ctx data actor s
        (.error (.http response))
        (s₁.withAuditEvent
          (change.audit ctx actor data target.application
            .denied response.detail))
        (recordDelegatedDenial ctx authorization actor
          target.user target.entitlement change.action
          response.detail)
  | denied
      (target : AccessTarget s data)
      (authorization : DelegationAuthorization)
      (s₁ : Store)
      (hAuthorized :
        AuthorizedAs ctx s actor target.user
          target.entitlement authorization s₁)
      (hConflict :
        change.conflict
            (s.findAccessAssignment data.targetUserId
              data.entitlementId) =
          none)
      (hDenied :
        (change.decision actor target
          authorization).allowed = false) :
      AccessOutcome mayFail change effects ctx data actor s
        (.error
          (.http
            ⟨403,
              (change.decision actor target
                authorization).reason⟩))
        (s₁.withAuditEvent
          (change.audit ctx actor data target.application
            .denied
            (change.decision actor target
              authorization).reason))
        (recordDelegatedDenial ctx authorization actor
          target.user target.entitlement change.action
          (change.decision actor target
            authorization).reason)
  | changed
      (target : AccessTarget s data)
      (authorization : DelegationAuthorization)
      (s₁ s' : Store)
      (n : Int)
      (hAuthorized :
        AuthorizedAs ctx s actor target.user
          target.entitlement authorization s₁)
      (hConflict :
        change.conflict
            (s.findAccessAssignment data.targetUserId
              data.entitlementId) =
          none)
      (hAllowed :
        (change.decision actor target
          authorization).allowed = true)
      (hEffect :
        effects.effect ctx data s₁
          (change.audit ctx actor data target.application
            .succeeded
            (change.reason
              (change.decision actor target
                authorization)))
          n s')
      (hFree : ¬ effects.blocked data s₁) :
      AccessOutcome mayFail change effects ctx data actor s
        (effects.response data s' n) s'
        (recordDelegatedSuccess ctx authorization actor
          target.user target.entitlement change.action)

/-
  With the rows it names found, a request's audit events lack
  at most their requester.
-/
omit [Platform] in
theorem AccessTarget.not_resolves
    {s s₁ : Store}
    {data : AccessActionRequest}
    (target : AccessTarget s data)
    {actor : User}
    (hSame : SameButAudit s s₁)
    (hResolve :
      ¬ AccessReferencesResolve s₁ actor target.user
        target.entitlement) :
    s.resolves s.users actor.id = false := by
  rcases hSame with ⟨t, rfl⟩
  by_contra hActor
  rw [Bool.not_eq_false] at hActor
  have hUser : target.user.id = data.targetUserId :=
    Table.id_of_get? target.user_found
  have hEntitlement :
      target.entitlement.id = data.entitlementId :=
    Table.id_of_get? target.entitlement_found
  refine hResolve ⟨hActor, ?_, ?_, ?_⟩
  · rw [hUser]
    exact Store.resolves_of_get? target.user_found
  · exact Store.resolves_of_get? target.application_found
  · rw [hEntitlement]
    exact Store.resolves_of_get? target.entitlement_found

/- The same of the audit event of the change itself. -/
omit [Platform] in
theorem AccessTarget.not_resolves_audit
    {change : AccessChange α}
    {s s₁ : Store}
    {data : AccessActionRequest}
    (target : AccessTarget s data)
    {ctx : RequestContext}
    {actor : User}
    {result : AuditResult}
    {reason : String}
    (hSame : SameButAudit s s₁)
    (hResolve :
      s₁.auditReferencesResolve
          (change.audit ctx actor data target.application
            result reason) =
        false) :
    s.resolves s.users actor.id = false := by
  have hUser : target.user.id = data.targetUserId :=
    Table.id_of_get? target.user_found
  have hEntitlement :
      target.entitlement.id = data.entitlementId :=
    Table.id_of_get? target.entitlement_found
  have hApplication :
      target.application.id =
        target.entitlement.applicationId :=
    Table.id_of_get? target.application_found
  refine target.not_resolves hSame fun hRefs => ?_
  rw [AccessChange.audit, ← hUser, ← hEntitlement,
    hApplication,
    auditReferencesResolve_newAuditEvent.mpr hRefs]
    at hResolve
  cases hResolve

/- Refusing a request commits its denied audit event. -/
theorem wp_refuseChange
    {w : World Question Reply}
    {change : AccessChange α}
    {effects : change.Effects}
    {ctx : RequestContext}
    {data : AccessActionRequest}
    {actor : User}
    {s s₁ : Store}
    (target : AccessTarget s data)
    {authorization : DelegationAuthorization}
    {response : HttpException}
    (hSame : SameButAudit s s₁)
    (hRefused :
      AccessOutcome w.mayFail change effects ctx data actor s
        (.error (.http response))
        (s₁.withAuditEvent
          (change.audit ctx actor data target.application
            .denied response.detail))
        (recordDelegatedDenial ctx authorization actor
          target.user target.entitlement change.action
          response.detail)) :
    (refuseChange change ctx data actor target.user
        target.entitlement target.application authorization
        response).wp w
      (fun r m =>
        AccessOutcome w.mayFail change effects ctx data
          actor s r m.committed m.published)
      ⟨s, s₁, false, []⟩ := by
  simp only [refuseChange, Program.wp_bind,
    wp_guardDatabase, wp_recordAuditEvent, guardPost,
    Program.bindPost_ok, Program.bindPost_error,
    Program.wp_commit, Program.wp_publish,
    Program.wp_throw, databaseError_eq]
  refine ⟨fun hFail => ?_, fun _ => ⟨fun hFail => ?_, ?_⟩,
    fun hResolve => ?_⟩
  · exact .databaseFailed target _ (Or.inl rfl)
      (Or.inl hFail)
  · exact .databaseFailed target _ (Or.inl rfl)
      (Or.inl hFail)
  · exact hRefused
  · exact .databaseFailed target _ (Or.inl rfl)
      (Or.inr (Or.inl
        (target.not_resolves_audit hSame hResolve)))

/- A permitted change is written, committed and answered. -/
theorem wp_writeChange
    {w : World Question Reply}
    {change : AccessChange α}
    (effects : change.Effects)
    {ctx : RequestContext}
    {data : AccessActionRequest}
    {actor : User}
    {s s₁ : Store}
    (target : AccessTarget s data)
    {authorization : DelegationAuthorization}
    (hAuthorized :
      AuthorizedAs ctx s actor target.user target.entitlement
        authorization s₁)
    (hConflict :
      change.conflict
          (s.findAccessAssignment data.targetUserId
            data.entitlementId) =
        none)
    (hDecision :
      (change.decision actor target authorization).allowed =
        true) :
    (do
      let id ← guardDatabase do
        let id ← change.write ctx data
          (s₁.findAccessAssignment data.targetUserId
            data.entitlementId)
          (change.audit ctx actor data target.application
            .succeeded
            (change.reason
              (change.decision actor target authorization)))
        Program.commit
        return id
      Program.publish
        (recordDelegatedSuccess ctx authorization actor
          target.user target.entitlement change.action)
      change.respond data id).wp w
      (fun r m =>
        AccessOutcome w.mayFail change effects ctx data
          actor s r m.committed m.published)
      ⟨s, s₁, false, []⟩ := by
  have hSame := AuthorizedAs.sameButAudit hAuthorized
  have hConflict₁ :
      change.conflict
          (s₁.findAccessAssignment data.targetUserId
            data.entitlementId) =
        none := by
    rcases hSame with ⟨t, rfl⟩
    exact hConflict
  simp only [Program.wp_bind, wp_guardDatabase]
  refine effects.wp_write _ _ _ _ _ _ _ _ hConflict₁ ?_ ?_
  · intro n s' hFree hEffect
    simp only [Program.bindPost_ok, Program.wp_bind,
      Program.wp_commit, Program.bindPost_error, guardPost,
      databaseError_eq, Program.wp_pure, Program.wp_publish,
      List.nil_append]
    refine ⟨fun hFail => ?_, ?_⟩
    · exact .databaseFailed target _ (Or.inl rfl)
        (Or.inl hFail)
    · refine effects.wp_respond _ _ _ _ _ _ ?_
      exact .changed target authorization s₁ s' n hAuthorized
        hConflict hDecision hEffect hFree
  · intro e s' hReason
    refine .databaseFailed target _ (Or.inl rfl) ?_
    rcases hReason with hFail | hResolve | hBlocked
    · exact Or.inl hFail
    · exact Or.inr (Or.inl
        (target.not_resolves_audit hSame hResolve))
    · exact Or.inr (Or.inr
        ⟨authorization, s₁, hAuthorized, hConflict, hDecision,
          hBlocked⟩)

/- A request ends in one of the ways `AccessOutcome` lists. -/
theorem changeAccess_outcome
    {change : AccessChange α}
    (effects : change.Effects)
    (env : Environment)
    (s : Store)
    (ctx : RequestContext)
    (data : AccessActionRequest)
    (actor : User) :
    let served :=
      (changeAccess change ctx data actor).serve env s
    AccessOutcome env.world.mayFail change effects ctx data
      actor s served.result served.committed
      served.published := by
  refine Program.serve_of_wp env.conforms_world ?_
  simp only [changeAccess, Moment.start, Program.wp_bind,
    Program.wp_view, Program.bindPost_ok,
    Program.wp_getOrRaise, Program.bindPost_error]
  refine ⟨fun hNone => .userNotFound hNone, ?_⟩
  intro user hUser
  refine ⟨fun hNone => .entitlementNotFound hNone, ?_⟩
  intro entitlement hEntitlement
  refine ⟨fun hNone =>
    .applicationNotFound entitlement hEntitlement hNone, ?_⟩
  intro application hApplication
  let target : AccessTarget s data :=
    { user := user
      entitlement := entitlement
      application := application
      user_found := hUser
      entitlement_found := hEntitlement
      application_found := hApplication }
  have hFailed :
      ∀ e, (env.world.mayFail ∨
          ¬ AccessReferencesResolve s actor user
            entitlement) →
        AccessOutcome env.world.mayFail change effects ctx
          data actor s (.error (.database e)) s [] := by
    intro e hReason
    refine .databaseFailed target _ (Or.inr ⟨e, rfl⟩) ?_
    rcases hReason with hFail | hResolve
    · exact Or.inl hFail
    · exact Or.inr (Or.inl
        (target.not_resolves ⟨_, rfl⟩ hResolve))
  refine wp_authorizeAccessAction ?_ ?_ hFailed
  · intro authorization s₁ hAuthorized
    have hSame := AuthorizedAs.sameButAudit hAuthorized
    have hAllowed : authorization.allowed = true := by
      cases hAuthorized <;> rfl
    have hFind :
        s₁.findAccessAssignment data.targetUserId
            data.entitlementId =
          s.findAccessAssignment data.targetUserId
            data.entitlementId := by
      rcases hSame with ⟨t, rfl⟩
      rfl
    simp only [Program.bindPost_ok, hAllowed,
      Bool.true_eq_false, if_false, Program.wp_bind,
      Program.wp_view]
    cases hConflict :
        change.conflict
          (s.findAccessAssignment data.targetUserId
            data.entitlementId) with
    | some response =>
        simp only [hFind, hConflict]
        exact wp_refuseChange target hSame
          (.conflict target authorization s₁ response
            hAuthorized hConflict)
    | none =>
        simp only [hFind, hConflict]
        cases hDecision :
            (change.decision actor target
              authorization).allowed with
        | false =>
            have hPolicy :
                (change.policy actor user entitlement
                  application
                  authorization.delegationRole).allowed =
                  false :=
              hDecision
            rw [if_pos hPolicy]
            exact wp_refuseChange target hSame
              (.denied target authorization s₁ hAuthorized
                hConflict hDecision)
        | true =>
            have hPolicy :
                ¬ (change.policy actor user entitlement
                  application
                  authorization.delegationRole).allowed =
                  false := by
              rw [Bool.not_eq_false]
              exact hDecision
            rw [if_neg hPolicy, ← hFind]
            exact
              wp_writeChange effects target hAuthorized
                hConflict hDecision
  · intro hUnauthorized
    simp only [Program.bindPost_ok, deniedAuthorization,
      if_true, Program.wp_bind, wp_guardDatabase,
      Program.wp_commit, guardPost, databaseError_eq,
      Program.bindPost_error, Program.wp_publish,
      raiseHttp, Program.wp_throw, List.nil_append]
    refine ⟨fun hFail => ?_, ?_⟩
    · exact .databaseFailed target _ (Or.inl rfl)
        (Or.inl hFail)
    · exact .unauthorized target hUnauthorized

/- A successful write is answered. -/
def AccessChange.Effects.Answers
    {change : AccessChange α}
    (effects : change.Effects) : Prop :=
  ∀ {s s₁ s' : Store} {ctx : RequestContext}
    {data : AccessActionRequest} {event : AuditEvent}
    {n : Int},
    AccessTarget s data → SameButAudit s s₁ →
      effects.effect ctx data s₁ event n s' →
        ∃ answer, effects.response data s' n = .ok answer

theorem grantEffects_answers :
    AccessChange.Effects.Answers grantEffects := by
  rintro s s₁ s' ctx data event n target ⟨t, rfl⟩
    ⟨hFits, rfl, rfl⟩
  simp [grantEffects, grantResponse, Store.withAuditEvent,
    Table.get?_insert, newAccessAssignment, Row.withId,
    target.entitlement_found, target.application_found]

theorem revokeEffects_answers :
    AccessChange.Effects.Answers revokeEffects :=
  fun _ _ _ => ⟨_, rfl⟩

end Access

end AccessIQ

------------------------------------------------------------
-- Requests
------------------------------------------------------------

namespace AccessIQ

namespace Access

open Foundations Python Delegation

inductive AccessKind where
  | grant
  | revoke
  deriving DecidableEq, Repr

/- A grant or revoke request of an actor. -/
structure AccessRequest where
  kind : AccessKind
  ctx : RequestContext
  data : AccessActionRequest
  actor : User
  deriving DecidableEq, Repr

variable [Platform]

/-
  A served request, without the body of a successful answer.
-/
def AccessRequest.serve
    (request : AccessRequest)
    (env : Environment)
    (s : Store) :
    Response Unit :=
  match request.kind with
  | .grant =>
      let served :=
        (grantAccess request.ctx request.data
          request.actor).serve env s
      { served with
        result := served.result.map fun _ => () }
  | .revoke =>
      let served :=
        (revokeAccess request.ctx request.data
          request.actor).serve env s
      { served with
        result := served.result.map fun _ => () }

/- The database after one access request. -/
def serveAccess
    (s : Store)
    (request : AccessRequest × Environment) :
    Store :=
  (request.1.serve request.2 s).committed

theorem grantAccess_outcome
    (env : Environment)
    (s : Store)
    (ctx : RequestContext)
    (data : AccessActionRequest)
    (actor : User) :
    let served := (grantAccess ctx data actor).serve env s
    AccessOutcome env.world.mayFail grantChange grantEffects
      ctx data actor s served.result served.committed
      served.published :=
  changeAccess_outcome grantEffects env s ctx data actor

theorem revokeAccess_outcome
    (env : Environment)
    (s : Store)
    (ctx : RequestContext)
    (data : AccessActionRequest)
    (actor : User) :
    let served := (revokeAccess ctx data actor).serve env s
    AccessOutcome env.world.mayFail revokeChange
      revokeEffects ctx data actor s served.result
      served.committed served.published :=
  changeAccess_outcome revokeEffects env s ctx data actor

/-
  What neither the audit trail nor the assignments are part
  of stays the same.
-/
theorem serveAccess_frame
    {β : Type}
    (f : Store → β)
    (hFrame :
      ∀ (s : Store) events assignments,
        f { s with
            auditEvents := events
            accessAssignments := assignments } =
          f s)
    (s : Store)
    (request : AccessRequest × Environment) :
    f (serveAccess s request) = f s := by
  have hSame : ∀ {s₁ : Store}, SameButAudit s s₁ →
      ∀ events assignments,
        f { s₁ with
            auditEvents := events
            accessAssignments := assignments } =
          f s := by
    rintro s₁ ⟨t, rfl⟩ events assignments
    exact hFrame s events assignments
  have hOutcome :
      ∀ {α : Type} {mayFail : Prop}
        {change : AccessChange α} {effects : change.Effects}
        {ctx : RequestContext} {data : AccessActionRequest}
        {actor : User} {s' : Store}
        {result : Except PyException α}
        {events : List DomainEvent},
        (∀ {ctx data s₁ event n s₂},
          effects.effect ctx data s₁ event n s₂ →
            ∃ events assignments,
              s₂ =
                { s₁ with
                  auditEvents := events
                  accessAssignments := assignments }) →
          AccessOutcome mayFail change effects ctx data
              actor s result s' events →
            f s' = f s := by
    intro α mayFail change effects ctx data actor s' result
      events hEffect hOutcome
    cases hOutcome with
    | userNotFound => rfl
    | entitlementNotFound => rfl
    | applicationNotFound => rfl
    | databaseFailed => rfl
    | unauthorized => exact hSame ⟨s.auditEvents, rfl⟩ _ _
    | conflict target authorization s₁ response
        hAuthorized =>
        exact hSame (AuthorizedAs.sameButAudit hAuthorized)
          _ _
    | denied target authorization s₁ hAuthorized =>
        exact hSame (AuthorizedAs.sameButAudit hAuthorized)
          _ _
    | changed target authorization s₁ _ n hAuthorized
        hConflict hAllowed hDone =>
        rcases hEffect hDone with ⟨events, assignments, rfl⟩
        exact hSame (AuthorizedAs.sameButAudit hAuthorized)
          _ _
  rcases request with ⟨⟨kind, ctx, data, actor⟩, env⟩
  cases kind with
  | grant =>
      refine hOutcome ?_
        (grantAccess_outcome env s ctx data actor)
      rintro ctx data s₁ event n s₂ ⟨hFits, -, rfl⟩
      exact ⟨_, _, rfl⟩
  | revoke =>
      refine hOutcome ?_
        (revokeAccess_outcome env s ctx data actor)
      rintro ctx data s₁ event n s₂ ⟨a, -, -, rfl⟩
      exact ⟨_, _, rfl⟩

end Access

end AccessIQ

------------------------------------------------------------
-- Assigned Pairs
------------------------------------------------------------

namespace AccessIQ

open Foundations Access

/- The users and the entitlements assigned to them. -/
def Store.accessPairs
    (s : Store) :
    Set (Int × Int) :=
  { pair | ∃ a ∈ s.accessAssignments.rows,
      a.userId = pair.1 ∧ a.entitlementId = pair.2 }

namespace Access

/- The pair a request names. -/
def AccessActionRequest.pair
    (data : AccessActionRequest) :
    Int × Int :=
  (data.targetUserId, data.entitlementId)

theorem pair_mem_accessPairs_iff
    {s : Store}
    {data : AccessActionRequest} :
    data.pair ∈ s.accessPairs ↔
      s.findAccessAssignment data.targetUserId
          data.entitlementId ≠
        none := by
  rw [Ne, Store.findAccessAssignment, List.find?_eq_none]
  simp [Store.accessPairs, AccessActionRequest.pair]

theorem findAccessAssignment_spec
    {s : Store}
    {data : AccessActionRequest}
    {a : AccessAssignment}
    (hFind :
      s.findAccessAssignment data.targetUserId
        data.entitlementId = some a) :
    a ∈ s.accessAssignments.rows ∧
      a.userId = data.targetUserId ∧
      a.entitlementId = data.entitlementId := by
  have hMem := List.mem_of_find?_eq_some hFind
  have hTest := List.find?_some hFind
  simp only [Bool.and_eq_true, beq_iff_eq] at hTest
  exact ⟨hMem, hTest⟩

/- There is one assignment for a pair at most. -/
theorem eq_of_same_pair
    {s : Store}
    {a b : AccessAssignment}
    (ha : a ∈ s.accessAssignments.rows)
    (hb : b ∈ s.accessAssignments.rows)
    (hUser : a.userId = b.userId)
    (hEntitlement : a.entitlementId = b.entitlementId) :
    a = b := by
  by_contra hNe
  have hFree :=
    s.accessAssignments.conflicts_eq_false_of_ne ha hb hNe
  exact of_decide_eq_false hFree ⟨hUser, hEntitlement⟩

/- A grant adds exactly its pair. -/
theorem accessPairs_of_grantEffect
    {ctx : RequestContext}
    {data : AccessActionRequest}
    {s s' : Store}
    {event : AuditEvent}
    {n : Int}
    (hEffect : GrantEffect ctx data s event n s') :
    s'.accessPairs = insert data.pair s.accessPairs := by
  rcases hEffect with ⟨hFits, -, rfl⟩
  ext ⟨u, e⟩
  change
    (∃ a ∈ (s.accessAssignments.insert _ _ hFits).rows,
      a.userId = u ∧ a.entitlementId = e) ↔ _
  rw [Set.mem_insert_iff]
  constructor
  · rintro ⟨a, ha, hUser, hEntitlement⟩
    rcases (Table.mem_insert _ _ hFits).mp ha with ha | rfl
    · exact Or.inr ⟨a, ha, hUser, hEntitlement⟩
    · exact Or.inl
        (Prod.ext hUser.symm hEntitlement.symm)
  · rintro (hPair | ⟨a, ha, hUser, hEntitlement⟩)
    · cases hPair
      exact ⟨_, (Table.mem_insert _ _ hFits).mpr
        (Or.inr rfl), rfl, rfl⟩
    · exact ⟨a, (Table.mem_insert _ _ hFits).mpr
        (Or.inl ha), hUser, hEntitlement⟩

/- A revocation removes exactly its pair. -/
theorem accessPairs_of_revokeEffect
    {data : AccessActionRequest}
    {s s' : Store}
    {event : AuditEvent}
    {n : Int}
    (hEffect : RevokeEffect data s event n s') :
    s'.accessPairs = s.accessPairs \ {data.pair} := by
  rcases hEffect with ⟨a, hFind, -, rfl⟩
  rcases findAccessAssignment_spec hFind with
    ⟨ha, hUserA, hEntitlementA⟩
  ext ⟨u, e⟩
  change
    (∃ b ∈ (s.accessAssignments.delete a.id).rows,
      b.userId = u ∧ b.entitlementId = e) ↔ _
  rw [Set.mem_sdiff, Set.mem_singleton_iff]
  constructor
  · rintro ⟨b, hb, hUser, hEntitlement⟩
    rcases s.accessAssignments.mem_delete.mp hb with
      ⟨hb, hNe⟩
    refine ⟨⟨b, hb, hUser, hEntitlement⟩, ?_⟩
    intro hPair
    cases hPair
    have hEq : b = a :=
      eq_of_same_pair hb ha
        (hUser.trans hUserA.symm)
        (hEntitlement.trans hEntitlementA.symm)
    exact hNe (congrArg Row.id hEq)
  · rintro ⟨⟨b, hb, hUser, hEntitlement⟩, hPair⟩
    refine ⟨b, s.accessAssignments.mem_delete.mpr
      ⟨hb, fun hId => hPair ?_⟩, hUser, hEntitlement⟩
    have hEq : b = a :=
      s.accessAssignments.eq_of_mem_of_id_eq hb ha hId
    subst hEq
    exact Prod.ext (hUser.symm.trans hUserA)
      (hEntitlement.symm.trans hEntitlementA)

end Access

end AccessIQ
