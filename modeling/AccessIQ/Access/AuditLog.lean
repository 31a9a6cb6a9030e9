import AccessIQ.Foundations.Runs
import AccessIQ.Access.Outcomes
import AccessIQ.Seed

/-
  The audit trail is a complete log of access.

  From no assignments and no audited changes, a pair is
  assigned exactly when its last successful change in the
  audit trail is a grant.  A request that is refused leaves
  the assignments as they are and adds a denied row.

  Key definitions include:
    * `Store.lastAccessChange`
    * `LogComplete`
    * `Refused`
    * `RefusalLogged`

  Key theorems include:
    * `logComplete_serveAccess`
    * `refusalLogged_serve`
    * `accessLog_complete`
-/

------------------------------------------------------------
-- Changes In The Audit Trail
------------------------------------------------------------

namespace AccessIQ

open Foundations Access

/- An audit event records a successful change of a pair. -/
def isAccessChange
    (pair : Int × Int)
    (event : AuditEvent) :
    Bool :=
  (event.action == .grant || event.action == .revoke) &&
    event.result == .succeeded &&
    event.targetUserId == pair.1 &&
    event.entitlementId == pair.2

/- The last successful change of a pair. -/
def Store.lastAccessChange
    (s : Store)
    (pair : Int × Int) :
    Option AuditEvent :=
  s.auditEvents.findLast? (isAccessChange pair)

/- A new audit event is the last one about its pair. -/
theorem Store.lastAccessChange_withAuditEvent
    (s : Store)
    (event : AuditEvent)
    (pair : Int × Int) :
    (s.withAuditEvent event).lastAccessChange pair =
      if isAccessChange pair event = true then
        some
          { event with
            id := s.auditEvents.freshId
              s.dialect.keyPolicy }
      else
        s.lastAccessChange pair :=
  s.auditEvents.findLast?_insert _ (fun _ _ => rfl) _

namespace Access

/-
  The assigned pairs are those whose last change is a grant.
-/
def LogComplete
    (s : Store) : Prop :=
  ∀ pair,
    pair ∈ s.accessPairs ↔
      ∃ event,
        s.lastAccessChange pair = some event ∧
          event.action = .grant

/- Any other audit event keeps the log complete. -/
theorem LogComplete.withAuditEvent
    {s : Store}
    (hComplete : LogComplete s)
    {event : AuditEvent}
    (hOther : ∀ pair, isAccessChange pair event = false) :
    LogComplete (s.withAuditEvent event) := by
  intro pair
  rw [s.lastAccessChange_withAuditEvent, hOther pair,
    if_neg Bool.false_ne_true]
  exact hComplete pair

theorem isAccessChange_of_denied
    {event : AuditEvent}
    (hDenied : event.result = .denied)
    (pair : Int × Int) :
    isAccessChange pair event = false := by
  simp [isAccessChange, hDenied]

/-
  A successful change of one pair is recorded for that pair
  alone.
-/
theorem isAccessChange_iff
    {ctx : RequestContext}
    {requesterId applicationId : Int}
    {data : AccessActionRequest}
    {action : AuditAction}
    {reason : String}
    (hAction : action = .grant ∨ action = .revoke)
    (pair : Int × Int) :
    isAccessChange pair
        (newAuditEvent ctx requesterId data.targetUserId
          action applicationId data.entitlementId .succeeded
          reason) = true ↔
      pair = data.pair := by
  rcases pair with ⟨u, e⟩
  have hChange :
      (action == .grant || action == .revoke) = true := by
    rcases hAction with rfl | rfl <;> rfl
  simp only [isAccessChange, newAuditEvent, hChange,
    beq_self_eq_true, Bool.and_self, Bool.true_and,
    Bool.and_eq_true, beq_iff_eq, AccessActionRequest.pair,
    Prod.mk.injEq]
  exact ⟨fun h => ⟨h.1.symm, h.2.symm⟩,
    fun h => ⟨h.1.symm, h.2.symm⟩⟩

end Access

end AccessIQ

------------------------------------------------------------
-- Steps
------------------------------------------------------------

namespace AccessIQ

namespace Access

open Foundations Python Delegation

/- A granted pair is logged as granted. -/
theorem LogComplete.granted
    {s s' : Store}
    (hComplete : LogComplete s)
    {ctx : RequestContext}
    {data : AccessActionRequest}
    {requesterId applicationId n : Int}
    {reason : String}
    (hEffect :
      GrantEffect ctx data s
        (newAuditEvent ctx requesterId data.targetUserId
          .grant applicationId data.entitlementId .succeeded
          reason)
        n s') :
    LogComplete s' := by
  intro pair
  have hPairs := accessPairs_of_grantEffect hEffect
  rcases hEffect with ⟨hFits, -, rfl⟩
  rw [hPairs, Store.lastAccessChange_withAuditEvent,
    Set.mem_insert_iff]
  by_cases hPair : pair = data.pair
  · rw [if_pos
      ((isAccessChange_iff (Or.inl rfl) pair).mpr hPair)]
    exact ⟨fun _ => ⟨_, rfl, rfl⟩, fun _ => Or.inl hPair⟩
  · rw [if_neg fun h => hPair
      ((isAccessChange_iff (Or.inl rfl) pair).mp h)]
    exact ⟨fun h =>
        (hComplete pair).mp (h.resolve_left hPair),
      fun h => Or.inr ((hComplete pair).mpr h)⟩

/- A revoked pair is logged as revoked. -/
theorem LogComplete.revoked
    {s s' : Store}
    (hComplete : LogComplete s)
    {ctx : RequestContext}
    {data : AccessActionRequest}
    {requesterId applicationId n : Int}
    {reason : String}
    (hEffect :
      RevokeEffect data s
        (newAuditEvent ctx requesterId data.targetUserId
          .revoke applicationId data.entitlementId
          .succeeded reason)
        n s') :
    LogComplete s' := by
  intro pair
  have hPairs := accessPairs_of_revokeEffect hEffect
  rcases hEffect with ⟨a, -, -, rfl⟩
  have hLast := s.lastAccessChange_withAuditEvent
    (newAuditEvent ctx requesterId data.targetUserId
      .revoke applicationId data.entitlementId .succeeded
      reason)
    pair
  rw [hPairs, Set.mem_sdiff, Set.mem_singleton_iff]
  by_cases hPair : pair = data.pair
  · rw [if_pos
      ((isAccessChange_iff (Or.inr rfl) pair).mpr hPair)]
      at hLast
    constructor
    · rintro ⟨-, hNe⟩
      exact absurd hPair hNe
    · rintro ⟨event, hSome, hGrant⟩
      have hEq := hLast.symm.trans hSome
      cases hEq
      cases hGrant
  · rw [if_neg fun h => hPair
      ((isAccessChange_iff (Or.inr rfl) pair).mp h)] at hLast
    constructor
    · rintro ⟨hMem, -⟩
      rcases (hComplete pair).mp hMem with
        ⟨event, hSome, hGrant⟩
      exact ⟨event, hLast.trans hSome, hGrant⟩
    · rintro ⟨event, hSome, hGrant⟩
      exact ⟨(hComplete pair).mpr
          ⟨event, hLast.symm.trans hSome, hGrant⟩,
        hPair⟩

/- Authorizing an actor changes nothing of the log. -/
theorem LogComplete.authorized
    [Platform]
    {s s₁ : Store}
    (hComplete : LogComplete s)
    {ctx : RequestContext}
    {actor targetUser : User}
    {entitlement : Entitlement}
    {authorization : DelegationAuthorization}
    (hAuthorized :
      AuthorizedAs ctx s actor targetUser entitlement
        authorization s₁) :
    LogComplete s₁ := by
  cases hAuthorized with
  | globally => exact hComplete
  | delegated a hLocal hSome =>
      exact hComplete.withAuditEvent fun _ => rfl

end Access

end AccessIQ

------------------------------------------------------------
-- Refusals
------------------------------------------------------------

namespace AccessIQ

namespace Access

open Foundations Python Delegation

/-
  An HTTP error is answered, and not the one for a failed
  database operation.
-/
def Refused
    {α : Type}
    (result : Except PyException α) : Prop :=
  ∃ response,
    result = .error (.http response) ∧
      PyException.http response ≠ databaseFailure

/-
  A refused request whose user and entitlement exist leaves
  the assignments alone and appends a denied audit event
  about the pair it names.
-/
structure RefusalLogged
    (data : AccessActionRequest)
    (s s' : Store) : Prop where
  unchanged : s'.accessAssignments = s.accessAssignments
  logged :
    ∃ added,
      s'.auditEvents.rows = s.auditEvents.rows ++ added ∧
        ∃ event ∈ added,
          event.result = .denied ∧
            event.targetUserId = data.targetUserId ∧
            event.entitlementId = data.entitlementId

/- Authorizing an actor only appends audit events. -/
theorem AuthorizedAs.appends
    [Platform]
    {ctx : RequestContext}
    {s s₁ : Store}
    {actor targetUser : User}
    {entitlement : Entitlement}
    {authorization : DelegationAuthorization}
    (hAuthorized :
      AuthorizedAs ctx s actor targetUser entitlement
        authorization s₁) :
    ∃ added,
      s₁.auditEvents.rows = s.auditEvents.rows ++ added := by
  cases hAuthorized with
  | globally => exact ⟨[], (List.append_nil _).symm⟩
  | delegated a hLocal hSome => exact ⟨[_], rfl⟩

/- A denied audit event after the authorization is a refusal. -/
theorem refusalLogged_of_authorizedAs
    [Platform]
    {ctx : RequestContext}
    {data : AccessActionRequest}
    {s s₁ : Store}
    {actor targetUser : User}
    {entitlement : Entitlement}
    {authorization : DelegationAuthorization}
    (hAuthorized :
      AuthorizedAs ctx s actor targetUser entitlement
        authorization s₁)
    {event : AuditEvent}
    (hDenied : event.result = .denied)
    (hUser : event.targetUserId = data.targetUserId)
    (hEntitlement :
      event.entitlementId = data.entitlementId) :
    RefusalLogged data s (s₁.withAuditEvent event) := by
  have hUnchanged :
      s₁.accessAssignments = s.accessAssignments := by
    rcases AuthorizedAs.sameButAudit hAuthorized with
      ⟨t, rfl⟩
    rfl
  rcases AuthorizedAs.appends hAuthorized with
    ⟨added, hAdded⟩
  let denied : AuditEvent :=
    { event with
      id := s₁.auditEvents.freshId s₁.dialect.keyPolicy }
  have hMem : denied ∈ added ++ [denied] :=
    List.mem_append_right _ (List.mem_singleton_self _)
  refine ⟨hUnchanged, added ++ [denied], ?_, denied, hMem,
    hDenied, hUser, hEntitlement⟩
  rw [← List.append_assoc, ← hAdded]
  rfl

variable {α : Type}
variable [Platform]

/- Every refusal of a request is logged. -/
theorem AccessOutcome.refusalLogged
    {mayFail : Prop}
    {change : AccessChange α}
    {effects : change.Effects}
    (hAnswers : effects.Answers)
    {ctx : RequestContext}
    {data : AccessActionRequest}
    {actor : User}
    {s s' : Store}
    {result : Except PyException α}
    {events : List DomainEvent}
    (hOutcome :
      AccessOutcome mayFail change effects ctx data actor s
        result s' events)
    (hUser : (s.users.get? data.targetUserId).isSome = true)
    (hEntitlement :
      (s.entitlements.get? data.entitlementId).isSome =
        true)
    (hRefused : Refused result) :
    RefusalLogged data s s' := by
  rcases hRefused with ⟨response, hResult, hOther⟩
  cases hOutcome with
  | userNotFound hNone =>
      rw [hNone] at hUser
      cases hUser
  | entitlementNotFound hNone =>
      rw [hNone] at hEntitlement
      cases hEntitlement
  | applicationNotFound => cases hResult
  | databaseFailed target e hError =>
      cases hResult
      rcases hError with hFailure | ⟨error, hDatabase⟩
      · exact absurd hFailure hOther
      · cases hDatabase
  | unauthorized target =>
      exact
        { unchanged := rfl
          logged :=
            ⟨[_], rfl, _, List.mem_singleton_self _, rfl,
              Table.id_of_get? target.user_found,
              Table.id_of_get? target.entitlement_found⟩ }
  | conflict target authorization s₁ response hAuthorized =>
      exact refusalLogged_of_authorizedAs hAuthorized rfl
        rfl rfl
  | denied target authorization s₁ hAuthorized =>
      exact refusalLogged_of_authorizedAs hAuthorized rfl
        rfl rfl
  | changed target authorization s₁ _ n hAuthorized
      hConflict hAllowed hEffect =>
      rcases hAnswers target
          (AuthorizedAs.sameButAudit hAuthorized) hEffect with
        ⟨answer, hAnswer⟩
      rw [hAnswer] at hResult
      cases hResult

end Access

end AccessIQ

------------------------------------------------------------
-- Runs
------------------------------------------------------------

namespace AccessIQ

namespace Access

open Foundations Python Delegation

/- There is at most one assignment for every pair. -/
def OneAssignment
    (s : Store) : Prop :=
  ∀ a ∈ s.accessAssignments.rows,
    ∀ b ∈ s.accessAssignments.rows,
      a.userId = b.userId →
        a.entitlementId = b.entitlementId → a = b

variable {α : Type}
variable [Platform]

/-
  An outcome keeps the log complete where its successful
  write does.
-/
theorem AccessOutcome.logComplete
    {mayFail : Prop}
    {change : AccessChange α}
    {effects : change.Effects}
    {ctx : RequestContext}
    {data : AccessActionRequest}
    {actor : User}
    {s s' : Store}
    {result : Except PyException α}
    {events : List DomainEvent}
    (hWrite :
      ∀ {s₁ s₂ : Store} {application : Application}
        {reason : String} {n : Int},
        LogComplete s₁ →
          effects.effect ctx data s₁
              (change.audit ctx actor data application
                .succeeded reason)
              n s₂ →
            LogComplete s₂)
    (hOutcome :
      AccessOutcome mayFail change effects ctx data actor s
        result s' events)
    (hComplete : LogComplete s) :
    LogComplete s' := by
  cases hOutcome with
  | userNotFound => exact hComplete
  | entitlementNotFound => exact hComplete
  | applicationNotFound => exact hComplete
  | databaseFailed => exact hComplete
  | unauthorized target =>
      exact hComplete.withAuditEvent fun _ => rfl
  | conflict target authorization s₁ response hAuthorized =>
      exact (hComplete.authorized hAuthorized).withAuditEvent
        (isAccessChange_of_denied rfl)
  | denied target authorization s₁ hAuthorized =>
      exact (hComplete.authorized hAuthorized).withAuditEvent
        (isAccessChange_of_denied rfl)
  | changed target authorization s₁ _ n hAuthorized
      hConflict hAllowed hEffect =>
      exact hWrite (hComplete.authorized hAuthorized) hEffect

/- Every request keeps the log complete. -/
theorem logComplete_serveAccess
    (s : Store)
    (request : AccessRequest × Environment)
    (hComplete : LogComplete s) :
    LogComplete (serveAccess s request) := by
  rcases request with ⟨⟨kind, ctx, data, actor⟩, env⟩
  cases kind with
  | grant =>
      have hWrite :
          ∀ {s₁ s₂ : Store} {application : Application}
            {reason : String} {n : Int},
            LogComplete s₁ →
              GrantEffect ctx data s₁
                  (grantChange.audit ctx actor data
                    application .succeeded reason)
                  n s₂ →
                LogComplete s₂ :=
        fun h hEffect => h.granted hEffect
      exact (grantAccess_outcome env s ctx data actor)
        |>.logComplete hWrite hComplete
  | revoke =>
      have hWrite :
          ∀ {s₁ s₂ : Store} {application : Application}
            {reason : String} {n : Int},
            LogComplete s₁ →
              RevokeEffect data s₁
                  (revokeChange.audit ctx actor data
                    application .succeeded reason)
                  n s₂ →
                LogComplete s₂ :=
        fun h hEffect => h.revoked hEffect
      exact (revokeAccess_outcome env s ctx data actor)
        |>.logComplete hWrite hComplete

omit [Platform] in
theorem Refused.of_map
    {result : Except PyException α}
    (hRefused : Refused (result.map fun _ => ())) :
    Refused result := by
  rcases hRefused with ⟨response, hResult, hOther⟩
  cases result with
  | ok a => cases hResult
  | error e =>
      cases hResult
      exact ⟨response, rfl, hOther⟩

/- Every refused request is logged. -/
theorem refusalLogged_serve
    (s : Store)
    (request : AccessRequest)
    (env : Environment)
    (hUser :
      (s.users.get? request.data.targetUserId).isSome = true)
    (hEntitlement :
      (s.entitlements.get? request.data.entitlementId).isSome
        = true)
    (hRefused : Refused (request.serve env s).result) :
    RefusalLogged request.data s
      (request.serve env s).committed := by
  rcases request with ⟨kind, ctx, data, actor⟩
  cases kind with
  | grant =>
      exact (grantAccess_outcome env s ctx data actor)
        |>.refusalLogged grantEffects_answers hUser
          hEntitlement (Refused.of_map hRefused)
  | revoke =>
      exact (revokeAccess_outcome env s ctx data actor)
        |>.refusalLogged revokeEffects_answers hUser
          hEntitlement (Refused.of_map hRefused)

/-
  From no assignments and no audited changes, in every state
  that grants and revocations reach, whichever of them failed
  in the database: the log is complete, a pair has at most
  one assignment, and the next request is logged if refused.
-/
theorem accessLog_complete
    {start : Store}
    (hAssignments : start.accessAssignments.rows = [])
    (hLog :
      ∀ event ∈ start.auditEvents.rows,
        event.action ≠ .grant ∧ event.action ≠ .revoke)
    (requests : List (AccessRequest × Environment))
    {s : Store}
    (hReached : serveAll serveAccess start requests = s) :
    LogComplete s ∧ OneAssignment s ∧
      ∀ (request : AccessRequest) (env : Environment),
        (s.users.get? request.data.targetUserId).isSome =
            true →
          (s.entitlements.get?
              request.data.entitlementId).isSome = true →
          Refused (request.serve env s).result →
            RefusalLogged request.data s
              (request.serve env s).committed := by
  have hStart : LogComplete start := by
    intro pair
    have hNone : start.lastAccessChange pair = none := by
      refine Table.findLast?_eq_none ?_
      intro event hEvent
      rcases hLog event hEvent with ⟨hGrant, hRevoke⟩
      simp [isAccessChange, hGrant, hRevoke]
    simp [Store.accessPairs, hAssignments, hNone]
  have hComplete : LogComplete s := by
    rw [← hReached]
    exact serveAll_invariant logComplete_serveAccess hStart
      requests
  refine ⟨hComplete, ?_, refusalLogged_serve s⟩
  intro a ha b hb hUser hEntitlement
  exact eq_of_same_pair ha hb hUser hEntitlement

end Access

end AccessIQ

------------------------------------------------------------
-- A Run
------------------------------------------------------------

namespace AccessIQ

namespace Access

open Foundations Python

attribute [local instance] asciiPlatform

/- Granted twice, the second time in vain, and revoked. -/
def grantedTwiceThenRevoked :
    List (AccessRequest × Environment) :=
  let ctx : RequestContext :=
    { correlationId := "request-1", now := 0, subject := 3 }
  let data : AccessActionRequest :=
    { targetUserId := 1, entitlementId := 1 }
  [(⟨.grant, ctx, data, alice⟩, steadyEnvironment),
    (⟨.grant, ctx, data, alice⟩, steadyEnvironment),
    (⟨.revoke, ctx, data, alice⟩, steadyEnvironment)]

theorem accessLog_complete_seeded :
    let s :=
      serveAll serveAccess (seededStore .sqlite)
        grantedTwiceThenRevoked
    LogComplete s ∧ OneAssignment s ∧
      ∀ (request : AccessRequest) (env : Environment),
        (s.users.get? request.data.targetUserId).isSome =
            true →
          (s.entitlements.get?
              request.data.entitlementId).isSome = true →
          Refused (request.serve env s).result →
            RefusalLogged request.data s
              (request.serve env s).committed :=
  accessLog_complete rfl
    (fun _ hEvent => absurd hEvent List.not_mem_nil)
    grantedTwiceThenRevoked rfl

end Access

end AccessIQ
