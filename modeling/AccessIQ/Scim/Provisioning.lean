import AccessIQ.AuditService

/-
  What the SCIM mutations share.

  A mutation runs its services, audits what they did, commits
  and then publishes their events.  An error a mutation knows
  is answered by rolling back and committing a single audit
  event that denies the request; a database error is answered
  by rolling back.

  Key definitions include:
    * `recordScimAudit`
    * `auditAndRaise`
    * `eventsAt`
    * `provisioning`
    * `ScimOutcome`

  Key theorems include:
    * `wp_auditAndRaise`
    * `wp_provisioning`
-/

------------------------------------------------------------
-- Audit
------------------------------------------------------------

namespace AccessIQ

namespace Scim

open Foundations

def scimAuditApplicationSlug : String :=
  "scim-provisioning"

/-
  Write an audit event about one of the entitlements that
  exist for SCIM audit events.
-/
def recordScimAudit
    (ctx : RequestContext)
    (entitlementSlug notSeeded : String)
    (actor : User)
    (targetUserId : Int)
    (action : AuditAction)
    (result : AuditResult)
    (reason : String) :
    Handler Unit := do
  let s ← Program.view
  let entitlement ←
    Program.getOrRaise
      (s.entitlementBySlugs scimAuditApplicationSlug
        entitlementSlug)
      (.runtimeError notSeeded)
  let _ ← createAuditEvent ctx actor.id targetUserId action
    entitlement.applicationId entitlement.id result reason

/-
  `_audit_and_raise`: commit the record of a denied request
  and answer it.
-/
def auditAndRaise
    {α : Type}
    (databaseError : ScimHttpException)
    (record : Handler Unit)
    (response : ScimHttpException) :
    Handler α := do
  tryCatch
    (do
      record
      Program.commit)
    fun exc =>
      match exc with
      | .database _ => do
          Program.rollback
          throw (.scim databaseError)
      | other => throw other
  throw (.scim response)

end Scim

end AccessIQ

------------------------------------------------------------
-- Mutations
------------------------------------------------------------

namespace AccessIQ

namespace Scim

open Foundations

/- The events of a request, at the time it is handled. -/
def eventsAt
    (ctx : RequestContext)
    (events : List EventKind) :
    List DomainEvent :=
  events.map fun event => ⟨ctx.now, event⟩

variable {α : Type}

/-
  The `except` clauses of a SCIM mutation; `deny` answers the
  exceptions the mutation denies.
-/
def answerException
    (databaseError : ScimHttpException)
    (deny :
      PyException →
        Option (Handler (α × List DomainEvent)))
    (exc : PyException) :
    Handler (α × List DomainEvent) :=
  match deny exc with
  | some answer => do
      Program.rollback
      answer
  | none =>
      match exc with
      | .database _ => do
          Program.rollback
          throw (.scim databaseError)
      | other => throw other

/-
  `try: body; commit` with the `except` clauses of a SCIM
  mutation, and the events published after the commit.
-/
def provisioning
    (databaseError : ScimHttpException)
    (deny :
      PyException →
        Option (Handler (α × List DomainEvent)))
    (body : Handler (α × List DomainEvent)) :
    Handler α := do
  let (result, events) ←
    tryCatch
      (do
        let done ← body
        Program.commit
        return done)
      (answerException databaseError deny)
  Program.publish events
  return result

end Scim

end AccessIQ

------------------------------------------------------------
-- Outcomes
------------------------------------------------------------

namespace AccessIQ

namespace Scim

open Foundations

variable {α : Type}
variable {w : World Question Reply}

/-
  What a mutation leaves of the store it began with: it went
  through, or it left nothing but, at most, one audit event
  that denies it, and published nothing.
-/
inductive ScimOutcome
    (s : Store)
    (ok : α → List DomainEvent → Store → Prop) :
    Except PyException α → Store → List DomainEvent → Prop
  | succeeded
      (a : α)
      (events : List DomainEvent)
      (s' : Store)
      (hOk : ok a events s') :
      ScimOutcome s ok (.ok a) s' events
  | denied
      (e : PyException)
      (event : AuditEvent)
      (hDenied : event.result = .denied) :
      ScimOutcome s ok (.error e) (s.withAuditEvent event) []
  | failed
      (e : PyException) :
      ScimOutcome s ok (.error e) s []

/- An exception left the mutation as a denial or a failure. -/
def Refuses
    (s : Store)
    (m : Moment Store DomainEvent) : Prop :=
  m.published = [] ∧
    (m.committed = s ∨
      ∃ event,
        event.result = .denied ∧
          m.committed = s.withAuditEvent event)

theorem Refuses.outcome
    {s : Store}
    {m : Moment Store DomainEvent}
    (hRefuses : Refuses s m)
    (ok : α → List DomainEvent → Store → Prop)
    (e : PyException) :
    ScimOutcome s ok (.error e) m.committed m.published := by
  rcases hRefuses with
    ⟨hPublished, hSame | ⟨event, hDenied, hCommitted⟩⟩
  · rw [hPublished, hSame]
    exact .failed e
  · rw [hPublished, hCommitted]
    exact .denied e event hDenied

end Scim

end AccessIQ

------------------------------------------------------------
-- Rules
------------------------------------------------------------

namespace AccessIQ

namespace Scim

open Foundations

variable {w : World Question Reply}
variable {c s : Store}
variable {p : List DomainEvent}

/-
  An audit event about one of the SCIM entitlements can be
  written.
-/
def Auditable
    (s : Store)
    (entitlementSlug : String)
    (requesterId targetUserId : Int) : Prop :=
  ∃ entitlement,
    s.entitlementBySlugs scimAuditApplicationSlug
        entitlementSlug = some entitlement ∧
      s.resolves s.users requesterId = true ∧
      s.resolves s.users targetUserId = true ∧
      s.resolves s.applications entitlement.applicationId =
        true ∧
      s.resolves s.entitlements entitlement.id = true

/- An audit event is written, or the call raises. -/
theorem wp_recordScimAudit
    {ctx : RequestContext}
    {entitlementSlug notSeeded : String}
    {actor : User}
    {targetUserId : Int}
    {action : AuditAction}
    {result : AuditResult}
    {reason : String}
    {post : Post Store DomainEvent PyException Unit}
    (hMissing :
      ¬ Auditable s entitlementSlug actor.id targetUserId →
        post (.error (.runtimeError notSeeded))
          ⟨c, s, false, p⟩)
    (hError :
      (w.mayFail ∨
          ¬ Auditable s entitlementSlug actor.id
            targetUserId) →
        ∀ error,
          post (.error (.database error)) ⟨c, s, true, p⟩)
    (hOk :
      ∀ event, event.result = result →
        post (.ok ())
          ⟨c, s.withAuditEvent event, false, p⟩) :
    (recordScimAudit ctx entitlementSlug notSeeded actor
        targetUserId action result reason).wp w post
      ⟨c, s, false, p⟩ := by
  simp only [recordScimAudit, createAuditEvent,
    Program.wp_bind, Program.wp_view,
    Program.wp_getOrRaise, Program.bindPost_ok,
    Program.bindPost_error, wp_recordAuditEvent,
    Program.wp_pure]
  constructor
  · intro hNone
    apply hMissing
    rintro ⟨entitlement, hSome, -⟩
    cases hNone.symm.trans hSome
  · intro entitlement hSome
    refine ⟨fun hFail => hError (Or.inl hFail) _,
      fun _ => hOk _ rfl, ?_⟩
    intro hResolve
    apply hError
    right
    rintro ⟨other, hOther, hRequester, hTarget,
      hApplication, hEntitlement⟩
    cases hSome.symm.trans hOther
    simp [Store.auditReferencesResolve, newAuditEvent,
      hRequester, hTarget, hApplication, hEntitlement]
      at hResolve

/- Neither clause of a mutation catches a refusal. -/
def Uncaught
    {α : Type}
    (deny :
      PyException →
        Option (Handler (α × List DomainEvent)))
    (e : PyException) : Prop :=
  deny e = none ∧ ∀ error, e ≠ .database error

/-
  A denied request is refused, with the response, an internal
  error of its own, or an exception of a missing entitlement.
-/
theorem wp_auditAndRaise
    {α : Type}
    {ctx : RequestContext}
    {entitlementSlug notSeeded reason : String}
    {actor : User}
    {targetUserId : Int}
    {action : AuditAction}
    {databaseError response : ScimHttpException}
    {post : Post Store DomainEvent PyException α}
    (hScim :
      ∀ r m, Refuses s m → post (.error (.scim r)) m)
    (hMissing :
      ∀ m, Refuses s m →
        post (.error (.runtimeError notSeeded)) m) :
    (auditAndRaise databaseError
        (recordScimAudit ctx entitlementSlug notSeeded actor
          targetUserId action .denied reason)
        response).wp w post ⟨s, s, false, []⟩ := by
  unfold auditAndRaise
  rw [Program.wp_bind, Program.wp_tryCatch,
    Program.wp_bind]
  apply wp_recordScimAudit
  · intro _
    exact hMissing _ ⟨rfl, Or.inl rfl⟩
  · intro _ error
    exact hScim _ _ ⟨rfl, Or.inl rfl⟩
  · intro event hDenied
    rw [Program.bindPost_ok, Program.wp_commit]
    constructor
    · intro _
      exact hScim _ _ ⟨rfl, Or.inl rfl⟩
    · exact hScim _ _
        ⟨rfl, Or.inr ⟨event, hDenied, rfl⟩⟩

/-
  The body of a mutation ends without a commit, unless it has
  refused the request with an exception that leaves it.
-/
def MutationPost
    {α : Type}
    (s : Store)
    (deny :
      PyException →
        Option (Handler (α × List DomainEvent)))
    (ok : α → List DomainEvent → Store → Prop) :
    Post Store DomainEvent PyException
      (α × List DomainEvent)
  | .ok (a, events), m =>
      m.committed = s ∧ m.published = [] ∧
        m.broken = false ∧ ok a events m.working
  | .error e, m =>
      (m.committed = s ∧ m.published = []) ∨
        (Refuses s m ∧ Uncaught deny e)

/-
  A mutation commits what its body leaves and publishes its
  events, or refuses the request.
-/
theorem wp_provisioning
    {α : Type}
    {databaseError : ScimHttpException}
    {deny :
      PyException →
        Option (Handler (α × List DomainEvent))}
    {body : Handler (α × List DomainEvent)}
    {ok : α → List DomainEvent → Store → Prop}
    {post : Post Store DomainEvent PyException α}
    (hBody :
      body.wp w (MutationPost s deny ok) ⟨s, s, false, []⟩)
    (hDeny :
      ∀ e answer, deny e = some answer →
        answer.wp w
          (fun r m => (∃ e, r = .error e) ∧ Refuses s m)
          ⟨s, s, false, []⟩)
    (hOk :
      ∀ a events s', ok a events s' →
        post (.ok a) ⟨s', s', false, events⟩)
    (hRefused :
      ∀ e m, Refuses s m → post (.error e) m) :
    (provisioning databaseError deny body).wp w post
      ⟨s, s, false, []⟩ := by
  have hRaise :
      ∀ e s' b,
        (answerException databaseError deny e).wp w
          (Program.bindPost w
            (fun done => do
              Program.publish done.2
              return done.1)
            post)
          ⟨s, s', b, []⟩ := by
    intro e s' b
    unfold answerException
    cases hAnswer : deny e with
    | some answer =>
        rw [Program.wp_bind, Program.wp_rollback]
        refine Program.wp_mono (hDeny e answer hAnswer) ?_
        rintro r m ⟨⟨e', rfl⟩, hRefuses⟩
        exact hRefused e' m hRefuses
    | none =>
        cases e with
        | database error =>
            simpa using hRefused _ _ ⟨rfl, Or.inl rfl⟩
        | _ => exact hRefused _ _ ⟨rfl, Or.inl rfl⟩
  have hPass :
      ∀ e m, Refuses s m → Uncaught deny e →
        (answerException databaseError deny e).wp w
          (Program.bindPost w
            (fun done => do
              Program.publish done.2
              return done.1)
            post)
          m := by
    rintro e m hRefuses ⟨hNone, hOther⟩
    unfold answerException
    rw [hNone]
    cases e with
    | database error => exact absurd rfl (hOther error)
    | _ => exact hRefused _ m hRefuses
  unfold provisioning
  rw [Program.wp_bind, Program.wp_tryCatch,
    Program.wp_bind]
  refine Program.wp_mono hBody ?_
  rintro (e | ⟨a, events⟩) ⟨c, s', b, p⟩ hPost
  · rcases hPost with ⟨rfl, rfl⟩ | ⟨hRefuses, hUncaught⟩
    · exact hRaise e s' b
    · exact hPass e _ hRefuses hUncaught
  · rcases hPost with ⟨rfl, rfl, hBroken, hDone⟩
    simp only at hBroken hDone
    subst hBroken
    rw [Program.bindPost_ok, Program.wp_bind,
      Program.wp_commit]
    constructor
    · intro _
      exact hRaise _ s' true
    · simpa using hOk a events s' hDone

end Scim

end AccessIQ
