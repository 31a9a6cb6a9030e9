import AccessIQ.Runtime

/-
  The audit trail.

  Every audit event is written by `createAuditEvent`, which
  flushes one row within the transaction of its caller.

  Key definitions include:
    * `newAuditEvent`
    * `createAuditEvent`
    * `Store.auditReferencesResolve`
    * `Store.withAuditEvent`

  Key theorems include:
    * `wp_recordAuditEvent`
-/

------------------------------------------------------------
-- Audit Events
------------------------------------------------------------

namespace AccessIQ

open Foundations

/-
  The entitlement under two slugs: the audit events of a
  service that are about no entitlement refer to one of its
  own.
-/
def Store.entitlementBySlugs
    (s : Store)
    (applicationSlug entitlementSlug : String) :
    Option Entitlement :=
  s.entitlements.rows.find? fun e =>
    e.slug == entitlementSlug &&
      (s.applications.get? e.applicationId).any
        (·.slug == applicationSlug)

/- The foreign keys of an audit event are satisfied. -/
def Store.auditReferencesResolve
    (s : Store)
    (event : AuditEvent) :
    Bool :=
  s.resolves s.users event.requesterId &&
    s.resolves s.users event.targetUserId &&
    s.resolves s.applications event.applicationId &&
    s.resolves s.entitlements event.entitlementId

def Store.insertAuditEvent
    (s : Store)
    (event : AuditEvent) :
    Except DatabaseError (Store × Int) :=
  s.insertInto s.auditEvents
    (fun t => { s with auditEvents := t })
    event (s.auditReferencesResolve event)

/-
  The row of an audit event.  It carries the correlation id
  of the request unless the caller names another.
-/
def newAuditEvent
    (ctx : RequestContext)
    (requesterId targetUserId : Int)
    (action : AuditAction)
    (applicationId entitlementId : Int)
    (result : AuditResult)
    (reason : String)
    (correlationId : Option String := none) :
    AuditEvent where
  id := 0
  requesterId := requesterId
  targetUserId := targetUserId
  action := action
  applicationId := applicationId
  entitlementId := entitlementId
  result := result
  reason := reason
  correlationId := some (correlationId.getD ctx.correlationId)
  createdAt := ctx.now

/- Flush an audit event and return it with its key. -/
def recordAuditEvent
    (event : AuditEvent) :
    Handler AuditEvent := do
  let id ← Program.flush (·.insertAuditEvent event)
  return { event with id := id }

/- Write one audit event. -/
def createAuditEvent
    (ctx : RequestContext)
    (requesterId targetUserId : Int)
    (action : AuditAction)
    (applicationId entitlementId : Int)
    (result : AuditResult)
    (reason : String)
    (correlationId : Option String := none) :
    Handler AuditEvent :=
  recordAuditEvent
    (newAuditEvent ctx requesterId targetUserId action
      applicationId entitlementId result reason
      correlationId)

end AccessIQ

------------------------------------------------------------
-- Rules
------------------------------------------------------------

namespace AccessIQ

open Foundations

/- The store with one more audit event. -/
def Store.withAuditEvent
    (s : Store)
    (event : AuditEvent) :
    Store :=
  { s with
    auditEvents :=
      s.auditEvents.insert s.dialect.keyPolicy event
        (fun _ _ => rfl) }

theorem Store.insertAuditEvent_of_resolve
    {s : Store}
    {event : AuditEvent}
    (hResolve : s.auditReferencesResolve event = true) :
    s.insertAuditEvent event =
      .ok
        (s.withAuditEvent event,
          s.auditEvents.freshId s.dialect.keyPolicy) :=
  Store.insertInto_eq_ok_iff.mpr
    ⟨hResolve, fun _ _ => rfl, rfl, rfl⟩

theorem Store.insertAuditEvent_of_not_resolve
    {s : Store}
    {event : AuditEvent}
    (hResolve : s.auditReferencesResolve event = false) :
    s.insertAuditEvent event = .error .integrity :=
  Store.insertInto_eq_error_iff.mpr
    ⟨rfl, fun h => by
      rw [hResolve] at h
      exact Bool.false_ne_true h.1⟩

/-
  Writing an audit event appends it, or fails and leaves the
  session broken.
-/
theorem wp_recordAuditEvent
    {w : World Question Reply}
    {c s : Store}
    {p : List DomainEvent}
    (event : AuditEvent)
    (post : Post Store DomainEvent PyException AuditEvent) :
    (recordAuditEvent event).wp w post ⟨c, s, false, p⟩ ↔
      (w.mayFail →
        post (.error (.database .operational))
          ⟨c, s, true, p⟩) ∧
      (s.auditReferencesResolve event = true →
        post
          (.ok
            { event with
              id := s.auditEvents.freshId
                s.dialect.keyPolicy })
          ⟨c, s.withAuditEvent event, false, p⟩) ∧
      (s.auditReferencesResolve event = false →
        post (.error (.database .integrity))
          ⟨c, s, true, p⟩) := by
  unfold recordAuditEvent
  cases hResolve : s.auditReferencesResolve event with
  | true =>
      simp [Store.insertAuditEvent_of_resolve hResolve]
  | false =>
      simp [Store.insertAuditEvent_of_not_resolve hResolve]

end AccessIQ
