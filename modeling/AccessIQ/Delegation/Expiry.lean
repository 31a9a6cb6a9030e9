import AccessIQ.Delegation.Authorization
import AccessIQ.Delegation.Renewal

/-
  When a delegation expires.

  The check at the assignment compares instants, and the
  query for the effective assignments compares what the
  database has stored.  SQLite stores the wall clock reading
  without its offset, so there a delegation expires at the
  instant it was given only when that has no offset from UTC.

  Key definitions include:
    * `ListedAt`
    * `ExpiresAtInstant`
    * `Stored`

  Key theorems include:
    * `stored_serveDelegation`
    * `listedAt_iff`
    * `expires_at_instant_iff`
-/

------------------------------------------------------------
-- Effective Delegations
------------------------------------------------------------

namespace AccessIQ

namespace Delegation

open Foundations Python

/-
  At an instant, the effective delegations of a user include
  the assignment with an id.
-/
def ListedAt
    (env : Environment)
    (s : Store)
    (now : Timestamp)
    (delegateUserId assignmentId : Int) : Prop :=
  ∀ ctx : RequestContext, ctx.now = now →
    ∃ found,
      ((findEffectiveDelegations ctx delegateUserId).serve
          env s).result = .ok found ∧
        ∃ a ∈ found, a.id = assignmentId

theorem serve_findEffectiveDelegations
    (env : Environment)
    (s : Store)
    (ctx : RequestContext)
    (delegateUserId : Int) :
    ((findEffectiveDelegations ctx delegateUserId).serve
        env s).result =
      .ok
        (s.delegationAssignments.rows.filter fun a =>
          a.delegateUserId == delegateUserId &&
            s.isEffective ctx.now a) :=
  rfl

/-
  An assignment is stored with its delegate and its expiry in
  the database of a dialect, active or not.
-/
structure Stored
    (dialect : Dialect)
    (assignmentId delegateUserId : Int)
    (expiresAt : DateTime)
    (s : Store) : Prop where
  dialect_eq : s.dialect = dialect
  row :
    ∃ a,
      s.delegationAssignments.get? assignmentId = some a ∧
        a.delegateUserId = delegateUserId ∧
        a.expiresAt = some (dialect.bindDateTime expiresAt)

/- The assignment with an id is active. -/
def IsActive
    (s : Store)
    (assignmentId : Int) : Prop :=
  ∃ a,
    s.delegationAssignments.get? assignmentId = some a ∧
      a.active = true

/- A stored assignment is listed by what the database has. -/
theorem listedAt_iff
    {dialect : Dialect}
    {assignmentId delegateUserId : Int}
    {expiresAt : DateTime}
    {s : Store}
    (hStored :
      Stored dialect assignmentId delegateUserId expiresAt s)
    (env : Environment)
    (now : Timestamp) :
    ListedAt env s now delegateUserId assignmentId ↔
      IsActive s assignmentId ∧
        now < dialect.bindDateTime expiresAt := by
  rcases hStored.row with ⟨a, hGet, hDelegate, hExpiry⟩
  have hEffective :
      s.isEffective now a = true ↔
        a.active = true ∧
          now < dialect.bindDateTime expiresAt := by
    unfold Store.isEffective
    simp [hExpiry]
  constructor
  · intro hListed
    rcases hListed
        { correlationId := "", now := now, subject := 0 } rfl
      with ⟨found, hFound, b, hb, hId⟩
    rw [serve_findEffectiveDelegations] at hFound
    cases hFound
    rw [List.mem_filter, Bool.and_eq_true] at hb
    have hSame : b = a := by
      have hGetB :=
        s.delegationAssignments.get?_of_mem hb.1
      have hRow : Row.id b = assignmentId := hId
      rw [hRow, hGet] at hGetB
      exact (Option.some.inj hGetB).symm
    subst hSame
    have hBoth := hEffective.mp hb.2.2
    exact ⟨⟨b, hGet, hBoth.1⟩, hBoth.2⟩
  · rintro ⟨⟨b, hGetB, hActive⟩, hLater⟩ ctx hNow
    have hSame : a = b :=
      Option.some.inj (hGet.symm.trans hGetB)
    subst hSame
    refine ⟨_, serve_findEffectiveDelegations env s ctx _,
      a, ?_, Table.id_of_get? hGet⟩
    rw [List.mem_filter, Bool.and_eq_true, hNow]
    exact ⟨Table.mem_of_get? hGet, by simpa using hDelegate,
      hEffective.mpr ⟨hActive, hLater⟩⟩

end Delegation

end AccessIQ

------------------------------------------------------------
-- Stored Assignments
------------------------------------------------------------

namespace AccessIQ

namespace Delegation

open Foundations Python

variable {dialect : Dialect}
variable {assignmentId delegateUserId : Int}
variable {expiresAt : DateTime}

/- A successful assignment is stored with its expiry. -/
theorem Assigned.stored_assignment
    {ctx : RequestContext}
    {payload : DelegationAssignmentCreate}
    {s s' : Store}
    {actor : User}
    {assignment : DelegationAssignment}
    {events : List DomainEvent}
    (hAssigned :
      Assigned ctx payload s actor assignment events s')
    (hExpiry : payload.expiresAt = some expiresAt) :
    Stored s.dialect assignment.id assignment.delegateUserId
        expiresAt s' ∧
      IsActive s' assignment.id := by
  rcases hAssigned.stored with ⟨hFits, event, rfl⟩
  have hNew :=
    Table.get?_insert_freshId s.dialect.keyPolicy
      s.delegationAssignments hFits
  rw [hAssigned.assignment_eq]
  constructor
  · constructor
    · rfl
    · refine ⟨_, hNew, rfl, ?_⟩
      change payload.expiresAt.map s.dialect.bindDateTime = _
      rw [hExpiry]
      rfl
  · exact ⟨_, hNew, rfl⟩

/- A later assignment leaves the stored ones as they are. -/
theorem Assigned.keeps_stored
    {ctx : RequestContext}
    {payload : DelegationAssignmentCreate}
    {s s' : Store}
    {actor : User}
    {assignment : DelegationAssignment}
    {events : List DomainEvent}
    (hAssigned :
      Assigned ctx payload s actor assignment events s')
    (hStored :
      Stored dialect assignmentId delegateUserId expiresAt
        s) :
    Stored dialect assignmentId delegateUserId expiresAt
      s' := by
  rcases hAssigned.stored with ⟨hFits, event, rfl⟩
  rcases hStored.row with ⟨a, hGet, hRow⟩
  constructor
  · exact hStored.dialect_eq
  · refine ⟨a, ?_, hRow⟩
    have hOld :
        assignmentId ≠
          s.delegationAssignments.freshId
            s.dialect.keyPolicy := by
      intro hEq
      rw [hEq, Table.get?_freshId] at hGet
      cases hGet
    change
      (s.delegationAssignments.insert s.dialect.keyPolicy _
        hFits).get? assignmentId = some a
    rw [Table.get?_insert, if_neg hOld]
    exact hGet

/- A removal clears the active flag of one row only. -/
theorem Removed.keeps_stored
    {ctx : RequestContext}
    {removedId : Int}
    {s s' : Store}
    {actor : User}
    {assignment : DelegationAssignment}
    {events : List DomainEvent}
    (hRemoved :
      Removed ctx removedId s actor assignment events s')
    (hStored :
      Stored dialect assignmentId delegateUserId expiresAt
        s) :
    Stored dialect assignmentId delegateUserId expiresAt
      s' := by
  rcases hRemoved.stored with ⟨hFits, event, rfl⟩
  rcases hStored.row with ⟨a, hGet, hRow⟩
  constructor
  · exact hStored.dialect_eq
  · by_cases hId : assignmentId = removedId
    · subst hId
      exact ⟨_, Table.get?_modify_self _ hFits hGet, hRow⟩
    · exact ⟨a,
        (Table.get?_modify_ne _ hFits hId).trans hGet, hRow⟩

/- No delegation request changes a stored expiry. -/
theorem DelegationStep.keeps_stored
    {s s' : Store}
    (hStep : DelegationStep s s')
    (hStored :
      Stored dialect assignmentId delegateUserId expiresAt
        s) :
    Stored dialect assignmentId delegateUserId expiresAt
      s' := by
  cases hStep with
  | unchanged => exact hStored
  | assigned hAssigned => exact hAssigned.keeps_stored hStored
  | removed hRemoved => exact hRemoved.keeps_stored hStored

variable [Platform]

theorem stored_serveDelegation
    (s : Store)
    (request : DelegationRequest × Environment)
    (hStored :
      Stored dialect assignmentId delegateUserId expiresAt
        s) :
    Stored dialect assignmentId delegateUserId expiresAt
      (serveDelegation s request) :=
  (serveDelegation_step s request).keeps_stored hStored

end Delegation

end AccessIQ

------------------------------------------------------------
-- Expiry
------------------------------------------------------------

namespace AccessIQ

namespace Delegation

open Foundations Python

variable [Platform]

/-
  From the request that assigned it on, through any later
  requests, a delegation is listed at an instant exactly when
  it is active and not expired then.
-/
def ExpiresAtInstant
    (assigned : Store)
    (assignment : DelegationAssignment)
    (expiresAt : DateTime) : Prop :=
  ∀ (later : List (DelegationRequest × Environment))
      (env : Environment) (ctx : RequestContext),
    ListedAt env (serveAll serveDelegation assigned later)
        ctx.now assignment.delegateUserId assignment.id ↔
      IsActive (serveAll serveDelegation assigned later)
          assignment.id ∧
        isExpired ctx expiresAt = false

omit [Platform] in
theorem isExpired_eq_false_iff
    {ctx : RequestContext}
    {expiresAt : DateTime} :
    isExpired ctx expiresAt = false ↔
      ctx.now < expiresAt.instant := by
  unfold isExpired
  rw [decide_eq_false_iff_not, not_le]

omit [Platform] in
/- The value compared is the instant if no offset is lost. -/
theorem bindDateTime_eq_instant_iff
    {dialect : Dialect}
    {expiresAt : DateTime} :
    dialect.bindDateTime expiresAt = expiresAt.instant ↔
      (dialect = .sqlite → expiresAt.offset.getD 0 = 0) := by
  unfold Dialect.bindDateTime DateTime.instant
  cases dialect with
  | sqlite =>
      simp only [forall_const]
      omega
  | postgresql => simp

/-
  A delegation that was assigned expires at the instant it
  was given exactly when that names no offset from UTC, or
  the database is not SQLite.
-/
theorem expires_at_instant_iff
    {s : Store}
    {env : Environment}
    {ctx : RequestContext}
    {payload : DelegationAssignmentCreate}
    {assignment : DelegationAssignment}
    (hAssigned :
      ((assignDelegation ctx payload).serve env s).result =
        .ok assignment)
    {expiresAt : DateTime}
    (hExpiry : payload.expiresAt = some expiresAt) :
    ExpiresAtInstant
        ((assignDelegation ctx payload).serve env s).committed
        assignment expiresAt ↔
      (s.dialect = .sqlite →
        expiresAt.offset.getD 0 = 0) := by
  have hOutcome :=
    assignDelegation_outcome env s ctx payload
  generalize (assignDelegation ctx payload).serve env s =
    served at hAssigned hOutcome ⊢
  rcases served with ⟨result, committed, published⟩
  cases hAssigned
  cases hOutcome with
  | succeeded user _ _ _ hAdmits hOk =>
      rcases hOk.stored_assignment hExpiry with
        ⟨hStored, hActive⟩
      have hListed :
          ∀ later env now,
            ListedAt env
                (serveAll serveDelegation committed later)
                now assignment.delegateUserId
                assignment.id ↔
              IsActive
                  (serveAll serveDelegation committed later)
                  assignment.id ∧
                now < s.dialect.bindDateTime expiresAt :=
        fun later env now =>
          listedAt_iff
            (serveAll_invariant stored_serveDelegation
              hStored later)
            env now
      rw [← bindDateTime_eq_instant_iff]
      constructor
      · intro hExpires
        have hSame :
            ∀ now : Timestamp,
              now < s.dialect.bindDateTime expiresAt ↔
                now < expiresAt.instant := by
          intro now
          have hAt :=
            hExpires [] env
              { correlationId := "", now := now, subject := 0 }
          rw [hListed, isExpired_eq_false_iff] at hAt
          constructor
          · intro hLater
            exact (hAt.mp ⟨hActive, hLater⟩).2
          · intro hLater
            exact (hAt.mpr ⟨hActive, hLater⟩).2
        exact eq_of_forall_lt_iff hSame
      · intro hSame later env' ctx'
        rw [hListed, hSame, isExpired_eq_false_iff]

end Delegation

end AccessIQ

------------------------------------------------------------
-- Two Hours From UTC
------------------------------------------------------------

namespace AccessIQ

namespace Delegation

open Foundations Python

section Seeded

attribute [local instance] asciiPlatform

def hour : Int :=
  3600000000

/- Three o'clock at an offset of two hours: one in UTC. -/
def threeAtPlusTwo : DateTime where
  wall := 3 * hour
  offset := some (2 * hour)

/- A helpdesk delegation until a datetime. -/
def helpdeskUntilDateTime
    (expiresAt : DateTime) :
    DelegationAssignmentCreate :=
  { salesforceHelpdesk with expiresAt := some expiresAt }

/- The row of that delegation on the seeded database. -/
def helpdeskRow
    (expiresAt : DateTime) :
    DelegationAssignment :=
  { salesforceHelpdeskAssignment 1 with
    expiresAt := some expiresAt.wall }

/- An expiry in UTC is kept. -/
theorem expires_at_instant_iff_utc :
    ExpiresAtInstant
      ((assignDelegation administratorContext
          (helpdeskUntilDateTime (DateTime.utc hour))).serve
        steadyEnvironment (seededStore .sqlite)).committed
      (helpdeskRow (DateTime.utc hour))
      (DateTime.utc hour) :=
  (expires_at_instant_iff rfl rfl).mpr fun _ => rfl

/-
  A delegation until three o'clock at an offset of two hours
  is listed at two o'clock in UTC, an hour after it expired.
-/
theorem listed_after_expiry :
    let served :=
      (assignDelegation administratorContext
          (helpdeskUntilDateTime threeAtPlusTwo)).serve
        steadyEnvironment (seededStore .sqlite)
    served.result = .ok (helpdeskRow threeAtPlusTwo) ∧
      ¬ExpiresAtInstant served.committed
        (helpdeskRow threeAtPlusTwo) threeAtPlusTwo := by
  intro served
  constructor
  · rfl
  · intro hExpires
    let twoHours := administratorAt (2 * hour)
    have hListed :
        ListedAt steadyEnvironment served.committed (2 * hour)
          2 1 := by
      intro ctx hNow
      refine ⟨_, serve_findEffectiveDelegations _ _ _ _,
        helpdeskRow threeAtPlusTwo, ?_, rfl⟩
      rw [hNow]
      decide +kernel
    have hUnexpired :=
      ((hExpires [] steadyEnvironment twoHours).mp hListed).2
    revert hUnexpired
    decide +kernel

end Seeded

end Delegation

end AccessIQ
