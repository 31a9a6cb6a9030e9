import AccessIQ.Python.Text
import AccessIQ.Delegation.Models
import AccessIQ.Governance.Models
import AccessIQ.Remediation.Models

/-
  The database: its dialect, its tables and the statements a
  flush sends to it.

  SQLite is the default database and PostgreSQL the one of a
  production deployment.  They differ in how they pick the
  key of a new row, in whether they enforce foreign keys, in
  their `lower` function and in how they store a datetime.

  Key definitions include:
    * `Dialect`
    * `DateTime`
    * `Dialect.bindDateTime`
    * `Store`
    * `Store.insertInto`
    * `Store.updateIn`

  Key theorems include:
    * `Store.insertInto_eq_ok_iff`
    * `Store.insertInto_eq_error_iff`
    * `Store.updateIn_eq_ok_iff`
    * `Store.updateIn_eq_error_iff`
    * `Store.updateIn_eq_put`
-/

------------------------------------------------------------
-- Dialects
------------------------------------------------------------

namespace AccessIQ

open Foundations Python

inductive Dialect where
  | sqlite
  | postgresql
  deriving DecidableEq, Repr

namespace Dialect

/-
  An SQLite integer primary key is one above the largest key
  present; a PostgreSQL serial key comes from a sequence.
-/
def keyPolicy : Dialect → KeyPolicy
  | .sqlite => .maxPlusOne
  | .postgresql => .sequence

/- SQLite connections leave foreign keys unenforced. -/
def enforcesForeignKeys : Dialect → Bool
  | .sqlite => false
  | .postgresql => true

/-
  The integers a statement can bind to an integer column.
  SQLite's have 64 bits; PostgreSQL's `INTEGER`, to which the
  driver casts the parameter, has 32.
-/
def bindsInteger
    (dialect : Dialect)
    (n : Int) :
    Bool :=
  match dialect with
  | .sqlite => -(2 ^ 63) ≤ n && n < 2 ^ 63
  | .postgresql => -(2 ^ 31) ≤ n && n < 2 ^ 31

/- SQLite's built-in `lower` folds ASCII letters only. -/
def lower
    [Platform]
    (dialect : Dialect)
    (s : String) :
    String :=
  match dialect with
  | .sqlite => asciiLower s
  | .postgresql => Platform.postgresLower s

end Dialect

/-
  A Python datetime: the wall clock reading, and the offset
  from UTC unless the datetime is naive.
-/
structure DateTime where
  wall : Int
  offset : Option Int
  deriving DecidableEq, Repr

/- The instant a datetime names, a naive one read as UTC. -/
def DateTime.instant
    (d : DateTime) :
    Timestamp :=
  d.wall - d.offset.getD 0

/-
  The value a `DateTime(timezone=True)` column stores and a
  comparison binds.  SQLite keeps the wall clock reading and
  drops the offset; PostgreSQL keeps the instant.
-/
def Dialect.bindDateTime
    (dialect : Dialect)
    (d : DateTime) :
    Int :=
  match dialect with
  | .sqlite => d.wall
  | .postgresql => d.instant

/- `datetime.now(UTC)` at an instant. -/
def DateTime.utc
    (now : Timestamp) :
    DateTime where
  wall := now
  offset := some 0

@[simp] theorem Dialect.bindDateTime_utc
    (dialect : Dialect)
    (now : Timestamp) :
    dialect.bindDateTime (DateTime.utc now) = now := by
  cases dialect <;>
    simp [bindDateTime, DateTime.utc, DateTime.instant]

end AccessIQ

------------------------------------------------------------
-- Tables Of The Database
------------------------------------------------------------

namespace AccessIQ

open Foundations Delegation Governance Remediation

structure Store where
  dialect : Dialect
  users : Table User
  groups : Table Group
  groupMembers : Table GroupMember
  enterpriseUserProfiles : Table EnterpriseUserProfile
  applications : Table Application
  entitlements : Table Entitlement
  accessAssignments : Table AccessAssignment
  auditEvents : Table AuditEvent
  provisioningJobs : Table ProvisioningJob
  provisioningHistory : Table ProvisioningHistory
  delegationAssignments : Table DelegationAssignment
  certificationCampaigns : Table CertificationCampaign
  certificationReviewItems : Table CertificationReviewItem
  certificationDecisions : Table CertificationDecision
  remediationJobs : Table RemediationJob

/- A database without rows. -/
def Store.empty
    (dialect : Dialect) :
    Store where
  dialect := dialect
  users := .empty
  groups := .empty
  groupMembers := .empty
  enterpriseUserProfiles := .empty
  applications := .empty
  entitlements := .empty
  accessAssignments := .empty
  auditEvents := .empty
  provisioningJobs := .empty
  provisioningHistory := .empty
  delegationAssignments := .empty
  certificationCampaigns := .empty
  certificationReviewItems := .empty
  certificationDecisions := .empty
  remediationJobs := .empty

end AccessIQ

------------------------------------------------------------
-- Statements
------------------------------------------------------------

namespace AccessIQ

open Foundations

namespace Store

variable {α : Type} [Row α]

/-
  Whether the foreign key `i` into a table is satisfied: it
  resolves, or the database does not look.
-/
def resolves
    (s : Store)
    (t : Table α)
    (i : Int) :
    Bool :=
  !s.dialect.enforcesForeignKeys || t.contains i

/- A missing foreign key is satisfied. -/
def resolves?
    (s : Store)
    (t : Table α)
    (i : Option Int) :
    Bool :=
  i.all (s.resolves t)

theorem resolves_of_contains
    {s : Store}
    {t : Table α}
    {i : Int}
    (hContains : t.contains i = true) :
    s.resolves t i = true := by
  simp [resolves, hContains]

theorem resolves_of_get?
    {s : Store}
    {t : Table α}
    {i : Int}
    {r : α}
    (hGet : t.get? i = some r) :
    s.resolves t i = true :=
  resolves_of_contains (Table.contains_of_get? hGet)

/- Insert a row into one table of the database. -/
def insertInto
    (s : Store)
    (t : Table α)
    (put : Table α → Store)
    (r : α)
    (refs : Bool) :
    Except DatabaseError (Store × Int) :=
  (t.tryInsert s.dialect.keyPolicy r refs).map
    fun p => (put p.1, p.2)

/- Update a row of one table of the database. -/
def updateIn
    (t : Table α)
    (put : Table α → Store)
    (i : Int)
    (f : α → α)
    (refs : Bool) :
    Except DatabaseError Store :=
  (t.tryModify i f refs).map put

theorem insertInto_eq_ok_iff
    {s s' : Store}
    {t : Table α}
    {put : Table α → Store}
    {r : α}
    {refs : Bool}
    {n : Int} :
    s.insertInto t put r refs = .ok (s', n) ↔
      refs = true ∧
        ∃ hFits : t.Fits r,
          s' = put (t.insert s.dialect.keyPolicy r hFits) ∧
            n = t.freshId s.dialect.keyPolicy := by
  unfold insertInto Table.tryInsert
  split
  · rename_i h
    simp [Except.map, h, eq_comm]
  · rename_i h
    constructor
    · intro hEq
      cases hEq
    · rintro ⟨hRefs, hFits, -⟩
      exact absurd ⟨hRefs, hFits⟩ h

theorem insertInto_eq_error_iff
    {s : Store}
    {t : Table α}
    {put : Table α → Store}
    {r : α}
    {refs : Bool}
    {e : DatabaseError} :
    s.insertInto t put r refs = .error e ↔
      e = .integrity ∧ ¬ (refs = true ∧ t.Fits r) := by
  rw [← Table.tryInsert_eq_error_iff s.dialect.keyPolicy]
  unfold insertInto
  cases t.tryInsert s.dialect.keyPolicy r refs <;>
    simp [Except.map]

theorem updateIn_eq_ok_iff
    {s' : Store}
    {t : Table α}
    {put : Table α → Store}
    {i : Int}
    {f : α → α}
    {refs : Bool} :
    updateIn t put i f refs = .ok s' ↔
      t.contains i = true ∧ refs = true ∧
        ∃ hFits : t.FitsUpdate i f,
          s' = put (t.modify i f hFits) := by
  constructor
  · intro hOk
    unfold updateIn at hOk
    cases hTry : t.tryModify i f refs with
    | error e =>
        rw [hTry] at hOk
        cases hOk
    | ok t' =>
        rw [hTry] at hOk
        cases hOk
        rcases Table.tryModify_eq_ok_iff.mp hTry with
          ⟨hContains, hRefs, hFits, rfl⟩
        exact ⟨hContains, hRefs, hFits, rfl⟩
  · rintro ⟨hContains, hRefs, hFits, rfl⟩
    have hTry : t.tryModify i f refs = .ok _ :=
      Table.tryModify_eq_ok_iff.mpr
        ⟨hContains, hRefs, hFits, rfl⟩
    simp [updateIn, hTry, Except.map]

theorem updateIn_eq_error_iff
    {t : Table α}
    {put : Table α → Store}
    {i : Int}
    {f : α → α}
    {refs : Bool}
    {e : DatabaseError} :
    updateIn t put i f refs = .error e ↔
      (t.contains i = false ∧ e = .staleData) ∨
        (t.contains i = true ∧ e = .integrity ∧
          ¬ (refs = true ∧ t.FitsUpdate i f)) := by
  rw [← Table.tryModify_eq_error_iff]
  unfold updateIn
  cases t.tryModify i f refs <;> simp [Except.map]

/- An update that stores another version of a row. -/
theorem updateIn_eq_put
    {t : Table α}
    {put : Table α → Store}
    {i : Int}
    {f : α → α}
    {old : α}
    {refs : Bool}
    (r : α)
    (hId : Row.id r = i)
    (hGet : t.get? i = some old)
    (hNew : f old = r)
    (hSame : ∀ a, Row.conflicts a r = Row.conflicts a old)
    (hRefs : refs = true) :
    updateIn t put i f refs = .ok (put (t.put r)) := by
  subst hId
  unfold updateIn
  rw [Table.tryModify_eq_put hGet hNew hSame hRefs]
  rfl

/- An insertion whose key nobody needs. -/
theorem insertInto_fst_eq_ok
    {s s' : Store}
    {t : Table α}
    {put : Table α → Store}
    {r : α}
    {refs : Bool}
    (hOk : (s.insertInto t put r refs).map Prod.fst = .ok s') :
    ∃ hFits : t.Fits r,
      s' = put (t.insert s.dialect.keyPolicy r hFits) := by
  cases hInsert : s.insertInto t put r refs with
  | error e =>
      rw [hInsert] at hOk
      cases hOk
  | ok pair =>
      rw [hInsert] at hOk
      cases hOk
      rcases insertInto_eq_ok_iff.mp hInsert with
        ⟨-, hFits, hStore, -⟩
      exact ⟨hFits, hStore⟩

end Store

end AccessIQ
