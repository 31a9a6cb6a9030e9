import AccessIQ.Foundations.Upsert
import AccessIQ.AuditService
import AccessIQ.Users

/-
  What the startup writes to the database.

  A startup brings the seeded users up to date, and adds the
  applications and entitlements that are missing, each in a
  transaction of its own.

  Key definitions include:
    * `seedUsers`
    * `seedApplicationsAndEntitlements`
    * `UsersSeeded`
    * `ReferencesSeeded`
    * `Referenced`

  Key theorems include:
    * `seedUsers_outcome`
    * `seedReferences_outcome`
    * `insertApplications_isOk_iff`
    * `ReferencesSeeded.referenced`
    * `ReferencesSeeded.eq_of_referenced`
-/

------------------------------------------------------------
-- Reference Data
------------------------------------------------------------

namespace AccessIQ

open Foundations Python

/- What the startup writes of a user, by the email address. -/
structure SeedUser where
  name : String
  email : String
  department : String
  active : Bool
  operatorRole : String
  deriving DecidableEq, Repr

structure SeedApplication where
  name : String
  slug : String
  deriving DecidableEq, Repr

structure SeedEntitlement where
  applicationSlug : String
  name : String
  slug : String
  deriving DecidableEq, Repr

/- `SEEDED_USERS`. -/
def seededUserData : List SeedUser :=
  [ ⟨"Bob Smith", "bob@example.com", "Sales", true,
      "employee"⟩,
    ⟨"Sarah Chen", "sarah@example.com", "Finance", true,
      "helpdesk"⟩,
    ⟨"Alice Johnson", "alice@example.com", "Engineering",
      true, "security_admin"⟩,
    ⟨"Ian Wright", "ian@example.com", "Engineering", true,
      "iam_admin"⟩,
    ⟨"Audit Reviewer", "auditor@example.com", "Compliance",
      true, "auditor"⟩,
    ⟨"Maya Patel", "manager@example.com", "Operations", true,
      "manager"⟩ ]

/- `SEEDED_APPLICATIONS`. -/
def seededApplicationData : List SeedApplication :=
  [ ⟨"Salesforce", "salesforce"⟩,
    ⟨"Zendesk", "zendesk"⟩,
    ⟨"Finance Portal", "finance-portal"⟩,
    ⟨"GitHub", "github"⟩,
    ⟨"SCIM Provisioning", "scim-provisioning"⟩,
    ⟨"Connector Framework", "connector-framework"⟩,
    ⟨"Governance", "governance"⟩ ]

/- `SEEDED_ENTITLEMENTS`. -/
def seededEntitlementData : List SeedEntitlement :=
  [ ⟨"salesforce", "Salesforce User", "user"⟩,
    ⟨"salesforce", "Salesforce Administrator",
      "administrator"⟩,
    ⟨"zendesk", "Zendesk Agent", "agent"⟩,
    ⟨"zendesk", "Zendesk Administrator", "administrator"⟩,
    ⟨"finance-portal", "Finance Read Only", "read-only"⟩,
    ⟨"finance-portal", "Finance Administrator",
      "administrator"⟩,
    ⟨"github", "GitHub Developer", "developer"⟩,
    ⟨"github", "GitHub Administrator", "administrator"⟩,
    ⟨"scim-provisioning", "SCIM User Lifecycle",
      "user-lifecycle"⟩,
    ⟨"scim-provisioning", "SCIM Group Lifecycle",
      "group-lifecycle"⟩,
    ⟨"scim-provisioning", "SCIM Enterprise User Extension",
      "enterprise-user-extension"⟩,
    ⟨"connector-framework", "Connector Execution",
      "connector-execution"⟩,
    ⟨"governance", "Access Review Certification",
      "access-review-certification"⟩ ]

end AccessIQ

------------------------------------------------------------
-- Seeding
------------------------------------------------------------

namespace AccessIQ

open Foundations Python

/- The columns that the startup sets of a user it finds. -/
def SeedUser.write
    (userData : SeedUser)
    (user : User) :
    User :=
  { user with
    name := userData.name
    department := userData.department
    active := userData.active
    operatorRole := userData.operatorRole }

/- The row of a user it does not find, before it has a key. -/
def SeedUser.newUser
    (userData : SeedUser) :
    User where
  id := 0
  name := userData.name
  email := userData.email
  department := userData.department
  active := userData.active
  operatorRole := userData.operatorRole

def SeedApplication.newApplication
    (applicationData : SeedApplication) :
    Application where
  id := 0
  name := applicationData.name
  slug := applicationData.slug

namespace Store

/- Update the users that were found, insert the others. -/
def seedUserRows
    (s : Store)
    (found : List (SeedUser × Option User)) :
    Except DatabaseError Store :=
  (s.users.upsert s.dialect.keyPolicy SeedUser.write
      SeedUser.newUser found).map
    fun t => { s with users := t }

def insertApplications
    (s : Store)
    (applications : List Application) :
    Except DatabaseError Store :=
  (s.applications.tryInsertAll s.dialect.keyPolicy
      (fun _ => true) applications).map
    fun t => { s with applications := t }

def insertEntitlements
    (s : Store)
    (entitlements : List Entitlement) :
    Except DatabaseError Store :=
  (s.entitlements.tryInsertAll s.dialect.keyPolicy
      (fun e => s.resolves s.applications e.applicationId)
      entitlements).map
    fun t => { s with entitlements := t }

def applicationBySlug
    (s : Store)
    (slug : String) :
    Option Application :=
  s.applications.rows.find? (·.slug == slug)

end Store

/- An entitlement is identified within its application. -/
def entitlementKey
    (entitlement : Entitlement) :
    Int × String :=
  (entitlement.applicationId, entitlement.slug)

/- The seeded applications that the database has not got. -/
def Store.missingApplications
    (s : Store) :
    List Application :=
  (unseen SeedApplication.slug
      (s.applications.rows.map (·.slug))
      seededApplicationData).map
    SeedApplication.newApplication

/-
  The row of a seeded entitlement, if its application is in
  the database.
-/
def Store.newEntitlement
    (s : Store)
    (entitlementData : SeedEntitlement) :
    Option Entitlement :=
  (s.applicationBySlug entitlementData.applicationSlug).map
    fun application =>
      { id := 0
        name := entitlementData.name
        slug := entitlementData.slug
        applicationId := application.id }

/- Look every seeded user up. -/
def findSeedUsers :
    List SeedUser → Handler (List (SeedUser × Option User))
  | [] => return []
  | userData :: rest => do
      let s ← Program.view
      let user := s.findUserByEmail userData.email
      let others ← findSeedUsers rest
      return (userData, user) :: others

/- `seed_users`; what it adds and sets is flushed at once. -/
def seedUsers : Handler Unit := do
  let found ← findSeedUsers seededUserData
  Program.flush_ (·.seedUserRows found)
  Program.commit

/-
  `seed_applications_and_entitlements`; a `KeyError` cannot
  be raised, for every application was just added.
-/
def seedApplicationsAndEntitlements : Handler Unit := do
  let s ← Program.view
  Program.flush_
    (·.insertApplications s.missingApplications)
  let s ← Program.view
  let entitlements ←
    Program.getOrRaise
      (seededEntitlementData.mapM s.newEntitlement)
      (.runtimeError "KeyError")
  Program.flush_
    (·.insertEntitlements
      (unseen entitlementKey
        (s.entitlements.rows.map entitlementKey)
        entitlements))
  Program.commit

end AccessIQ

------------------------------------------------------------
-- What Seeding Leaves
------------------------------------------------------------

namespace AccessIQ

open Foundations Python

/-
  A transaction of the startup commits what `done` describes,
  or it commits nothing: the database failed, or `refused`.
-/
inductive Transacted
    {σ : Type}
    (env : Environment)
    (done : σ → Prop)
    (refused : Prop)
    (s : σ) :
    Except PyException Unit → σ → Prop
  | committed
      (s' : σ)
      (hDone : done s') :
      Transacted env done refused s (.ok ()) s'
  | failed
      (e : PyException)
      (hCause : ¬ env.Steady ∨ refused) :
      Transacted env done refused s (.error e) s

theorem not_steady_of_mayFail
    {env : Environment}
    (hFail : env.world.mayFail) :
    ¬ env.Steady := by
  intro hSteady
  exact hSteady.not_mayFail hFail

/- Users are seeded by their email addresses. -/
theorem userKey :
    Table.NaturalKey (·.email) SeedUser.email SeedUser.write
      SeedUser.newUser where
  conflicts _ _ := decide_eq_true_iff
  key_write _ _ := rfl
  id_write _ _ := rfl
  write_write _ _ := rfl
  key_new _ := rfl
  write_new _ _ := rfl

/- Seeded users have been brought up to date or added. -/
def UsersSeeded
    (s s' : Store) : Prop :=
  ∃ t',
    s.users.upsert s.dialect.keyPolicy SeedUser.write
          SeedUser.newUser
          (s.users.lookUp (·.email) SeedUser.email
            seededUserData) =
        .ok t' ∧
      s' = { s with users := t' }

theorem reading_findSeedUsers
    (s : Store)
    (entries : List SeedUser) :
    (findSeedUsers entries).reading s =
      some
        (.ok
          (s.users.lookUp (·.email) SeedUser.email
            entries)) := by
  induction entries with
  | nil => rfl
  | cons userData rest ih =>
      unfold findSeedUsers
      rw [Program.reading_bind_of_ok
        (Program.reading_view s),
        Program.reading_bind_of_ok ih]
      rfl

theorem nodup_seededUserData :
    (seededUserData.map SeedUser.email).Nodup := by
  decide

/- Seeding users cannot fail but with the database. -/
theorem seedUsers_outcome
    (env : Environment)
    (s : Store) :
    Transacted env (UsersSeeded s) False s
      (seedUsers.serve env s).result
      (seedUsers.serve env s).committed := by
  rcases userKey.upserted s.dialect.keyPolicy
      (t := s.users) nodup_seededUserData with
    ⟨t', hOk, -⟩
  have hFlushed :
      s.seedUserRows
          (s.users.lookUp (·.email) SeedUser.email
            seededUserData) =
        .ok { s with users := t' } := by
    unfold Store.seedUserRows
    rw [hOk]
    rfl
  have hWp :
      seedUsers.wp env.world
        (fun r m =>
          Transacted env (UsersSeeded s) False s r
            m.committed)
        (Moment.start s) := by
    unfold seedUsers
    rw [Program.wp_bind, Moment.start,
      Program.wp_of_reading
        (reading_findSeedUsers s seededUserData),
      Program.bindPost_ok, Program.wp_bind,
      Program.wp_flush_, hFlushed]
    refine ⟨?_, ?_, ?_⟩
    · intro hFail
      exact .failed _ (.inl (not_steady_of_mayFail hFail))
    · rintro _ ⟨⟩
      rw [Program.bindPost_ok, Program.wp_commit]
      constructor
      · intro hFail
        exact .failed _ (.inl (not_steady_of_mayFail hFail))
      · exact .committed _ ⟨t', hOk, rfl⟩
    · intro e hError
      cases hError
  exact
    @Program.serve_of_wp _ _ _ _ _ _ _ _ env.conforms_world
      _ _
      (fun r committed _ =>
        Transacted env (UsersSeeded s) False s r committed)
      hWp

/- No application has the name of one that is to be added. -/
def NamesFree
    (s : Store) : Prop :=
  ∀ d ∈ seededApplicationData,
    ∀ a ∈ s.applications.rows, a.name = d.name →
      ∃ b ∈ s.applications.rows, b.slug = d.slug

instance
    (s : Store) :
    Decidable (NamesFree s) :=
  inferInstanceAs
    (Decidable
      (∀ d ∈ seededApplicationData,
        ∀ a ∈ s.applications.rows, a.name = d.name →
          ∃ b ∈ s.applications.rows, b.slug = d.slug))

/-
  Missing applications have been added, and then missing
  entitlements.
-/
structure ReferencesSeeded
    (s s₁ s' : Store)
    (entitlements : List Entitlement) : Prop where
  applications :
    s.insertApplications s.missingApplications = .ok s₁
  looked :
    seededEntitlementData.mapM s₁.newEntitlement =
      some entitlements
  entitlements :
    s₁.insertEntitlements
        (unseen entitlementKey
          (s.entitlements.rows.map entitlementKey)
          entitlements) =
      .ok s'

/- The reference data that the services look up. -/
structure Referenced (s : Store) : Prop where
  applications :
    ∀ d ∈ seededApplicationData,
      ∃ a ∈ s.applications.rows, a.slug = d.slug
  entitlements :
    ∀ d ∈ seededEntitlementData,
      ∃ e,
        s.entitlementBySlugs d.applicationSlug d.slug =
          some e

theorem mem_missingApplications
    {s : Store}
    {application : Application} :
    application ∈ s.missingApplications →
      ∃ d ∈ seededApplicationData,
        application = d.newApplication ∧
          ∀ a ∈ s.applications.rows, a.slug ≠ d.slug := by
  intro hMem
  unfold Store.missingApplications at hMem
  rcases List.mem_map.mp hMem with ⟨d, hd, rfl⟩
  rcases mem_unseen hd with ⟨hData, hUnknown⟩
  refine ⟨d, hData, rfl, ?_⟩
  intro a ha hSlug
  apply hUnknown
  rw [← hSlug]
  exact List.mem_map_of_mem ha

/- A seeded application that is not there is added. -/
theorem mem_missingApplications_of_absent
    {s : Store}
    {d : SeedApplication}
    (hData : d ∈ seededApplicationData)
    (hAbsent :
      ∀ a ∈ s.applications.rows, a.slug ≠ d.slug) :
    d.newApplication ∈ s.missingApplications := by
  have hUnknown :
      d.slug ∉ s.applications.rows.map (·.slug) := by
    intro hKnown
    rcases List.mem_map.mp hKnown with ⟨a, ha, hSlug⟩
    exact hAbsent a ha hSlug
  rcases exists_mem_unseen hData hUnknown with
    ⟨c, hc, hSlug⟩
  have hSame :
      ∀ a ∈ seededApplicationData,
        ∀ b ∈ seededApplicationData,
          a.slug = b.slug → a = b := by
    decide
  have hEq : c = d :=
    hSame c (mem_unseen hc).1 d hData hSlug
  exact List.mem_map_of_mem (hEq ▸ hc)

theorem conflicts_application_iff
    (a b : Application) :
    Row.conflicts a b = true ↔
      a.name = b.name ∨ a.slug = b.slug :=
  decide_eq_true_iff

/- Applications are added exactly if their names are free. -/
theorem tryInsert_missingApplications_iff
    {s : Store} :
    (∃ t,
      s.applications.tryInsertAll s.dialect.keyPolicy
          (fun _ => true) s.missingApplications =
        .ok t) ↔
      NamesFree s := by
  rw [Table.tryInsertAll_isOk_iff]
  constructor
  · rintro ⟨hFits, -⟩ d hData a ha hName
    by_contra hNone
    have hAbsent :
        ∀ b ∈ s.applications.rows, b.slug ≠ d.slug := by
      intro b hb hSlug
      exact hNone ⟨b, hb, hSlug⟩
    have hMissing :=
      mem_missingApplications_of_absent hData hAbsent
    have hApart := (hFits _ hMissing).2 a ha
    rw [Bool.eq_false_iff, Ne, conflicts_application_iff]
      at hApart
    exact hApart (Or.inl hName)
  · intro hFree
    constructor
    · intro r hr
      rcases mem_missingApplications hr with
        ⟨d, hData, rfl, hAbsent⟩
      refine ⟨rfl, ?_⟩
      intro a ha
      rw [Bool.eq_false_iff, Ne, conflicts_application_iff]
      rintro (hName | hSlug)
      · rcases hFree d hData a ha hName with
          ⟨b, hb, hSlug⟩
        exact hAbsent b hb hSlug
      · exact hAbsent a ha hSlug
    · have hApart :
          (seededApplicationData.map
              SeedApplication.newApplication).Pairwise
            fun a b => Row.conflicts a b = false := by
        decide
      exact hApart.sublist ((unseen_sublist _ _).map _)

theorem insertApplications_isOk_iff
    {s : Store} :
    (∃ s₁,
      s.insertApplications s.missingApplications =
        .ok s₁) ↔
      NamesFree s := by
  rw [← tryInsert_missingApplications_iff]
  unfold Store.insertApplications
  cases s.applications.tryInsertAll s.dialect.keyPolicy
      (fun _ => true) s.missingApplications with
  | error e => simp [Except.map]
  | ok t => simp [Except.map]

/- The rows of the applications after they were added. -/
theorem insertApplications_eq_ok
    {s s₁ : Store}
    {applications : List Application}
    (hOk : s.insertApplications applications = .ok s₁) :
    ∃ t,
      s.applications.tryInsertAll s.dialect.keyPolicy
          (fun _ => true) applications = .ok t ∧
        s₁ = { s with applications := t } := by
  unfold Store.insertApplications at hOk
  exact map_eq_ok hOk

theorem insertEntitlements_eq_ok
    {s s' : Store}
    {entitlements : List Entitlement}
    (hOk : s.insertEntitlements entitlements = .ok s') :
    ∃ t,
      s.entitlements.tryInsertAll s.dialect.keyPolicy
          (fun e =>
            s.resolves s.applications e.applicationId)
          entitlements = .ok t ∧
        s' = { s with entitlements := t } := by
  unfold Store.insertEntitlements at hOk
  exact map_eq_ok hOk

/- The database after missing applications were added. -/
structure ApplicationsAdded (s s₁ : Store) : Prop where
  stored : ∃ t, s₁ = { s with applications := t }
  kept : s.applications.rows <+: s₁.applications.rows
  there :
    ∀ d ∈ seededApplicationData,
      ∃ a ∈ s₁.applications.rows, a.slug = d.slug

theorem applicationsAdded
    {s s₁ : Store}
    (hOk :
      s.insertApplications s.missingApplications =
        .ok s₁) :
    ApplicationsAdded s s₁ := by
  rcases insertApplications_eq_ok hOk with ⟨t, hTry, rfl⟩
  rcases Table.rows_of_tryInsertAll hTry with
    ⟨added, hRows, hAdded⟩
  refine ⟨⟨t, rfl⟩, ⟨added, hRows.symm⟩, ?_⟩
  intro d hData
  by_cases hStored :
      ∃ a ∈ s.applications.rows, a.slug = d.slug
  · rcases hStored with ⟨a, ha, hSlug⟩
    refine ⟨a, ?_, hSlug⟩
    rw [hRows]
    exact List.mem_append_left _ ha
  · have hMissing :
        d.newApplication ∈ s.missingApplications := by
      apply mem_missingApplications_of_absent hData
      intro a ha hSlug
      exact hStored ⟨a, ha, hSlug⟩
    rcases exists_of_forall₂ hAdded hMissing with
      ⟨a, ha, hRow⟩
    refine ⟨a, ?_, ?_⟩
    · rw [hRows]
      exact List.mem_append_right _ ha
    · rw [hRow]
      rfl

/- An application is found by its slug. -/
theorem applicationBySlug_eq_some
    {s : Store}
    {slug : String}
    {a : Application}
    (hFind : s.applicationBySlug slug = some a) :
    a ∈ s.applications.rows ∧ a.slug = slug := by
  unfold Store.applicationBySlug at hFind
  have hSlug := List.find?_some hFind
  exact ⟨List.mem_of_find?_eq_some hFind,
    beq_iff_eq.mp hSlug⟩

theorem exists_newEntitlement
    {s : Store}
    (hThere :
      ∀ d ∈ seededApplicationData,
        ∃ a ∈ s.applications.rows, a.slug = d.slug)
    {d : SeedEntitlement}
    (hData : d ∈ seededEntitlementData) :
    ∃ a, s.applicationBySlug d.applicationSlug = some a := by
  have hKnown :
      ∀ d ∈ seededEntitlementData,
        ∃ c ∈ seededApplicationData,
          c.slug = d.applicationSlug := by
    decide
  rcases hKnown d hData with ⟨c, hc, hSlug⟩
  rcases hThere c hc with ⟨a, ha, hFound⟩
  unfold Store.applicationBySlug
  apply Option.isSome_iff_exists.mp
  rw [List.find?_isSome]
  exact ⟨a, ha, beq_iff_eq.mpr (hFound.trans hSlug)⟩

/- An entitlement is found by the slugs it has. -/
theorem exists_entitlementBySlugs
    {s : Store}
    {e : Entitlement}
    {a : Application}
    (hEntitlement : e ∈ s.entitlements.rows)
    (hApplication : a ∈ s.applications.rows)
    (hOf : e.applicationId = a.id) :
    ∃ found,
      s.entitlementBySlugs a.slug e.slug = some found := by
  unfold Store.entitlementBySlugs
  apply Option.isSome_iff_exists.mp
  rw [List.find?_isSome]
  refine ⟨e, hEntitlement, ?_⟩
  have hGet :
      s.applications.get? e.applicationId = some a := by
    rw [hOf]
    exact s.applications.get?_of_mem hApplication
  rw [hGet, Option.any_some, BEq.rfl, BEq.rfl]
  rfl

/- Missing entitlements are added, and then all are there. -/
theorem ReferencesSeeded.referenced
    {s s₁ s' : Store}
    {entitlements : List Entitlement}
    (hSeeded : ReferencesSeeded s s₁ s' entitlements) :
    Referenced s' := by
  have hAdded := applicationsAdded hSeeded.applications
  rcases insertEntitlements_eq_ok hSeeded.entitlements with
    ⟨t, hTry, rfl⟩
  rcases Table.rows_of_tryInsertAll hTry with
    ⟨added, hRows, hInserted⟩
  constructor
  · exact hAdded.there
  · intro d hData
    rcases exists_of_forall₂
        (forall₂_of_mapM_eq_some hSeeded.looked) hData with
      ⟨e, he, hNew⟩
    rcases Option.map_eq_some_iff.mp hNew with
      ⟨a, hFind, hRow⟩
    rcases applicationBySlug_eq_some hFind with
      ⟨ha, hSlug⟩
    have hStored :
        ∃ q ∈ t.rows, entitlementKey q = entitlementKey e := by
      by_cases hKnown :
          entitlementKey e ∈
            s.entitlements.rows.map entitlementKey
      · rcases List.mem_map.mp hKnown with ⟨q, hq, hKey⟩
        refine ⟨q, ?_, hKey⟩
        rcases hAdded.stored with ⟨_, hSame⟩
        rw [hRows, hSame]
        exact List.mem_append_left _ hq
      · rcases exists_mem_unseen he hKnown with
          ⟨c, hc, hKey⟩
        rcases exists_of_forall₂ hInserted hc with
          ⟨q, hq, hQ⟩
        refine ⟨q, ?_, ?_⟩
        · rw [hRows]
          exact List.mem_append_right _ hq
        · rw [← hKey, hQ]
          rfl
    rcases hStored with ⟨q, hq, hKey⟩
    have hKeys :
        q.applicationId = a.id ∧ q.slug = d.slug := by
      rw [← hRow] at hKey
      exact Prod.mk.inj hKey
    rw [← hSlug, ← hKeys.2]
    exact exists_entitlementBySlugs hq ha hKeys.1

/- An entitlement that is added has an application. -/
theorem insertEntitlements_isOk
    {s : Store}
    {entitlements : List Entitlement}
    (hLooked :
      seededEntitlementData.mapM s.newEntitlement =
        some entitlements) :
    ∃ s',
      s.insertEntitlements
          (unseen entitlementKey
            (s.entitlements.rows.map entitlementKey)
            entitlements) =
        .ok s' := by
  have hConflicts :
      ∀ a b : Entitlement,
        Row.conflicts a b = true ↔
          entitlementKey a = entitlementKey b := by
    intro a b
    unfold entitlementKey
    rw [Prod.mk.injEq]
    exact decide_eq_true_iff
  have hInserted :
      ∃ t,
        s.entitlements.tryInsertAll s.dialect.keyPolicy
            (fun e =>
              s.resolves s.applications e.applicationId)
            (unseen entitlementKey
              (s.entitlements.rows.map entitlementKey)
              entitlements) =
          .ok t := by
    rw [Table.tryInsertAll_isOk_iff]
    constructor
    · intro e he
      rcases mem_unseen he with ⟨hMem, hUnknown⟩
      constructor
      · rcases exists_of_forall₂
            (forall₂_of_mapM_eq_some hLooked).flip hMem with
          ⟨d, -, hNew⟩
        rcases Option.map_eq_some_iff.mp hNew with
          ⟨a, hFind, rfl⟩
        have ha := (applicationBySlug_eq_some hFind).1
        exact Store.resolves_of_get?
          (s.applications.get?_of_mem ha)
      · intro q hq
        rw [Bool.eq_false_iff, Ne, hConflicts]
        intro hKey
        apply hUnknown
        rw [← hKey]
        exact List.mem_map_of_mem hq
    · apply (pairwise_unseen _ _).imp
      intro a b hKeys
      rw [Bool.eq_false_iff, Ne, hConflicts]
      exact hKeys
  rcases hInserted with ⟨t, hOk⟩
  unfold Store.insertEntitlements
  rw [hOk]
  exact ⟨_, rfl⟩

/-
  Seeding reference data fails with the database, or where an
  application has the name of one that is to be added.
-/
theorem seedReferences_outcome
    (env : Environment)
    (s : Store) :
    Transacted env
      (fun s' =>
        ∃ s₁ entitlements,
          ReferencesSeeded s s₁ s' entitlements)
      (¬ NamesFree s) s
      (seedApplicationsAndEntitlements.serve env s).result
      (seedApplicationsAndEntitlements.serve env
        s).committed := by
  have hWp :
      seedApplicationsAndEntitlements.wp env.world
        (fun r m =>
          Transacted env
            (fun s' =>
              ∃ s₁ entitlements,
                ReferencesSeeded s s₁ s' entitlements)
            (¬ NamesFree s) s r m.committed)
        (Moment.start s) := by
    unfold seedApplicationsAndEntitlements
    rw [Program.wp_bind, Moment.start, Program.wp_view,
      Program.bindPost_ok, Program.wp_bind,
      Program.wp_flush_]
    refine ⟨?_, ?_, ?_⟩
    · intro hFail
      exact .failed _ (.inl (not_steady_of_mayFail hFail))
    · intro s₁ hApplications
      have hAdded := applicationsAdded hApplications
      have hSame : s₁.entitlements = s.entitlements := by
        rcases hAdded.stored with ⟨_, rfl⟩
        rfl
      have hLooked :
          ∃ entitlements,
            seededEntitlementData.mapM s₁.newEntitlement =
              some entitlements := by
        apply exists_mapM_eq_some
        intro d hData
        rcases exists_newEntitlement hAdded.there hData with
          ⟨a, hFind⟩
        unfold Store.newEntitlement
        rw [hFind]
        exact ⟨_, rfl⟩
      rcases hLooked with ⟨entitlements, hLooked⟩
      rcases insertEntitlements_isOk hLooked with ⟨s', hOk⟩
      rw [Program.bindPost_ok, Program.wp_bind,
        Program.wp_view, Program.bindPost_ok, hLooked,
        Program.wp_bind, Program.wp_getOrRaise]
      refine ⟨?_, ?_⟩
      · intro hNone
        cases hNone
      · rintro _ ⟨⟩
        rw [Program.bindPost_ok, Program.wp_bind,
          Program.wp_flush_, hOk]
        refine ⟨?_, ?_, ?_⟩
        · intro hFail
          exact .failed _
            (.inl (not_steady_of_mayFail hFail))
        · rintro _ ⟨⟩
          rw [Program.bindPost_ok, Program.wp_commit]
          constructor
          · intro hFail
            exact .failed _
              (.inl (not_steady_of_mayFail hFail))
          · rw [hSame] at hOk
            exact .committed _
              ⟨s₁, entitlements, hApplications, hLooked, hOk⟩
        · intro e hError
          cases hError
    · intro e hError
      apply Transacted.failed
      right
      intro hFree
      rcases insertApplications_isOk_iff.mpr hFree with
        ⟨s₁, hOk⟩
      rw [hOk] at hError
      cases hError
  exact
    @Program.serve_of_wp _ _ _ _ _ _ _ _ env.conforms_world
      _ _
      (fun r committed _ =>
        Transacted env
          (fun s' =>
            ∃ s₁ entitlements,
              ReferencesSeeded s s₁ s' entitlements)
          (¬ NamesFree s) s r committed)
      hWp

theorem entitlementBySlugs_eq_some
    {s : Store}
    {applicationSlug entitlementSlug : String}
    {e : Entitlement}
    (hFind :
      s.entitlementBySlugs applicationSlug entitlementSlug =
        some e) :
    e ∈ s.entitlements.rows ∧ e.slug = entitlementSlug ∧
      ∃ a ∈ s.applications.rows,
        a.id = e.applicationId ∧ a.slug = applicationSlug := by
  unfold Store.entitlementBySlugs at hFind
  have hHas := List.find?_some hFind
  rw [Bool.and_eq_true, beq_iff_eq] at hHas
  refine ⟨List.mem_of_find?_eq_some hFind, hHas.1, ?_⟩
  cases hGet : s.applications.get? e.applicationId with
  | none =>
      rw [hGet] at hHas
      cases hHas.2
  | some a =>
      rw [hGet, Option.any_some, beq_iff_eq] at hHas
      exact ⟨a, Table.mem_of_get? hGet,
        Table.id_of_get? hGet, hHas.2⟩

/- Two applications have two slugs. -/
theorem application_eq_of_slug
    {s : Store}
    {a b : Application}
    (ha : a ∈ s.applications.rows)
    (hb : b ∈ s.applications.rows)
    (hSlug : a.slug = b.slug) :
    a = b := by
  by_contra hOther
  have hApart :=
    s.applications.conflicts_eq_false_of_ne ha hb hOther
  rw [Bool.eq_false_iff, Ne, conflicts_application_iff]
    at hApart
  exact hApart (Or.inr hSlug)

/- Where all reference data is there, none is added. -/
theorem ReferencesSeeded.eq_of_referenced
    {s s₁ s' : Store}
    {entitlements : List Entitlement}
    (hSeeded : ReferencesSeeded s s₁ s' entitlements)
    (hReferenced : Referenced s) :
    s' = s := by
  have hNoApplication : s.missingApplications = [] := by
    unfold Store.missingApplications
    rw [List.map_eq_nil_iff, unseen_eq_nil_iff]
    intro d hData
    rcases hReferenced.applications d hData with
      ⟨a, ha, hSlug⟩
    rw [← hSlug]
    exact List.mem_map_of_mem ha
  have hApplications := hSeeded.applications
  rw [hNoApplication] at hApplications
  have hFirst : s₁ = s := by
    cases hApplications
    rfl
  have hLooked := hSeeded.looked
  have hEntitlements := hSeeded.entitlements
  rw [hFirst] at hLooked hEntitlements
  have hNoEntitlement :
      unseen entitlementKey
          (s.entitlements.rows.map entitlementKey)
          entitlements =
        [] := by
    rw [unseen_eq_nil_iff]
    intro e he
    rcases exists_of_forall₂
        (forall₂_of_mapM_eq_some hLooked).flip he with
      ⟨d, hData, hNew⟩
    rcases Option.map_eq_some_iff.mp hNew with
      ⟨a, hFind, rfl⟩
    rcases applicationBySlug_eq_some hFind with
      ⟨ha, hSlug⟩
    rcases hReferenced.entitlements d hData with
      ⟨q, hFound⟩
    rcases entitlementBySlugs_eq_some hFound with
      ⟨hq, hName, b, hb, hOf, hOwner⟩
    have hSame : b = a :=
      application_eq_of_slug hb ha (hOwner.trans hSlug.symm)
    have hKey :
        entitlementKey q = (a.id, d.slug) := by
      unfold entitlementKey
      rw [← hOf, hSame, hName]
    have hMem : entitlementKey q ∈ _ :=
      List.mem_map_of_mem hq
    rw [hKey] at hMem
    exact hMem
  rw [hNoEntitlement] at hEntitlements
  cases hEntitlements
  rfl

end AccessIQ
