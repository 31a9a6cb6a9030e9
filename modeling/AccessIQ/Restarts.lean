import AccessIQ.Releases.Services
import AccessIQ.Seed
import AccessIQ.Startup
import AccessIQ.Soundness
import AccessIQ.Uniqueness

/-
  Startups of the program, and runs with restarts.

  After the seeding a startup records the deployment.  Until
  a startup has gone through, every request tries it again
  and fails with it.

  Key definitions include:
    * `Process`
    * `initializeDatabase`
    * `serveProcess`
    * `StartupKept`

  Key theorems include:
    * `initializeDatabase_outcome`
    * `initialize_database_exact`
    * `StartupKept.sound`
    * `StartupKept.namesApart`
    * `process_stays_sound`
-/

------------------------------------------------------------
-- The Process
------------------------------------------------------------

namespace AccessIQ

open Foundations Python Releases

/-
  The program with its database; `initialized` is the flag
  that a startup sets when it has gone through.
-/
structure Process where
  store : Store
  deployments : Table ReleaseDeployment
  initialized : Bool

/- The circumstances of a startup. -/
structure Startup where
  settings : ReleaseSettings
  now : Timestamp
  users : Environment
  references : Environment
  deployment : Environment

variable (fromisoformat : String → Option DateTime)

/- `record_current_deployment`, and its commit. -/
def recordDeployment
    (dialect : Dialect)
    (settings : ReleaseSettings)
    (now : Timestamp) :
    Program (Table ReleaseDeployment) Question Reply
      DomainEvent PyException Unit := do
  let deployments ← Program.view
  match
    recordCurrentDeployment fromisoformat dialect settings
      now deployments
  with
  | .error e => throw e
  | .ok (_, deployments') => do
      Program.flush_ fun _ => .ok deployments'
      Program.commit

/- `initialize_database`, after the tables were created. -/
def initializeDatabase
    (startup : Startup)
    (process : Process) :
    Process :=
  if process.initialized then
    process
  else
    let users := seedUsers.serve startup.users process.store
    match users.result with
    | .error _ => { process with store := users.committed }
    | .ok () =>
        let references :=
          seedApplicationsAndEntitlements.serve
            startup.references users.committed
        match references.result with
        | .error _ =>
            { process with store := references.committed }
        | .ok () =>
            let recorded :=
              (recordDeployment fromisoformat
                  process.store.dialect startup.settings
                  startup.now).serve
                startup.deployment process.deployments
            { store := references.committed
              deployments := recorded.committed
              initialized :=
                match recorded.result with
                | .ok () => true
                | .error _ => false }

/- The program is started anew, or a request arrives. -/
inductive ProcessEvent where
  | restart
  | request
      (request : ApplicationRequest)
      (env : Environment)

variable [Platform]

/-
  A request is handled if the database is initialized by
  then; otherwise it fails with the startup.
-/
def serveProcess
    (process : Process)
    (event : ProcessEvent × Startup) :
    Process :=
  match event.1 with
  | .restart =>
      initializeDatabase fromisoformat event.2
        { process with initialized := false }
  | .request request env =>
      let process' :=
        initializeDatabase fromisoformat event.2 process
      if process'.initialized then
        { process' with
          store :=
            serveApplication process'.store (request, env) }
      else
        process'

end AccessIQ

------------------------------------------------------------
-- What A Startup Keeps
------------------------------------------------------------

namespace AccessIQ

open Foundations Python Scim Delegation Governance Remediation

variable {s s' : Store}

/- Rows that stay in front are found as before. -/
theorem get?_of_grown
    {α : Type}
    [Row α]
    {t t' : Table α}
    (hPrefix : t.rows <+: t'.rows)
    {i : Int}
    {r : α}
    (hGet : t.get? i = some r) :
    t'.get? i = some r := by
  rw [Table.get?_eq_some_iff] at *
  exact ⟨hPrefix.subset hGet.1, hGet.2⟩

theorem find?_of_grown
    {α : Type}
    {as bs : List α}
    (hPrefix : as <+: bs)
    {p : α → Bool}
    {a : α}
    (hFind : as.find? p = some a) :
    bs.find? p = some a := by
  rcases hPrefix with ⟨rest, rfl⟩
  rw [List.find?_append, hFind]
  rfl

/- Applications and entitlements were only added. -/
structure ReferencesGrown (s s' : Store) : Prop where
  applications :
    s.applications.rows <+: s'.applications.rows
  entitlements :
    s.entitlements.rows <+: s'.entitlements.rows

/- What an audit event refers to is still there. -/
theorem ReferencesGrown.auditReference
    (hGrown : ReferencesGrown s s')
    {scopeType : DelegationScopeType}
    {scopeId : Int}
    {reference : Int × Int}
    (hReference :
      s.auditReference scopeType scopeId = some reference)
    (hApplication :
      s.applications.contains reference.1 = true ∨
        s'.dialect.enforcesForeignKeys = false) :
    ∃ e ∈ s'.entitlements.rows,
      s'.auditReference scopeType scopeId =
          some (e.applicationId, e.id) ∧
        s'.resolves s'.applications e.applicationId =
          true := by
  have hResolves :
      ∀ e : Entitlement, (e.applicationId, e.id) = reference →
        s'.resolves s'.applications e.applicationId =
          true := by
    intro e hPair
    unfold Store.resolves
    rw [Bool.or_eq_true]
    rcases hApplication with hContains | hLoose
    · right
      rw [← hPair] at hContains
      rcases Option.isSome_iff_exists.mp hContains with
        ⟨a, hGet⟩
      exact Table.contains_of_get?
        (get?_of_grown hGrown.applications hGet)
    · left
      rw [hLoose]
      rfl
  unfold Store.auditReference at hReference ⊢
  cases scopeType with
  | entitlement =>
      rcases Option.map_eq_some_iff.mp hReference with
        ⟨e, hFind, hPair⟩
      have hFound : s'.entitlements.get? scopeId = some e :=
        get?_of_grown hGrown.entitlements hFind
      refine ⟨e, Table.mem_of_get? hFound, ?_,
        hResolves e hPair⟩
      exact Option.map_eq_some_iff.mpr ⟨e, hFound, rfl⟩
  | application =>
      rcases Option.map_eq_some_iff.mp hReference with
        ⟨e, hFind, hPair⟩
      have hFound := find?_of_grown hGrown.entitlements hFind
      refine ⟨e, List.mem_of_find?_eq_some hFound, ?_,
        hResolves e hPair⟩
      exact Option.map_eq_some_iff.mpr ⟨e, hFound, rfl⟩
  | group =>
      rcases Option.map_eq_some_iff.mp hReference with
        ⟨e, hFind, hPair⟩
      rcases entitlementBySlugs_eq_some hFind with
        ⟨he, hSlug, a, ha, hOf, hOwner⟩
      -- another entitlement may be the first one now
      have hSome :=
        exists_entitlementBySlugs
          (hGrown.entitlements.subset he)
          (hGrown.applications.subset ha) hOf.symm
      rw [hSlug, hOwner] at hSome
      rcases hSome with ⟨q, hFound⟩
      rcases entitlementBySlugs_eq_some hFound with
        ⟨hq, -, b, hb, hOwn, -⟩
      refine ⟨q, hq, ?_, ?_⟩
      · exact Option.map_eq_some_iff.mpr ⟨q, hFound, rfl⟩
      · rw [← hOwn]
        exact Store.resolves_of_get?
          (s'.applications.get?_of_mem hb)

/- A delegation stays auditable while tables only grow. -/
theorem ReferencesGrown.audited
    (hGrown : ReferencesGrown s s')
    (hDialect : s'.dialect = s.dialect)
    (hAssignments :
      s'.delegationAssignments = s.delegationAssignments)
    (hUsers :
      ∀ userId,
        s.users.contains userId = true →
          s'.users.contains userId = true)
    (hAudited : Audited s) :
    Audited s' := by
  have hResolves :=
    resolves_users_of_contains hDialect hUsers
  intro a ha
  rw [hAssignments] at ha
  rcases hAudited a ha with
    ⟨actorId, applicationId, entitlementId, hReference,
      hActor, hDelegate, hApplication, -⟩
  have hStored :
      s.applications.contains applicationId = true ∨
        s'.dialect.enforcesForeignKeys = false := by
    unfold Store.resolves at hApplication
    rw [hDialect]
    rw [Bool.or_eq_true, Bool.not_eq_true'] at hApplication
    exact hApplication.symm
  rcases hGrown.auditReference hReference hStored with
    ⟨e, he, hFound, hResolved⟩
  exact ⟨actorId, e.applicationId, e.id, hFound,
    hResolves _ hActor, hResolves _ hDelegate, hResolved,
    Store.resolves_of_get? (s'.entitlements.get?_of_mem he)⟩

/- What the transactions of a startup have committed. -/
inductive StoreSeeded (s : Store) : Store → Prop
  | nothing : StoreSeeded s s
  | users
      (s' : Store)
      (hUsers : UsersSeeded s s') :
      StoreSeeded s s'
  | references
      (s₁ s₂ s' : Store)
      (entitlements : List Entitlement)
      (hUsers : UsersSeeded s s₁)
      (hReferences :
        ReferencesSeeded s₁ s₂ s' entitlements) :
      StoreSeeded s s'

/-
  What a startup keeps: every row but the columns of seeded
  users.
-/
structure StartupKept (s s' : Store) : Prop where
  stored :
    ∃ users applications entitlements,
      s' =
        { s with
          users := users
          applications := applications
          entitlements := entitlements }
  users :
    ∀ userId,
      s.users.contains userId = true →
        s'.users.contains userId = true
  emails :
    ∀ user ∈ s'.users.rows,
      (∃ old ∈ s.users.rows, user.email = old.email) ∨
        ∃ d ∈ seededUserData, user.email = d.email
  grown : ReferencesGrown s s'

theorem UsersSeeded.kept
    (hSeeded : UsersSeeded s s') :
    StartupKept s s' := by
  rcases hSeeded with ⟨t', hOk, rfl⟩
  have hUpserted :=
    userKey.upserted_of_ok nodup_seededUserData hOk
  constructor
  · exact ⟨_, _, _, rfl⟩
  · intro userId hContains
    exact userKey.contains hUpserted hContains
  · intro user hUser
    rcases hUpserted.mem hUser with
      ⟨old, hOld, rfl⟩ | ⟨d, hData, -, hRow⟩
    · left
      exact ⟨old, hOld,
        userKey.key_refreshed seededUserData old⟩
    · right
      refine ⟨d, hData, ?_⟩
      rw [hRow]
      rfl
  · exact ⟨List.prefix_rfl, List.prefix_rfl⟩

theorem ReferencesSeeded.kept
    {s₁ : Store}
    {entitlements : List Entitlement}
    (hSeeded : ReferencesSeeded s s₁ s' entitlements) :
    StartupKept s s' := by
  have hAdded := applicationsAdded hSeeded.applications
  rcases insertEntitlements_eq_ok hSeeded.entitlements with
    ⟨t, hTry, rfl⟩
  rcases Table.rows_of_tryInsertAll hTry with
    ⟨added, hRows, -⟩
  rcases hAdded with ⟨⟨applications, rfl⟩, hKept, -⟩
  constructor
  · exact ⟨_, _, _, rfl⟩
  · exact fun _ hUser => hUser
  · exact fun user hUser => Or.inl ⟨user, hUser, rfl⟩
  · exact ⟨hKept, ⟨added, hRows.symm⟩⟩

theorem ReferencesSeeded.users
    {s₁ : Store}
    {entitlements : List Entitlement}
    (hSeeded : ReferencesSeeded s s₁ s' entitlements) :
    s'.users = s.users := by
  rcases insertApplications_eq_ok hSeeded.applications with
    ⟨_, -, rfl⟩
  rcases insertEntitlements_eq_ok hSeeded.entitlements with
    ⟨_, -, rfl⟩
  rfl

theorem StartupKept.trans
    {s₁ : Store}
    (hFirst : StartupKept s s₁)
    (hSecond : StartupKept s₁ s') :
    StartupKept s s' := by
  constructor
  · rcases hFirst.stored with ⟨_, _, _, rfl⟩
    rcases hSecond.stored with ⟨_, _, _, rfl⟩
    exact ⟨_, _, _, rfl⟩
  · intro userId hUser
    exact hSecond.users userId (hFirst.users userId hUser)
  · intro user hUser
    rcases hSecond.emails user hUser with
      ⟨old, hOld, hSame⟩ | hSeed
    · rw [hSame]
      exact hFirst.emails old hOld
    · exact Or.inr hSeed
  · constructor
    · exact hFirst.grown.applications.trans
        hSecond.grown.applications
    · exact hFirst.grown.entitlements.trans
        hSecond.grown.entitlements

theorem StoreSeeded.kept
    (hSeeded : StoreSeeded s s') :
    StartupKept s s' := by
  cases hSeeded with
  | nothing =>
      constructor
      · exact ⟨_, _, _, rfl⟩
      · exact fun _ hUser => hUser
      · exact fun user hUser => Or.inl ⟨user, hUser, rfl⟩
      · exact ⟨List.prefix_rfl, List.prefix_rfl⟩
  | users _ hUsers => exact hUsers.kept
  | references s₁ s₂ _ entitlements hUsers hReferences =>
      exact hUsers.kept.trans hReferences.kept

/- Managers stay, for users stay. -/
theorem StartupKept.hierarchical
    (hKept : StartupKept s s')
    (hHierarchy : Hierarchical s) :
    Hierarchical s' := by
  rcases hKept.stored with
    ⟨users, applications, entitlements, hStored⟩
  have hProfiles :
      s'.enterpriseUserProfiles =
        s.enterpriseUserProfiles := by
    rw [hStored]
  have hResolve : ProfilesResolve s' := by
    constructor
    · rw [hProfiles]
      intro profile hMem
      exact hKept.users _
        (hHierarchy.resolve.user profile hMem)
    · rw [hProfiles]
      intro profile hMem managerId hManager
      exact hKept.users _
        (hHierarchy.resolve.manager profile hMem managerId
          hManager)
  refine ⟨?_, hResolve⟩
  have hManagers : s'.managerOf = s.managerOf := by
    funext userId
    rw [hResolve.managerOf, hHierarchy.resolve.managerOf]
    unfold Store.attributesOf Store.enterpriseProfileOf
    rw [hProfiles]
  rw [hManagers]
  exact hHierarchy.acyclic

theorem StartupKept.sound
    (hKept : StartupKept s s')
    (hSound : Sound s) :
    Sound s' := by
  rcases hKept.stored with
    ⟨users, applications, entitlements, hStored⟩
  have hRemediated : remediated s' = remediated s := by
    rw [hStored]
    rfl
  constructor
  · exact hKept.hierarchical hSound.managers
  · exact hSound.campaigns.of_same
      (sameGovernance_of_remediated hRemediated)
  · exact hSound.jobs.congr hRemediated
  · apply hSound.delegates.congr _ hKept.users
    rw [hStored]
  · apply hKept.grown.audited
    · rw [hStored]
    · rw [hStored]
    · exact hKept.users
    · exact hSound.delegations

theorem StartupKept.continues
    (hKept : StartupKept s s') :
    Continues s s' := by
  rcases hKept.stored with
    ⟨users, applications, entitlements, hStored⟩
  have hRemediated : remediated s' = remediated s := by
    rw [hStored]
    rfl
  apply continues_of_remediated hRemediated
  exact hKept.users

variable [Platform]

/- The seeded email addresses are lower case. -/
theorem lower_seededEmail
    {d : SeedUser}
    (hData : d ∈ seededUserData) :
    Platform.lower d.email = d.email := by
  have hAscii :
      ∀ d ∈ seededUserData,
        isAscii d.email = true ∧
          asciiLower d.email = d.email := by
    decide
  rcases hAscii d hData with ⟨hIs, hLower⟩
  rw [Platform.lower_of_isAscii d.email hIs, hLower]

theorem StartupKept.namesApart
    (hKept : StartupKept s s')
    (hApart : Uniqueness.NamesApart s) :
    Uniqueness.NamesApart s' := by
  rcases hKept.stored with
    ⟨users, applications, entitlements, hStored⟩
  constructor
  · rw [hStored]
    exact hApart.lowersOnward
  · intro user hUser
    rcases hKept.emails user hUser with
      ⟨old, hOld, hSame⟩ | ⟨d, hData, hSame⟩
    · rw [hSame]
      exact hApart.emails old hOld
    · rw [hSame]
      exact lower_seededEmail hData
  · rw [hStored]
    exact hApart.displayNames
  · rw [hStored]
    exact hApart.employeeNumbers
  · rw [hStored]
    exact hApart.campaignNames
  · apply hApart.memberships.congr hKept.users
    · rw [hStored]
    · rw [hStored]

end AccessIQ

------------------------------------------------------------
-- The Outcome Of A Startup
------------------------------------------------------------

namespace AccessIQ

open Foundations Python Releases

/- A deployment is recorded, or nothing is. -/
theorem recordDeployment_outcome
    (fromisoformat : String → Option DateTime)
    (env : Environment)
    (dialect : Dialect)
    (settings : ReleaseSettings)
    (now : Timestamp)
    (deployments : Table ReleaseDeployment) :
    let recorded :=
      recordCurrentDeployment fromisoformat dialect settings
        now deployments
    let served :=
      (recordDeployment fromisoformat dialect settings
          now).serve env deployments
    Transacted env
      (fun deployments' =>
        ∃ deployment,
          recorded = .ok (deployment, deployments'))
      (¬ ∃ done, recorded = .ok done) deployments
      served.result served.committed := by
  intro recorded served
  have hWp :
      (recordDeployment fromisoformat dialect settings now).wp
        env.world
        (fun r m =>
          Transacted env
            (fun deployments' =>
              ∃ deployment,
                recorded = .ok (deployment, deployments'))
            (¬ ∃ done, recorded = .ok done) deployments r
            m.committed)
        (Moment.start deployments) := by
    unfold recordDeployment
    rw [Program.wp_bind, Moment.start, Program.wp_view,
      Program.bindPost_ok]
    cases hRecorded :
        recordCurrentDeployment fromisoformat dialect
          settings now deployments with
    | error e =>
        apply Transacted.failed
        right
        rintro ⟨done, hDone⟩
        cases hRecorded.symm.trans hDone
    | ok done =>
        rcases done with ⟨deployment, deployments'⟩
        simp only [Program.wp_bind, Program.wp_flush_]
        refine ⟨?_, ?_, ?_⟩
        · intro hFail
          exact .failed _
            (.inl (not_steady_of_mayFail hFail))
        · rintro _ ⟨⟩
          rw [Program.bindPost_ok, Program.wp_commit]
          constructor
          · intro hFail
            exact .failed _
              (.inl (not_steady_of_mayFail hFail))
          · exact .committed _ ⟨deployment, hRecorded⟩
        · intro e hError
          cases hError
  exact
    @Program.serve_of_wp _ _ _ _ _ _ _ _ env.conforms_world
      _ _
      (fun r committed _ =>
        Transacted env
          (fun deployments' =>
            ∃ deployment,
              recorded = .ok (deployment, deployments'))
          (¬ ∃ done, recorded = .ok done) deployments r
          committed)
      hWp

/- The database calls of a startup do not fail. -/
def Startup.Steady
    (startup : Startup) : Prop :=
  startup.users.Steady ∧ startup.references.Steady ∧
    startup.deployment.Steady

/- The deployment can be recorded. -/
def Recordable
    (fromisoformat : String → Option DateTime)
    (startup : Startup)
    (process : Process) : Prop :=
  ∃ done,
    recordCurrentDeployment fromisoformat
        process.store.dialect startup.settings startup.now
        process.deployments =
      .ok done

/- The deployments are those of the process and its own. -/
def Recorded
    (fromisoformat : String → Option DateTime)
    (startup : Startup)
    (process : Process)
    (deployments : Table ReleaseDeployment) : Prop :=
  ∃ deployment,
    recordCurrentDeployment fromisoformat
        process.store.dialect startup.settings startup.now
        process.deployments =
      .ok (deployment, deployments)

/- What a startup of a process leaves. -/
structure StartedUp
    (fromisoformat : String → Option DateTime)
    (startup : Startup)
    (process started : Process) : Prop where
  seeded : StoreSeeded process.store started.store
  deployments :
    started.deployments = process.deployments ∨
      Recorded fromisoformat startup process
        started.deployments
  complete :
    started.initialized = true →
      ∃ s₁ s₂ entitlements,
        UsersSeeded process.store s₁ ∧
          ReferencesSeeded s₁ s₂ started.store
            entitlements
  recorded :
    started.initialized = true →
      Recorded fromisoformat startup process
        started.deployments
  succeeds :
    startup.Steady →
      (started.initialized = true ↔
        NamesFree process.store ∧
          Recordable fromisoformat startup process)

variable {fromisoformat : String → Option DateTime}

theorem initializeDatabase_of_initialized
    (startup : Startup)
    {process : Process}
    (hInitialized : process.initialized = true) :
    initializeDatabase fromisoformat startup process =
      process := by
  unfold initializeDatabase
  rw [if_pos hInitialized]

/- Each transaction of a startup is made or ends it. -/
theorem initializeDatabase_outcome
    (startup : Startup)
    {process : Process}
    (hNew : process.initialized = false) :
    StartedUp fromisoformat startup process
      (initializeDatabase fromisoformat startup process) := by
  have hUsers :=
    seedUsers_outcome startup.users process.store
  unfold initializeDatabase
  rw [hNew, if_neg Bool.false_ne_true]
  generalize seedUsers.serve startup.users process.store =
    users at hUsers ⊢
  rcases users with ⟨result, s₁, published⟩
  cases hUsers with
  | failed e hCause =>
      refine ⟨.nothing, .inl rfl, nofun, nofun, ?_⟩
      intro hSteady
      rcases hCause with hFail | hNever
      · exact absurd hSteady.1 hFail
      · exact hNever.elim
  | committed _ hSeeded =>
      have hFree : NamesFree s₁ ↔ NamesFree process.store := by
        rcases hSeeded with ⟨t', -, rfl⟩
        exact Iff.rfl
      have hReferences :=
        seedReferences_outcome startup.references s₁
      simp only at hReferences ⊢
      generalize
        seedApplicationsAndEntitlements.serve
          startup.references s₁ = references
        at hReferences ⊢
      rcases references with ⟨result, s', published⟩
      cases hReferences with
      | failed e hCause =>
          refine ⟨.users _ hSeeded, .inl rfl, nofun, nofun,
            ?_⟩
          intro hSteady
          rcases hCause with hFail | hTaken
          · exact absurd hSteady.2.1 hFail
          · refine ⟨nofun, fun hDone => ?_⟩
            exact absurd (hFree.mpr hDone.1) hTaken
      | committed _ hDone =>
          rcases hDone with ⟨s₂, entitlements, hReferenced⟩
          have hNamed : NamesFree process.store := by
            rw [← hFree, ← insertApplications_isOk_iff]
            exact ⟨s₂, hReferenced.applications⟩
          have hStored :
              StoreSeeded process.store s' :=
            .references _ _ _ _ hSeeded hReferenced
          have hRecorded :=
            recordDeployment_outcome fromisoformat
              startup.deployment process.store.dialect
              startup.settings startup.now
              process.deployments
          simp only at hRecorded ⊢
          generalize
            (recordDeployment fromisoformat
                process.store.dialect startup.settings
                startup.now).serve startup.deployment
              process.deployments = recorded
            at hRecorded ⊢
          rcases recorded with
            ⟨result, deployments', published⟩
          cases hRecorded with
          | failed e hCause =>
              refine ⟨hStored, .inl rfl, nofun, nofun, ?_⟩
              intro hSteady
              rcases hCause with hFail | hNever
              · exact absurd hSteady.2.2 hFail
              · refine ⟨nofun, fun hDone => ?_⟩
                exact absurd hDone.2 hNever
          | committed _ hDone =>
              have hOwn :
                  Recorded fromisoformat startup process
                    deployments' := hDone
              rcases hDone with ⟨deployment, hDone⟩
              exact
                { seeded := hStored
                  deployments := .inr hOwn
                  complete := fun _ =>
                    ⟨s₁, s₂, entitlements, hSeeded,
                      hReferenced⟩
                  recorded := fun _ => hOwn
                  succeeds := fun _ =>
                    ⟨fun _ => ⟨hNamed, _, hDone⟩,
                      fun _ => rfl⟩ }

/- Seeding seeded users changes nothing. -/
theorem UsersSeeded.eq_of_settled
    {s s' : Store}
    (hSeeded : UsersSeeded s s')
    (hSettled :
      s.users.Settled (·.email) SeedUser.email SeedUser.write
        seededUserData) :
    s' = s := by
  rcases hSeeded with ⟨t', hOk, rfl⟩
  rw [userKey.upsert_of_settled s.dialect.keyPolicy
    nodup_seededUserData hSettled] at hOk
  cases hOk
  rfl

/-
  A startup that no database call fails goes through exactly
  if no application has the name of a missing one and the
  deployment can be recorded.  Whenever one goes through,
  every seeded user is as seeded, every application and
  entitlement is there, the rest is as it was and the
  deployment is recorded.  Further startups change nothing of
  this: they may only record their own deployment.
-/
theorem initialize_database_exact
    (startup : Startup)
    {process : Process}
    (hNew : process.initialized = false) :
    let started :=
      initializeDatabase fromisoformat startup process
    (startup.Steady →
      (started.initialized = true ↔
        NamesFree process.store ∧
          Recordable fromisoformat startup process)) ∧
      (started.initialized = true →
        process.store.users.Upserted (·.email) SeedUser.email
            SeedUser.write SeedUser.newUser seededUserData
            started.store.users ∧
          started.store.users.Settled (·.email)
            SeedUser.email SeedUser.write seededUserData ∧
          Referenced started.store ∧
          StartupKept process.store started.store ∧
          Recorded fromisoformat startup process
            started.deployments ∧
          ∀ again,
            let restarted :=
              initializeDatabase fromisoformat again
                { started with initialized := false }
            restarted.store = started.store ∧
              (restarted.deployments = started.deployments ∨
                Recorded fromisoformat again started
                  restarted.deployments)) := by
  intro started
  have hStarted : StartedUp _ startup process started :=
    initializeDatabase_outcome startup hNew
  refine ⟨hStarted.succeeds, ?_⟩
  intro hDone
  rcases hStarted.complete hDone with
    ⟨s₁, s₂, entitlements, hUsers, hReferences⟩
  have hUpserted :
      process.store.users.Upserted (·.email) SeedUser.email
        SeedUser.write SeedUser.newUser seededUserData
        started.store.users := by
    rw [hReferences.users]
    rcases hUsers with ⟨t', hOk, rfl⟩
    exact userKey.upserted_of_ok nodup_seededUserData hOk
  have hSettled :=
    userKey.settled nodup_seededUserData hUpserted
  have hReferenced := hReferences.referenced
  refine ⟨hUpserted, hSettled, hReferenced,
    hStarted.seeded.kept, hStarted.recorded hDone, ?_⟩
  intro again restarted
  have hAgain :
      StartedUp fromisoformat again
        { started with initialized := false } restarted :=
    initializeDatabase_outcome again rfl
  refine ⟨?_, hAgain.deployments⟩
  have hSeeded := hAgain.seeded
  generalize restarted.store = final at hSeeded ⊢
  cases hSeeded with
  | nothing => rfl
  | users _ hUsers => exact hUsers.eq_of_settled hSettled
  | references s₃ s₄ _ added hUsers hReferences =>
      have hSame := hUsers.eq_of_settled hSettled
      rw [hSame] at hReferences
      exact hReferences.eq_of_referenced hReferenced

end AccessIQ

------------------------------------------------------------
-- Runs With Restarts
------------------------------------------------------------

namespace AccessIQ

open Foundations Python Scim Access Delegation Governance
open Remediation Releases

variable {fromisoformat : String → Option DateTime}
variable {s s' : Store}

/- What the services look up in the reference data. -/
def referenceTables
    (s : Store) :
    Table Application × Table Entitlement :=
  (s.applications, s.entitlements)

theorem Referenced.congr
    (hReferenced : Referenced s)
    (hSame : referenceTables s' = referenceTables s) :
    Referenced s' := by
  unfold referenceTables at hSame
  rw [Prod.mk.injEq] at hSame
  constructor
  · rw [hSame.1]
    exact hReferenced.applications
  · unfold Store.entitlementBySlugs
    rw [hSame.1, hSame.2]
    exact hReferenced.entitlements

/- How a process looks later. -/
structure ProcessContinues
    (process process' : Process) : Prop where
  continues : Continues process.store process'.store
  grown : ReferencesGrown process.store process'.store
  fixed :
    Referenced process.store →
      referenceTables process'.store =
        referenceTables process.store

theorem processContinues_refl
    (process : Process) :
    ProcessContinues process process :=
  ⟨continues_refl _, ⟨List.prefix_rfl, List.prefix_rfl⟩,
    fun _ => rfl⟩

theorem processContinues_trans
    (a b c : Process)
    (hAB : ProcessContinues a b)
    (hBC : ProcessContinues b c) :
    ProcessContinues a c := by
  constructor
  · exact continues_trans _ _ _ hAB.continues hBC.continues
  · constructor
    · exact hAB.grown.applications.trans
        hBC.grown.applications
    · exact hAB.grown.entitlements.trans
        hBC.grown.entitlements
  · intro hReferenced
    have hFirst := hAB.fixed hReferenced
    exact (hBC.fixed (hReferenced.congr hFirst)).trans hFirst

/- A startup adds nothing to complete reference data. -/
theorem StoreSeeded.references_eq
    (hSeeded : StoreSeeded s s')
    (hReferenced : Referenced s) :
    referenceTables s' = referenceTables s := by
  cases hSeeded with
  | nothing => rfl
  | users _ hUsers =>
      rcases hUsers with ⟨t', -, rfl⟩
      rfl
  | references s₁ s₂ _ entitlements hUsers hReferences =>
      have hFirst :
          referenceTables s₁ = referenceTables s := by
        rcases hUsers with ⟨t', -, rfl⟩
        rfl
      have hSame :=
        hReferences.eq_of_referenced
          (hReferenced.congr hFirst)
      rw [hSame, hFirst]

theorem initializeDatabase_continues
    (startup : Startup)
    (process : Process) :
    ProcessContinues process
      (initializeDatabase fromisoformat startup process) := by
  cases hInitialized : process.initialized with
  | true =>
      rw [initializeDatabase_of_initialized startup
        hInitialized]
      exact processContinues_refl process
  | false =>
      have hStarted :
          StartedUp fromisoformat startup process _ :=
        initializeDatabase_outcome startup hInitialized
      have hKept := hStarted.seeded.kept
      exact ⟨hKept.continues, hKept.grown,
        hStarted.seeded.references_eq⟩

variable [Platform]

/- No request writes reference data. -/
theorem serveApplication_references
    (s : Store)
    (request : ApplicationRequest × Environment) :
    referenceTables (serveApplication s request) =
      referenceTables s := by
  rcases request with ⟨request, env⟩
  cases request with
  | directory directory =>
      exact serveDirectory_frame referenceTables
        (fun _ _ _ _ _ _ => rfl) s (directory, env)
  | access access =>
      exact serveAccess_frame referenceTables
        (fun _ _ _ => rfl) s (access, env)
  | governance governance =>
      exact serveGovernance_frame referenceTables
        (fun _ _ _ _ _ => rfl) s (governance, env)
  | delegation delegation =>
      exact serveDelegation_frame referenceTables
        (fun _ _ _ => rfl) s (delegation, env)
  | remediation orchestrator ctx campaignId =>
      exact serveRemediation_frame referenceTables
        (fun _ _ _ _ _ => rfl) s
        ⟨env, orchestrator, ctx, campaignId⟩

/-
  What holds at every time: the invariants of the database,
  and the reference data as soon as requests are handled.
-/
structure ProcessSound (process : Process) : Prop where
  sound : Sound process.store
  unique : Uniqueness.NamesApart process.store
  referenced :
    process.initialized = true → Referenced process.store

theorem processSound_initializeDatabase
    {process : Process}
    (hSound : ProcessSound process)
    (startup : Startup) :
    ProcessSound
      (initializeDatabase fromisoformat startup process) := by
  cases hInitialized : process.initialized with
  | true =>
      rw [initializeDatabase_of_initialized startup
        hInitialized]
      exact hSound
  | false =>
      have hStarted :
          StartedUp fromisoformat startup process _ :=
        initializeDatabase_outcome startup hInitialized
      have hKept := hStarted.seeded.kept
      constructor
      · exact hKept.sound hSound.sound
      · exact hKept.namesApart hSound.unique
      · intro hDone
        rcases hStarted.complete hDone with
          ⟨s₁, s₂, entitlements, -, hReferences⟩
        exact hReferences.referenced

/- A process that is started anew knows no initialization. -/
theorem ProcessSound.restarted
    {process : Process}
    (hSound : ProcessSound process) :
    ProcessSound { process with initialized := false } :=
  ⟨hSound.sound, hSound.unique, fun hDone => nomatch hDone⟩

theorem processSound_serveProcess
    (process : Process)
    (event : ProcessEvent × Startup)
    (hSound : ProcessSound process) :
    ProcessSound
      (serveProcess fromisoformat process event) := by
  rcases event with ⟨_ | ⟨request, env⟩, startup⟩
  · have hStarted :
        ProcessSound
          (initializeDatabase fromisoformat startup
            { process with initialized := false }) :=
      processSound_initializeDatabase hSound.restarted
        startup
    exact hStarted
  · have hStarted :
        ProcessSound
          (initializeDatabase fromisoformat startup
            process) :=
      processSound_initializeDatabase hSound startup
    unfold serveProcess
    simp only
    split
    · rename_i hDone
      constructor
      · exact sound_serveApplication _ _ hStarted.sound
      · exact Uniqueness.namesApart_serveApplication _ _
          hStarted.unique
      · intro _
        exact (hStarted.referenced hDone).congr
          (serveApplication_references _ _)
    · exact hStarted

theorem serveProcess_continues
    (process : Process)
    (event : ProcessEvent × Startup)
    (hSound : ProcessSound process) :
    ProcessContinues process
      (serveProcess fromisoformat process event) := by
  rcases event with ⟨_ | ⟨request, env⟩, startup⟩
  · have hStarted :
        ProcessContinues { process with initialized := false }
          (initializeDatabase fromisoformat startup
            { process with initialized := false }) :=
      initializeDatabase_continues startup _
    exact ⟨hStarted.continues, hStarted.grown,
      hStarted.fixed⟩
  · have hStarted :
        ProcessContinues process
          (initializeDatabase fromisoformat startup
            process) :=
      initializeDatabase_continues startup process
    have hStartedSound :
        ProcessSound
          (initializeDatabase fromisoformat startup
            process) :=
      processSound_initializeDatabase hSound startup
    unfold serveProcess
    simp only
    split
    · apply processContinues_trans _ _ _ hStarted
      have hSame :=
        serveApplication_references
          (initializeDatabase fromisoformat startup
            process).store (request, env)
      have hTables := hSame
      unfold referenceTables at hTables
      rw [Prod.mk.injEq] at hTables
      constructor
      · exact continues_serveApplication _ _
          hStartedSound.sound
      · constructor
        · exact hTables.1 ▸ List.prefix_rfl
        · exact hTables.2 ▸ List.prefix_rfl
      · exact fun _ => hSame
    · exact hStarted

/-
  In every run with restarts the invariants hold and history
  continues, whatever database calls fail.  A request finds
  all reference data, which from then on never changes.  The
  names need that Python lowers what the database has lowered
  as it lowers the text itself.
-/
theorem process_stays_sound
    {process : Process}
    (hLower :
      ∀ text,
        Platform.lower (process.store.dialect.lower text) =
          Platform.lower text)
    (hSound : Sound process.store)
    (hUnique : Uniqueness.Unique process.store)
    (hReferenced :
      process.initialized = true → Referenced process.store)
    (before after : List (ProcessEvent × Startup)) :
    let reached :=
      serveAll (serveProcess fromisoformat) process before
    let final :=
      serveAll (serveProcess fromisoformat) reached after
    Sound reached.store ∧ Uniqueness.Unique reached.store ∧
      (reached.initialized = true →
        Referenced reached.store ∧
          final.store.applications =
            reached.store.applications ∧
          final.store.entitlements =
            reached.store.entitlements) ∧
      Continues reached.store final.store := by
  intro reached final
  have hReached : ProcessSound reached := by
    apply serveAll_invariant processSound_serveProcess
    exact ⟨hSound, hUnique.namesApart hLower, hReferenced⟩
  have hFinal : ProcessContinues reached final :=
    serveAll_related processContinues_refl
      processContinues_trans processSound_serveProcess
      serveProcess_continues hReached after
  refine ⟨hReached.sound, hReached.unique.unique, ?_,
    hFinal.continues⟩
  intro hDone
  have hData := hReached.referenced hDone
  have hFixed := hFinal.fixed hData
  unfold referenceTables at hFixed
  rw [Prod.mk.injEq] at hFixed
  exact ⟨hData, hFixed⟩

end AccessIQ

------------------------------------------------------------
-- A Run
------------------------------------------------------------

namespace AccessIQ

open Foundations Python Scim Access Delegation Governance
open Remediation Releases

/- A startup of the development release. -/
def developmentStartup : Startup where
  settings :=
    { releaseVersion := "0.1.0"
      environment := "development"
      gitSha := "unknown" }
  now := 0
  users := steadyEnvironment
  references := steadyEnvironment
  deployment := steadyEnvironment

/- A startup that fails after the users. -/
def interruptedStartup : Startup :=
  { developmentStartup with
    references :=
      { steadyEnvironment with fails := fun _ => true } }

/- A program that was never started on a database. -/
def newProcess
    (dialect : Dialect) :
    Process where
  store := Store.empty dialect
  deployments := .empty
  initialized := false

theorem initialize_database_exact_new :
    let started :=
      initializeDatabase (fun _ => none) developmentStartup
        (newProcess .sqlite)
    (developmentStartup.Steady →
      (started.initialized = true ↔
        NamesFree (newProcess .sqlite).store ∧
          Recordable (fun _ => none) developmentStartup
            (newProcess .sqlite))) ∧
      (started.initialized = true →
        (newProcess .sqlite).store.users.Upserted (·.email)
            SeedUser.email SeedUser.write SeedUser.newUser
            seededUserData started.store.users ∧
          started.store.users.Settled (·.email)
            SeedUser.email SeedUser.write seededUserData ∧
          Referenced started.store ∧
          StartupKept (newProcess .sqlite).store
            started.store ∧
          Recorded (fun _ => none) developmentStartup
            (newProcess .sqlite) started.deployments ∧
          ∀ again,
            let restarted :=
              initializeDatabase (fun _ => none) again
                { started with initialized := false }
            restarted.store = started.store ∧
              (restarted.deployments = started.deployments ∨
                Recorded (fun _ => none) again started
                  restarted.deployments)) :=
  initialize_database_exact developmentStartup rfl

section Run

attribute [local instance] asciiPlatform

/- A startup fails, the next request tries it again. -/
def firstEvents : List (ProcessEvent × Startup) :=
  [(.restart, interruptedStartup),
    (.request
      (.directory
        (.register
          { name := "Dan"
            email := "dan@example.com"
            department := "Sales" }))
      steadyEnvironment,
      developmentStartup)]

/- Bob is deactivated, and the program started anew. -/
def laterEvents : List (ProcessEvent × Startup) :=
  [(.request
      (.directory
        (.scim
          (.user
            ⟨aliceContext, "",
              .patch "1"
                (.object
                  [("Operations",
                    .array
                      [.object
                        [("op", .string "replace"),
                          ("path", .string "active"),
                          ("value", .bool false)]])])⟩)))
      steadyEnvironment,
      developmentStartup),
    (.restart, developmentStartup)]

theorem unique_emptyStore :
    Uniqueness.Unique (Store.empty .sqlite) where
  emailsLower := by
    intro user hUser
    cases hUser
  emails := List.nodup_nil
  displayNames := ⟨List.nodup_nil, List.nodup_nil⟩
  employeeNumbers := ⟨List.nodup_nil, List.nodup_nil⟩
  campaignNames := ⟨List.nodup_nil, List.nodup_nil⟩
  members := (Store.empty .sqlite).nodup_memberIdsOf
  membersExist := by
    intro groupId userId hMember
    cases hMember
  profiles := List.nodup_nil

theorem process_stays_sound_new :
    let serve := serveProcess fun _ => none
    let reached :=
      serveAll serve (newProcess .sqlite) firstEvents
    let final := serveAll serve reached laterEvents
    Sound reached.store ∧ Uniqueness.Unique reached.store ∧
      (reached.initialized = true →
        Referenced reached.store ∧
          final.store.applications =
            reached.store.applications ∧
          final.store.entitlements =
            reached.store.entitlements) ∧
      Continues reached.store final.store :=
  @process_stays_sound _ _ (newProcess .sqlite)
    (fun text => asciiLower_asciiLower text)
    (sound_of_none rfl rfl rfl rfl rfl rfl)
    unique_emptyStore
    (fun hDone => absurd hDone Bool.false_ne_true)
    firstEvents laterEvents

/- The restart activates Bob again. -/
example :
    let serve := serveProcess fun _ => none
    let reached :=
      serveAll serve (newProcess .sqlite) firstEvents
    let final := serveAll serve reached laterEvents
    reached.initialized = true ∧
      reached.store.users.rows.map (·.name) =
        (seededUserData.map (·.name)) ++ ["Dan"] ∧
      final.store.users.rows = reached.store.users.rows ∧
      (final.store.auditEvents.rows.map (·.action)).contains
          .scimUserDeactivate =
        true := by
  decide +kernel

end Run

end AccessIQ
