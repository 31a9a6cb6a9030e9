import AccessIQ.Foundations.Replay
import AccessIQ.Seed
import AccessIQ.Users

/-
  The department of a user follows the user's profile.

  The policy for finance entitlements reads the department of
  the user row.  Whenever a request changes the department of
  a profile it writes the row too, and a user provisioned by
  SCIM begins with the default department.

  Key definitions include:
    * `Provisioned`
    * `DepartmentFollows`
    * `DepartmentsFollow`

  Key theorems include:
    * `withAttributes_follows`
    * `UserStep.departmentsFollow`
    * `departments_follow_profiles`
-/

------------------------------------------------------------
-- Departments
------------------------------------------------------------

namespace AccessIQ

open Foundations Python Scim

namespace Scim

/- The log says that SCIM has created a user. -/
def Provisioned
    (log : List DomainEvent)
    (userId : Int) : Prop :=
  ∃ event ∈ log, ∃ userName,
    event.kind = .userProvisioned userId userName

/-
  The department of a user is that of the profile; without
  one, a user SCIM has created has the default department.
-/
structure DepartmentFollows
    (provisioned : Prop)
    (user : User)
    (attributes : EnterpriseAttributes) : Prop where
  same :
    ∀ department,
      attributes.department = some department →
        user.department = department
  default :
    provisioned → attributes.department = none →
      user.department = defaultProvisionedDepartment

/- The departments of all users follow their profiles. -/
structure DepartmentsFollow
    (s : Store)
    (log : List DomainEvent) : Prop where
  follows :
    ∀ userId user,
      s.users.get? userId = some user →
        DepartmentFollows (Provisioned log userId) user
          (s.attributesOf userId)
  owner :
    ∀ userId profile,
      s.enterpriseProfileOf userId = some profile →
        s.users.contains userId = true
  logged :
    ∀ userId,
      Provisioned log userId →
        s.users.contains userId = true

variable {provisioned : Prop}
variable {user : User}
variable {old : EnterpriseAttributes}
variable {desired : EnterpriseProfileMutation}

/- A department that is set is not the empty string. -/
theorem department_ne_empty
    (hPlain : PlainProfile desired)
    {department : String}
    (hSet : desired.department = some (some department)) :
    department ≠ "" := by
  have hMem :
      some (some department) ∈ desired.strings := by
    simp [EnterpriseProfileMutation.strings, hSet]
  exact (hPlain department hMem).1.1

/- The row is written along with the profile. -/
theorem withAttributes_follows
    (hPlain : PlainProfile desired)
    (hOld : DepartmentFollows provisioned user old) :
    DepartmentFollows provisioned
      (withAttributes user old (desired.set old))
      (desired.set old) := by
  unfold withAttributes
  by_cases hSame :
      old.department = (desired.set old).department
  · rw [if_pos hSame]
    constructor
    · intro department hDepartment
      exact hOld.same department (hSame.trans hDepartment)
    · intro hProvisioned hNone
      exact hOld.default hProvisioned (hSame.trans hNone)
  · rw [if_neg hSame]
    constructor
    · intro department hDepartment
      have hSet : desired.department = some (some department) := by
        cases hDesired : desired.department with
        | none =>
            exfalso
            apply hSame
            simp [EnterpriseProfileMutation.set, hDesired]
        | some value =>
            simp only [EnterpriseProfileMutation.set, hDesired,
              Option.getD_some] at hDepartment
            rw [hDepartment]
      simp only [hDepartment, departmentOrDefault]
      exact if_neg (department_ne_empty hPlain hSet)
    · intro _ hNone
      simp only [hNone, departmentOrDefault]

end Scim

end AccessIQ

------------------------------------------------------------
-- Steps
------------------------------------------------------------

namespace AccessIQ

open Foundations Python Scim

namespace Scim

variable {s s' : Store}
variable {log events : List DomainEvent}

theorem attributesOf_congr
    {userId : Int}
    (hProfile :
      s'.enterpriseProfileOf userId =
        s.enterpriseProfileOf userId) :
    s'.attributesOf userId = s.attributesOf userId := by
  unfold Store.attributesOf
  rw [hProfile]

theorem provisioned_append
    {userId : Int} :
    Provisioned (log ++ events) userId ↔
      Provisioned log userId ∨ Provisioned events userId := by
  unfold Provisioned
  constructor
  · rintro ⟨event, hMem, hKind⟩
    rcases List.mem_append.mp hMem with hOld | hNew
    · exact Or.inl ⟨event, hOld, hKind⟩
    · exact Or.inr ⟨event, hNew, hKind⟩
  · rintro (⟨event, hOld, hKind⟩ | ⟨event, hNew, hKind⟩)
    · exact ⟨event, List.mem_append_left _ hOld, hKind⟩
    · exact ⟨event, List.mem_append_right _ hNew, hKind⟩

/- A user without an account has no profile. -/
theorem DepartmentsFollow.attributesOf_freshId
    (hFollow : DepartmentsFollow s log) :
    s.attributesOf
        (s.users.freshId s.dialect.keyPolicy) =
      {} := by
  have hProfile :
      s.enterpriseProfileOf
          (s.users.freshId s.dialect.keyPolicy) =
        none := by
    rw [Option.eq_none_iff_forall_ne_some]
    intro profile hFound
    have hOwner := hFollow.owner _ profile hFound
    unfold Table.contains at hOwner
    rw [Table.get?_freshId] at hOwner
    cases hOwner
  unfold Store.attributesOf
  rw [hProfile]
  rfl

theorem DepartmentsFollow.not_provisioned_freshId
    (hFollow : DepartmentsFollow s log) :
    ¬ Provisioned log
        (s.users.freshId s.dialect.keyPolicy) := by
  intro hProvisioned
  have hContains := hFollow.logged _ hProvisioned
  unfold Table.contains at hContains
  rw [Table.get?_freshId] at hContains
  cases hContains

/- Users and profiles that stay as they are still agree. -/
theorem DepartmentsFollow.congr
    (hFollow : DepartmentsFollow s log)
    (hUsers : s'.users = s.users)
    (hProfiles :
      s'.enterpriseUserProfiles = s.enterpriseUserProfiles)
    (hLog :
      ∀ userId, ¬ Provisioned events userId) :
    DepartmentsFollow s' (log ++ events) := by
  have hSame : ∀ userId,
      s'.enterpriseProfileOf userId =
        s.enterpriseProfileOf userId := by
    intro userId
    unfold Store.enterpriseProfileOf
    rw [hProfiles]
  have hOnly : ∀ userId,
      Provisioned (log ++ events) userId ↔
        Provisioned log userId := by
    intro userId
    rw [provisioned_append]
    exact or_iff_left (hLog userId)
  constructor
  · intro userId user hGet
    rw [hUsers] at hGet
    rw [attributesOf_congr (hSame userId), hOnly]
    exact hFollow.follows userId user hGet
  · intro userId profile hFound
    rw [hSame] at hFound
    rw [hUsers]
    exact hFollow.owner userId profile hFound
  · intro userId hProvisioned
    rw [hUsers]
    exact hFollow.logged userId ((hOnly userId).mp hProvisioned)

variable [Platform]
variable {ctx : RequestContext}
variable {user : User}
variable {desired : EnterpriseProfileMutation}
variable {kinds : List EventKind}

/- A profile step publishes no provisioning. -/
theorem ProfileStep.not_provisioned
    {changes : List EnterpriseProfileChange}
    (hStep : ProfileStep ctx s user desired changes kinds s')
    (userId : Int)
    (userName : String) :
    .userProvisioned userId userName ∉ kinds := by
  cases hStep with
  | unset => exact List.not_mem_nil
  | absent => exact List.not_mem_nil
  | same => exact List.not_mem_nil
  | written profile users' profiles' change changes created =>
      intro hMem
      unfold profileEvents at hMem
      rcases List.mem_cons.mp hMem with hFirst | hRest
      · split at hFirst
        · cases hFirst
        · cases hFirst
      · rcases List.mem_map.mp hRest with ⟨entry, hEntry, hKind⟩
        have hColumn :
            ∀ {α : Type} [DecidableEq α]
              {c : EnterpriseProfileChange}
              {event : Option α → EventKind}
              {old new : Option α},
              entry ∈ columnChange c event old new →
                entry.2 = event new := by
          intro α _ c event old new hIn
          unfold columnChange at hIn
          split at hIn
          · cases hIn
          · rw [List.mem_singleton.mp hIn]
        simp only [profileChanges, List.mem_append] at hEntry
        rcases hEntry with
          ((((h | h) | h) | h) | h) | h
        all_goals
          rw [hColumn h] at hKind
          cases hKind

/-
  A user whose department follows the profile before the
  profile step has one that follows it afterwards.
-/
theorem UserStep.departmentsFollow
    (hStep : UserStep ctx s user desired kinds s')
    (hFollow : DepartmentsFollow s log)
    (hPlain : PlainProfile desired)
    (hEvents :
      ∀ userId,
        Provisioned events userId → userId = user.id)
    (hBefore :
      DepartmentFollows (Provisioned (log ++ events) user.id)
        user (s.attributesOf user.id)) :
    DepartmentsFollow s' (log ++ events) := by
  have hUsers := hStep.users
  have hAttributes := hStep.attributesOf
  have hId :=
    id_withAttributes user (s.attributesOf user.id)
      (s'.attributesOf user.id)
  have hContains :
      ∀ userId,
        s'.users.contains userId = true ↔
          userId = user.id ∨
            s.users.contains userId = true := by
    intro userId
    have hRow :
        Row.id
            (withAttributes user (s.attributesOf user.id)
              (s'.attributesOf user.id)) =
          user.id :=
      hId
    rw [hUsers.contains_iff, hRow]
  constructor
  · intro userId found hGet
    by_cases hUser : userId = user.id
    · subst hUser
      rw [hStep.get?] at hGet
      cases hGet
      rw [hAttributes]
      exact withAttributes_follows hPlain hBefore
    · have hOld : s.users.get? userId = some found := by
        have hOther := hUsers.get? userId
        rw [if_neg (fun h => hUser (h.trans hId))] at hOther
        exact hOther.symm.trans hGet
      have hProfile := hStep.enterpriseProfileOf_ne hUser
      have hOnly :
          Provisioned (log ++ events) userId ↔
            Provisioned log userId := by
        rw [provisioned_append]
        apply or_iff_left
        intro hNew
        exact hUser (hEvents userId hNew)
      rw [attributesOf_congr hProfile, hOnly]
      exact hFollow.follows userId found hOld
  · intro userId profile hFound
    rw [hContains]
    by_cases hUser : userId = user.id
    · exact Or.inl hUser
    · rw [hStep.enterpriseProfileOf_ne hUser] at hFound
      exact Or.inr (hFollow.owner userId profile hFound)
  · intro userId hProvisioned
    rw [hContains]
    rcases provisioned_append.mp hProvisioned with hOld | hNew
    · exact Or.inr (hFollow.logged userId hOld)
    · exact Or.inl (hEvents userId hNew)

end Scim

end AccessIQ

------------------------------------------------------------
-- Runs
------------------------------------------------------------

namespace AccessIQ

open Foundations Python Scim

namespace Scim

variable [Platform]
variable {s s' : Store}
variable {log events : List DomainEvent}
variable {ctx : RequestContext}

omit [Platform] in
theorem provisioned_eventsAt
    {kinds : List EventKind}
    {userId : Int} :
    Provisioned (eventsAt ctx kinds) userId ↔
      ∃ userName, .userProvisioned userId userName ∈ kinds := by
  unfold Provisioned eventsAt
  constructor
  · rintro ⟨event, hEvent, userName, hKind⟩
    rcases List.mem_map.mp hEvent with ⟨kind, hMem, rfl⟩
    simp only at hKind
    subst hKind
    exact ⟨userName, hMem⟩
  · rintro ⟨userName, hMem⟩
    exact ⟨_, List.mem_map.mpr ⟨_, hMem, rfl⟩, userName, rfl⟩

theorem UserStep.not_provisioned
    {user : User}
    {desired : EnterpriseProfileMutation}
    {kinds : List EventKind}
    (hStep : UserStep ctx s user desired kinds s')
    (userId : Int) :
    ¬ Provisioned (eventsAt ctx kinds) userId := by
  rw [provisioned_eventsAt]
  rintro ⟨userName, hMem⟩
  cases hStep with
  | stored users' changes kinds s₂ auditEvents' hUsers
      hProfile =>
      exact hProfile.not_provisioned userId userName hMem

theorem UserMutated.departmentsFollow
    {userId : Int}
    (hMutated : UserMutated ctx s userId events s')
    (hFollow : DepartmentsFollow s log) :
    DepartmentsFollow s' (log ++ events) := by
  cases hMutated with
  | created userName displayName active desired kinds _ hFree
      hPlain hStep =>
      apply hStep.departmentsFollow hFollow hPlain
      · intro other hProvisioned
        rw [provisioned_eventsAt] at hProvisioned
        rcases hProvisioned with ⟨name, hMem⟩
        rcases List.mem_cons.mp hMem with hFirst | hRest
        · cases hFirst
          rfl
        · exfalso
          apply hStep.not_provisioned other
          exact provisioned_eventsAt.mpr ⟨name, hRest⟩
      · -- a new user has the default department
        have hNone :
            s.attributesOf
                (createdUser s userName displayName
                  active).id = {} :=
          hFollow.attributesOf_freshId
        rw [hNone]
        constructor
        · exact nofun
        · intro _ _
          rfl
  | changed old new desired kinds _ hGet hChanged hPlain
      hStep =>
      have hNew := hStep.not_provisioned
      apply hStep.departmentsFollow hFollow hPlain
      · intro other hProvisioned
        exact absurd hProvisioned (hNew other)
      · have hOnly :
            Provisioned (log ++ eventsAt ctx kinds) new.id ↔
              Provisioned log new.id := by
          rw [provisioned_append]
          exact or_iff_left (hNew new.id)
        rw [hOnly, hChanged.id]
        have hOld := hFollow.follows old.id old hGet
        constructor
        · intro department hDepartment
          rw [hChanged.department]
          exact hOld.same department hDepartment
        · intro hProvisioned hNone
          rw [hChanged.department]
          exact hOld.default hProvisioned hNone

/- Group changes publish no provisioning. -/
theorem GroupSteps.not_provisioned
    {group changed : LoadedGroup}
    {kinds : List EventKind}
    (hSteps : GroupSteps s group changed kinds)
    (userId : Int)
    (userName : String) :
    .userProvisioned userId userName ∉ kinds := by
  induction hSteps with
  | refl => exact List.not_mem_nil
  | cons hStep _ ih =>
      intro hMem
      rcases List.mem_append.mp hMem with hFirst | hRest
      · cases hStep with
        | renamed displayName hFree =>
            split at hFirst
            · cases hFirst
            · cases List.mem_singleton.mp hFirst
        | _ => cases List.mem_singleton.mp hFirst
      · exact ih hRest

theorem GroupMutated.departmentsFollow
    {groupId : Int}
    (hMutated : GroupMutated ctx s groupId events s')
    (hFollow : DepartmentsFollow s log) :
    DepartmentsFollow s' (log ++ events) := by
  cases hMutated with
  | mutated kinds s' auditEvents' hChange =>
      apply hFollow.congr
      · rw [hChange.eq]
      · rw [hChange.eq]
      · intro userId hProvisioned
        rw [provisioned_eventsAt] at hProvisioned
        rcases hProvisioned with ⟨userName, hMem⟩
        cases hChange with
        | created displayName memberIds _ _ _ _ _ =>
            unfold createdEvents at hMem
            split at hMem
            · cases List.mem_singleton.mp hMem
            · simp at hMem
        | changed group changed _ _ _ hSteps _ =>
            exact hSteps.not_provisioned userId userName hMem

/- Every request keeps the departments in step. -/
theorem departmentsFollow_of_effect
    (hEffect : DirectoryEffect s events s')
    (hFollow : DepartmentsFollow s log) :
    DepartmentsFollow s' (log ++ events) := by
  have hNone : ∀ userId, ¬ Provisioned [] userId := by
    rintro userId ⟨event, hMem, -⟩
    cases hMem
  cases hEffect with
  | registered userData users' hFree hUsers =>
      rw [List.append_nil]
      have hNew := hFollow.not_provisioned_freshId
      have hNoProfile := hFollow.attributesOf_freshId
      constructor
      · intro userId user hGet
        by_cases hUser :
            userId = s.users.freshId s.dialect.keyPolicy
        · subst hUser
          constructor
          · intro department hDepartment
            have hEmpty :
                (EnterpriseAttributes.department {}) =
                  some department := by
              rw [← hNoProfile]
              exact hDepartment
            cases hEmpty
          · intro hProvisioned _
            exact absurd hProvisioned hNew
        · have hOld :
              users'.get? userId = s.users.get? userId :=
            (hUsers.get? userId).trans (if_neg hUser)
          exact hFollow.follows userId user
            (hOld.symm.trans hGet)
      · intro userId profile hFound
        rw [hUsers.contains_iff]
        exact Or.inr (hFollow.owner userId profile hFound)
      · intro userId hProvisioned
        rw [hUsers.contains_iff]
        exact Or.inr (hFollow.logged userId hProvisioned)
  | scim _ _ hScim =>
      cases hScim with
      | none => exact hFollow.congr rfl rfl hNone
      | denied => exact hFollow.congr rfl rfl hNone
      | user ctx userId _ _ hMutated =>
          exact hMutated.departmentsFollow hFollow
      | group ctx groupId _ _ hMutated =>
          exact hMutated.departmentsFollow hFollow

omit [Platform] in
/- A store without profiles, before anything is published. -/
theorem departmentsFollow_of_no_profiles
    (hNone : s.enterpriseUserProfiles.rows = []) :
    DepartmentsFollow s [] := by
  have hProfile : ∀ userId,
      s.enterpriseProfileOf userId = none := by
    intro userId
    unfold Store.enterpriseProfileOf
    rw [hNone]
    rfl
  constructor
  · intro userId user _
    unfold Store.attributesOf
    rw [hProfile]
    constructor
    · exact nofun
    · rintro ⟨event, hMem, -⟩
      cases hMem
  · intro userId profile hFound
    rw [hProfile] at hFound
    cases hFound
  · rintro userId ⟨event, hMem, -⟩
    cases hMem

/-
  In every reached state the department of a user whose
  profile has one is the same, and a user SCIM has created
  without one has the default department.
-/
theorem departments_follow_profiles
    {s : Store}
    (hNone : s.enterpriseUserProfiles.rows = [])
    (requests : List (DirectoryRequest × Environment)) :
    let final :=
      serveAll (logged serveDirectory) (s, []) requests
    ∀ user ∈ final.1.users.rows,
      (∀ profile department,
        final.1.enterpriseProfileOf user.id = some profile →
          profile.department = some department →
            user.department = department) ∧
      (Provisioned final.2 user.id →
        (∀ profile,
          final.1.enterpriseProfileOf user.id =
              some profile →
            profile.department = none) →
          user.department = defaultProvisionedDepartment) := by
  intro final user hMem
  have hFollow :
      DepartmentsFollow final.1 final.2 := by
    apply @serveAll_invariant _ _ (logged serveDirectory)
      (fun state => DepartmentsFollow state.1 state.2)
    · intro state request hFollow
      exact
        departmentsFollow_of_effect
          (directoryEffect state.1 request) hFollow
    · exact departmentsFollow_of_no_profiles hNone
  have hUser :=
    hFollow.follows user.id user
      (final.1.users.get?_of_mem hMem)
  constructor
  · intro profile department hProfile hDepartment
    apply hUser.same
    unfold Store.attributesOf
    rw [hProfile]
    exact hDepartment
  · intro hProvisioned hEvery
    apply hUser.default hProvisioned
    unfold Store.attributesOf
    cases hProfile : final.1.enterpriseProfileOf user.id with
    | none => rfl
    | some profile => exact hEvery profile hProfile

end Scim

end AccessIQ

------------------------------------------------------------
-- A Run
------------------------------------------------------------

namespace AccessIQ

open Foundations Python Scim

namespace Scim

attribute [local instance] asciiPlatform

/- A user is created in finance, and leaves it by a PUT. -/
def financeRequests :
    List (DirectoryRequest × Environment) :=
  [(.register ⟨"Dan", "dan@example.com", "Legal", true,
      "employee"⟩,
      steadyEnvironment),
    (.scim
      (.user
        ⟨⟨"request-1", 0, 4⟩, "",
          .create
            (.object
              [("userName", .string "eve@example.com"),
                ("displayName", .string "Eve"),
                (scimSchemaEnterpriseUser,
                  .object
                    [("department", .string "Finance")])])⟩),
      steadyEnvironment),
    (.scim
      (.user
        ⟨⟨"request-2", 1, 4⟩, "",
          .replace "8"
            (.object
              [("userName", .string "eve@example.com"),
                ("displayName", .string "Eve")])⟩),
      steadyEnvironment)]

theorem departments_follow_profiles_seeded :
    let final :=
      serveAll (logged serveDirectory)
        (seededStore .sqlite, []) financeRequests
    ∀ user ∈ final.1.users.rows,
      (∀ profile department,
        final.1.enterpriseProfileOf user.id = some profile →
          profile.department = some department →
            user.department = department) ∧
      (Provisioned final.2 user.id →
        (∀ profile,
          final.1.enterpriseProfileOf user.id =
              some profile →
            profile.department = none) →
          user.department = defaultProvisionedDepartment) :=
  departments_follow_profiles rfl financeRequests

example :
    ((serveAll (logged serveDirectory)
        (seededStore .sqlite, []) financeRequests).1.users.get?
          8).map (·.department) =
      some "SCIM Provisioned" := by
  decide +kernel

end Scim

end AccessIQ
