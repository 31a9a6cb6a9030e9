import AccessIQ.Foundations.Replay
import AccessIQ.Scim.Managers
import AccessIQ.Users

/-
  The managers of the users form a hierarchy.

  A manager is only written after it was validated against
  the managers there are, so that no request closes a circle
  of managers, and every manager is a user.

  Key definitions include:
    * `ProfilesResolve`
    * `Hierarchical`

  Key theorems include:
    * `ProfileStep.manager`
    * `UserStep.managerOf`
    * `UserStep.hierarchical`
    * `managers_stay_acyclic`
-/

------------------------------------------------------------
-- Hierarchies
------------------------------------------------------------

namespace AccessIQ

open Foundations Python Scim Relation

namespace Scim

/-
  The foreign keys that the schema declares for a profile.
  SQLite does not look at them.
-/
structure ProfilesResolve (s : Store) : Prop where
  user :
    ∀ profile ∈ s.enterpriseUserProfiles.rows,
      s.users.contains profile.userId = true
  manager :
    ∀ profile ∈ s.enterpriseUserProfiles.rows,
      ∀ managerId,
        profile.managerId = some managerId →
          s.users.contains managerId = true

/- No circle of managers, and all of them users. -/
structure Hierarchical (s : Store) : Prop where
  acyclic : Acyclic s.managerOf
  resolve : ProfilesResolve s

variable {s s' : Store}

/- The manager of a user is among the user's attributes. -/
theorem ProfilesResolve.managerOf
    (hResolve : ProfilesResolve s)
    (userId : Int) :
    s.managerOf userId =
      (s.attributesOf userId).managerId := by
  unfold Store.managerOf Store.attributesOf
  cases hProfile : s.enterpriseProfileOf userId with
  | none =>
      rw [Option.bind_none, ite_self]
      rfl
  | some profile =>
      rcases Store.enterpriseProfileOf_eq_some_iff.mp hProfile
        with ⟨hMem, hOwner⟩
      have hContains := hResolve.user profile hMem
      rw [hOwner] at hContains
      rw [if_pos hContains]
      rfl

theorem ProfilesResolve.attributes_manager
    (hResolve : ProfilesResolve s)
    {userId managerId : Int}
    (hManager :
      (s.attributesOf userId).managerId = some managerId) :
    s.users.contains managerId = true := by
  unfold Store.attributesOf at hManager
  cases hProfile : s.enterpriseProfileOf userId with
  | none =>
      rw [hProfile] at hManager
      cases hManager
  | some profile =>
      rw [hProfile] at hManager
      apply hResolve.manager profile
      · exact
          (Store.enterpriseProfileOf_eq_some_iff.mp
            hProfile).1
      · exact hManager

/- Storing a user takes nobody from the profiles. -/
theorem ProfilesResolve.stores
    (hResolve : ProfilesResolve s)
    {users' : Table User}
    {user : User}
    (hUsers : s.users.Stores users' user) :
    ProfilesResolve { s with users := users' } := by
  constructor
  · intro profile hMem
    exact (hUsers.contains_iff _).mpr
      (Or.inr (hResolve.user profile hMem))
  · intro profile hMem managerId hManager
    exact (hUsers.contains_iff _).mpr
      (Or.inr
        (hResolve.manager profile hMem managerId hManager))

theorem ProfilesResolve.managerOf_stores
    (hResolve : ProfilesResolve s)
    {users' : Table User}
    {user : User}
    (hUsers : s.users.Stores users' user) :
    Store.managerOf { s with users := users' } =
      s.managerOf := by
  funext userId
  rw [(hResolve.stores hUsers).managerOf, hResolve.managerOf]
  rfl

theorem Hierarchical.congr
    (hHierarchy : Hierarchical s)
    (hUsers : s'.users = s.users)
    (hProfiles :
      s'.enterpriseUserProfiles = s.enterpriseUserProfiles) :
    Hierarchical s' := by
  have hManagers : s'.managerOf = s.managerOf := by
    funext userId
    unfold Store.managerOf Store.enterpriseProfileOf
    rw [hUsers, hProfiles]
  constructor
  · rw [hManagers]
    exact hHierarchy.acyclic
  · constructor
    · rw [hUsers, hProfiles]
      exact hHierarchy.resolve.user
    · rw [hUsers, hProfiles]
      exact hHierarchy.resolve.manager

end Scim

end AccessIQ

------------------------------------------------------------
-- Steps
------------------------------------------------------------

namespace AccessIQ

open Foundations Python Scim Relation

namespace Scim

variable [Platform]
variable {ctx : RequestContext}
variable {s s' : Store}
variable {user : User}
variable {desired : EnterpriseProfileMutation}
variable {kinds : List EventKind}

/- The manager stays, or is one that was allowed. -/
theorem ProfileStep.manager
    {changes : List EnterpriseProfileChange}
    (hStep : ProfileStep ctx s user desired changes kinds s') :
    (s'.attributesOf user.id).managerId =
        (s.attributesOf user.id).managerId ∨
      ManagerAllowed s user.id
        (s'.attributesOf user.id).managerId := by
  have hAttributes := hStep.attributesOf
  cases hStep with
  | unset => exact Or.inl rfl
  | absent => exact Or.inl rfl
  | same => exact Or.inl rfl
  | written profile users' profiles' change changes created
      hCreated hProfile hChecked hUsers hProfiles =>
      rw [hAttributes]
      unfold EnterpriseProfileMutation.set
      cases hManager : desired.managerId with
      | none => exact Or.inl rfl
      | some managerId =>
          exact Or.inr (hChecked.manager managerId hManager)

omit [Platform] in
/- The chase of an allowed manager has not found the user. -/
theorem ManagerAllowed.not_reaches
    {managerId : Int}
    (hUser : user ∈ s.users.rows)
    (hAllowed : ManagerAllowed s user.id (some managerId)) :
    ¬ ReflTransGen (Points s.managerOf) managerId
      user.id := by
  rcases hAllowed with ⟨-, -, hNe, hFree⟩
  intro hReaches
  rcases ReflTransGen.cases_head hReaches with
    hSame | ⟨next, hFirst, hRest⟩
  · exact hNe hSame
  · have hFound :=
      (chase_iff_leadsTo hUser managerId).mpr
        (TransGen.head' hFirst hRest)
    rw [hFree] at hFound
    cases hFound

/- A stored user's manager stays, or is a user below nobody. -/
theorem UserStep.manager
    (hStep : UserStep ctx s user desired kinds s')
    (hResolve : ProfilesResolve s) :
    (s'.attributesOf user.id).managerId =
        (s.attributesOf user.id).managerId ∨
      ∀ managerId,
        (s'.attributesOf user.id).managerId =
            some managerId →
          s'.users.contains managerId = true ∧
            ¬ ReflTransGen (Points s.managerOf) managerId
              user.id := by
  have hStored := hStep.users
  cases hStep with
  | stored users' changes kinds s₂ auditEvents' hUsers
      hProfile =>
      rcases hProfile.manager with hSame | hAllowed
      · exact Or.inl hSame
      · refine Or.inr ?_
        intro managerId hManager
        have hSome :
            (s₂.attributesOf user.id).managerId =
              some managerId :=
          hManager
        rw [hSome] at hAllowed
        have hFree := hAllowed.not_reaches hUsers.mem
        rw [hResolve.managerOf_stores hUsers] at hFree
        refine ⟨?_, hFree⟩
        rw [hStored.contains_iff]
        rcases (hUsers.contains_iff _).mp hAllowed.2.1 with
          hNew | hOld
        · exact Or.inl
            (hNew.trans (id_withAttributes user _ _).symm)
        · exact Or.inr hOld

theorem UserStep.profilesResolve
    (hStep : UserStep ctx s user desired kinds s')
    (hResolve : ProfilesResolve s) :
    ProfilesResolve s' := by
  have hOwn : s'.users.contains user.id = true :=
    Table.contains_of_get? hStep.get?
  have hOld :
      ∀ {userId}, s.users.contains userId = true →
        s'.users.contains userId = true := by
    intro userId hContains
    exact
      (hStep.users.contains_iff _).mpr (Or.inr hContains)
  have hFound :
      ∀ profile ∈ s'.enterpriseUserProfiles.rows,
        s'.enterpriseProfileOf profile.userId =
          some profile := by
    intro profile hMem
    exact
      Store.enterpriseProfileOf_eq_some_iff.mpr ⟨hMem, rfl⟩
  constructor
  · intro profile hMem
    by_cases hUser : profile.userId = user.id
    · rw [hUser]
      exact hOwn
    · have hBefore := hFound profile hMem
      rw [hStep.enterpriseProfileOf_ne hUser] at hBefore
      apply hOld
      exact hResolve.user profile
        (Store.enterpriseProfileOf_eq_some_iff.mp hBefore).1
  · intro profile hMem managerId hManager
    have hAfter := hFound profile hMem
    by_cases hUser : profile.userId = user.id
    · rw [hUser] at hAfter
      have hAttribute :
          (s'.attributesOf user.id).managerId =
            some managerId := by
        unfold Store.attributesOf
        rw [hAfter]
        exact hManager
      rcases hStep.manager hResolve with hSame | hNew
      · apply hOld
        apply hResolve.attributes_manager
        exact hSame.symm.trans hAttribute
      · exact (hNew managerId hAttribute).1
    · rw [hStep.enterpriseProfileOf_ne hUser] at hAfter
      apply hOld
      exact hResolve.manager profile
        (Store.enterpriseProfileOf_eq_some_iff.mp hAfter).1
        managerId hManager

/- One pointer of the managers is redirected. -/
theorem UserStep.managerOf
    (hStep : UserStep ctx s user desired kinds s')
    (hResolve : ProfilesResolve s) :
    s'.managerOf =
      Function.update s.managerOf user.id
        (s'.attributesOf user.id).managerId := by
  funext userId
  rw [(hStep.profilesResolve hResolve).managerOf]
  by_cases hUser : userId = user.id
  · rw [hUser, Function.update_self]
  · rw [Function.update_of_ne hUser, hResolve.managerOf]
    unfold Store.attributesOf
    rw [hStep.enterpriseProfileOf_ne hUser]

theorem UserStep.hierarchical
    (hStep : UserStep ctx s user desired kinds s')
    (hHierarchy : Hierarchical s) :
    Hierarchical s' := by
  have hResolve := hHierarchy.resolve
  constructor
  · rw [hStep.managerOf hResolve]
    rcases hStep.manager hResolve with hSame | hNew
    · rw [hSame, ← hResolve.managerOf,
        Function.update_eq_self]
      exact hHierarchy.acyclic
    · apply hHierarchy.acyclic.update
      intro managerId hManager
      exact (hNew managerId hManager).2
  · exact hStep.profilesResolve hResolve

end Scim

end AccessIQ

------------------------------------------------------------
-- Runs
------------------------------------------------------------

namespace AccessIQ

open Foundations Python Scim Relation

namespace Scim

variable [Platform]
variable {s s' : Store}
variable {events : List DomainEvent}

/- Every request keeps the hierarchy. -/
theorem hierarchical_of_effect
    (hEffect : DirectoryEffect s events s')
    (hHierarchy : Hierarchical s) :
    Hierarchical s' := by
  cases hEffect with
  | registered userData users' hFree hUsers =>
      constructor
      · rw [hHierarchy.resolve.managerOf_stores hUsers]
        exact hHierarchy.acyclic
      · exact hHierarchy.resolve.stores hUsers
  | scim _ _ hScim =>
      cases hScim with
      | none => exact hHierarchy
      | denied => exact hHierarchy.congr rfl rfl
      | user ctx userId _ _ hMutated =>
          cases hMutated with
          | created userName displayName active desired kinds
              _ hFree hPlain hStep =>
              exact hStep.hierarchical hHierarchy
          | changed old new desired kinds _ hGet hChanged
              hPlain hStep =>
              exact hStep.hierarchical hHierarchy
      | group ctx groupId _ _ hMutated =>
          cases hMutated with
          | mutated kinds s' auditEvents' hChange =>
              apply hHierarchy.congr
              · rw [hChange.eq]
              · rw [hChange.eq]

/-
  In every reached state the managers form no circle, nobody
  is their own manager, and every manager is a user.
-/
theorem managers_stay_acyclic
    {s : Store}
    (hAcyclic : Acyclic s.managerOf)
    (hResolve : ProfilesResolve s)
    (requests : List (DirectoryRequest × Environment)) :
    let final :=
      (serveAll (logged serveDirectory) (s, []) requests).1
    Acyclic final.managerOf ∧
      (∀ userId, final.managerOf userId ≠ some userId) ∧
      ProfilesResolve final := by
  intro final
  have hHierarchy : Hierarchical final := by
    apply @serveAll_invariant _ _ (logged serveDirectory)
      (fun state => Hierarchical state.1)
    · intro state request hBefore
      exact
        hierarchical_of_effect
          (directoryEffect state.1 request) hBefore
    · exact ⟨hAcyclic, hResolve⟩
  refine ⟨hHierarchy.acyclic, ?_, hHierarchy.resolve⟩
  exact hHierarchy.acyclic.not_points_self

end Scim

end AccessIQ

------------------------------------------------------------
-- A Run
------------------------------------------------------------

namespace AccessIQ

open Foundations Python Scim Relation

namespace Scim

section Run

attribute [local instance] asciiPlatform

/- A PATCH that makes one user the manager of another. -/
def managerRequest
    (userId managerId : String) :
    DirectoryRequest × Environment :=
  (.scim
    (.user
      ⟨⟨"request-1", 0, 4⟩, "",
        .patch userId
          (.object
            [("Operations",
              .array
                [.object
                  [("op", .string "replace"),
                    ("path", .string "manager"),
                    ("value", .string managerId)]])])⟩),
    steadyEnvironment)

/- Three users, of whom the last is to manage the first. -/
def managerRequests :
    List (DirectoryRequest × Environment) :=
  [managerRequest "1" "2", managerRequest "2" "3",
    managerRequest "3" "1"]

theorem managers_stay_acyclic_seeded :
    let final :=
      (serveAll (logged serveDirectory)
        (seededStore .sqlite, []) managerRequests).1
    Acyclic final.managerOf ∧
      (∀ userId, final.managerOf userId ≠ some userId) ∧
      ProfilesResolve final := by
  apply managers_stay_acyclic
  · intro userId hCycle
    rcases TransGen.head'_iff.mp hCycle with
      ⟨managerId, hFirst, -⟩
    have hNone :
        (seededStore .sqlite).managerOf userId = none :=
      ite_self none
    have hSome :
        (seededStore .sqlite).managerOf userId =
          some managerId :=
      hFirst
    rw [hNone] at hSome
    cases hSome
  · constructor
    · intro profile hMem
      cases hMem
    · intro profile hMem
      cases hMem

example :
    let final :=
      (serveAll (logged serveDirectory)
        (seededStore .sqlite, []) managerRequests).1
    final.managerOf 1 = some 2 ∧
      final.managerOf 2 = some 3 ∧
      final.managerOf 3 = none := by
  decide +kernel

end Run

end Scim

end AccessIQ
