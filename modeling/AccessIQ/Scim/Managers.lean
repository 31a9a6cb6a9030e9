import AccessIQ.Scim.ProfileOutcomes
import AccessIQ.Seed

/-
  What validating a manager finds.

  The walk up the managers ends in every store, also where
  the managers run in a circle or a manager does not exist.
  It accepts exactly the users from whom the managers do not
  lead to the user, and its errors say exactly what is wrong,
  unless the id is an integer the database cannot bind.

  Key definitions include:
    * `WalkEnds`
    * `LeadsTo`
    * `ManagerValidated`

  Key theorems include:
    * `exists_walkEnds`
    * `managerValidated_of_bindsInteger`
    * `manager_validation_exact_iff`
-/

------------------------------------------------------------
-- Walks
------------------------------------------------------------

namespace AccessIQ

namespace Scim

open Foundations Python

/-
  A run of the loop of `validate_manager` from its state to
  its end, in as many rounds as it takes; the result tells
  whether it came to the user.
-/
inductive WalkEnds
    (s : Store)
    (userId : Int) :
    Int → List Int → Bool → Prop
  | noManager
      (current : Int)
      (seen : List Int)
      (hNone :
        (s.enterpriseProfileOf current).bind
          (·.managerId) = none) :
      WalkEnds s userId current seen false
  | cycle
      (current : Int)
      (seen : List Int)
      (hNext :
        (s.enterpriseProfileOf current).bind
          (·.managerId) = some userId) :
      WalkEnds s userId current seen true
  | repeated
      (current next : Int)
      (seen : List Int)
      (hNext :
        (s.enterpriseProfileOf current).bind
          (·.managerId) = some next)
      (hNe : next ≠ userId)
      (hSeen : next ∈ seen) :
      WalkEnds s userId current seen false
  | unknown
      (current next : Int)
      (seen : List Int)
      (hNext :
        (s.enterpriseProfileOf current).bind
          (·.managerId) = some next)
      (hNe : next ≠ userId)
      (hFresh : next ∉ seen)
      (hGet : s.users.get? next = none) :
      WalkEnds s userId current seen false
  | onward
      (current next : Int)
      (seen : List Int)
      (nextManager : User)
      (found : Bool)
      (hNext :
        (s.enterpriseProfileOf current).bind
          (·.managerId) = some next)
      (hNe : next ≠ userId)
      (hFresh : next ∉ seen)
      (hGet : s.users.get? next = some nextManager)
      (hRest :
        WalkEnds s userId nextManager.id (next :: seen)
          found) :
      WalkEnds s userId current seen found

/-
  The loop ends, and the walk comes to what it ends with.
  Each further round sees another user of the store, so that
  the fuel, which is enough for all of them, does not run out.
-/
theorem exists_walkEnds
    {s : Store}
    {userId managerId current : Int}
    {fuel : Nat}
    {seen : List Int}
    (hNodup : seen.Nodup)
    (hUsers : ∀ i ∈ seen, s.users.contains i = true)
    (hFuel : s.users.rows.length < fuel + seen.length) :
    ∃ found,
      WalkEnds s userId current seen found ∧
        (walkManagers userId managerId fuel current
            seen).reading s =
          some (walkResult userId managerId found) := by
  induction fuel generalizing current seen with
  | zero =>
      have hSubset :
          seen ⊆ s.users.rows.map Row.id := by
        intro i hi
        rcases (Table.contains_iff _).mp (hUsers i hi) with
          ⟨row, hRow, hId⟩
        exact List.mem_map.mpr ⟨row, hRow, hId⟩
      have hLength := (hNodup.subperm hSubset).length_le
      rw [List.length_map] at hLength
      omega
  | succ fuel ih =>
      unfold walkManagers
      rw [Program.reading_bind_of_ok (Program.reading_view s)]
      cases hNext :
          (s.enterpriseProfileOf current).bind
            (·.managerId) with
      | none => exact ⟨false, .noManager _ _ hNext, rfl⟩
      | some next =>
          simp only
          by_cases hUser : next = userId
          · rw [if_pos hUser]
            subst hUser
            exact ⟨true, .cycle _ _ hNext, rfl⟩
          · rw [if_neg hUser]
            by_cases hSeen : next ∈ seen
            · rw [if_pos hSeen]
              exact ⟨false,
                .repeated _ _ _ hNext hUser hSeen, rfl⟩
            · rw [if_neg hSeen, Program.reading_bind_of_ok
                (Program.reading_view s)]
              cases hGet : s.users.get? next with
              | none =>
                  exact ⟨false,
                    .unknown _ _ _ hNext hUser hSeen hGet,
                    rfl⟩
              | some nextManager =>
                  have hRest :=
                    @ih nextManager.id (next :: seen)
                      (List.nodup_cons.mpr ⟨hSeen, hNodup⟩)
                      (by
                        intro i hi
                        rcases List.mem_cons.mp hi with
                          rfl | hi
                        · exact Table.contains_of_get? hGet
                        · exact hUsers i hi)
                      (by
                        rw [List.length_cons]
                        omega)
                  rcases hRest with ⟨found, hEnds, hReading⟩
                  exact ⟨found,
                    .onward _ _ _ _ _ hNext hUser hSeen hGet
                      hEnds, hReading⟩

end Scim

end AccessIQ

------------------------------------------------------------
-- Validation
------------------------------------------------------------

namespace AccessIQ

namespace Scim

open Foundations Python Relation

/- Following the managers from one user comes to another. -/
def LeadsTo
    (s : Store)
    (fromId toId : Int) : Prop :=
  TransGen (Points s.managerOf) fromId toId

/-
  Validating the manager of a user ends, and it returns the
  manager or raises as the managers of the store say.
-/
structure ManagerValidated
    (s : Store)
    (user : User)
    (managerId : Int)
    (outcome : Except PyException (Option User)) : Prop where
  ends :
    ∃ found,
      WalkEnds s user.id managerId [user.id] found ∧
        (walkManagers user.id managerId s.users.rows.length
            managerId [user.id]).reading s =
          some (walkResult user.id managerId found)
  returned :
    ∀ result,
      outcome = .ok result ↔
        ∃ manager,
          result = some manager ∧
            s.users.get? managerId = some manager ∧
              managerId ≠ user.id ∧
                ¬ LeadsTo s managerId user.id
  unknown :
    outcome =
        .error
          (.enterpriseUserService
            (.unknownManager managerId)) ↔
      s.users.contains managerId = false
  self :
    outcome =
        .error
          (.enterpriseUserService (.selfManager user.id)) ↔
      managerId = user.id
  cycle :
    outcome =
        .error
          (.enterpriseUserService
            (.managerCycle user.id managerId)) ↔
      s.users.contains managerId = true ∧
        managerId ≠ user.id ∧
          LeadsTo s managerId user.id

/- The walk of a validation finds what the managers lead to. -/
theorem chase_iff_leadsTo
    {s : Store}
    {user : User}
    (hUser : user ∈ s.users.rows)
    (managerId : Int) :
    chase s.managerOf user.id s.users.rows.length managerId
        [user.id] = true ↔
      LeadsTo s managerId user.id := by
  have hNodes :
      ∀ x y, s.managerOf x = some y →
        x ∈ s.users.rows.map Row.id := by
    intro x y hNext
    unfold Store.managerOf at hNext
    by_cases hContains : s.users.contains x = true
    · rcases (Table.contains_iff _).mp hContains with
        ⟨row, hRow, hId⟩
      exact List.mem_map.mpr ⟨row, hRow, hId⟩
    · rw [if_neg hContains] at hNext
      cases hNext
  have hTarget :
      user.id ∈ s.users.rows.map Row.id :=
    List.mem_map.mpr ⟨user, hUser, rfl⟩
  have hChase := chase_iff_reaches hNodes hTarget managerId
  rw [List.length_map] at hChase
  exact hChase

/-
  The database can bind the id: the manager is returned if it
  is another user from whom the managers do not lead to the
  user, and otherwise the error of the case is raised.
-/
theorem managerValidated_of_bindsInteger
    (s : Store)
    {user : User}
    (hUser : user ∈ s.users.rows)
    {managerId : Int}
    (hBinds : s.dialect.bindsInteger managerId = true) :
    ∃ outcome,
      (validateManager user (some managerId)).reading s =
          some outcome ∧
        ManagerValidated s user managerId outcome := by
  have hChase := chase_iff_leadsTo hUser managerId
  have hEnds :=
    @exists_walkEnds s user.id managerId managerId
      s.users.rows.length [user.id]
      (List.nodup_singleton _)
      (by
        intro i hi
        rw [List.mem_singleton.mp hi]
        exact (Table.contains_iff _).mpr ⟨user, hUser, rfl⟩)
      (Nat.lt_succ_self _)
  refine ⟨_, reading_validateManager s user hBinds, ?_⟩
  have hOwn : s.users.contains user.id = true :=
    (Table.contains_iff _).mpr ⟨user, hUser, rfl⟩
  cases hGet : s.users.get? managerId with
  | none =>
      have hUnknown : s.users.contains managerId = false := by
        simp [Table.contains, hGet]
      have hNe : managerId ≠ user.id := by
        rintro rfl
        exact Bool.false_ne_true (hUnknown.symm.trans hOwn)
      exact
        { ends := hEnds
          returned := by simp [hGet]
          unknown := by simp [hUnknown]
          self := by simp [hNe]
          cycle := by simp [hUnknown] }
  | some manager =>
      have hKnown : s.users.contains managerId = true :=
        Table.contains_of_get? hGet
      simp only
      by_cases hSelf : managerId = user.id
      · rw [if_pos hSelf]
        exact
          { ends := hEnds
            returned := by simp [hSelf]
            unknown := by simp [hKnown]
            self := by simp [hSelf]
            cycle := by simp [hSelf] }
      · rw [if_neg hSelf]
        by_cases hLeads : LeadsTo s managerId user.id
        · rw [if_pos (hChase.mpr hLeads)]
          exact
            { ends := hEnds
              returned := by simp [hLeads]
              unknown := by simp [hKnown]
              self := by simp [hSelf]
              cycle := by simp [hKnown, hSelf, hLeads] }
        · rw [if_neg (fun hFound => hLeads (hChase.mp hFound))]
          exact
            { ends := hEnds
              returned := by
                intro result
                simp [hGet, hSelf, hLeads, eq_comm]
              unknown := by simp [hKnown]
              self := by simp [hSelf]
              cycle := by simp [hLeads] }

/- The error of the driver is none of the service's. -/
theorem bindError_ne_enterpriseUserService
    (dialect : Dialect)
    (error : EnterpriseUserServiceError) :
    dialect.bindError ≠ .enterpriseUserService error := by
  cases dialect <;> nofun

/- It says nothing that is true of the manager. -/
theorem not_managerValidated_bindError
    (s : Store)
    (user : User)
    (managerId : Int) :
    ¬ ManagerValidated s user managerId
      (.error s.dialect.bindError) := by
  intro hValidated
  have hOther :
      ∀ error,
        (.error s.dialect.bindError :
            Except PyException (Option User)) ≠
          .error (.enterpriseUserService error) :=
    fun error hEq =>
      bindError_ne_enterpriseUserService s.dialect error
        (Except.error.inj hEq)
  have hKnown : s.users.contains managerId = true := by
    rw [← Bool.not_eq_false]
    intro hUnknown
    exact hOther _ (hValidated.unknown.mpr hUnknown)
  have hNe : managerId ≠ user.id :=
    fun hSelf => hOther _ (hValidated.self.mpr hSelf)
  have hFree : ¬ LeadsTo s managerId user.id :=
    fun hLeads =>
      hOther _ (hValidated.cycle.mpr ⟨hKnown, hNe, hLeads⟩)
  rcases Option.isSome_iff_exists.mp hKnown with
    ⟨manager, hGet⟩
  cases
    (hValidated.returned (some manager)).mpr
      ⟨manager, rfl, hGet, hNe, hFree⟩

/-
  Validating the manager of a user ends in every store, and it
  comes to what the managers of the store say if and only if
  the id is an integer the database can bind.
-/
theorem manager_validation_exact_iff
    (s : Store)
    {user : User}
    (hUser : user ∈ s.users.rows)
    (managerId : Int) :
    ∃ outcome,
      (validateManager user (some managerId)).reading s =
          some outcome ∧
        (ManagerValidated s user managerId outcome ↔
          s.dialect.bindsInteger managerId = true) := by
  cases hBinds : s.dialect.bindsInteger managerId with
  | true =>
      rcases managerValidated_of_bindsInteger s hUser hBinds
        with ⟨outcome, hReading, hValidated⟩
      exact ⟨outcome, hReading, fun _ => rfl,
        fun _ => hValidated⟩
  | false =>
      refine ⟨_,
        reading_validateManager_unbindable s user hBinds, ?_⟩
      constructor
      · intro hValidated
        exact
          absurd hValidated
            (not_managerValidated_bindError s user managerId)
      · exact fun hBound => absurd hBound Bool.false_ne_true

end Scim

end AccessIQ

------------------------------------------------------------
-- Managers In A Circle
------------------------------------------------------------

namespace AccessIQ

namespace Scim

section Circle

/- The profile of a user that has nothing but a manager. -/
def managedProfile
    (id managerId : Int) :
    EnterpriseUserProfile where
  id := id
  userId := id
  managerId := some managerId
  createdAt := 0
  updatedAt := 0

/- The seeded users, the second and third managing each other. -/
def circleStore : Store :=
  { seededStore .sqlite with
    enterpriseUserProfiles :=
      { rows := [managedProfile 2 3, managedProfile 3 2]
        issued := 3
        sorted := by decide
        bounded := by decide
        unique := by decide } }

theorem manager_validation_exact_iff_circle :
    ∃ user ∈ circleStore.users.rows,
      ∃ outcome,
        (validateManager user (some 2)).reading circleStore =
            some outcome ∧
          (ManagerValidated circleStore user 2 outcome ↔
            Dialect.sqlite.bindsInteger 2 = true) :=
  ⟨_, List.mem_cons_self,
    manager_validation_exact_iff circleStore
      List.mem_cons_self 2⟩

/-
  No user has the id 2 ^ 63, but instead of saying so the
  validation raises the `OverflowError` of SQLite's driver.
-/
theorem unknown_manager_overflows :
    ∃ user ∈ circleStore.users.rows,
      circleStore.users.contains (2 ^ 63) = false ∧
        (validateManager user (some (2 ^ 63))).reading
            circleStore =
          some (.error .overflowError) ∧
        ¬ ManagerValidated circleStore user (2 ^ 63)
          (.error .overflowError) := by
  refine ⟨_, List.mem_cons_self, by decide, ?_,
    not_managerValidated_bindError circleStore _ _⟩
  exact
    reading_validateManager_unbindable circleStore _
      (by decide)

end Circle

end Scim

end AccessIQ
