import AccessIQ.Foundations.PointerChain
import AccessIQ.Foundations.Reading
import AccessIQ.Scim.Users

/-
  What a mutation of an enterprise profile does to the store.

  The desired values of a profile are checked against the
  store.  Where they differ from the attributes of the user,
  a row of the profile is stored, and the row of the user if
  the department changes.

  Key definitions include:
    * `Store.managerOf`
    * `ManagerAllowed`
    * `ProfileChecked`
    * `ProfileStep`
    * `EnterpriseAttributes`

  Key theorems include:
    * `reading_validateManager`
    * `wp_changeProfile`
    * `wp_applyProfileMutation`
    * `ProfileStep.attributesOf`
    * `ProfileStep.users`
-/

------------------------------------------------------------
-- Profiles Of Users
------------------------------------------------------------

namespace AccessIQ

open Foundations Python Scim

namespace Store

/- The profile of a user is the row that refers to the user. -/
theorem enterpriseProfileOf_eq_some_iff
    {s : Store}
    {userId : Int}
    {profile : EnterpriseUserProfile} :
    s.enterpriseProfileOf userId = some profile ↔
      profile ∈ s.enterpriseUserProfiles.rows ∧
        profile.userId = userId := by
  constructor
  · intro hFind
    refine ⟨List.mem_of_find?_eq_some hFind, ?_⟩
    simpa using List.find?_some hFind
  · rintro ⟨hMem, hUser⟩
    have hSome :
        (s.enterpriseProfileOf userId).isSome = true := by
      unfold enterpriseProfileOf
      rw [List.find?_isSome]
      exact ⟨profile, hMem, by simpa using hUser⟩
    rcases Option.isSome_iff_exists.mp hSome with
      ⟨found, hFound⟩
    have hFoundMem := List.mem_of_find?_eq_some hFound
    have hFoundUser : found.userId = userId := by
      simpa using List.find?_some hFound
    have hEq : found = profile := by
      by_contra hNe
      have hApart :=
        s.enterpriseUserProfiles.conflicts_eq_false_of_ne
          hFoundMem hMem hNe
      have hConflict :
          Row.conflicts found profile = true :=
        decide_eq_true
          (Or.inl (hFoundUser.trans hUser.symm))
      exact Bool.false_ne_true (hApart.symm.trans hConflict)
    rw [hFound, hEq]

/- Storing a profile changes the profile of its user only. -/
theorem enterpriseProfileOf_of_stores
    {s s' : Store}
    {profile : EnterpriseUserProfile}
    (hStores :
      s.enterpriseUserProfiles.Stores
        s'.enterpriseUserProfiles profile)
    (hOwner :
      ∀ old ∈ s.enterpriseUserProfiles.rows,
        old.id = profile.id → old.userId = profile.userId)
    (userId : Int) :
    s'.enterpriseProfileOf userId =
      if userId = profile.userId then
        some profile
      else
        s.enterpriseProfileOf userId := by
  by_cases hUser : userId = profile.userId
  · rw [if_pos hUser, enterpriseProfileOf_eq_some_iff]
    exact ⟨hStores.mem, hUser.symm⟩
  · rw [if_neg hUser]
    apply Option.ext
    intro found
    rw [enterpriseProfileOf_eq_some_iff,
      enterpriseProfileOf_eq_some_iff, hStores found]
    constructor
    · rintro ⟨rfl | hOld, hFound⟩
      · exact absurd hFound.symm hUser
      · exact ⟨hOld.1, hFound⟩
    · rintro ⟨hOld, hFound⟩
      refine ⟨Or.inr ⟨hOld, ?_⟩, hFound⟩
      intro hId
      exact hUser
        (hFound.symm.trans (hOwner found hOld hId))

/-
  The relation from a user to the manager in the user's
  profile.
-/
def managerOf
    (s : Store)
    (userId : Int) :
    Option Int :=
  if s.users.contains userId = true then
    (s.enterpriseProfileOf userId).bind (·.managerId)
  else
    none

end Store

end AccessIQ

------------------------------------------------------------
-- Checks
------------------------------------------------------------

namespace AccessIQ

namespace Scim

open Foundations Python

/- `validate_manager` accepts the manager of a user. -/
def ManagerAllowed
    (s : Store)
    (userId : Int) :
    Option Int → Prop
  | none => True
  | some managerId =>
      s.dialect.bindsInteger managerId = true ∧
        s.users.contains managerId = true ∧
        managerId ≠ userId ∧
        chase s.managerOf userId s.users.rows.length
          managerId [userId] = false

variable [Platform]

/- No other profile is found to have the employee number. -/
def NumberAvailable
    (s : Store)
    (employeeNumber : String)
    (profileId : Int) : Prop :=
  ∀ found,
    s.findProfileByEmployeeNumber employeeNumber =
        some found →
      found.id = profileId

/- The checks of the desired values of a profile. -/
structure ProfileChecked
    (s : Store)
    (userId : Int)
    (desired : EnterpriseProfileMutation)
    (profileId : Int) : Prop where
  number :
    ∀ employeeNumber,
      desired.employeeNumber = some (some employeeNumber) →
        NumberAvailable s employeeNumber profileId
  manager :
    ∀ managerId,
      desired.managerId = some managerId →
        ManagerAllowed s userId managerId

end Scim

end AccessIQ

------------------------------------------------------------
-- Rules Of The Checks
------------------------------------------------------------

namespace AccessIQ

namespace Scim

open Foundations Python

variable {w : World Question Reply}
variable {c s : Store}
variable {p : List DomainEvent}

/- The result of a walk that did or did not find the user. -/
def walkResult
    (userId managerId : Int) :
    Bool → Except PyException Unit
  | true =>
      .error
        (.enterpriseUserService
          (.managerCycle userId managerId))
  | false => .ok ()

/- The walk raises exactly if it comes to the user. -/
theorem reading_walkManagers
    {userId managerId current : Int}
    {fuel : Nat}
    {seen : List Int}
    (hCurrent : s.users.contains current = true) :
    (walkManagers userId managerId fuel current seen).reading
        s =
      some
        (walkResult userId managerId
          (chase s.managerOf userId fuel current seen)) := by
  induction fuel generalizing current seen with
  | zero => rfl
  | succ fuel ih =>
      have hPointer :
          s.managerOf current =
            (s.enterpriseProfileOf current).bind
              (·.managerId) :=
        if_pos hCurrent
      unfold chase walkManagers
      rw [hPointer, Program.reading_bind_of_ok
        (Program.reading_view s)]
      cases hNext :
          (s.enterpriseProfileOf current).bind
            (·.managerId) with
      | none => rfl
      | some next =>
          simp only
          by_cases hUser : next = userId
          · rw [if_pos hUser, if_pos hUser]
            rfl
          · rw [if_neg hUser, if_neg hUser]
            by_cases hSeen : next ∈ seen
            · rw [if_pos hSeen, if_pos hSeen]
              rfl
            · rw [if_neg hSeen, if_neg hSeen,
                Program.reading_bind_of_ok
                  (Program.reading_view s)]
              cases hGet : s.users.get? next with
              | none =>
                  have hEnd :
                      chase s.managerOf userId fuel next
                        (next :: seen) = false := by
                    have hNone : s.managerOf next = none := by
                      unfold Store.managerOf Table.contains
                      rw [hGet]
                      rfl
                    cases fuel with
                    | zero => rfl
                    | succ fuel =>
                        unfold chase
                        rw [hNone]
                  rw [hEnd]
                  rfl
              | some nextManager =>
                  have hId : nextManager.id = next :=
                    Table.id_of_get? hGet
                  simp only [hId]
                  exact ih (Table.contains_of_get? hGet)

/- The database refuses an id that it cannot bind. -/
theorem reading_validateManager_unbindable
    (s : Store)
    (user : User)
    {managerId : Int}
    (hBinds : s.dialect.bindsInteger managerId = false) :
    (validateManager user (some managerId)).reading s =
      some (.error s.dialect.bindError) := by
  unfold validateManager
  rw [Program.reading_bind_of_ok (Program.reading_view s)]
  apply Program.reading_bind_of_error
  rw [Program.reading_raiseIf, if_pos hBinds]

/- What validating a manager comes to otherwise. -/
theorem reading_validateManager
    (s : Store)
    (user : User)
    {managerId : Int}
    (hBinds : s.dialect.bindsInteger managerId = true) :
    (validateManager user (some managerId)).reading s =
      some
        (match s.users.get? managerId with
        | none =>
            .error
              (.enterpriseUserService
                (.unknownManager managerId))
        | some manager =>
            if managerId = user.id then
              .error
                (.enterpriseUserService
                  (.selfManager user.id))
            else if
              chase s.managerOf user.id s.users.rows.length
                managerId [user.id] = true
            then
              .error
                (.enterpriseUserService
                  (.managerCycle user.id managerId))
            else
              .ok (some manager)) := by
  have hBound :
      (Program.raiseIf
          (s.dialect.bindsInteger managerId = false)
          s.dialect.bindError :
        Handler Unit).reading s =
        some (.ok ()) := by
    rw [Program.reading_raiseIf, hBinds, if_neg nofun]
  unfold validateManager
  rw [Program.reading_bind_of_ok (Program.reading_view s),
    Program.reading_bind_of_ok hBound]
  cases hGet : s.users.get? managerId with
  | none => rfl
  | some manager =>
      have hId : manager.id = managerId :=
        Table.id_of_get? hGet
      rw [Program.reading_bind_of_ok
        (Program.reading_getOrRaise_some s manager _), hId]
      simp only
      by_cases hSelf : managerId = user.id
      · rw [if_pos hSelf]
        apply Program.reading_bind_of_error
        rw [Program.reading_raiseIf, if_pos hSelf]
      · have hRaise :
            (Program.raiseIf (managerId = user.id)
                (.enterpriseUserService
                  (.selfManager user.id)) :
              Handler Unit).reading s =
              some (.ok ()) := by
          rw [Program.reading_raiseIf, if_neg hSelf]
        have hWalk :=
          @reading_walkManagers s user.id managerId managerId
            s.users.rows.length [user.id]
            (Table.contains_of_get? hGet)
        rw [if_neg hSelf, Program.reading_bind_of_ok hRaise]
        cases hChase :
            chase s.managerOf user.id s.users.rows.length
              managerId [user.id] with
        | true =>
            rw [hChase] at hWalk
            rw [if_pos rfl]
            exact Program.reading_bind_of_error hWalk _
        | false =>
            rw [hChase] at hWalk
            rw [if_neg Bool.false_ne_true,
              Program.reading_bind_of_ok hWalk]
            rfl

theorem wp_validateManager
    {user : User}
    {managerId : Option Int}
    {post : Post Store DomainEvent PyException (Option User)}
    (hError :
      ¬ ManagerAllowed s user.id managerId →
        ∀ e, post (.error e) ⟨c, s, false, p⟩)
    (hOk :
      ManagerAllowed s user.id managerId →
        ∀ manager, post (.ok manager) ⟨c, s, false, p⟩) :
    (validateManager user managerId).wp w post
      ⟨c, s, false, p⟩ := by
  cases managerId with
  | none => exact hOk trivial none
  | some managerId =>
      cases hBinds : s.dialect.bindsInteger managerId with
      | false =>
          rw [Program.wp_of_reading
            (reading_validateManager_unbindable s user hBinds)]
          apply hError
          rintro ⟨hBound, -⟩
          cases hBinds.symm.trans hBound
      | true =>
          rw [Program.wp_of_reading
            (reading_validateManager s user hBinds)]
          cases hGet : s.users.get? managerId with
          | none =>
              apply hError
              rintro ⟨-, hContains, -⟩
              simp [Table.contains, hGet] at hContains
          | some manager =>
              simp only
              by_cases hSelf : managerId = user.id
              · rw [if_pos hSelf]
                apply hError
                rintro ⟨-, -, hNe, -⟩
                exact hNe hSelf
              · rw [if_neg hSelf]
                split
                · rename_i hCycle
                  apply hError
                  rintro ⟨-, -, -, hFree⟩
                  exact Bool.false_ne_true
                    (hFree.symm.trans hCycle)
                · rename_i hFree
                  exact hOk
                    ⟨hBinds, Table.contains_of_get? hGet,
                      hSelf, Bool.eq_false_iff.mpr hFree⟩ _

variable [Platform]

theorem wp_ensureEmployeeNumberAvailable
    {employeeNumber : String}
    {profile : EnterpriseUserProfile}
    {post : Post Store DomainEvent PyException Unit}
    (hError :
      ¬ NumberAvailable s employeeNumber profile.id →
        ∀ e, post (.error e) ⟨c, s, false, p⟩)
    (hOk :
      NumberAvailable s employeeNumber profile.id →
        post (.ok ()) ⟨c, s, false, p⟩) :
    (ensureEmployeeNumberAvailable employeeNumber
        profile).wp w post ⟨c, s, false, p⟩ := by
  unfold ensureEmployeeNumberAvailable
  rw [Program.wp_bind, Program.wp_view, Program.bindPost_ok]
  cases hFind :
      s.findProfileByEmployeeNumber employeeNumber with
  | none =>
      apply hOk
      intro found hFound
      cases hFind.symm.trans hFound
  | some existing =>
      simp only [Program.wp_raiseIf]
      constructor
      · intro hOther
        apply hError
        intro hAvailable
        exact hOther (hAvailable existing hFind)
      · intro hSame
        apply hOk
        intro found hFound
        cases hFind.symm.trans hFound
        exact not_not.mp hSame

end Scim

end AccessIQ

------------------------------------------------------------
-- Written Rows
------------------------------------------------------------

namespace AccessIQ

open Foundations

/- Two states of one user; no mutation sets the other columns. -/
structure SameUser
    (loaded new : User) : Prop where
  id : new.id = loaded.id
  operatorRole : new.operatorRole = loaded.operatorRole

/- Two states of one enterprise profile. -/
structure SameProfile
    (loaded new : EnterpriseUserProfile) : Prop where
  id : new.id = loaded.id
  userId : new.userId = loaded.userId
  createdAt : new.createdAt = loaded.createdAt

theorem SameUser.write_loaded
    {loaded new : User}
    (hSame : SameUser loaded new) :
    User.write loaded new loaded = new := by
  cases loaded
  cases new
  rcases hSame with ⟨hId, hRole⟩
  simp only at hId hRole
  subst hId hRole
  simp [User.write]

theorem SameProfile.write_loaded
    {loaded new : EnterpriseUserProfile}
    (hSame : SameProfile loaded new) :
    EnterpriseUserProfile.write loaded new loaded = new := by
  cases loaded
  cases new
  rcases hSame with ⟨hId, hUser, hCreated⟩
  simp only at hId hUser hCreated
  subst hId hUser hCreated
  simp [EnterpriseUserProfile.write]

namespace Store

variable {s s' : Store}

theorem updateUser_eq_ok
    {loaded new : User}
    (hGet : s.users.get? loaded.id = some loaded)
    (hSame : SameUser loaded new)
    (hOk : s.updateUser loaded new = .ok s') :
    ∃ users',
      s.users.Stores users' new ∧
        s' = { s with users := users' } := by
  unfold updateUser at hOk
  by_cases hEq : new = loaded
  · rw [if_pos hEq] at hOk
    cases hOk
    rw [hEq]
    exact ⟨s.users,
      Table.stores_of_mem (Table.mem_of_get? hGet), rfl⟩
  · rw [if_neg hEq] at hOk
    rcases updateIn_eq_ok_iff.mp hOk with
      ⟨-, -, hFits, hStore⟩
    exact ⟨_,
      Table.stores_modify hFits hGet hSame.write_loaded
        hSame.id,
      hStore⟩

theorem updateEnterpriseUserProfile_eq_ok
    {loaded new : EnterpriseUserProfile}
    (hGet :
      s.enterpriseUserProfiles.get? loaded.id = some loaded)
    (hSame : SameProfile loaded new)
    (hOk : s.updateEnterpriseUserProfile loaded new = .ok s') :
    ∃ profiles',
      s.enterpriseUserProfiles.Stores profiles' new ∧
        s' = { s with enterpriseUserProfiles := profiles' } := by
  unfold updateEnterpriseUserProfile at hOk
  by_cases hEq : new = loaded
  · rw [if_pos hEq] at hOk
    cases hOk
    rw [hEq]
    exact ⟨s.enterpriseUserProfiles,
      Table.stores_of_mem (Table.mem_of_get? hGet), rfl⟩
  · rw [if_neg hEq] at hOk
    rcases updateIn_eq_ok_iff.mp hOk with
      ⟨-, -, hFits, hStore⟩
    exact ⟨_,
      Table.stores_modify hFits hGet hSame.write_loaded
        hSame.id,
      hStore⟩

end Store

namespace Scim

/- A user and the user's profile are written together. -/
theorem writeProfile_eq_ok
    {s s' : Store}
    {user newUser : User}
    {profile newProfile : EnterpriseUserProfile}
    (hUser : s.users.get? user.id = some user)
    (hProfile :
      s.enterpriseUserProfiles.get? profile.id = some profile)
    (hSameUser : SameUser user newUser)
    (hSameProfile : SameProfile profile newProfile)
    (hOk :
      writeProfile user newUser profile newProfile s =
        .ok s') :
    ∃ users' profiles',
      s.users.Stores users' newUser ∧
        s.enterpriseUserProfiles.Stores profiles'
          newProfile ∧
        s' =
          { s with
            users := users'
            enterpriseUserProfiles := profiles' } := by
  unfold writeProfile at hOk
  cases hFirst : s.updateUser user newUser with
  | error e =>
      rw [hFirst] at hOk
      cases hOk
  | ok s₁ =>
      rw [hFirst] at hOk
      rcases Store.updateUser_eq_ok hUser hSameUser hFirst
        with ⟨users', hUsers, rfl⟩
      rcases
        Store.updateEnterpriseUserProfile_eq_ok
          (s := { s with users := users' }) hProfile
          hSameProfile hOk with
        ⟨profiles', hProfiles, rfl⟩
      exact ⟨users', profiles', hUsers, hProfiles, rfl⟩

variable {w : World Question Reply}
variable {c s : Store}
variable {p : List DomainEvent}

theorem wp_flushUser
    {loaded new : User}
    {post : Post Store DomainEvent PyException Unit}
    (hGet : s.users.get? loaded.id = some loaded)
    (hSame : SameUser loaded new)
    (hError :
      new ≠ loaded →
        ∀ e, post (.error e) ⟨c, s, true, p⟩)
    (hOk :
      ∀ users', s.users.Stores users' new →
        post (.ok ())
          ⟨c, { s with users := users' }, false, p⟩) :
    (flushUser loaded new).wp w post ⟨c, s, false, p⟩ := by
  unfold flushUser
  by_cases hEq : new = loaded
  · rw [if_pos hEq]
    have hStores := Table.stores_of_mem
      (Table.mem_of_get? hGet)
    rw [← hEq] at hStores
    exact hOk s.users hStores
  · rw [if_neg hEq, Program.wp_flush_]
    refine ⟨fun _ => hError hEq _, ?_,
      fun e _ => hError hEq _⟩
    intro s' hUpdate
    rcases Store.updateUser_eq_ok hGet hSame hUpdate with
      ⟨users', hUsers, rfl⟩
    exact hOk users' hUsers

end Scim

end AccessIQ

------------------------------------------------------------
-- Profile Mutations
------------------------------------------------------------

namespace AccessIQ

namespace Scim

open Foundations Python

theorem sameUser_withDepartment
    (user : User)
    (old new : EnterpriseUserProfile) :
    SameUser user (withDepartment user old new) := by
  unfold withDepartment
  split
  · exact ⟨rfl, rfl⟩
  · exact ⟨rfl, rfl⟩

theorem columnChange_eq_nil_iff
    {α : Type}
    [DecidableEq α]
    {change : EnterpriseProfileChange}
    {event : Option α → EventKind}
    {old new : Option α} :
    columnChange change event old new = [] ↔ old = new := by
  unfold columnChange
  by_cases hEq : old = new
  · simp [hEq]
  · simp [hEq]

/- There is no change where every column is as it was. -/
theorem profileChanges_eq_nil_iff
    {userId : Int}
    {old new : EnterpriseUserProfile} :
    profileChanges userId old new = [] ↔
      old.employeeNumber = new.employeeNumber ∧
        old.department = new.department ∧
        old.division = new.division ∧
        old.organization = new.organization ∧
        old.costCenter = new.costCenter ∧
        old.managerId = new.managerId := by
  simp only [profileChanges, List.append_eq_nil_iff,
    columnChange_eq_nil_iff, and_assoc]

/- Desired values that are not all `None` change a new profile. -/
theorem profileChanges_new_eq_nil_iff
    {ctx : RequestContext}
    {userId id : Int}
    {desired : EnterpriseProfileMutation} :
    profileChanges userId
        { newEnterpriseProfile ctx userId with id := id }
        (desired.applied
          { newEnterpriseProfile ctx userId with id := id }) =
      [] ↔ desired.allNone = true := by
  have hColumn :
      ∀ {α : Type} (value : Option (Option α)),
        none = value.getD none ↔
          value.all Option.isNone = true := by
    intro α value
    rcases value with _ | _ | a
    · simp
    · simp
    · simp
  simp only [profileChanges_eq_nil_iff,
    EnterpriseProfileMutation.applied,
    EnterpriseProfileMutation.allNone, newEnterpriseProfile,
    hColumn, Bool.and_eq_true, and_assoc]

/- The events of a profile that was written. -/
def profileEvents
    (userId : Int)
    (old new : EnterpriseUserProfile)
    (created : Bool) :
    List EventKind :=
  (if created = true then
    EventKind.enterpriseProfileCreated userId
  else
    EventKind.enterpriseProfileUpdated userId) ::
      (profileChanges userId old new).map Prod.snd

variable [Platform]

/-
  What a profile mutation does to the store: nothing, or it
  stores the user and the profile with the desired values,
  which events tell of.
-/
inductive ProfileStep
    (ctx : RequestContext)
    (s : Store)
    (user : User)
    (desired : EnterpriseProfileMutation) :
    List EnterpriseProfileChange →
      List EventKind → Store → Prop
  | unset
      (hUnset : desired.hasChanges = false) :
      ProfileStep ctx s user desired [] [] s
  | absent
      (hAbsent : s.enterpriseProfileOf user.id = none)
      (hNone : desired.allNone = true) :
      ProfileStep ctx s user desired [] [] s
  | same
      (profile : EnterpriseUserProfile)
      (hProfile :
        s.enterpriseProfileOf user.id = some profile)
      (hSame :
        profileChanges user.id profile
          (desired.applied profile) = []) :
      ProfileStep ctx s user desired [] [] s
  | written
      (profile : EnterpriseUserProfile)
      (users' : Table User)
      (profiles' : Table EnterpriseUserProfile)
      (change : EnterpriseProfileChange)
      (changes : List EnterpriseProfileChange)
      (created : Bool)
      (hCreated :
        created = (s.enterpriseProfileOf user.id).isNone)
      (hProfile :
        s.enterpriseProfileOf user.id = some profile ∨
          s.enterpriseProfileOf user.id = none ∧
            profile =
              { newEnterpriseProfile ctx user.id with
                id :=
                  s.enterpriseUserProfiles.freshId
                    s.dialect.keyPolicy })
      (hChecked :
        ProfileChecked s user.id desired profile.id)
      (hUsers :
        s.users.Stores users'
          (withDepartment user profile
            (desired.applied profile)))
      (hProfiles :
        s.enterpriseUserProfiles.Stores profiles'
          { desired.applied profile with
            updatedAt := ctx.now }) :
      ProfileStep ctx s user desired (change :: changes)
        (profileEvents user.id profile
          (desired.applied profile) created)
        { s with
          users := users'
          enterpriseUserProfiles := profiles' }

end Scim

end AccessIQ

------------------------------------------------------------
-- Rules Of Profile Mutations
------------------------------------------------------------

namespace AccessIQ

namespace Scim

open Foundations Python

variable {w : World Question Reply}
variable {c s : Store}
variable {p : List DomainEvent}

/- The profile is written where it differs. -/
theorem wp_setProfile
    {ctx : RequestContext}
    {user : User}
    {profile new : EnterpriseUserProfile}
    {created : Bool}
    {post :
      Post Store DomainEvent PyException
        (List EnterpriseProfileChange × List DomainEvent)}
    (hUser : s.users.get? user.id = some user)
    (hProfile :
      s.enterpriseUserProfiles.get? profile.id = some profile)
    (hSameProfile : SameProfile profile new)
    (hError :
      profileChanges user.id profile new ≠ [] →
        ∀ e, post (.error e) ⟨c, s, true, p⟩)
    (hSame :
      profileChanges user.id profile new = [] →
        post (.ok ([], [])) ⟨c, s, false, p⟩)
    (hWritten :
      profileChanges user.id profile new ≠ [] →
        ∀ users' profiles' change changes,
          s.users.Stores users'
            (withDepartment user profile new) →
          s.enterpriseUserProfiles.Stores profiles'
            { new with updatedAt := ctx.now } →
          post
            (.ok
              (change :: changes,
                eventsAt ctx
                  (profileEvents user.id profile new
                    created)))
            ⟨c,
              { s with
                users := users'
                enterpriseUserProfiles := profiles' },
              false, p⟩) :
    (setProfile ctx user profile new created).wp w post
      ⟨c, s, false, p⟩ := by
  unfold setProfile
  by_cases hChanges : profileChanges user.id profile new = []
  · rw [if_pos hChanges]
    exact hSame hChanges
  · rw [if_neg hChanges, Program.wp_bind, Program.wp_flush_]
    refine ⟨fun _ => hError hChanges _, ?_,
      fun e _ => hError hChanges _⟩
    intro s' hOk
    have hSet :
        SameProfile profile
          { new with updatedAt := ctx.now } :=
      ⟨hSameProfile.id, hSameProfile.userId,
        hSameProfile.createdAt⟩
    rcases
      writeProfile_eq_ok hUser hProfile
        (sameUser_withDepartment user profile new) hSet hOk
      with ⟨users', profiles', hUsers, hProfiles, rfl⟩
    have hEvents :
        eventsAt ctx
            (profileEvents user.id profile new created) =
          List.map (fun change => ⟨ctx.now, change.2⟩)
            ((if created = true then
              (EnterpriseProfileChange.profileCreated,
                EventKind.enterpriseProfileCreated user.id)
            else
              (EnterpriseProfileChange.profileUpdated,
                EventKind.enterpriseProfileUpdated user.id)) ::
              profileChanges user.id profile new) := by
      unfold eventsAt profileEvents
      cases created with
      | true => simp
      | false => simp
    rw [hEvents] at hWritten
    exact hWritten hChanges users' profiles' _ _ hUsers
      hProfiles

variable [Platform]

/-
  The desired values are checked and, where they differ from
  the profile, written.
-/
theorem wp_changeProfile
    {ctx : RequestContext}
    {user : User}
    {desired : EnterpriseProfileMutation}
    {profile : EnterpriseUserProfile}
    {created : Bool}
    {post :
      Post Store DomainEvent PyException
        (List EnterpriseProfileChange × List DomainEvent)}
    (hUser : s.users.get? user.id = some user)
    (hProfile :
      s.enterpriseUserProfiles.get? profile.id = some profile)
    (hError :
      ¬ (ProfileChecked s user.id desired profile.id ∧
          profileChanges user.id profile
            (desired.applied profile) = []) →
        ∀ e b, post (.error e) ⟨c, s, b, p⟩)
    (hSame :
      profileChanges user.id profile
          (desired.applied profile) = [] →
        post (.ok ([], [])) ⟨c, s, false, p⟩)
    (hWritten :
      ProfileChecked s user.id desired profile.id →
      profileChanges user.id profile
          (desired.applied profile) ≠ [] →
        ∀ users' profiles' change changes,
          s.users.Stores users'
            (withDepartment user profile
              (desired.applied profile)) →
          s.enterpriseUserProfiles.Stores profiles'
            { desired.applied profile with
              updatedAt := ctx.now } →
          post
            (.ok
              (change :: changes,
                eventsAt ctx
                  (profileEvents user.id profile
                    (desired.applied profile) created)))
            ⟨c,
              { s with
                users := users'
                enterpriseUserProfiles := profiles' },
              false, p⟩) :
    (changeProfile ctx user desired profile created).wp w
      post ⟨c, s, false, p⟩ := by
  have hRest :
      (∀ employeeNumber,
          desired.employeeNumber =
              some (some employeeNumber) →
            NumberAvailable s employeeNumber profile.id) →
        ((do
            checkManager user desired.managerId
            setProfile ctx user profile
              (desired.applied profile) created) :
          Handler
            (List EnterpriseProfileChange ×
              List DomainEvent)).wp w post
          ⟨c, s, false, p⟩ := by
    intro hNumber
    have hSet :
        (∀ managerId,
            desired.managerId = some managerId →
              ManagerAllowed s user.id managerId) →
          (setProfile ctx user profile
              (desired.applied profile) created).wp w post
            ⟨c, s, false, p⟩ := by
      intro hManager
      have hApplied :
          SameProfile profile (desired.applied profile) :=
        ⟨rfl, rfl, rfl⟩
      apply wp_setProfile hUser hProfile hApplied
      · intro hChanges e
        exact hError (fun hBoth => hChanges hBoth.2) e true
      · exact hSame
      · exact hWritten ⟨hNumber, hManager⟩
    rw [Program.wp_bind]
    unfold checkManager
    cases hManagerId : desired.managerId with
    | none =>
        rw [Program.wp_pure, Program.bindPost_ok]
        apply hSet
        intro managerId hSome
        cases hManagerId.symm.trans hSome
    | some managerId =>
        simp only [Program.wp_bind]
        apply wp_validateManager
        · intro hForbidden e
          refine hError (fun hBoth => ?_) e false
          exact hForbidden
            (hBoth.1.manager managerId hManagerId)
        · intro hAllowed manager
          apply hSet
          intro other hSome
          cases hManagerId.symm.trans hSome
          exact hAllowed
  unfold changeProfile
  rw [Program.wp_bind]
  unfold checkEmployeeNumber
  split
  · rename_i employeeNumber hDesired
    apply wp_ensureEmployeeNumberAvailable
    · intro hTaken e
      refine hError (fun hBoth => ?_) e false
      exact hTaken (hBoth.1.number employeeNumber hDesired)
    · intro hAvailable
      apply hRest
      intro other hSome
      cases hDesired.symm.trans hSome
      exact hAvailable
  · rename_i hOther
    rw [Program.wp_pure, Program.bindPost_ok]
    apply hRest
    intro employeeNumber hSome
    exact absurd hSome (hOther employeeNumber)

/-
  A new profile without values is not found under any
  employee number, and gives its user no manager.
-/
theorem ProfileChecked.of_inserted
    {s : Store}
    {profiles : Table EnterpriseUserProfile}
    {profile : EnterpriseUserProfile}
    {userId : Int}
    {desired : EnterpriseProfileMutation}
    (hAbsent : s.enterpriseProfileOf userId = none)
    (hRows :
      profiles.rows = s.enterpriseUserProfiles.rows ++ [profile])
    (hUser : profile.userId = userId)
    (hNumber : profile.employeeNumber = none)
    (hManager : profile.managerId = none)
    (hChecked :
      ProfileChecked { s with enterpriseUserProfiles := profiles }
        userId desired profile.id) :
    ProfileChecked s userId desired profile.id := by
  have hFind :
      ∀ employeeNumber,
        Store.findProfileByEmployeeNumber
            { s with enterpriseUserProfiles := profiles }
            employeeNumber =
          s.findProfileByEmployeeNumber employeeNumber := by
    intro employeeNumber
    unfold Store.findProfileByEmployeeNumber
    rw [show
        Store.enterpriseUserProfiles
            { s with enterpriseUserProfiles := profiles } =
          profiles from rfl,
      hRows, List.find?_append]
    simp [hNumber]
  have hPointers :
      ∀ u,
        (Store.enterpriseProfileOf
            { s with enterpriseUserProfiles := profiles }
            u).bind (·.managerId) =
          (s.enterpriseProfileOf u).bind (·.managerId) := by
    intro u
    by_cases hOwner : profile.userId = u
    · have hBefore : s.enterpriseProfileOf u = none := by
        rw [← hOwner, hUser]
        exact hAbsent
      unfold Store.enterpriseProfileOf at hBefore ⊢
      rw [hBefore]
      simp [hRows, List.find?_append, hBefore, hOwner,
        hManager]
    · unfold Store.enterpriseProfileOf
      simp [hRows, List.find?_append, hOwner]
  have hManagers :
      Store.managerOf
          { s with enterpriseUserProfiles := profiles } =
        s.managerOf := by
    funext u
    unfold Store.managerOf
    rw [hPointers u]
  constructor
  · intro employeeNumber hDesired
    have hAvailable :=
      hChecked.number employeeNumber hDesired
    unfold NumberAvailable at hAvailable ⊢
    rw [hFind] at hAvailable
    exact hAvailable
  · intro managerId hDesired
    have hAllowed := hChecked.manager managerId hDesired
    cases managerId with
    | none => trivial
    | some managerId =>
        unfold ManagerAllowed at hAllowed ⊢
        rw [hManagers] at hAllowed
        exact hAllowed

section Mutating

variable {ctx : RequestContext}
variable {user : User}
variable {desired : EnterpriseProfileMutation}
variable
  {post :
    Post Store DomainEvent PyException
      (List EnterpriseProfileChange × List DomainEvent)}
variable (hUser : s.users.get? user.id = some user)
variable (hError : ∀ e s' b, post (.error e) ⟨c, s', b, p⟩)
variable
  (hOk :
    ∀ changes events s',
      ProfileStep ctx s user desired changes events s' →
        post (.ok (changes, eventsAt ctx events))
          ⟨c, s', false, p⟩)

include hUser hError hOk

/- A profile that the user has is changed. -/
theorem wp_changeFound
    {profile : EnterpriseUserProfile}
    (hProfile : s.enterpriseProfileOf user.id = some profile) :
    (changeProfile ctx user desired profile false).wp w
      post ⟨c, s, false, p⟩ := by
  have hGet :
      s.enterpriseUserProfiles.get? profile.id =
        some profile :=
    s.enterpriseUserProfiles.get?_of_mem
      (Store.enterpriseProfileOf_eq_some_iff.mp hProfile).1
  have hCreated :
      false = (s.enterpriseProfileOf user.id).isNone := by
    rw [hProfile]
    rfl
  apply wp_changeProfile hUser hGet
  · intro _ e b
    exact hError e s b
  · intro hSame
    exact hOk _ _ _ (.same profile hProfile hSame)
  · intro hChecked _ users' profiles' change changes hUsers
      hProfiles
    exact hOk _ _ _
      (.written profile users' profiles' change changes false
        hCreated (Or.inl hProfile) hChecked hUsers hProfiles)

/- A profile that was inserted for the user is changed. -/
theorem wp_changeInserted
    (hNone : s.enterpriseProfileOf user.id = none)
    (hValues : ¬ desired.allNone = true)
    (hFits :
      s.enterpriseUserProfiles.Fits
        (newEnterpriseProfile ctx user.id)) :
    let profile :=
      { newEnterpriseProfile ctx user.id with
        id :=
          s.enterpriseUserProfiles.freshId
            s.dialect.keyPolicy }
    let profiles :=
      s.enterpriseUserProfiles.insert s.dialect.keyPolicy
        (newEnterpriseProfile ctx user.id) hFits
    (changeProfile ctx user desired profile true).wp w post
      ⟨c, { s with enterpriseUserProfiles := profiles }, false,
        p⟩ := by
  intro profile profiles
  have hStores :
      s.enterpriseUserProfiles.Stores profiles profile :=
    Table.stores_insert s.dialect.keyPolicy
      s.enterpriseUserProfiles hFits
  have hRows :
      profiles.rows =
        s.enterpriseUserProfiles.rows ++ [profile] :=
    rfl
  have hChanges :
      profileChanges user.id profile
        (desired.applied profile) ≠ [] :=
    fun hNil => hValues (profileChanges_new_eq_nil_iff.mp hNil)
  have hCreated :
      true = (s.enterpriseProfileOf user.id).isNone := by
    rw [hNone]
    rfl
  apply wp_changeProfile
  · exact hUser
  · exact Table.get?_of_mem _ hStores.mem
  · intro _ e b
    exact hError e _ b
  · intro hSame
    exact absurd hSame hChanges
  · intro hChecked _ users' profiles' change changes hUsers
      hProfiles
    have hBefore :=
      hChecked.of_inserted hNone hRows rfl rfl rfl
    exact hOk _ _ _
      (.written profile users' profiles' change changes true
        hCreated (Or.inr ⟨hNone, rfl⟩) hBefore hUsers
        (hStores.trans hProfiles rfl))

end Mutating

/- The rule of `_apply_profile_mutation`. -/
theorem wp_applyProfileMutation
    {ctx : RequestContext}
    {user : User}
    {mutation : EnterpriseProfileMutation}
    {replace : Bool}
    {post :
      Post Store DomainEvent PyException
        (List EnterpriseProfileChange × List DomainEvent)}
    (hUser : s.users.get? user.id = some user)
    (hError : ∀ e s' b, post (.error e) ⟨c, s', b, p⟩)
    (hOk :
      ∀ changes events s',
        ProfileStep ctx s user
            (desiredValues mutation replace) changes events
            s' →
          post (.ok (changes, eventsAt ctx events))
            ⟨c, s', false, p⟩) :
    (applyProfileMutation ctx user mutation replace).wp w
      post ⟨c, s, false, p⟩ := by
  unfold applyProfileMutation
  generalize hDesired : desiredValues mutation replace =
    desired at hOk ⊢
  simp only
  by_cases hUnset : desired.hasChanges = false
  · rw [if_pos hUnset]
    exact hOk [] [] s (.unset hUnset)
  · rw [if_neg hUnset, Program.wp_bind, Program.wp_view,
      Program.bindPost_ok]
    cases hProfile : s.enterpriseProfileOf user.id with
    | some profile =>
        exact wp_changeFound hUser hError hOk hProfile
    | none =>
        simp only
        by_cases hNone : desired.allNone = true
        · rw [if_pos hNone]
          exact hOk [] [] s (.absent hProfile hNone)
        · rw [if_neg hNone, Program.wp_bind,
            Program.wp_flush]
          refine ⟨fun _ => hError _ _ _, ?_,
            fun e _ => hError _ _ _⟩
          intro s₁ id hInsert
          rcases Store.insertInto_eq_ok_iff.mp hInsert with
            ⟨-, hFits, rfl, rfl⟩
          exact
            wp_changeInserted hUser hError hOk hProfile hNone
              hFits

end Scim

end AccessIQ

------------------------------------------------------------
-- Attributes
------------------------------------------------------------

namespace AccessIQ

open Foundations Python Scim

/- The enterprise attributes of a user. -/
structure EnterpriseAttributes where
  employeeNumber : Option String := none
  department : Option String := none
  division : Option String := none
  organization : Option String := none
  costCenter : Option String := none
  managerId : Option Int := none
  deriving DecidableEq, Repr

def EnterpriseUserProfile.attributes
    (profile : EnterpriseUserProfile) :
    EnterpriseAttributes where
  employeeNumber := profile.employeeNumber
  department := profile.department
  division := profile.division
  organization := profile.organization
  costCenter := profile.costCenter
  managerId := profile.managerId

/- A user without a profile has no enterprise attribute. -/
def Store.attributesOf
    (s : Store)
    (userId : Int) :
    EnterpriseAttributes :=
  ((s.enterpriseProfileOf userId).map
    (·.attributes)).getD {}

namespace Scim

/- The attributes after the desired values are set. -/
def EnterpriseProfileMutation.set
    (desired : EnterpriseProfileMutation)
    (old : EnterpriseAttributes) :
    EnterpriseAttributes where
  employeeNumber :=
    desired.employeeNumber.getD old.employeeNumber
  department := desired.department.getD old.department
  division := desired.division.getD old.division
  organization := desired.organization.getD old.organization
  costCenter := desired.costCenter.getD old.costCenter
  managerId := desired.managerId.getD old.managerId

/- The user after the attributes have changed. -/
def withAttributes
    (user : User)
    (old new : EnterpriseAttributes) :
    User :=
  if old.department = new.department then
    user
  else
    { user with
      department := departmentOrDefault new.department }

theorem attributes_applied
    (desired : EnterpriseProfileMutation)
    (profile : EnterpriseUserProfile) :
    (desired.applied profile).attributes =
      desired.set profile.attributes :=
  rfl

theorem withAttributes_attributes
    (user : User)
    (old new : EnterpriseUserProfile) :
    withAttributes user old.attributes new.attributes =
      withDepartment user old new :=
  rfl

theorem withAttributes_self
    (user : User)
    (attributes : EnterpriseAttributes) :
    withAttributes user attributes attributes = user :=
  if_pos rfl

@[simp] theorem id_withAttributes
    (user : User)
    (old new : EnterpriseAttributes) :
    (withAttributes user old new).id = user.id := by
  unfold withAttributes
  split
  · rfl
  · rfl

/- Values that are not desired leave the attributes alone. -/
theorem set_of_not_hasChanges
    {desired : EnterpriseProfileMutation}
    (hUnset : desired.hasChanges = false)
    (old : EnterpriseAttributes) :
    desired.set old = old := by
  simp only [EnterpriseProfileMutation.hasChanges,
    Bool.or_eq_false_iff, Option.isSome_eq_false_iff,
    Option.isNone_iff_eq_none] at hUnset
  obtain
    ⟨⟨⟨⟨⟨hNumber, hDepartment⟩, hDivision⟩, hOrganization⟩,
      hCost⟩, hManager⟩ := hUnset
  simp [EnterpriseProfileMutation.set, hNumber, hDepartment,
    hDivision, hOrganization, hCost, hManager]

/- A user without attributes has none to lose. -/
theorem set_of_allNone
    {desired : EnterpriseProfileMutation}
    (hNone : desired.allNone = true) :
    desired.set {} = {} := by
  have hColumn :
      ∀ {α : Type} (value : Option (Option α)),
        value.all Option.isNone = true →
          value.getD none = none := by
    intro α value hAll
    rcases value with _ | _ | a
    · rfl
    · rfl
    · simp at hAll
  simp only [EnterpriseProfileMutation.allNone,
    Bool.and_eq_true] at hNone
  obtain
    ⟨⟨⟨⟨⟨hNumber, hDepartment⟩, hDivision⟩, hOrganization⟩,
      hCost⟩, hManager⟩ := hNone
  simp only [EnterpriseProfileMutation.set,
    hColumn _ hNumber, hColumn _ hDepartment,
    hColumn _ hDivision, hColumn _ hOrganization,
    hColumn _ hCost, hColumn _ hManager]

theorem set_of_profileChanges
    {userId : Int}
    {desired : EnterpriseProfileMutation}
    {profile : EnterpriseUserProfile}
    (hSame :
      profileChanges userId profile
        (desired.applied profile) = []) :
    desired.set profile.attributes = profile.attributes := by
  rw [← attributes_applied]
  rcases profileChanges_eq_nil_iff.mp hSame with
    ⟨hNumber, hDepartment, hDivision, hOrganization, hCost,
      hManager⟩
  simp only [EnterpriseUserProfile.attributes, ← hNumber,
    ← hDepartment, ← hDivision, ← hOrganization, ← hCost,
    ← hManager]

end Scim

end AccessIQ

------------------------------------------------------------
-- Steps
------------------------------------------------------------

namespace AccessIQ

namespace Scim

open Foundations Python

variable [Platform]
variable {ctx : RequestContext}
variable {s s' : Store}
variable {user : User}
variable {desired : EnterpriseProfileMutation}
variable {changes : List EnterpriseProfileChange}
variable {events : List EventKind}

omit [Platform] in
/- The attributes of a profile that was found or is new. -/
theorem attributesOf_of_found_or_new
    {profile : EnterpriseUserProfile}
    (hProfile :
      s.enterpriseProfileOf user.id = some profile ∨
        s.enterpriseProfileOf user.id = none ∧
          profile =
            { newEnterpriseProfile ctx user.id with
              id :=
                s.enterpriseUserProfiles.freshId
                  s.dialect.keyPolicy }) :
    s.attributesOf user.id = profile.attributes ∧
      profile.userId = user.id ∧
      ∀ old ∈ s.enterpriseUserProfiles.rows,
        old.id = profile.id → old.userId = profile.userId := by
  unfold Store.attributesOf
  rcases hProfile with hFound | ⟨hAbsent, rfl⟩
  · rw [hFound]
    rcases Store.enterpriseProfileOf_eq_some_iff.mp hFound
      with ⟨hMem, hUser⟩
    refine ⟨rfl, hUser, ?_⟩
    intro old hOld hId
    rw [s.enterpriseUserProfiles.eq_of_mem_of_id_eq hOld hMem
      hId]
  · rw [hAbsent]
    refine ⟨rfl, rfl, ?_⟩
    intro old hOld hId
    have hLt :=
      s.enterpriseUserProfiles.id_lt_freshId
        s.dialect.keyPolicy hOld
    exact absurd hId (ne_of_lt hLt)

omit [Platform] in
/- The profile that is written is found for its user. -/
theorem enterpriseProfileOf_written
    {profile : EnterpriseUserProfile}
    {users' : Table User}
    {profiles' : Table EnterpriseUserProfile}
    (hProfile :
      s.enterpriseProfileOf user.id = some profile ∨
        s.enterpriseProfileOf user.id = none ∧
          profile =
            { newEnterpriseProfile ctx user.id with
              id :=
                s.enterpriseUserProfiles.freshId
                  s.dialect.keyPolicy })
    (hProfiles :
      s.enterpriseUserProfiles.Stores profiles'
        { desired.applied profile with
          updatedAt := ctx.now })
    (userId : Int) :
    Store.enterpriseProfileOf
        { s with
          users := users'
          enterpriseUserProfiles := profiles' }
        userId =
      if userId = user.id then
        some
          { desired.applied profile with
            updatedAt := ctx.now }
      else
        s.enterpriseProfileOf userId := by
  rcases attributesOf_of_found_or_new hProfile with
    ⟨-, hOwner, hOnly⟩
  rw [← hOwner]
  exact @Store.enterpriseProfileOf_of_stores s
    { s with
      users := users'
      enterpriseUserProfiles := profiles' }
    { desired.applied profile with updatedAt := ctx.now }
    hProfiles hOnly userId

/- The profiles of the other users stay. -/
theorem ProfileStep.enterpriseProfileOf_ne
    (hStep : ProfileStep ctx s user desired changes events s')
    {userId : Int}
    (hNe : userId ≠ user.id) :
    s'.enterpriseProfileOf userId =
      s.enterpriseProfileOf userId := by
  cases hStep with
  | unset => rfl
  | absent => rfl
  | same => rfl
  | written profile users' profiles' change changes created
      hCreated hProfile hChecked hUsers hProfiles =>
      rw [enterpriseProfileOf_written hProfile hProfiles,
        if_neg hNe]

/- The user has the desired attributes. -/
theorem ProfileStep.attributesOf
    (hStep : ProfileStep ctx s user desired changes events s') :
    s'.attributesOf user.id =
      desired.set (s.attributesOf user.id) := by
  cases hStep with
  | unset hUnset => rw [set_of_not_hasChanges hUnset]
  | absent hAbsent hNone =>
      have hEmpty : s.attributesOf user.id = {} := by
        unfold Store.attributesOf
        rw [hAbsent]
        rfl
      rw [hEmpty, set_of_allNone hNone]
  | same profile hProfile hSame =>
      have hAttributes :
          s.attributesOf user.id = profile.attributes := by
        unfold Store.attributesOf
        rw [hProfile]
        rfl
      rw [hAttributes, set_of_profileChanges hSame]
  | written profile users' profiles' change changes created
      hCreated hProfile hChecked hUsers hProfiles =>
      rcases attributesOf_of_found_or_new hProfile with
        ⟨hAttributes, -, -⟩
      rw [hAttributes, ← attributes_applied]
      unfold Store.attributesOf
      rw [enterpriseProfileOf_written hProfile hProfiles,
        if_pos rfl]
      rfl

/- The user is stored with the department it has then. -/
theorem ProfileStep.users
    (hStep : ProfileStep ctx s user desired changes events s')
    (hUser : s.users.get? user.id = some user) :
    s.users.Stores s'.users
      (withAttributes user (s.attributesOf user.id)
        (s'.attributesOf user.id)) := by
  have hStored :
      s.users.Stores s.users
        (withAttributes user (s.attributesOf user.id)
          (s.attributesOf user.id)) := by
    rw [withAttributes_self]
    exact Table.stores_of_mem (Table.mem_of_get? hUser)
  have hAfter := hStep.attributesOf
  cases hStep with
  | unset => exact hStored
  | absent => exact hStored
  | same => exact hStored
  | written profile users' profiles' change changes created
      hCreated hProfile hChecked hUsers hProfiles =>
      rcases attributesOf_of_found_or_new hProfile with
        ⟨hAttributes, -, -⟩
      rw [hAfter, hAttributes, ← attributes_applied,
        withAttributes_attributes]
      exact hUsers

/- Nothing but users and profiles is written. -/
theorem ProfileStep.eq
    (hStep : ProfileStep ctx s user desired changes events s') :
    s' =
      { s with
        users := s'.users
        enterpriseUserProfiles := s'.enterpriseUserProfiles } := by
  cases hStep with
  | unset => rfl
  | absent => rfl
  | same => rfl
  | written => rfl

end Scim

end AccessIQ
