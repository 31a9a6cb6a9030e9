import AccessIQ.Runtime
import AccessIQ.Scim.UserResources

/-
  The user service and the enterprise user service.

  A user name is looked for without regard to case before it
  is stored, and so is an employee number.  A manager must
  exist, and following the managers above must not lead back
  to the user.

  Every query of the source is a read of its own, and a flush
  writes the columns changed since the row was loaded.

  Key definitions include:
    * `createUser`
    * `replaceUser`
    * `patchUser`
    * `walkManagers`
    * `validateManager`
    * `applyProfileMutation`
-/

------------------------------------------------------------
-- Queries And Statements
------------------------------------------------------------

namespace AccessIQ

open Foundations Python Scim

/- A stored user after its changed columns are written. -/
def User.write
    (loaded new stored : User) :
    User :=
  { stored with
    name := writeColumn loaded.name new.name stored.name
    email := writeColumn loaded.email new.email stored.email
    department :=
      writeColumn loaded.department new.department
        stored.department
    active :=
      writeColumn loaded.active new.active stored.active }

/-
  The same of an enterprise profile, whose update time every
  update sets.
-/
def EnterpriseUserProfile.write
    (loaded new stored : EnterpriseUserProfile) :
    EnterpriseUserProfile :=
  { stored with
    employeeNumber :=
      writeColumn loaded.employeeNumber new.employeeNumber
        stored.employeeNumber
    department :=
      writeColumn loaded.department new.department
        stored.department
    division :=
      writeColumn loaded.division new.division
        stored.division
    costCenter :=
      writeColumn loaded.costCenter new.costCenter
        stored.costCenter
    organization :=
      writeColumn loaded.organization new.organization
        stored.organization
    managerId :=
      writeColumn loaded.managerId new.managerId
        stored.managerId
    updatedAt := new.updatedAt }

namespace Store

def insertUser
    (s : Store)
    (user : User) :
    Except DatabaseError (Store × Int) :=
  s.insertInto s.users (fun t => { s with users := t })
    user true

/- Write the changed columns of a user. -/
def updateUser
    (s : Store)
    (loaded new : User) :
    Except DatabaseError Store :=
  if new = loaded then
    .ok s
  else
    updateIn s.users (fun t => { s with users := t })
      loaded.id (User.write loaded new) true

def insertEnterpriseUserProfile
    (s : Store)
    (profile : EnterpriseUserProfile) :
    Except DatabaseError (Store × Int) :=
  s.insertInto s.enterpriseUserProfiles
    (fun t => { s with enterpriseUserProfiles := t })
    profile
    (s.resolves s.users profile.userId &&
      s.resolves? s.users profile.managerId)

/- Write the changed columns of an enterprise profile. -/
def updateEnterpriseUserProfile
    (s : Store)
    (loaded new : EnterpriseUserProfile) :
    Except DatabaseError Store :=
  if new = loaded then
    .ok s
  else
    updateIn s.enterpriseUserProfiles
      (fun t => { s with enterpriseUserProfiles := t })
      loaded.id (EnterpriseUserProfile.write loaded new)
      (new.managerId == loaded.managerId ||
        s.resolves? s.users new.managerId)

variable [Platform]

/- `find_user`: an id is a positive integer. -/
def findUser
    (s : Store)
    (userId : String) :
    Option User :=
  match parseInt userId with
  | some id => if id < 1 then none else s.users.get? id
  | none => none

/- `find_user_by_user_name`. -/
def findUserByUserName
    (s : Store)
    (userName : String) :
    Option User :=
  s.users.rows.find? fun user =>
    s.dialect.lower user.email == Platform.lower userName

/- The first profile with an employee number, of any case. -/
def findProfileByEmployeeNumber
    (s : Store)
    (employeeNumber : String) :
    Option EnterpriseUserProfile :=
  s.enterpriseUserProfiles.rows.find? fun profile =>
    profile.employeeNumber.any fun stored =>
      s.dialect.lower stored == Platform.lower employeeNumber

end Store

end AccessIQ

------------------------------------------------------------
-- User Service
------------------------------------------------------------

namespace AccessIQ

namespace Scim

open Foundations Python

def defaultProvisionedDepartment : String :=
  "SCIM Provisioned"

def defaultProvisionedOperatorRole : String :=
  "employee"

/- Flush a user; without a change there is no statement. -/
def flushUser
    (loaded new : User) :
    Handler Unit :=
  if new = loaded then
    pure ()
  else
    Program.flush_ (·.updateUser loaded new)

variable [Platform]

/- `_require_user`. -/
def requireUser
    (userId : String) :
    Handler User := do
  let s ← Program.view
  Program.getOrRaise (s.findUser userId)
    (.userService (.userNotFound userId))

/- `_ensure_user_name_available`. -/
def ensureUserNameAvailable
    (userName : String)
    (currentUser : User) :
    Handler Unit := do
  let s ← Program.view
  match s.findUserByUserName userName with
  | none => return ()
  | some existing =>
      Program.raiseIf (existing.id ≠ currentUser.id)
        (.userService (.duplicateUserName userName existing))

/- The row `create_user` adds, before it has a key. -/
def newUser
    (userName displayName : String)
    (active : Bool) :
    User where
  id := 0
  name := displayName
  email := Platform.lower userName
  department := defaultProvisionedDepartment
  active := active
  operatorRole := defaultProvisionedOperatorRole

def createUser
    (ctx : RequestContext)
    (userName displayName : String)
    (active : Bool) :
    Handler (User × List DomainEvent) := do
  let s ← Program.view
  match s.findUserByUserName userName with
  | some existing =>
      throw
        (.userService (.duplicateUserName userName existing))
  | none => do
      let user := newUser userName displayName active
      let id ← Program.flush (·.insertUser user)
      let user := { user with id := id }
      return (user,
        [⟨ctx.now, .userProvisioned user.id user.email⟩])

def replaceUser
    (userId userName displayName : String)
    (active : Bool) :
    Handler User := do
  let user ← requireUser userId
  ensureUserNameAvailable userName user
  let new :=
    { user with
      email := Platform.lower userName
      name := displayName
      active := active }
  flushUser user new
  return new

/- A user after the attributes a mutation sets are set. -/
def UserMutation.applied
    (mutation : UserMutation)
    (user : User) :
    User :=
  { user with
    email :=
      (mutation.userName.map Platform.lower).getD user.email
    name := mutation.displayName.getD user.name
    active := mutation.active.getD user.active }

/- A user name a mutation sets must be available. -/
def checkUserName
    (user : User) :
    Option String → Handler Unit
  | some userName => ensureUserNameAvailable userName user
  | none => return ()

/-
  `patch_user` of a user the session has loaded, which
  `_require_user` then returns without a query.
-/
def patchUser
    (user : User)
    (mutation : UserMutation) :
    Handler User := do
  checkUserName user mutation.userName
  let new := mutation.applied user
  flushUser user new
  return new

end Scim

end AccessIQ

------------------------------------------------------------
-- Enterprise Profiles
------------------------------------------------------------

namespace AccessIQ

namespace Scim

open Foundations Python

/- What a profile mutation did to a user. -/
inductive EnterpriseProfileChange where
  | profileCreated
  | profileUpdated
  | employeeNumber
  | department
  | division
  | organization
  | costCenter
  | manager
  deriving DecidableEq, Repr

/- The row a first mutation adds, before it has a key. -/
def newEnterpriseProfile
    (ctx : RequestContext)
    (userId : Int) :
    EnterpriseUserProfile where
  id := 0
  userId := userId
  createdAt := ctx.now
  updatedAt := ctx.now

/- `_desired_values`; `none` is a column left as it is. -/
def desiredValues
    (mutation : EnterpriseProfileMutation)
    (replace : Bool) :
    EnterpriseProfileMutation :=
  if replace = true then
    mutation.over clearEnterpriseMutation
  else
    mutation

/- Every desired value is `None`. -/
def EnterpriseProfileMutation.allNone
    (desired : EnterpriseProfileMutation) :
    Bool :=
  desired.employeeNumber.all Option.isNone &&
    desired.department.all Option.isNone &&
    desired.division.all Option.isNone &&
    desired.organization.all Option.isNone &&
    desired.costCenter.all Option.isNone &&
    desired.managerId.all Option.isNone

/- A profile with the desired values. -/
def EnterpriseProfileMutation.applied
    (desired : EnterpriseProfileMutation)
    (profile : EnterpriseUserProfile) :
    EnterpriseUserProfile :=
  { profile with
    employeeNumber :=
      desired.employeeNumber.getD profile.employeeNumber
    department := desired.department.getD profile.department
    division := desired.division.getD profile.division
    organization :=
      desired.organization.getD profile.organization
    costCenter := desired.costCenter.getD profile.costCenter
    managerId := desired.managerId.getD profile.managerId }

/- A change and its event, where a column changes. -/
def columnChange
    {α : Type}
    [DecidableEq α]
    (change : EnterpriseProfileChange)
    (event : Option α → EventKind)
    (old new : Option α) :
    List (EnterpriseProfileChange × EventKind) :=
  if old = new then [] else [(change, event new)]

/- The changes between two states of a profile, in order. -/
def profileChanges
    (userId : Int)
    (old new : EnterpriseUserProfile) :
    List (EnterpriseProfileChange × EventKind) :=
  columnChange .employeeNumber (.employeeNumberChanged userId)
      old.employeeNumber new.employeeNumber ++
    columnChange .department (.departmentChanged userId)
      old.department new.department ++
    columnChange .division (.divisionChanged userId)
      old.division new.division ++
    columnChange .organization (.organizationChanged userId)
      old.organization new.organization ++
    columnChange .costCenter (.costCenterChanged userId)
      old.costCenter new.costCenter ++
    columnChange .manager (.managerChanged userId)
      old.managerId new.managerId

/- `new_value or DEFAULT_PROVISIONED_DEPARTMENT`. -/
def departmentOrDefault : Option String → String
  | none => defaultProvisionedDepartment
  | some department =>
      if department = "" then
        defaultProvisionedDepartment
      else
        department

/- A changed department is the department of the user too. -/
def withDepartment
    (user : User)
    (old new : EnterpriseUserProfile) :
    User :=
  if old.department = new.department then
    user
  else
    { user with
      department := departmentOrDefault new.department }

end Scim

end AccessIQ

------------------------------------------------------------
-- Enterprise User Service
------------------------------------------------------------

namespace AccessIQ

namespace Scim

open Foundations Python

/-
  The walk of `validate_manager`: follow the managers above
  `current` and raise where they lead to the user.  `seen`
  holds the users met, and none is visited twice, so the walk
  is over after `fuel` steps if there are no more users.  The
  ids it looks up come out of the database, which can bind
  them again.
-/
def walkManagers
    (userId managerId : Int) :
    Nat → Int → List Int → Handler Unit
  | 0, _, _ => return ()
  | fuel + 1, current, seen => do
      let s ← Program.view
      match
        (s.enterpriseProfileOf current).bind (·.managerId)
      with
      | none => return ()
      | some next =>
          if next = userId then
            throw
              (.enterpriseUserService
                (.managerCycle userId managerId))
          else if next ∈ seen then
            return ()
          else do
            let s ← Program.view
            match s.users.get? next with
            | none => return ()
            | some nextManager =>
                walkManagers userId managerId fuel
                  nextManager.id (next :: seen)

/- `validate_manager`; the id of a manager comes from outside. -/
def validateManager
    (user : User) :
    Option Int → Handler (Option User)
  | none => return none
  | some managerId => do
      let s ← Program.view
      Program.raiseIf
        (s.dialect.bindsInteger managerId = false)
        s.dialect.bindError
      let manager ←
        Program.getOrRaise (s.users.get? managerId)
          (.enterpriseUserService (.unknownManager managerId))
      Program.raiseIf (manager.id = user.id)
        (.enterpriseUserService (.selfManager user.id))
      walkManagers user.id manager.id s.users.rows.length
        manager.id [user.id]
      return some manager

/- Write the changed columns of a profile and of its user. -/
def writeProfile
    (user newUser : User)
    (profile newProfile : EnterpriseUserProfile)
    (s : Store) :
    Except DatabaseError Store := do
  let s ← s.updateUser user newUser
  s.updateEnterpriseUserProfile profile newProfile

variable [Platform]

/- `_ensure_employee_number_available`. -/
def ensureEmployeeNumberAvailable
    (employeeNumber : String)
    (currentProfile : EnterpriseUserProfile) :
    Handler Unit := do
  let s ← Program.view
  match s.findProfileByEmployeeNumber employeeNumber with
  | none => return ()
  | some existing =>
      Program.raiseIf (existing.id ≠ currentProfile.id)
        (.enterpriseUserService
          (.duplicateEmployeeNumber employeeNumber existing))

/- A desired employee number must be available. -/
def checkEmployeeNumber
    (profile : EnterpriseUserProfile) :
    Option (Option String) → Handler Unit
  | some (some employeeNumber) =>
      ensureEmployeeNumberAvailable employeeNumber profile
  | _ => return ()

/- A desired manager must be valid. -/
def checkManager
    (user : User) :
    Option (Option Int) → Handler Unit
  | some managerId => do
      let _ ← validateManager user managerId
      return ()
  | none => return ()

/-
  Write a profile that differs from the loaded one; the first
  change says whether the profile is new.
-/
def setProfile
    (ctx : RequestContext)
    (user : User)
    (profile new : EnterpriseUserProfile)
    (created : Bool) :
    Handler
      (List EnterpriseProfileChange × List DomainEvent) :=
  if profileChanges user.id profile new = [] then
    return ([], [])
  else do
    Program.flush_
      (writeProfile user (withDepartment user profile new)
        profile { new with updatedAt := ctx.now })
    let first :=
      if created = true then
        (EnterpriseProfileChange.profileCreated,
          EventKind.enterpriseProfileCreated user.id)
      else
        (EnterpriseProfileChange.profileUpdated,
          EventKind.enterpriseProfileUpdated user.id)
    let changes := first :: profileChanges user.id profile new
    return (changes.map Prod.fst,
      changes.map fun change => ⟨ctx.now, change.2⟩)

/- Check the desired values and set those that differ. -/
def changeProfile
    (ctx : RequestContext)
    (user : User)
    (desired : EnterpriseProfileMutation)
    (profile : EnterpriseUserProfile)
    (created : Bool) :
    Handler
      (List EnterpriseProfileChange × List DomainEvent) := do
  checkEmployeeNumber profile desired.employeeNumber
  checkManager user desired.managerId
  setProfile ctx user profile (desired.applied profile)
    created

/- `_apply_profile_mutation`. -/
def applyProfileMutation
    (ctx : RequestContext)
    (user : User)
    (mutation : EnterpriseProfileMutation)
    (replace : Bool) :
    Handler
      (List EnterpriseProfileChange × List DomainEvent) := do
  let desired := desiredValues mutation replace
  if desired.hasChanges = false then
    return ([], [])
  else
    let s ← Program.view
    match s.enterpriseProfileOf user.id with
    | some profile =>
        changeProfile ctx user desired profile false
    | none =>
        if desired.allNone = true then
          return ([], [])
        else
          let profile := newEnterpriseProfile ctx user.id
          let id ←
            Program.flush
              (·.insertEnterpriseUserProfile profile)
          changeProfile ctx user desired
            { profile with id := id } true

/- `_clear_enterprise_profile`. -/
def clearEnterpriseProfile
    (ctx : RequestContext)
    (user : User) :
    Handler
      (List EnterpriseProfileChange × List DomainEvent) := do
  let s ← Program.view
  match s.enterpriseProfileOf user.id with
  | none => return ([], [])
  | some _ =>
      applyProfileMutation ctx user clearEnterpriseMutation
        false

/- The profile of a user a create request adds. -/
def createEnterpriseProfile
    (ctx : RequestContext)
    (user : User) :
    Option EnterpriseProfileMutation →
      Handler
        (List EnterpriseProfileChange × List DomainEvent)
  | none => return ([], [])
  | some mutation =>
      applyProfileMutation ctx user mutation false

/- PUT clears what its payload leaves out. -/
def replaceEnterpriseProfile
    (ctx : RequestContext)
    (user : User) :
    Option EnterpriseProfileMutation →
      Handler
        (List EnterpriseProfileChange × List DomainEvent)
  | none => clearEnterpriseProfile ctx user
  | some mutation =>
      applyProfileMutation ctx user mutation true

/- PATCH keeps it. -/
def patchEnterpriseProfile
    (ctx : RequestContext)
    (user : User) :
    Option EnterpriseProfileMutation →
      Handler
        (List EnterpriseProfileChange × List DomainEvent)
  | none => return ([], [])
  | some mutation =>
      applyProfileMutation ctx user mutation false

end Scim

end AccessIQ
