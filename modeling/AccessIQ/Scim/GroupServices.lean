import AccessIQ.Scim.GroupPayloads
import AccessIQ.Scim.Provisioning

/-
  The group service.

  The service changes a group in memory: its name and the
  collection of its membership objects, each of which was
  loaded from a row or is pending.  A flush then writes the
  name, inserts the pending memberships and only after that
  deletes the rows that have left the collection.

  Key definitions include:
    * `Membership`
    * `LoadedGroup`
    * `LoadedGroup.write`
    * `createGroup`
    * `replaceGroup`
    * `patchGroup`
-/

------------------------------------------------------------
-- Loaded Groups
------------------------------------------------------------

namespace AccessIQ

namespace Scim

open Foundations Python

/- A membership object: a loaded row, or one to be inserted. -/
inductive Membership where
  | stored (row : GroupMember)
  | pending (userId : Int)
  deriving DecidableEq, Repr

def Membership.userId : Membership → Int
  | .stored row => row.userId
  | .pending userId => userId

/-
  A group as a session holds it: its row and the rows of its
  collection as they were loaded, and its name and its
  collection as they are now.
-/
structure LoadedGroup where
  row : Group
  rows : List GroupMember
  displayName : String
  memberships : List Membership
  deriving DecidableEq, Repr

namespace LoadedGroup

def id
    (group : LoadedGroup) :
    Int :=
  group.row.id

/- The users the collection refers to. -/
def memberIds
    (group : LoadedGroup) :
    List Int :=
  group.memberships.map Membership.userId

/- The users the collection has no row for. -/
def pendingIds
    (group : LoadedGroup) :
    List Int :=
  group.memberships.filterMap fun membership =>
    match membership with
    | .stored _ => none
    | .pending userId => some userId

/- The rows that have left the collection. -/
def removedRows
    (group : LoadedGroup) :
    List GroupMember :=
  group.rows.filter fun row =>
    decide (Membership.stored row ∉ group.memberships)

end LoadedGroup

/- A group as it is loaded. -/
def loadGroup
    (group : Group)
    (rows : List GroupMember) :
    LoadedGroup where
  row := group
  rows := rows
  displayName := group.displayName
  memberships := rows.map .stored

end Scim

end AccessIQ

------------------------------------------------------------
-- Queries And Statements
------------------------------------------------------------

namespace AccessIQ

open Foundations Python Scim

/- A stored group after its name is written. -/
def Group.write
    (ctx : RequestContext)
    (displayName : String)
    (stored : Group) :
    Group :=
  { stored with
    displayName := displayName
    updatedAt := ctx.now }

/- The row of a pending membership. -/
def newGroupMember
    (ctx : RequestContext)
    (groupId userId : Int) :
    GroupMember where
  id := 0
  groupId := groupId
  userId := userId
  createdAt := ctx.now

namespace Store

/- The rows of the collection of a group. -/
def membershipsOf
    (s : Store)
    (groupId : Int) :
    List GroupMember :=
  s.groupMembers.rows.filter (·.groupId == groupId)

def insertGroup
    (s : Store)
    (group : Group) :
    Except DatabaseError (Store × Int) :=
  s.insertInto s.groups (fun t => { s with groups := t })
    group true

/- Write the name of a group if it has changed. -/
def updateGroup
    (ctx : RequestContext)
    (s : Store)
    (group : LoadedGroup) :
    Except DatabaseError Store :=
  if group.displayName = group.row.displayName then
    .ok s
  else
    updateIn s.groups (fun t => { s with groups := t })
      group.id (Group.write ctx group.displayName) true

/- Insert a membership of each user into a group. -/
def insertGroupMembers
    (ctx : RequestContext)
    (s : Store)
    (groupId : Int)
    (userIds : List Int) :
    Except DatabaseError Store :=
  (s.groupMembers.tryInsertAll s.dialect.keyPolicy
      (fun member =>
        s.resolves s.groups member.groupId &&
          s.resolves s.users member.userId)
      (userIds.map (newGroupMember ctx groupId))).map
    fun t => { s with groupMembers := t }

/- Delete membership rows. -/
def deleteGroupMembers
    (s : Store)
    (rows : List GroupMember) :
    Store :=
  { s with
    groupMembers :=
      s.groupMembers.deleteAll (rows.map (·.id)) }

variable [Platform]

/- `find_group`: an id is a positive integer. -/
def findGroup
    (s : Store)
    (groupId : String) :
    Option Group :=
  match parseInt groupId with
  | some id => if id < 1 then none else s.groups.get? id
  | none => none

/- The first group with a display name, of any case. -/
def findGroupByDisplayName
    (s : Store)
    (displayName : String) :
    Option Group :=
  s.groups.rows.find? fun group =>
    s.dialect.lower group.displayName ==
      Platform.lower displayName

end Store

end AccessIQ

------------------------------------------------------------
-- Checks
------------------------------------------------------------

namespace AccessIQ

namespace Scim

open Foundations Python

/- The first user id that comes a second time. -/
def firstRepeated
    (seen : List Int) :
    List Int → Option Int
  | [] => none
  | userId :: userIds =>
      if userId ∈ seen then
        some userId
      else
        firstRepeated (userId :: seen) userIds

/- `_require_distinct_users`. -/
def requireDistinctUsers
    (userIds : List Int) :
    Handler Unit :=
  match firstRepeated [] userIds with
  | some userId =>
      throw
        (.groupService
          (.duplicateGroupMember (toString userId)))
  | none =>
      if userIds = [] then
        return ()
      else do
        let s ← Program.view
        match
          userIds.find? fun userId =>
            !s.users.contains userId
        with
        | some userId =>
            throw
              (.groupService
                (.unknownGroupMember (toString userId)))
        | none => return ()

/- `_require_user` of the group service. -/
def requireMember
    (userId : Int) :
    Handler Unit := do
  let s ← Program.view
  Program.raiseIf (s.users.contains userId = false)
    (.groupService (.unknownGroupMember (toString userId)))

variable [Platform]

/- `check_duplicate_group`. -/
def checkDuplicateGroup
    (displayName : String)
    (currentGroup : Option Int) :
    Handler Unit := do
  let s ← Program.view
  match s.findGroupByDisplayName displayName with
  | none => return ()
  | some existing =>
      Program.raiseIf (currentGroup ≠ some existing.id)
        (.groupService
          (.duplicateGroup displayName existing))

/- `_require_group`, and the collection of the group. -/
def requireGroup
    (groupId : String) :
    Handler LoadedGroup := do
  let s ← Program.view
  let group ←
    Program.getOrRaise (s.findGroup groupId)
      (.groupService (.groupNotFound groupId))
  let s ← Program.view
  return loadGroup group (s.membershipsOf group.id)

end Scim

end AccessIQ

------------------------------------------------------------
-- Operations
------------------------------------------------------------

namespace AccessIQ

namespace Scim

open Foundations Python

/- `_add_member`. -/
def addMember
    (group : LoadedGroup)
    (userId : Int) :
    Handler (LoadedGroup × List EventKind) := do
  requireMember userId
  Program.raiseIf (userId ∈ group.memberIds)
    (.groupService (.duplicateGroupMember (toString userId)))
  let memberships := group.memberships ++ [.pending userId]
  return ({ group with memberships := memberships },
    [.groupMembershipAdded group.id userId])

/- `_remove_member`. -/
def removeMember
    (group : LoadedGroup)
    (userId : Int) :
    Handler (LoadedGroup × List EventKind) := do
  requireMember userId
  Program.raiseIf (userId ∉ group.memberIds)
    (.groupService (.unknownGroupMember (toString userId)))
  let memberships :=
    group.memberships.eraseP (·.userId == userId)
  return ({ group with memberships := memberships },
    [.groupMembershipRemoved group.id userId])

/- `_replace_members`: clear the collection and append. -/
def replaceMembers
    (group : LoadedGroup)
    (userIds : List Int) :
    Handler (LoadedGroup × List EventKind) := do
  requireDistinctUsers userIds
  return ({ group with memberships := userIds.map .pending },
    [.groupMembershipReplaced group.id userIds])

/- One step of a change of a group for each argument. -/
def forEach
    {β : Type}
    (step :
      LoadedGroup → β →
        Handler (LoadedGroup × List EventKind)) :
    LoadedGroup → List β →
      Handler (LoadedGroup × List EventKind)
  | group, [] => return (group, [])
  | group, b :: bs => do
      let (group, events) ← step group b
      let (group, laterEvents) ← forEach step group bs
      return (group, events ++ laterEvents)

variable [Platform]

/- `_rename_group`. -/
def renameGroup
    (group : LoadedGroup)
    (displayName : String) :
    Handler (LoadedGroup × List EventKind) :=
  if group.displayName = displayName then
    return (group, [])
  else do
    checkDuplicateGroup displayName (some group.id)
    return ({ group with displayName := displayName },
      [.groupUpdated group.id displayName])

/- One operation of `patch_group`. -/
def applyGroupOperation
    (group : LoadedGroup) :
    GroupPatchOperation →
      Handler (LoadedGroup × List EventKind)
  | .displayName op value =>
      if op = .remove then
        throw
          (.valueError
            "displayName is required and cannot be removed")
      else
        renameGroup group value
  | .members .replace value => replaceMembers group value
  | .members .add value => forEach addMember group value
  | .members .remove value =>
      forEach removeMember group value

end Scim

end AccessIQ

------------------------------------------------------------
-- Group Service
------------------------------------------------------------

namespace AccessIQ

namespace Scim

open Foundations Python

/- Insert the pending memberships, then delete rows. -/
def LoadedGroup.writeMembers
    (ctx : RequestContext)
    (group : LoadedGroup)
    (s : Store) :
    Except DatabaseError Store := do
  let s ← s.insertGroupMembers ctx group.id group.pendingIds
  return s.deleteGroupMembers group.removedRows

/-
  The statements of a flush, in the order the unit of work
  sends them.
-/
def LoadedGroup.write
    (ctx : RequestContext)
    (group : LoadedGroup)
    (s : Store) :
    Except DatabaseError Store := do
  let s ← s.updateGroup ctx group
  group.writeMembers ctx s

/- Flush a group; without a change there is no statement. -/
def flushGroup
    (ctx : RequestContext)
    (group : LoadedGroup) :
    Handler Unit :=
  if group = loadGroup group.row group.rows then
    return ()
  else
    Program.flush_ (group.write ctx)

/- The row `create_group` adds, before it has a key. -/
def newGroup
    (ctx : RequestContext)
    (displayName : String) :
    Group where
  id := 0
  displayName := displayName
  createdAt := ctx.now
  updatedAt := ctx.now

/- The events of a group with the members it begins with. -/
def createdEvents
    (groupId : Int)
    (displayName : String)
    (memberIds : List Int) :
    List EventKind :=
  .groupCreated groupId displayName ::
    (if memberIds = [] then
      []
    else
      [.groupMembershipReplaced groupId memberIds])

variable [Platform]

def createGroup
    (ctx : RequestContext)
    (displayName : String)
    (memberIds : List Int) :
    Handler (Int × List DomainEvent) := do
  checkDuplicateGroup displayName none
  requireDistinctUsers memberIds
  let group := newGroup ctx displayName
  let id ← Program.flush (·.insertGroup group)
  let s ← Program.view
  let created :=
    loadGroup { group with id := id } (s.membershipsOf id)
  flushGroup ctx
    { created with
      memberships :=
        created.memberships ++ memberIds.map .pending }
  return (id,
    eventsAt ctx (createdEvents id displayName memberIds))

def replaceGroup
    (ctx : RequestContext)
    (groupId displayName : String)
    (memberIds : List Int) :
    Handler (Int × List DomainEvent) := do
  let group ← requireGroup groupId
  checkDuplicateGroup displayName (some group.id)
  let renamed := { group with displayName := displayName }
  let renameEvents :=
    if group.displayName = displayName then
      []
    else
      [EventKind.groupUpdated group.id displayName]
  let (changed, events) ← replaceMembers renamed memberIds
  flushGroup ctx changed
  return (group.id, eventsAt ctx (renameEvents ++ events))

def patchGroup
    (ctx : RequestContext)
    (groupId : String)
    (operations : List GroupPatchOperation) :
    Handler (Int × List DomainEvent) := do
  let group ← requireGroup groupId
  let (changed, events) ←
    forEach applyGroupOperation group operations
  flushGroup ctx changed
  return (group.id, eventsAt ctx events)

end Scim

end AccessIQ
