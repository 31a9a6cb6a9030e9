import AccessIQ.Foundations.Replay
import AccessIQ.Seed
import AccessIQ.Scim.GroupResults
import AccessIQ.Scim.Requests

/-
  The published events rebuild groups and profiles.

  A subscriber keeps a view of the groups and the enterprise
  profiles and applies each event to it.  The events of a
  request are those of its change, one for every difference,
  so they take the view of the store to that of the store the
  request commits.

  Key definitions include:
    * `ScimView`
    * `ScimView.apply`
    * `Store.scimView`

  Key theorems include:
    * `GroupSteps.replay`
    * `replay_profileEvents`
    * `replay_effect`
    * `events_replay_to_state`
-/

------------------------------------------------------------
-- Views
------------------------------------------------------------

namespace AccessIQ

open Foundations Python Scim

namespace Scim

/- The groups and the profiles a subscriber knows. -/
@[ext] structure ScimView where
  groups : Int → Option GroupView
  profiles : Int → Option EnterpriseAttributes

namespace ScimView

def empty : ScimView where
  groups _ := none
  profiles _ := none

def setGroup
    (view : ScimView)
    (groupId : Int)
    (group : GroupView) :
    ScimView :=
  { view with
    groups :=
      Function.update view.groups groupId (some group) }

def setProfile
    (view : ScimView)
    (userId : Int)
    (attributes : EnterpriseAttributes) :
    ScimView :=
  { view with
    profiles :=
      Function.update view.profiles userId
        (some attributes) }

/- Change a group the view knows. -/
def modifyGroup
    (view : ScimView)
    (groupId : Int)
    (change : GroupView → GroupView) :
    ScimView :=
  ((view.groups groupId).map fun group =>
    view.setGroup groupId (change group)).getD view

/- Change a profile the view knows. -/
def modifyProfile
    (view : ScimView)
    (userId : Int)
    (change : EnterpriseAttributes → EnterpriseAttributes) :
    ScimView :=
  ((view.profiles userId).map fun attributes =>
    view.setProfile userId (change attributes)).getD view

/- What an event tells of the groups and the profiles. -/
def apply
    (view : ScimView) :
    EventKind → ScimView
  | .groupCreated groupId displayName =>
      view.setGroup groupId ⟨displayName, ∅⟩
  | .groupUpdated groupId displayName =>
      view.modifyGroup groupId fun group =>
        { group with displayName := displayName }
  | .groupMembershipAdded groupId userId =>
      view.modifyGroup groupId fun group =>
        { group with members := insert userId group.members }
  | .groupMembershipRemoved groupId userId =>
      view.modifyGroup groupId fun group =>
        { group with members := group.members.erase userId }
  | .groupMembershipReplaced groupId userIds =>
      view.modifyGroup groupId fun group =>
        { group with members := userIds.toFinset }
  | .enterpriseProfileCreated userId =>
      view.setProfile userId {}
  | .employeeNumberChanged userId employeeNumber =>
      view.modifyProfile userId fun attributes =>
        { attributes with employeeNumber := employeeNumber }
  | .departmentChanged userId department =>
      view.modifyProfile userId fun attributes =>
        { attributes with department := department }
  | .divisionChanged userId division =>
      view.modifyProfile userId fun attributes =>
        { attributes with division := division }
  | .organizationChanged userId organization =>
      view.modifyProfile userId fun attributes =>
        { attributes with organization := organization }
  | .costCenterChanged userId costCenter =>
      view.modifyProfile userId fun attributes =>
        { attributes with costCenter := costCenter }
  | .managerChanged userId managerId =>
      view.modifyProfile userId fun attributes =>
        { attributes with managerId := managerId }
  | _ => view

/- A published event, with the time it occurred. -/
def observe
    (view : ScimView)
    (event : DomainEvent) :
    ScimView :=
  view.apply event.kind

variable {view : ScimView}
variable {groupId userId : Int}

@[simp] theorem modifyGroup_setGroup
    (group : GroupView)
    (change : GroupView → GroupView) :
    (view.setGroup groupId group).modifyGroup groupId change =
      view.setGroup groupId (change group) := by
  simp [modifyGroup, setGroup]

@[simp] theorem modifyProfile_setProfile
    (attributes : EnterpriseAttributes)
    (change : EnterpriseAttributes → EnterpriseAttributes) :
    (view.setProfile userId attributes).modifyProfile userId
        change =
      view.setProfile userId (change attributes) := by
  simp [modifyProfile, setProfile]

@[simp] theorem setProfile_setProfile
    (old new : EnterpriseAttributes) :
    (view.setProfile userId old).setProfile userId new =
      view.setProfile userId new := by
  simp [setProfile]

theorem setGroup_self
    {group : GroupView}
    (hGroup : view.groups groupId = some group) :
    view.setGroup groupId group = view := by
  unfold setGroup
  rw [← hGroup, Function.update_eq_self]

theorem setProfile_self
    {attributes : EnterpriseAttributes}
    (hProfile : view.profiles userId = some attributes) :
    view.setProfile userId attributes = view := by
  unfold setProfile
  rw [← hProfile, Function.update_eq_self]

theorem replay_eventsAt
    (ctx : RequestContext)
    (view : ScimView)
    (events : List EventKind) :
    replay observe view (eventsAt ctx events) =
      replay apply view events :=
  List.foldl_map

end ScimView

end Scim

namespace Store

/- The groups and the profiles of a store. -/
def scimView
    (s : Store) :
    ScimView where
  groups := s.groupView
  profiles userId :=
    (s.enterpriseProfileOf userId).map (·.attributes)

end Store

end AccessIQ

------------------------------------------------------------
-- Events Of Groups
------------------------------------------------------------

namespace AccessIQ

open Foundations Python Scim

namespace Scim

variable {s s' : Store}
variable {group changed : LoadedGroup}
variable {events : List EventKind}
variable {view : ScimView}

theorem toFinset_eraseP
    {memberships : List Membership}
    (hNodup : (memberships.map Membership.userId).Nodup)
    (userId : Int) :
    ((memberships.eraseP
          (·.userId == userId)).map
        Membership.userId).toFinset =
      (memberships.map Membership.userId).toFinset.erase
        userId := by
  have hErase :
      (memberships.eraseP (·.userId == userId)).map
          Membership.userId =
        (memberships.map Membership.userId).erase userId := by
    rw [List.erase_eq_eraseP, List.eraseP_map]
    congr 2
    funext membership
    exact Bool.beq_comm
  rw [hErase]
  ext other
  rw [List.mem_toFinset, hNodup.mem_erase_iff,
    Finset.mem_erase, List.mem_toFinset]

variable [Platform]

/- The events of a step take the group's view along. -/
theorem GroupStep.replay
    (hStep : GroupStep s group changed events)
    (hTracks : group.Tracks s) :
    Foundations.replay ScimView.apply
        (view.setGroup group.id group.view) events =
      view.setGroup group.id changed.view := by
  cases hStep with
  | renamed displayName hFree =>
      by_cases hSame : group.displayName = displayName
      · rw [if_pos hSame]
        subst hSame
        rfl
      · rw [if_neg hSame]
        simp [ScimView.apply, LoadedGroup.view,
          LoadedGroup.memberIds]
  | added userId hUser hNew =>
      have hInsert :
          ((group.memberships ++
                [Membership.pending userId]).map
              Membership.userId).toFinset =
            insert userId
              (group.memberships.map
                Membership.userId).toFinset := by
        rw [List.map_append]
        ext other
        simp [Membership.userId]
      simp only [replay_cons, replay_nil, ScimView.apply,
        ScimView.modifyGroup_setGroup, LoadedGroup.view,
        LoadedGroup.memberIds, hInsert]
  | removed userId hUser hMember =>
      have hErase := toFinset_eraseP hTracks.nodup userId
      simp [ScimView.apply, LoadedGroup.view,
        LoadedGroup.memberIds, hErase]
  | replaced userIds hLists =>
      have hIds := memberIds_pending userIds
      simp only [replay_cons, replay_nil, ScimView.apply,
        ScimView.modifyGroup_setGroup, LoadedGroup.view,
        LoadedGroup.memberIds, hIds]

theorem GroupSteps.replay
    (hSteps : GroupSteps s group changed events)
    (hTracks : group.Tracks s) :
    Foundations.replay ScimView.apply
        (view.setGroup group.id group.view) events =
      view.setGroup group.id changed.view := by
  induction hSteps with
  | refl group => rfl
  | cons hStep hSteps ih =>
      rcases hStep.tracks hTracks with ⟨hNext, hId⟩
      have hRest := ih hNext
      rw [hId] at hRest
      rw [replay_append, hStep.replay hTracks, hRest]

end Scim

end AccessIQ

------------------------------------------------------------
-- Events Of Profiles
------------------------------------------------------------

namespace AccessIQ

open Foundations Python Scim

namespace Scim

variable {view : ScimView}
variable {userId : Int}

/-
  A column event sets its column; without an event the column
  is as it was.
-/
theorem replay_columnChange
    {α : Type}
    [DecidableEq α]
    {change : EnterpriseProfileChange}
    {event : Option α → EventKind}
    {old new : Option α}
    {attributes : EnterpriseAttributes}
    (set : Option α → EnterpriseAttributes)
    (hOld : set old = attributes)
    (hEvent :
      (view.setProfile userId attributes).apply (event new) =
        view.setProfile userId (set new)) :
    replay ScimView.apply (view.setProfile userId attributes)
        ((columnChange change event old new).map Prod.snd) =
      view.setProfile userId (set new) := by
  unfold columnChange
  by_cases hSame : old = new
  · rw [if_pos hSame, ← hSame, hOld]
    rfl
  · rw [if_neg hSame]
    exact hEvent

/- The changes of a profile take its attributes along. -/
theorem replay_profileChanges
    (view : ScimView)
    (userId : Int)
    (old new : EnterpriseUserProfile) :
    replay ScimView.apply
        (view.setProfile userId old.attributes)
        ((profileChanges userId old new).map Prod.snd) =
      view.setProfile userId new.attributes := by
  have hNumber :=
    @replay_columnChange view userId _ _ .employeeNumber
      (.employeeNumberChanged userId) old.employeeNumber
      new.employeeNumber old.attributes
      (fun value =>
        { old.attributes with employeeNumber := value })
      rfl (ScimView.modifyProfile_setProfile _ _)
  have hDepartment :=
    @replay_columnChange view userId _ _ .department
      (.departmentChanged userId) old.department
      new.department
      { old.attributes with
        employeeNumber := new.employeeNumber }
      (fun value =>
        { old.attributes with
          employeeNumber := new.employeeNumber
          department := value })
      rfl (ScimView.modifyProfile_setProfile _ _)
  have hDivision :=
    @replay_columnChange view userId _ _ .division
      (.divisionChanged userId) old.division new.division
      { old.attributes with
        employeeNumber := new.employeeNumber
        department := new.department }
      (fun value =>
        { old.attributes with
          employeeNumber := new.employeeNumber
          department := new.department
          division := value })
      rfl (ScimView.modifyProfile_setProfile _ _)
  have hOrganization :=
    @replay_columnChange view userId _ _ .organization
      (.organizationChanged userId) old.organization
      new.organization
      { old.attributes with
        employeeNumber := new.employeeNumber
        department := new.department
        division := new.division }
      (fun value =>
        { old.attributes with
          employeeNumber := new.employeeNumber
          department := new.department
          division := new.division
          organization := value })
      rfl (ScimView.modifyProfile_setProfile _ _)
  have hCost :=
    @replay_columnChange view userId _ _ .costCenter
      (.costCenterChanged userId) old.costCenter
      new.costCenter
      { new.attributes with
        costCenter := old.costCenter
        managerId := old.managerId }
      (fun value =>
        { new.attributes with
          costCenter := value
          managerId := old.managerId })
      rfl (ScimView.modifyProfile_setProfile _ _)
  have hManager :=
    @replay_columnChange view userId _ _ .manager
      (.managerChanged userId) old.managerId new.managerId
      { new.attributes with managerId := old.managerId }
      (fun value =>
        { new.attributes with managerId := value })
      rfl (ScimView.modifyProfile_setProfile _ _)
  unfold profileChanges
  simp only [List.map_append, replay_append]
  rw [hNumber, hDepartment, hDivision, hOrganization]
  exact (congrArg (replay ScimView.apply · _) hCost).trans
    hManager

/- The events of a profile that was written. -/
theorem replay_profileEvents
    {old new : EnterpriseUserProfile}
    {created : Bool}
    (hCreated : created = true → old.attributes = {})
    (hKnown :
      created = false →
        view.profiles userId = some old.attributes) :
    replay ScimView.apply view
        (profileEvents userId old new created) =
      view.setProfile userId new.attributes := by
  unfold profileEvents
  rw [replay_cons]
  cases created with
  | true =>
      have hChanges :=
        replay_profileChanges view userId old new
      rw [hCreated rfl] at hChanges
      exact hChanges
  | false =>
      have hChanges :=
        replay_profileChanges view userId old new
      rw [ScimView.setProfile_self (hKnown rfl)] at hChanges
      exact hChanges

end Scim

end AccessIQ

------------------------------------------------------------
-- Views Of Changed Stores
------------------------------------------------------------

namespace AccessIQ

open Foundations Python Scim

namespace Scim

variable {s s' : Store}

/- Every membership belongs to a stored group. -/
def Grounded
    (s : Store) : Prop :=
  ∀ groupId userId,
    userId ∈ s.memberIdsOf groupId →
      s.groups.contains groupId = true

theorem Flushed.scimView
    {row : Group}
    {memberIds : List Int}
    (hFlushed : Flushed s row memberIds s') :
    s'.scimView =
      s.scimView.setGroup row.id
        ⟨row.displayName, memberIds.toFinset⟩ := by
  have hMembers : ∀ groupId,
      (s'.memberIdsOf groupId).toFinset =
        if groupId = row.id then
          memberIds.toFinset
        else
          (s.memberIdsOf groupId).toFinset := by
    intro groupId
    ext userId
    rw [List.mem_toFinset, hFlushed.members]
    by_cases hGroup : groupId = row.id
    · rw [if_pos hGroup, if_pos hGroup, List.mem_toFinset]
    · rw [if_neg hGroup, if_neg hGroup, List.mem_toFinset]
  have hProfiles :
      s'.enterpriseUserProfiles =
        s.enterpriseUserProfiles := by
    rw [hFlushed.eq]
  apply ScimView.ext
  · funext groupId
    unfold Store.scimView ScimView.setGroup Store.groupView
    have hGet :
        s'.groups.get? groupId =
          if groupId = row.id then
            some row
          else
            s.groups.get? groupId :=
      hFlushed.groups.get? groupId
    simp only
    rw [hMembers, hGet]
    by_cases hGroup : groupId = row.id
    · subst hGroup
      rw [if_pos rfl, if_pos rfl, Function.update_self]
      rfl
    · rw [if_neg hGroup, if_neg hGroup,
        Function.update_of_ne hGroup]
  · funext userId
    unfold Store.scimView ScimView.setGroup
      Store.enterpriseProfileOf
    rw [hProfiles]

theorem Flushed.grounded
    {row : Group}
    {memberIds : List Int}
    (hFlushed : Flushed s row memberIds s')
    (hGrounded : Grounded s) :
    Grounded s' := by
  intro groupId userId hMember
  apply (hFlushed.groups.contains_iff groupId).mpr
  rw [hFlushed.members] at hMember
  by_cases hGroup : groupId = row.id
  · exact Or.inl hGroup
  · rw [if_neg hGroup] at hMember
    exact Or.inr (hGrounded groupId userId hMember)

/- A new group has no membership yet. -/
theorem Grounded.membershipsOf_createdGroup
    {ctx : RequestContext}
    {displayName : String}
    (hGrounded : Grounded s) :
    s.membershipsOf (createdGroup ctx s displayName).id =
      [] := by
  rw [List.eq_nil_iff_forall_not_mem]
  intro row hRow
  have hMember :
      row.userId ∈
        s.memberIdsOf (createdGroup ctx s displayName).id :=
    List.mem_map.mpr ⟨row, hRow, rfl⟩
  have hContains := hGrounded _ _ hMember
  have hFresh :
      s.groups.get? (createdGroup ctx s displayName).id =
        none :=
    s.groups.get?_freshId s.dialect.keyPolicy
  unfold Table.contains at hContains
  rw [hFresh] at hContains
  cases hContains

variable [Platform]
variable {ctx : RequestContext}

/- The events of a change rebuild the group. -/
theorem GroupChange.replay
    {groupId : Int}
    {events : List EventKind}
    (hGrounded : Grounded s)
    (hChange : GroupChange ctx s groupId events s') :
    Foundations.replay ScimView.apply s.scimView events =
      s'.scimView := by
  cases hChange with
  | created displayName memberIds _ hFree hLists hFlushed
      hEq =>
      have hNew := hFlushed hGrounded.membershipsOf_createdGroup
      rw [hNew.scimView]
      unfold createdEvents
      by_cases hEmpty : memberIds = []
      · subst hEmpty
        rw [if_pos rfl]
        rfl
      · rw [if_neg hEmpty]
        simp [ScimView.apply, createdGroup, newGroup]
  | changed group changed _ _ hGet hSteps hFlushed =>
      have hTracks := tracks_loadGroup hGet
      have hId := (hSteps.tracks hTracks).2
      have hView :
          s.scimView.groups group.id =
            some
              (LoadedGroup.view
                (loadGroup group
                  (s.membershipsOf group.id))) := by
        unfold Store.scimView Store.groupView
          LoadedGroup.view
        simp only
        rw [hGet]
        exact congrArg
          (fun memberIds : List Int =>
            some
              (GroupView.mk group.displayName
                memberIds.toFinset))
          memberIds_loaded.symm
      have hReplay :=
        @GroupSteps.replay s _ _ _ s.scimView _ hSteps hTracks
      rw [id_loadGroup, ScimView.setGroup_self hView]
        at hReplay
      rw [hReplay, hFlushed.scimView, LoadedGroup.id_written,
        LoadedGroup.displayName_written, hId]
      rfl

theorem GroupChange.grounded
    {groupId : Int}
    {events : List EventKind}
    (hGrounded : Grounded s)
    (hChange : GroupChange ctx s groupId events s') :
    Grounded s' := by
  cases hChange with
  | created displayName memberIds _ hFree hLists hFlushed
      hEq =>
      exact
        (hFlushed hGrounded.membershipsOf_createdGroup).grounded
          hGrounded
  | changed group changed _ _ hGet hSteps hFlushed =>
      exact hFlushed.grounded hGrounded

end Scim

end AccessIQ

------------------------------------------------------------
-- Views Of Changed Profiles
------------------------------------------------------------

namespace AccessIQ

open Foundations Python Scim

namespace Scim

variable {s s' : Store}

/- A view shows groups, memberships and profiles only. -/
theorem scimView_congr
    (hGroups : s'.groups = s.groups)
    (hMembers : s'.groupMembers = s.groupMembers)
    (hProfiles :
      s'.enterpriseUserProfiles = s.enterpriseUserProfiles) :
    s'.scimView = s.scimView := by
  unfold Store.scimView Store.groupView Store.memberIdsOf
    Store.membershipsOf Store.enterpriseProfileOf
  rw [hGroups, hMembers, hProfiles]

theorem grounded_congr
    (hGroups : s'.groups = s.groups)
    (hMembers : s'.groupMembers = s.groupMembers)
    (hGrounded : Grounded s) :
    Grounded s' := by
  unfold Grounded Store.memberIdsOf Store.membershipsOf at *
  rw [hGroups, hMembers]
  exact hGrounded

variable [Platform]
variable {ctx : RequestContext}
variable {user : User}
variable {desired : EnterpriseProfileMutation}
variable {events : List EventKind}

/- The events of a profile step rebuild the profile. -/
theorem ProfileStep.replay
    {changes : List EnterpriseProfileChange}
    (hStep : ProfileStep ctx s user desired changes events s') :
    Foundations.replay ScimView.apply s.scimView events =
      s'.scimView := by
  cases hStep with
  | unset => rfl
  | absent => rfl
  | same => rfl
  | written profile users' profiles' change changes created
      hCreated hProfile hChecked hUsers hProfiles =>
      have hWritten :=
        @enterpriseProfileOf_written ctx s user desired profile
          users' profiles' hProfile hProfiles
      have hNew : created = true → profile.attributes = {} := by
        intro hTrue
        rcases hProfile with hFound | ⟨-, rfl⟩
        · rw [hCreated, hFound] at hTrue
          cases hTrue
        · rfl
      have hKnown :
          created = false →
            s.scimView.profiles user.id =
              some profile.attributes := by
        intro hFalse
        rcases hProfile with hFound | ⟨hAbsent, -⟩
        · exact congrArg
            (Option.map EnterpriseUserProfile.attributes)
            hFound
        · rw [hCreated, hAbsent] at hFalse
          cases hFalse
      rw [replay_profileEvents hNew hKnown]
      apply ScimView.ext
      · rfl
      · funext userId
        unfold ScimView.setProfile Store.scimView
        simp only
        rw [hWritten]
        by_cases hUser : userId = user.id
        · subst hUser
          rw [Function.update_self, if_pos rfl]
          rfl
        · rw [Function.update_of_ne hUser, if_neg hUser]

theorem UserStep.replay
    (hStep : UserStep ctx s user desired events s') :
    Foundations.replay ScimView.apply s.scimView events =
      s'.scimView := by
  cases hStep with
  | stored users' changes events s₂ auditEvents' hUsers
      hProfile => exact hProfile.replay

theorem UserStep.grounded
    (hStep : UserStep ctx s user desired events s')
    (hGrounded : Grounded s) :
    Grounded s' := by
  apply grounded_congr _ _ hGrounded
  · rw [hStep.eq]
  · rw [hStep.eq]

end Scim

end AccessIQ

------------------------------------------------------------
-- Runs
------------------------------------------------------------

namespace AccessIQ

open Foundations Python Scim

namespace Scim

variable {s s' : Store}

/- A store without groups, memberships and profiles. -/
structure NoScimData
    (s : Store) : Prop where
  groups : s.groups.rows = []
  members : s.groupMembers.rows = []
  profiles : s.enterpriseUserProfiles.rows = []

theorem NoScimData.scimView
    (hNone : NoScimData s) :
    s.scimView = .empty := by
  apply ScimView.ext
  · funext groupId
    have hGet : s.groups.get? groupId = none := by
      rw [Table.get?_eq_none_iff, hNone.groups]
      exact nofun
    unfold Store.scimView Store.groupView
    simp only [hGet]
    rfl
  · funext userId
    unfold Store.scimView Store.enterpriseProfileOf
    rw [hNone.profiles]
    rfl

theorem NoScimData.grounded
    (hNone : NoScimData s) :
    Grounded s := by
  intro groupId userId hMember
  unfold Store.memberIdsOf Store.membershipsOf at hMember
  rw [hNone.members] at hMember
  cases hMember

variable [Platform]
variable {events : List DomainEvent}

theorem ScimEffect.grounded
    (hEffect : ScimEffect s events s')
    (hGrounded : Grounded s) :
    Grounded s' := by
  cases hEffect with
  | none => exact hGrounded
  | denied => exact grounded_congr rfl rfl hGrounded
  | user ctx userId events s' hMutated =>
      cases hMutated with
      | created _ _ _ _ _ _ _ _ hStep =>
          exact hStep.grounded hGrounded
      | changed _ _ _ _ _ _ _ _ hStep =>
          exact hStep.grounded hGrounded
  | group ctx groupId events s' hMutated =>
      cases hMutated with
      | mutated events s' auditEvents' hChange =>
          have hNext := hChange.grounded hGrounded
          exact @grounded_congr s' _ rfl rfl hNext

/- What a request published takes the view along. -/
theorem replay_effect
    (hGrounded : Grounded s)
    (hEffect : ScimEffect s events s') :
    replay ScimView.observe s.scimView events =
      s'.scimView := by
  cases hEffect with
  | none => rfl
  | denied => exact (scimView_congr rfl rfl rfl).symm
  | user ctx userId events s' hMutated =>
      cases hMutated with
      | created _ _ _ _ _ _ _ _ hStep =>
          rw [ScimView.replay_eventsAt, replay_cons]
          exact hStep.replay
      | changed _ _ _ _ _ _ _ _ hStep =>
          rw [ScimView.replay_eventsAt]
          exact hStep.replay
  | group ctx groupId events s' hMutated =>
      cases hMutated with
      | mutated events s' auditEvents' hChange =>
          rw [ScimView.replay_eventsAt,
            hChange.replay hGrounded]
          exact (scimView_congr rfl rfl rfl).symm

/- A request, and the environment it is served in. -/
def serveScim
    (s : Store)
    (request : ScimRequest × Environment) :
    Store × List DomainEvent :=
  (request.1.committed request.2 s,
    request.1.published request.2 s)

/-
  Replaying everything a run has published over an empty view
  gives the groups and the profiles of the store it ends in.
-/
theorem events_replay_to_state
    {s : Store}
    (hNone : NoScimData s)
    (requests : List (ScimRequest × Environment)) :
    replay ScimView.observe .empty
        (serveAll (logged serveScim) (s, []) requests).2 =
      (serveAll (logged serveScim) (s, [])
        requests).1.scimView := by
  rw [← hNone.scimView]
  apply @replay_log _ _ _ _ serveScim _ _ Grounded
  · intro s request hGrounded
    exact (scimEffect request.2 s request.1).grounded
      hGrounded
  · intro s request hGrounded
    exact replay_effect hGrounded
      (scimEffect request.2 s request.1)
  · exact hNone.grounded

end Scim

end AccessIQ

------------------------------------------------------------
-- A Run
------------------------------------------------------------

namespace AccessIQ

open Foundations Python Scim

namespace Scim

attribute [local instance] asciiPlatform

def scimContext : RequestContext where
  correlationId := "request-1"
  now := 0
  subject := 4

/-
  A group is created, renamed and given another member; a
  user is created with a profile that a PUT then clears.
-/
def seededRequests : List (ScimRequest × Environment) :=
  [(.group
      ⟨scimContext, "",
        .create
          (.object
            [("displayName", .string "Sales"),
              ("members",
                .array [.object [("value", .string "1")]])])⟩,
      steadyEnvironment),
    (.group
      ⟨scimContext, "",
        .patch "1"
          (.object
            [("Operations",
              .array
                [.object
                  [("op", .string "replace"),
                    ("path", .string "displayName"),
                    ("value", .string "Field Sales")],
                  .object
                    [("op", .string "add"),
                      ("path", .string "members"),
                      ("value",
                        .array
                          [.object
                            [("value", .string "2")]])]])])⟩,
      steadyEnvironment),
    (.user
      ⟨scimContext, "",
        .create
          (.object
            [("userName", .string "eve@example.com"),
              ("displayName", .string "Eve"),
              (scimSchemaEnterpriseUser,
                .object
                  [("department", .string "Sales"),
                    ("manager", .string "6")])])⟩,
      steadyEnvironment),
    (.user
      ⟨scimContext, "",
        .patch "7"
          (.object
            [("Operations",
              .array
                [.object
                  [("op", .string "remove"),
                    ("path", .string "department")]])])⟩,
      steadyEnvironment)]

/- A run from the seeded store. -/
theorem events_replay_to_state_seeded :
    let final :=
      serveAll (logged serveScim) (seededStore .sqlite, [])
        seededRequests
    final.1.scimView.groups 1 =
        some ⟨"Field Sales", {1, 2}⟩ ∧
      final.1.scimView.profiles 7 =
        some { managerId := some 6 } ∧
      replay ScimView.observe .empty final.2 =
        final.1.scimView := by
  refine ⟨?_, ?_, ?_⟩
  · decide +kernel
  · decide +kernel
  · exact events_replay_to_state ⟨rfl, rfl, rfl⟩
      seededRequests

end Scim

end AccessIQ
