import AccessIQ.Scim.GroupRules

/-
  What a client sees of a change of a group.

  A change ends with an exception, or with the name and the
  members that the group then has.  While the database does
  not fail by itself, this result is determined by what the
  operations read and by whether the flush is accepted.

  Key definitions include:
    * `GroupView`
    * `groupResult`
    * `LoadedGroup.Writes`
    * `MembersAccepted`
    * `RenameRefused`

  Key theorems include:
    * `patchGroup_result_of_error`
    * `patchGroup_result_of_ok`
    * `patchGroup_result_of_refused`
    * `members_accepted`
    * `members_refused`
-/

------------------------------------------------------------
-- Views
------------------------------------------------------------

namespace AccessIQ

open Foundations Python Scim

namespace Scim

/- The name of a group and the set of its members. -/
@[ext] structure GroupView where
  displayName : String
  members : Finset Int
  deriving DecidableEq

end Scim

namespace Store

/- A stored group. -/
def groupView
    (s : Store)
    (groupId : Int) :
    Option GroupView :=
  (s.groups.get? groupId).map fun group =>
    ⟨group.displayName, (s.memberIdsOf groupId).toFinset⟩

end Store

namespace Scim

/- A group as a session holds it. -/
def LoadedGroup.view
    (group : LoadedGroup) :
    GroupView :=
  ⟨group.displayName, group.memberIds.toFinset⟩

variable {s s' : Store}
variable {ctx : RequestContext}
variable {group : LoadedGroup}

theorem Flushed.groupView
    (hFlushed :
      Flushed s (group.written ctx) group.memberIds s') :
    s'.groupView group.id = some group.view := by
  have hGet :
      s'.groups.get? group.id = some (group.written ctx) :=
    (hFlushed.groups.get? group.id).trans
      (if_pos (LoadedGroup.id_written ctx group).symm)
  have hMembers :
      (s'.memberIdsOf group.id).toFinset =
        group.memberIds.toFinset := by
    ext userId
    rw [List.mem_toFinset, List.mem_toFinset,
      hFlushed.members, LoadedGroup.id_written, if_pos rfl]
  unfold Store.groupView LoadedGroup.view
  rw [hGet, hMembers, Option.map_some,
    LoadedGroup.displayName_written]

/- The flush of a group is accepted. -/
structure LoadedGroup.Writes
    (group : LoadedGroup)
    (s : Store) : Prop where
  name :
    group.displayName = group.row.displayName ∨
      NameUnused s group
  members :
    ∀ userId ∈ group.pendingIds,
      userId ∉ s.memberIdsOf group.id

theorem writes_iff
    (hTracks : group.Tracks s) :
    group.Writes s ↔ ∃ s', group.write ctx s = .ok s' := by
  rw [write_isOk_iff hTracks]
  constructor
  · intro hWrites
    exact ⟨hWrites.name, hWrites.members⟩
  · intro hAccepted
    exact ⟨hAccepted.1, hAccepted.2⟩

end Scim

end AccessIQ

------------------------------------------------------------
-- Results
------------------------------------------------------------

namespace AccessIQ

namespace Scim

open Foundations Python

variable {s : Store}
variable {ctx : RequestContext}

/- What is seen of the group that a change returned. -/
def observed
    (result : Except PyException (Int × List DomainEvent))
    (m : Moment Store DomainEvent) :
    Except PyException (Option GroupView) :=
  result.map fun changed => m.working.groupView changed.1

/- A change of a group while the database does not fail. -/
def groupResult
    (body : Handler (Int × List DomainEvent))
    (s : Store) :
    Except PyException (Option GroupView) :=
  let ended := body.run steadyEnvironment ⟨.start s, 0⟩
  observed ended.1 ended.2.toMoment

theorem groupResult_of_wp
    {body : Handler (Int × List DomainEvent)}
    {result : Except PyException (Option GroupView)}
    (hWp :
      body.wp steadyEnvironment.world
        (fun r m => observed r m = result)
        ⟨s, s, false, []⟩) :
    groupResult body s = result :=
  @Program.run_of_wp _ _ _ _ _ _ _ _
    steadyEnvironment.conforms_world body
    (fun r m => observed r m = result) ⟨.start s, 0⟩ hWp

/- A steady flush leaves what the session holds. -/
theorem flushGroup_of_writes
    {group : LoadedGroup}
    {events : List DomainEvent}
    (hTracks : group.Tracks s)
    (hWrites : group.Writes s) :
    (do
        flushGroup ctx group
        return (group.id, events) :
      Handler (Int × List DomainEvent)).wp
      steadyEnvironment.world
      (fun r m => observed r m = .ok (some group.view))
      ⟨s, s, false, []⟩ := by
  rw [Program.wp_bind]
  apply wp_flushGroup
  · intro e hError
    exfalso
    rcases hError with hFail | hWrite
    · exact steadyEnvironment_steady.not_mayFail hFail
    · rcases (@writes_iff s ctx group hTracks).mp hWrites with
        ⟨s', hOk⟩
      rw [hOk] at hWrite
      cases hWrite
  · intro s' hWrite
    rw [Program.bindPost_ok, Program.wp_pure]
    have hFlushed := flushed_of_write hTracks hWrite
    exact congrArg Except.ok hFlushed.groupView

/- A flush that is refused breaks a constraint. -/
theorem flushGroup_of_refused
    {group : LoadedGroup}
    {events : List DomainEvent}
    (hTracks : group.Tracks s)
    (hRefused : ¬ group.Writes s) :
    (do
        flushGroup ctx group
        return (group.id, events) :
      Handler (Int × List DomainEvent)).wp
      steadyEnvironment.world
      (fun r m =>
        observed r m = .error (.database .integrity))
      ⟨s, s, false, []⟩ := by
  rw [Program.wp_bind]
  apply wp_flushGroup
  · intro e hError
    rcases hError with hFail | hWrite
    · exact
        absurd hFail steadyEnvironment_steady.not_mayFail
    · rw [write_error hTracks hWrite]
      rfl
  · intro s' hWrite
    exfalso
    apply hRefused
    exact (@writes_iff s ctx group hTracks).mpr ⟨s', hWrite⟩

end Scim

end AccessIQ

------------------------------------------------------------
-- Results Of Patches
------------------------------------------------------------

namespace AccessIQ

namespace Scim

open Foundations Python

variable [Platform]
variable {s : Store}
variable {ctx : RequestContext}
variable {groupId : String}
variable {group : Group}
variable {operations : List GroupPatchOperation}

/- A stored group as a patch loads it. -/
abbrev loaded
    (s : Store)
    (group : Group) :
    LoadedGroup :=
  loadGroup group (s.membershipsOf group.id)

omit [Platform] in
theorem memberIds_loaded :
    (loaded s group).memberIds = s.memberIdsOf group.id := by
  unfold LoadedGroup.memberIds loaded loadGroup
  rw [List.map_map]
  rfl

theorem patchGroup_result_of_unknown
    (hFind : s.findGroup groupId = none) :
    groupResult (patchGroup ctx groupId operations) s =
      .error (.groupService (.groupNotFound groupId)) := by
  apply groupResult_of_wp
  unfold patchGroup
  rw [Program.wp_bind,
    Program.wp_of_reading (requireGroup_error hFind)]
  rfl

theorem patchGroup_result_of_error
    {e : PyException}
    (hFind : s.findGroup groupId = some group)
    (hReading :
      (forEach applyGroupOperation (loaded s group)
          operations).reading s =
        some (.error e)) :
    groupResult (patchGroup ctx groupId operations) s =
      .error e := by
  apply groupResult_of_wp
  unfold patchGroup
  rw [Program.wp_bind,
    Program.wp_of_reading (requireGroup_ok hFind),
    Program.bindPost_ok, Program.wp_bind,
    Program.wp_of_reading hReading]
  rfl

theorem patchGroup_result_of_ok
    {changed : LoadedGroup}
    {events : List EventKind}
    (hFind : s.findGroup groupId = some group)
    (hReading :
      (forEach applyGroupOperation (loaded s group)
          operations).reading s =
        some (.ok (changed, events)))
    (hWrites : changed.Writes s) :
    groupResult (patchGroup ctx groupId operations) s =
      .ok (some changed.view) := by
  have hLoaded := tracks_loadGroup (get?_of_findGroup hFind)
  have hSteps :=
    steps_forEach
      (fun _ _ _ _ => steps_applyGroupOperation) hReading
  rcases hSteps.tracks hLoaded with ⟨hTracks, hId⟩
  apply groupResult_of_wp
  unfold patchGroup
  rw [Program.wp_bind,
    Program.wp_of_reading (requireGroup_ok hFind),
    Program.bindPost_ok, Program.wp_bind,
    Program.wp_of_reading hReading, Program.bindPost_ok,
    ← hId]
  exact flushGroup_of_writes hTracks hWrites

theorem patchGroup_result_of_refused
    {changed : LoadedGroup}
    {events : List EventKind}
    (hFind : s.findGroup groupId = some group)
    (hReading :
      (forEach applyGroupOperation (loaded s group)
          operations).reading s =
        some (.ok (changed, events)))
    (hRefused : ¬ changed.Writes s) :
    groupResult (patchGroup ctx groupId operations) s =
      .error (.database .integrity) := by
  have hLoaded := tracks_loadGroup (get?_of_findGroup hFind)
  have hSteps :=
    steps_forEach
      (fun _ _ _ _ => steps_applyGroupOperation) hReading
  rcases hSteps.tracks hLoaded with ⟨hTracks, hId⟩
  apply groupResult_of_wp
  unfold patchGroup
  rw [Program.wp_bind,
    Program.wp_of_reading (requireGroup_ok hFind),
    Program.bindPost_ok, Program.wp_bind,
    Program.wp_of_reading hReading, Program.bindPost_ok,
    ← hId]
  exact flushGroup_of_refused hTracks hRefused

end Scim

end AccessIQ

------------------------------------------------------------
-- Members Operations
------------------------------------------------------------

namespace AccessIQ

namespace Scim

open Foundations Python

variable {s : Store}
variable {group : LoadedGroup}
variable {userIds : List Int}

/-
  The users of an add or replace operation exist and are
  listed once; none of them is a member already if they are
  added.
-/
structure MembersAccepted
    (s : Store)
    (op : PatchOp)
    (memberIds userIds : List Int) : Prop where
  lists : ListsUsers s userIds
  fresh : op = .add → ∀ userId ∈ userIds, userId ∉ memberIds

/- The memberships after an add or replace operation. -/
def LoadedGroup.withMembers
    (group : LoadedGroup)
    (op : PatchOp)
    (userIds : List Int) :
    LoadedGroup :=
  { group with
    memberships :=
      (if op = .add then group.memberships else []) ++
        userIds.map .pending }

theorem addMembers_ok
    (hAccepted :
      MembersAccepted s .add group.memberIds userIds) :
    ∃ events,
      (forEach addMember group userIds).reading s =
        some (.ok (group.withMembers .add userIds, events)) := by
  induction userIds generalizing group with
  | nil =>
      refine ⟨[], ?_⟩
      unfold LoadedGroup.withMembers
      rw [if_pos rfl, List.map_nil, List.append_nil]
      rfl
  | cons userId userIds ih =>
      have hNodup := List.nodup_cons.mp hAccepted.lists.nodup
      have hExist :=
        List.forall_mem_cons.mp hAccepted.lists.exist
      have hFresh :=
        List.forall_mem_cons.mp (hAccepted.fresh rfl)
      have hFirst := @reading_addMember s group userId
      rw [if_neg (by rw [hExist.1]; exact Bool.noConfusion),
        if_neg hFresh.1] at hFirst
      have hRest :
          MembersAccepted s .add
            (LoadedGroup.memberIds
              { group with
                memberships :=
                  group.memberships ++ [.pending userId] })
            userIds := by
        refine ⟨⟨hNodup.2, hExist.2⟩, ?_⟩
        intro _ other hOther hMember
        unfold LoadedGroup.memberIds at hMember
        rw [List.map_append, List.mem_append] at hMember
        rcases hMember with hOld | hNew
        · exact hFresh.2 other hOther hOld
        · apply hNodup.1
          have hSame : other = userId :=
            List.mem_singleton.mp hNew
          rw [← hSame]
          exact hOther
      rcases ih hRest with ⟨events, hLater⟩
      refine ⟨.groupMembershipAdded group.id userId :: events,
        ?_⟩
      unfold forEach
      rw [Program.reading_bind_of_ok hFirst,
        Program.reading_bind_of_ok hLater]
      simp [LoadedGroup.withMembers]

theorem addMembers_error
    (hRefused :
      ¬ MembersAccepted s .add group.memberIds userIds) :
    ∃ exc, AboutMember exc ∧
      (forEach addMember group userIds).reading s =
        some (.error exc) := by
  induction userIds generalizing group with
  | nil =>
      exfalso
      apply hRefused
      exact ⟨⟨List.nodup_nil, by simp⟩, by simp⟩
  | cons userId userIds ih =>
      have hFirst := @reading_addMember s group userId
      unfold forEach
      by_cases hUser : s.users.contains userId = false
      · rw [if_pos hUser] at hFirst
        exact ⟨_, ⟨userId, Or.inl rfl⟩,
          Program.reading_bind_of_error hFirst _⟩
      · rw [if_neg hUser] at hFirst
        by_cases hMember : userId ∈ group.memberIds
        · rw [if_pos hMember] at hFirst
          exact ⟨_, ⟨userId, Or.inr rfl⟩,
            Program.reading_bind_of_error hFirst _⟩
        · rw [if_neg hMember] at hFirst
          have hRest :
              ¬ MembersAccepted s .add
                (LoadedGroup.memberIds
                  { group with
                    memberships :=
                      group.memberships ++
                        [.pending userId] })
                userIds := by
            intro hAccepted
            apply hRefused
            have hIds := hAccepted.fresh rfl
            unfold LoadedGroup.memberIds at hIds
            rw [List.map_append] at hIds
            refine ⟨⟨?_, ?_⟩, ?_⟩
            · rw [List.nodup_cons]
              refine ⟨?_, hAccepted.lists.nodup⟩
              intro hAgain
              apply hIds userId hAgain
              simp [Membership.userId]
            · rw [List.forall_mem_cons]
              exact ⟨Bool.not_eq_false _ ▸ hUser,
                hAccepted.lists.exist⟩
            · intro _
              rw [List.forall_mem_cons]
              refine ⟨hMember, ?_⟩
              intro other hOther hOld
              exact hIds other hOther
                (List.mem_append_left _ hOld)
          rcases ih hRest with ⟨exc, hAbout, hLater⟩
          refine ⟨exc, hAbout, ?_⟩
          rw [Program.reading_bind_of_ok hFirst]
          exact Program.reading_bind_of_error hLater _

variable [Platform]
variable {op : PatchOp}

theorem members_accepted
    (hOp : op ≠ .remove)
    (hAccepted :
      MembersAccepted s op group.memberIds userIds) :
    ∃ events,
      (applyGroupOperation group
          (.members op userIds)).reading s =
        some (.ok (group.withMembers op userIds, events)) := by
  cases op with
  | remove => exact absurd rfl hOp
  | add => exact addMembers_ok hAccepted
  | replace =>
      exact ⟨_, replaceMembers_ok hAccepted.lists⟩

theorem members_refused
    (hOp : op ≠ .remove)
    (hRefused :
      ¬ MembersAccepted s op group.memberIds userIds) :
    ∃ exc, AboutMember exc ∧
      (applyGroupOperation group
          (.members op userIds)).reading s =
        some (.error exc) := by
  cases op with
  | remove => exact absurd rfl hOp
  | add => exact addMembers_error hRefused
  | replace =>
      apply replaceMembers_error
      intro hLists
      exact hRefused ⟨hLists, nofun⟩

omit [Platform] in
theorem memberIds_withMembers
    (group : LoadedGroup)
    (op : PatchOp)
    (userIds : List Int) :
    (group.withMembers op userIds).memberIds =
      (if op = .add then group.memberIds else []) ++
        userIds := by
  unfold LoadedGroup.withMembers LoadedGroup.memberIds
  rw [List.map_append, memberIds_pending]
  split
  · rfl
  · rfl

end Scim

end AccessIQ

------------------------------------------------------------
-- Name Operations
------------------------------------------------------------

namespace AccessIQ

namespace Scim

open Foundations Python

variable [Platform]
variable {s : Store}
variable {group : LoadedGroup}
variable {op : PatchOp}
variable {displayName : String}

/- The check for duplicates refuses a new name. -/
def RenameRefused
    (s : Store)
    (group : Group)
    (displayName : String) : Prop :=
  group.displayName ≠ displayName ∧
    ¬ DisplayNameFree s displayName (some group.id)

theorem rename_accepted
    (hOp : op ≠ .remove)
    (hOld : group.displayName = group.row.displayName)
    (hAccepted : ¬ RenameRefused s group.row displayName) :
    ∃ events,
      (applyGroupOperation group
          (.displayName op displayName)).reading s =
        some
          (.ok
            ({ group with displayName := displayName },
              events)) := by
  have hApply :
      applyGroupOperation group
          (.displayName op displayName) =
        renameGroup group displayName :=
    if_neg hOp
  rw [hApply]
  by_cases hSame : group.displayName = displayName
  · subst hSame
    exact ⟨_, renameGroup_same⟩
  · have hFree :
        DisplayNameFree s displayName (some group.id) := by
      by_contra hTaken
      exact hAccepted ⟨hOld ▸ hSame, hTaken⟩
    exact ⟨_, renameGroup_ok hSame hFree⟩

/- A refused rename names the group that has the name. -/
theorem rename_refused
    (hOp : op ≠ .remove)
    (hOld : group.displayName = group.row.displayName)
    (hRefused : RenameRefused s group.row displayName) :
    ∃ found,
      s.findGroupByDisplayName displayName = some found ∧
        (applyGroupOperation group
            (.displayName op displayName)).reading s =
          some
            (.error
              (.groupService
                (.duplicateGroup displayName found))) := by
  have hApply :
      applyGroupOperation group
          (.displayName op displayName) =
        renameGroup group displayName :=
    if_neg hOp
  rw [hApply]
  exact renameGroup_error (hOld ▸ hRefused.1) hRefused.2

end Scim

end AccessIQ
