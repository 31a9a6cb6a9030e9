import AccessIQ.Foundations.Execution
import AccessIQ.Foundations.Reading
import AccessIQ.Scim.Groups

/-
  What the operations of the group service do.

  An operation only reads the store: it either raises or
  takes a few steps that change the group in memory, each of
  which appends the event that tells of it.  A flush that is
  accepted leaves the name and the members the group has in
  memory.

  Key definitions include:
    * `DisplayNameFree`
    * `GroupStep`
    * `GroupSteps`
    * `Store.memberIdsOf`
    * `LoadedGroup.Tracks`
    * `Flushed`

  Key theorems include:
    * `steps_applyGroupOperation`
    * `GroupSteps.tracks`
    * `flushed_of_write`
    * `write_isOk_iff`
-/

------------------------------------------------------------
-- Readings Of The Checks
------------------------------------------------------------

namespace AccessIQ

namespace Scim

open Foundations Python

variable {s : Store}

def unknownMember
    (userId : Int) :
    PyException :=
  .groupService (.unknownGroupMember (toString userId))

def duplicateMember
    (userId : Int) :
    PyException :=
  .groupService (.duplicateGroupMember (toString userId))

/- An exception about a user in a list of members. -/
def AboutMember
    (exc : PyException) : Prop :=
  ∃ userId,
    exc = unknownMember userId ∨ exc = duplicateMember userId

/- A list of users, each of them once. -/
structure ListsUsers
    (s : Store)
    (userIds : List Int) : Prop where
  nodup : userIds.Nodup
  exist : ∀ userId ∈ userIds, s.users.contains userId = true

theorem firstRepeated_eq_none_iff
    {seen userIds : List Int} :
    firstRepeated seen userIds = none ↔
      userIds.Nodup ∧ ∀ userId ∈ userIds, userId ∉ seen := by
  induction userIds generalizing seen with
  | nil => simp [firstRepeated]
  | cons userId userIds ih =>
      unfold firstRepeated
      rw [List.nodup_cons, List.forall_mem_cons]
      by_cases hSeen : userId ∈ seen
      · rw [if_pos hSeen]
        simp [hSeen]
      · rw [if_neg hSeen, ih]
        constructor
        · rintro ⟨hNodup, hFresh⟩
          refine ⟨⟨?_, hNodup⟩, hSeen, ?_⟩
          · intro hMem
            exact hFresh userId hMem List.mem_cons_self
          · intro other hOther hOld
            exact hFresh other hOther
              (List.mem_cons_of_mem _ hOld)
        · rintro ⟨⟨hNotMem, hNodup⟩, -, hFresh⟩
          refine ⟨hNodup, ?_⟩
          intro other hOther hMem
          rcases List.mem_cons.mp hMem with rfl | hOld
          · exact hNotMem hOther
          · exact hFresh other hOther hOld

theorem reading_requireMember
    (userId : Int) :
    (requireMember userId).reading s =
      some
        (if s.users.contains userId = false then
          .error (unknownMember userId)
        else
          .ok ()) := by
  simp [requireMember, unknownMember]

theorem requireDistinctUsers_ok
    {userIds : List Int}
    (hLists : ListsUsers s userIds) :
    (requireDistinctUsers userIds).reading s =
      some (.ok ()) := by
  have hFirst : firstRepeated [] userIds = none :=
    firstRepeated_eq_none_iff.mpr
      ⟨hLists.nodup, fun _ _ => List.not_mem_nil⟩
  have hFind :
      (userIds.find? fun userId =>
        !s.users.contains userId) = none := by
    rw [List.find?_eq_none]
    intro userId hMem
    simp [hLists.exist userId hMem]
  unfold requireDistinctUsers
  rw [hFirst]
  by_cases hEmpty : userIds = []
  · simp [hEmpty]
  · simp [hEmpty, hFind]

theorem requireDistinctUsers_error
    {userIds : List Int}
    (hLists : ¬ ListsUsers s userIds) :
    ∃ exc, AboutMember exc ∧
      (requireDistinctUsers userIds).reading s =
        some (.error exc) := by
  unfold requireDistinctUsers
  cases hFirst : firstRepeated [] userIds with
  | some userId =>
      exact ⟨duplicateMember userId, ⟨userId, Or.inr rfl⟩, rfl⟩
  | none =>
      have hNodup := (firstRepeated_eq_none_iff.mp hFirst).1
      by_cases hEmpty : userIds = []
      · exfalso
        apply hLists
        rw [hEmpty]
        exact ⟨List.nodup_nil, by simp⟩
      · cases hFind :
            userIds.find? fun userId =>
              !s.users.contains userId with
        | some userId =>
            refine ⟨unknownMember userId,
              ⟨userId, Or.inl rfl⟩, ?_⟩
            simp [hEmpty, hFind, unknownMember]
        | none =>
            exfalso
            apply hLists
            refine ⟨hNodup, ?_⟩
            intro userId hMem
            simpa using List.find?_eq_none.mp hFind userId hMem

variable [Platform]

/-
  No group is found under the display name, unless it is the
  group itself.
-/
def DisplayNameFree
    (s : Store)
    (displayName : String)
    (currentGroup : Option Int) : Prop :=
  ∀ found,
    s.findGroupByDisplayName displayName = some found →
      currentGroup = some found.id

theorem checkDuplicateGroup_ok
    {displayName : String}
    {currentGroup : Option Int}
    (hFree : DisplayNameFree s displayName currentGroup) :
    (checkDuplicateGroup displayName currentGroup).reading s =
      some (.ok ()) := by
  unfold checkDuplicateGroup
  cases hFind : s.findGroupByDisplayName displayName with
  | none => simp [hFind]
  | some found => simp [hFind, hFree found hFind]

theorem checkDuplicateGroup_error
    {displayName : String}
    {currentGroup : Option Int}
    (hTaken : ¬ DisplayNameFree s displayName currentGroup) :
    ∃ found,
      s.findGroupByDisplayName displayName = some found ∧
      (checkDuplicateGroup displayName currentGroup).reading
          s =
        some
          (.error
            (.groupService
              (.duplicateGroup displayName found))) := by
  unfold DisplayNameFree at hTaken
  push Not at hTaken
  rcases hTaken with ⟨found, hFind, hOther⟩
  refine ⟨found, hFind, ?_⟩
  unfold checkDuplicateGroup
  simp [hFind, hOther]

end Scim

end AccessIQ

------------------------------------------------------------
-- Steps
------------------------------------------------------------

namespace AccessIQ

namespace Scim

open Foundations Python

variable [Platform]

/-
  One change of a group in memory, with the events that tell
  of it.
-/
inductive GroupStep
    (s : Store)
    (group : LoadedGroup) :
    LoadedGroup → List EventKind → Prop
  | renamed
      (displayName : String)
      (hFree : DisplayNameFree s displayName (some group.id)) :
      GroupStep s group
        { group with displayName := displayName }
        (if group.displayName = displayName then
          []
        else
          [.groupUpdated group.id displayName])
  | added
      (userId : Int)
      (hUser : s.users.contains userId = true)
      (hNew : userId ∉ group.memberIds) :
      GroupStep s group
        { group with
          memberships :=
            group.memberships ++ [.pending userId] }
        [.groupMembershipAdded group.id userId]
  | removed
      (userId : Int)
      (hUser : s.users.contains userId = true)
      (hMember : userId ∈ group.memberIds) :
      GroupStep s group
        { group with
          memberships :=
            group.memberships.eraseP (·.userId == userId) }
        [.groupMembershipRemoved group.id userId]
  | replaced
      (userIds : List Int)
      (hLists : ListsUsers s userIds) :
      GroupStep s group
        { group with memberships := userIds.map .pending }
        [.groupMembershipReplaced group.id userIds]

/- Changes one after another. -/
inductive GroupSteps
    (s : Store) :
    LoadedGroup → LoadedGroup → List EventKind → Prop
  | refl (group : LoadedGroup) : GroupSteps s group group []
  | cons
      {group group' changed : LoadedGroup}
      {events laterEvents : List EventKind}
      (hStep : GroupStep s group group' events)
      (hSteps : GroupSteps s group' changed laterEvents) :
      GroupSteps s group changed (events ++ laterEvents)

variable {s : Store}
variable {group group' changed : LoadedGroup}
variable {events laterEvents : List EventKind}

theorem GroupSteps.of_step
    (hStep : GroupStep s group changed events) :
    GroupSteps s group changed events := by
  have hSteps := GroupSteps.cons hStep (.refl changed)
  rw [List.append_nil] at hSteps
  exact hSteps

theorem GroupSteps.trans
    (hFirst : GroupSteps s group group' events)
    (hSecond : GroupSteps s group' changed laterEvents) :
    GroupSteps s group changed (events ++ laterEvents) := by
  induction hFirst with
  | refl => exact hSecond
  | cons hStep _ ih =>
      rw [List.append_assoc]
      exact .cons hStep (ih hSecond)

end Scim

end AccessIQ

------------------------------------------------------------
-- Readings Of The Operations
------------------------------------------------------------

namespace AccessIQ

namespace Scim

open Foundations Python

variable {s : Store}
variable {group changed : LoadedGroup}
variable {events : List EventKind}

theorem reading_addMember
    (group : LoadedGroup)
    (userId : Int) :
    (addMember group userId).reading s =
      some
        (if s.users.contains userId = false then
          .error (unknownMember userId)
        else if userId ∈ group.memberIds then
          .error (duplicateMember userId)
        else
          .ok
            ({ group with
                memberships :=
                  group.memberships ++ [.pending userId] },
              [.groupMembershipAdded group.id userId])) := by
  unfold addMember
  rw [Program.reading_bind, reading_requireMember]
  by_cases hUser : s.users.contains userId = false
  · simp [hUser]
  · by_cases hMember : userId ∈ group.memberIds
    · simp [hUser, hMember, duplicateMember]
    · simp [hUser, hMember]

theorem reading_removeMember
    (group : LoadedGroup)
    (userId : Int) :
    (removeMember group userId).reading s =
      some
        (if s.users.contains userId = false then
          .error (unknownMember userId)
        else if userId ∉ group.memberIds then
          .error (unknownMember userId)
        else
          .ok
            ({ group with
                memberships :=
                  group.memberships.eraseP
                    (·.userId == userId) },
              [.groupMembershipRemoved group.id userId])) := by
  unfold removeMember
  rw [Program.reading_bind, reading_requireMember]
  by_cases hUser : s.users.contains userId = false
  · simp [hUser]
  · by_cases hMember : userId ∈ group.memberIds
    · simp [hUser, hMember]
    · simp [hUser, hMember, unknownMember]

theorem replaceMembers_ok
    {userIds : List Int}
    (hLists : ListsUsers s userIds) :
    (replaceMembers group userIds).reading s =
      some
        (.ok
          ({ group with memberships := userIds.map .pending },
            [.groupMembershipReplaced group.id userIds])) := by
  unfold replaceMembers
  rw [Program.reading_bind, requireDistinctUsers_ok hLists]
  rfl

theorem replaceMembers_error
    {userIds : List Int}
    (hLists : ¬ ListsUsers s userIds) :
    ∃ exc, AboutMember exc ∧
      (replaceMembers group userIds).reading s =
        some (.error exc) := by
  rcases requireDistinctUsers_error hLists with
    ⟨exc, hAbout, hReading⟩
  refine ⟨exc, hAbout, ?_⟩
  unfold replaceMembers
  rw [Program.reading_bind, hReading]
  rfl

variable [Platform]

theorem renameGroup_same :
    (renameGroup group group.displayName).reading s =
      some (.ok (group, [])) := by
  unfold renameGroup
  rw [if_pos rfl]
  rfl

theorem renameGroup_ok
    {displayName : String}
    (hNe : group.displayName ≠ displayName)
    (hFree : DisplayNameFree s displayName (some group.id)) :
    (renameGroup group displayName).reading s =
      some
        (.ok
          ({ group with displayName := displayName },
            [.groupUpdated group.id displayName])) := by
  unfold renameGroup
  rw [if_neg hNe, Program.reading_bind,
    checkDuplicateGroup_ok hFree]
  rfl

theorem renameGroup_error
    {displayName : String}
    (hNe : group.displayName ≠ displayName)
    (hTaken :
      ¬ DisplayNameFree s displayName (some group.id)) :
    ∃ found,
      s.findGroupByDisplayName displayName = some found ∧
      (renameGroup group displayName).reading s =
        some
          (.error
            (.groupService
              (.duplicateGroup displayName found))) := by
  rcases checkDuplicateGroup_error hTaken with
    ⟨found, hFind, hReading⟩
  refine ⟨found, hFind, ?_⟩
  unfold renameGroup
  rw [if_neg hNe, Program.reading_bind, hReading]
  rfl

omit [Platform] in
/- A list of operations reads if each operation does. -/
theorem reads_forEach
    {β : Type}
    {step :
      LoadedGroup → β →
        Handler (LoadedGroup × List EventKind)}
    (hStep :
      ∀ group b, ∃ r, (step group b).reading s = some r)
    (group : LoadedGroup)
    (bs : List β) :
    ∃ r, (forEach step group bs).reading s = some r := by
  induction bs generalizing group with
  | nil => exact ⟨_, rfl⟩
  | cons b bs ih =>
      unfold forEach
      apply Program.reads_bind (hStep group b)
      rintro ⟨group', events⟩
      apply Program.reads_bind (ih group')
      intro later
      exact ⟨_, rfl⟩

/- Steps of a list of arguments come from those of each. -/
theorem steps_forEach
    {β : Type}
    {step :
      LoadedGroup → β →
        Handler (LoadedGroup × List EventKind)}
    (hStep :
      ∀ group b changed events,
        (step group b).reading s =
            some (.ok (changed, events)) →
          GroupSteps s group changed events)
    {bs : List β}
    (hReading :
      (forEach step group bs).reading s =
        some (.ok (changed, events))) :
    GroupSteps s group changed events := by
  induction bs generalizing group changed events with
  | nil =>
      cases hReading
      exact .refl group
  | cons b bs ih =>
      unfold forEach at hReading
      rcases Program.reading_bind_eq_ok hReading with
        ⟨⟨group', firstEvents⟩, hFirst, hRest⟩
      rcases Program.reading_bind_eq_ok hRest with
        ⟨⟨later, laterEvents⟩, hLater, hDone⟩
      cases hDone
      exact
        (hStep group b group' firstEvents hFirst).trans
          (ih hLater)

theorem reads_renameGroup
    (group : LoadedGroup)
    (displayName : String) :
    ∃ r,
      (renameGroup group displayName).reading s = some r := by
  by_cases hSame : group.displayName = displayName
  · rw [← hSame]
    exact ⟨_, renameGroup_same⟩
  · by_cases hFree :
      DisplayNameFree s displayName (some group.id)
    · exact ⟨_, renameGroup_ok hSame hFree⟩
    · rcases renameGroup_error hSame hFree with
        ⟨found, -, hReading⟩
      exact ⟨_, hReading⟩

/- Every operation of a patch only reads. -/
theorem reads_applyGroupOperation
    (group : LoadedGroup)
    (operation : GroupPatchOperation) :
    ∃ r,
      (applyGroupOperation group operation).reading s =
        some r := by
  cases operation with
  | displayName op value =>
      cases op with
      | add => exact reads_renameGroup group value
      | replace => exact reads_renameGroup group value
      | remove => exact ⟨_, rfl⟩
  | members op value =>
      cases op with
      | add =>
          exact
            reads_forEach
              (fun group userId =>
                ⟨_, reading_addMember group userId⟩)
              group value
      | remove =>
          exact
            reads_forEach
              (fun group userId =>
                ⟨_, reading_removeMember group userId⟩)
              group value
      | replace =>
          by_cases hLists : ListsUsers s value
          · exact ⟨_, replaceMembers_ok hLists⟩
          · rcases replaceMembers_error hLists with
              ⟨exc, -, hReading⟩
            exact ⟨_, hReading⟩

theorem steps_addMember
    {userId : Int}
    (hReading :
      (addMember group userId).reading s =
        some (.ok (changed, events))) :
    GroupSteps s group changed events := by
  rw [reading_addMember] at hReading
  by_cases hUser : s.users.contains userId = false
  · simp [hUser] at hReading
  · by_cases hMember : userId ∈ group.memberIds
    · simp [hUser, hMember] at hReading
    · rw [if_neg hUser, if_neg hMember] at hReading
      cases hReading
      apply GroupSteps.of_step
      exact .added userId (Bool.not_eq_false _ ▸ hUser) hMember

theorem steps_removeMember
    {userId : Int}
    (hReading :
      (removeMember group userId).reading s =
        some (.ok (changed, events))) :
    GroupSteps s group changed events := by
  rw [reading_removeMember] at hReading
  by_cases hUser : s.users.contains userId = false
  · simp [hUser] at hReading
  · by_cases hMember : userId ∈ group.memberIds
    · rw [if_neg hUser, if_neg (not_not.mpr hMember)]
        at hReading
      cases hReading
      apply GroupSteps.of_step
      exact
        .removed userId (Bool.not_eq_false _ ▸ hUser) hMember
    · simp [hUser, hMember] at hReading

theorem steps_renameGroup
    {displayName : String}
    (hReading :
      (renameGroup group displayName).reading s =
        some (.ok (changed, events))) :
    GroupSteps s group changed events := by
  by_cases hSame : group.displayName = displayName
  · subst hSame
    rw [renameGroup_same] at hReading
    cases hReading
    exact .refl group
  · by_cases hFree :
      DisplayNameFree s displayName (some group.id)
    · rw [renameGroup_ok hSame hFree] at hReading
      cases hReading
      have hStep := GroupStep.renamed displayName hFree
      rw [if_neg hSame] at hStep
      exact .of_step hStep
    · rcases renameGroup_error hSame hFree with
        ⟨found, -, hError⟩
      rw [hError] at hReading
      cases hReading

/- The operations of a patch take steps. -/
theorem steps_applyGroupOperation
    {operation : GroupPatchOperation}
    (hReading :
      (applyGroupOperation group operation).reading s =
        some (.ok (changed, events))) :
    GroupSteps s group changed events := by
  cases operation with
  | displayName op value =>
      cases op with
      | add => exact steps_renameGroup hReading
      | replace => exact steps_renameGroup hReading
      | remove => cases hReading
  | members op value =>
      cases op with
      | add =>
          apply steps_forEach _ hReading
          intro group userId changed events
          exact steps_addMember
      | remove =>
          apply steps_forEach _ hReading
          intro group userId changed events
          exact steps_removeMember
      | replace =>
          by_cases hLists : ListsUsers s value
          · change (replaceMembers group value).reading s = _
              at hReading
            rw [replaceMembers_ok hLists] at hReading
            cases hReading
            exact .of_step (.replaced value hLists)
          · rcases @replaceMembers_error s group value hLists
              with ⟨exc, -, hError⟩
            cases hReading.symm.trans hError

end Scim

end AccessIQ

------------------------------------------------------------
-- Members
------------------------------------------------------------

namespace AccessIQ

open Foundations Python Scim

namespace Store

variable {s : Store}

/- The users whose membership of a group is stored. -/
def memberIdsOf
    (s : Store)
    (groupId : Int) :
    List Int :=
  (s.membershipsOf groupId).map (·.userId)

theorem mem_membershipsOf
    {groupId : Int}
    {row : GroupMember} :
    row ∈ s.membershipsOf groupId ↔
      row ∈ s.groupMembers.rows ∧ row.groupId = groupId := by
  simp [membershipsOf]

theorem mem_memberIdsOf
    {groupId userId : Int} :
    userId ∈ s.memberIdsOf groupId ↔
      ∃ row ∈ s.groupMembers.rows,
        row.groupId = groupId ∧ row.userId = userId := by
  unfold memberIdsOf
  rw [List.mem_map]
  constructor
  · rintro ⟨row, hRow, hUser⟩
    rcases mem_membershipsOf.mp hRow with ⟨hMem, hGroup⟩
    exact ⟨row, hMem, hGroup, hUser⟩
  · rintro ⟨row, hMem, hGroup, hUser⟩
    exact ⟨row, mem_membershipsOf.mpr ⟨hMem, hGroup⟩, hUser⟩

/- A user is a member of a group at most once. -/
theorem nodup_memberIdsOf
    (s : Store)
    (groupId : Int) :
    (s.memberIdsOf groupId).Nodup := by
  unfold memberIdsOf membershipsOf List.Nodup
  rw [List.pairwise_map, List.pairwise_filter]
  apply s.groupMembers.unique.imp
  intro a b hApart hA hB hUser
  have hConflict : Row.conflicts a b = true := by
    rw [beq_iff_eq] at hA hB
    exact decide_eq_true ⟨hA.trans hB.symm, hUser⟩
  exact Bool.false_ne_true (hApart.symm.trans hConflict)

end Store

namespace Scim

variable {s : Store}

/- A loaded group agrees with the store it was loaded from. -/
structure LoadedGroup.Tracks
    (group : LoadedGroup)
    (s : Store) : Prop where
  row : s.groups.get? group.id = some group.row
  rows : group.rows = s.membershipsOf group.id
  stored :
    ∀ row, Membership.stored row ∈ group.memberships →
      row ∈ group.rows
  exist :
    ∀ userId, Membership.pending userId ∈ group.memberships →
      s.users.contains userId = true
  nodup : group.memberIds.Nodup

theorem tracks_loadGroup
    {group : Group}
    (hGet : s.groups.get? group.id = some group) :
    (loadGroup group (s.membershipsOf group.id)).Tracks s where
  row := hGet
  rows := rfl
  stored := by
    intro row hRow
    rcases List.mem_map.mp hRow with ⟨other, hOther, hEq⟩
    cases hEq
    exact hOther
  exist := by
    intro userId hPending
    rcases List.mem_map.mp hPending with ⟨other, -, hEq⟩
    cases hEq
  nodup := by
    have hIds :
        (loadGroup group
          (s.membershipsOf group.id)).memberIds =
            s.memberIdsOf group.id := by
      unfold LoadedGroup.memberIds loadGroup
      rw [List.map_map]
      rfl
    rw [hIds]
    exact s.nodup_memberIdsOf group.id

theorem memberIds_pending
    (userIds : List Int) :
    (userIds.map Membership.pending).map Membership.userId =
      userIds := by
  rw [List.map_map]
  exact List.map_id userIds

variable [Platform]
variable {group changed : LoadedGroup}
variable {events : List EventKind}

theorem GroupStep.tracks
    (hStep : GroupStep s group changed events)
    (hTracks : group.Tracks s) :
    changed.Tracks s ∧ changed.id = group.id := by
  refine ⟨?_, by cases hStep <;> rfl⟩
  cases hStep with
  | renamed displayName hFree =>
      exact
        { row := hTracks.row
          rows := hTracks.rows
          stored := hTracks.stored
          exist := hTracks.exist
          nodup := hTracks.nodup }
  | added userId hUser hNew =>
      refine
        { row := hTracks.row
          rows := hTracks.rows
          stored := ?_
          exist := ?_
          nodup := ?_ }
      · intro row hRow
        rcases List.mem_append.mp hRow with hOld | hAdded
        · exact hTracks.stored row hOld
        · simp at hAdded
      · intro other hPending
        rcases List.mem_append.mp hPending with hOld | hAdded
        · exact hTracks.exist other hOld
        · simp at hAdded
          rw [hAdded]
          exact hUser
      · unfold LoadedGroup.memberIds
        rw [List.map_append, List.nodup_append']
        refine ⟨hTracks.nodup, List.nodup_singleton _, ?_⟩
        simp only [List.map_cons, List.map_nil,
          Membership.userId, List.disjoint_singleton]
        exact hNew
  | removed userId hUser hMember =>
      have hKept :=
        List.eraseP_sublist
          (p := fun m : Membership => m.userId == userId)
          (l := group.memberships)
      refine
        { row := hTracks.row
          rows := hTracks.rows
          stored := ?_
          exist := ?_
          nodup := ?_ }
      · intro row hRow
        exact hTracks.stored row (hKept.subset hRow)
      · intro other hPending
        exact hTracks.exist other (hKept.subset hPending)
      · exact (hKept.map Membership.userId).nodup
          hTracks.nodup
  | replaced userIds hLists =>
      refine
        { row := hTracks.row
          rows := hTracks.rows
          stored := ?_
          exist := ?_
          nodup := ?_ }
      · intro row hRow
        simp at hRow
      · intro userId hPending
        simp at hPending
        exact hLists.exist userId hPending
      · unfold LoadedGroup.memberIds
        rw [memberIds_pending]
        exact hLists.nodup

theorem GroupSteps.tracks
    (hSteps : GroupSteps s group changed events)
    (hTracks : group.Tracks s) :
    changed.Tracks s ∧ changed.id = group.id := by
  induction hSteps with
  | refl group => exact ⟨hTracks, rfl⟩
  | cons hStep hSteps ih =>
      rcases hStep.tracks hTracks with ⟨hNext, hId⟩
      rcases ih hNext with ⟨hDone, hDoneId⟩
      exact ⟨hDone, hDoneId.trans hId⟩

end Scim

end AccessIQ

------------------------------------------------------------
-- Flushes
------------------------------------------------------------

namespace AccessIQ

open Foundations Python Scim

namespace Scim

/- The row of a loaded group after a flush. -/
def LoadedGroup.written
    (ctx : RequestContext)
    (group : LoadedGroup) :
    Group :=
  if group.displayName = group.row.displayName then
    group.row
  else
    Group.write ctx group.displayName group.row

@[simp] theorem LoadedGroup.id_written
    (ctx : RequestContext)
    (group : LoadedGroup) :
    (group.written ctx).id = group.id := by
  unfold written
  split
  · rfl
  · rfl

@[simp] theorem LoadedGroup.displayName_written
    (ctx : RequestContext)
    (group : LoadedGroup) :
    (group.written ctx).displayName = group.displayName := by
  unfold written
  split
  · rename_i hSame
    exact hSame.symm
  · rfl

/- No other group has exactly this display name. -/
def NameUnused
    (s : Store)
    (group : LoadedGroup) : Prop :=
  ∀ other ∈ s.groups.rows,
    other.id ≠ group.id →
      other.displayName ≠ group.displayName

/- A store after one group and its members were written. -/
structure Flushed
    (s : Store)
    (row : Group)
    (memberIds : List Int)
    (s' : Store) : Prop where
  groups : s.groups.Stores s'.groups row
  members :
    ∀ groupId userId,
      userId ∈ s'.memberIdsOf groupId ↔
        if groupId = row.id then
          userId ∈ memberIds
        else
          userId ∈ s.memberIdsOf groupId
  eq :
    s' =
      { s with
        groups := s'.groups
        groupMembers := s'.groupMembers }

variable {s s' : Store}
variable {ctx : RequestContext}
variable {group : LoadedGroup}

theorem updateGroup_eq_ok
    (hTracks : group.Tracks s)
    (hOk : s.updateGroup ctx group = .ok s') :
    ∃ groups',
      s.groups.Stores groups' (group.written ctx) ∧
        s' = { s with groups := groups' } := by
  unfold Store.updateGroup at hOk
  unfold LoadedGroup.written
  by_cases hSame : group.displayName = group.row.displayName
  · rw [if_pos hSame] at hOk ⊢
    cases hOk
    exact ⟨s.groups,
      Table.stores_of_mem (Table.mem_of_get? hTracks.row), rfl⟩
  · rw [if_neg hSame] at hOk ⊢
    rcases Store.updateIn_eq_ok_iff.mp hOk with
      ⟨-, -, hFits, hStore⟩
    exact ⟨_, Table.stores_modify hFits hTracks.row rfl rfl,
      hStore⟩

theorem updateGroup_isOk_iff
    (hTracks : group.Tracks s) :
    (∃ s', s.updateGroup ctx group = .ok s') ↔
      group.displayName = group.row.displayName ∨
        NameUnused s group := by
  unfold Store.updateGroup
  by_cases hSame : group.displayName = group.row.displayName
  · simp [hSame]
  · rw [if_neg hSame]
    have hRow := hTracks.row
    have hFits :
        s.groups.FitsUpdate group.id
            (Group.write ctx group.displayName) ↔
          NameUnused s group := by
      constructor
      · intro hFits other hOther hNe hName
        have hApart :=
          hFits group.row (Table.mem_of_get? hRow) rfl other
            hOther hNe
        exact Bool.false_ne_true
          (hApart.symm.trans (decide_eq_true hName))
      · intro hUnused row _ _ other hOther hNe
        exact decide_eq_false (hUnused other hOther hNe)
    constructor
    · rintro ⟨s', hOk⟩
      rcases Store.updateIn_eq_ok_iff.mp hOk with
        ⟨-, -, hUpdate, -⟩
      exact Or.inr (hFits.mp hUpdate)
    · rintro (hEq | hUnused)
      · exact absurd hEq hSame
      · exact ⟨_, Store.updateIn_eq_ok_iff.mpr
          ⟨Table.contains_of_get? hRow, rfl,
            hFits.mpr hUnused, rfl⟩⟩

theorem mem_pendingIds
    {userId : Int} :
    userId ∈ group.pendingIds ↔
      Membership.pending userId ∈ group.memberships := by
  unfold LoadedGroup.pendingIds
  rw [List.mem_filterMap]
  constructor
  · rintro ⟨row | other, hMem, hEq⟩
    · cases hEq
    · cases hEq
      exact hMem
  · intro hMem
    exact ⟨_, hMem, rfl⟩

theorem nodup_pendingIds
    (hTracks : group.Tracks s) :
    group.pendingIds.Nodup := by
  have hDistinct : group.memberships.Nodup :=
    List.Nodup.of_map Membership.userId hTracks.nodup
  apply hDistinct.filterMap
  intro a b userId ha hb
  cases a with
  | stored row => cases ha
  | pending first =>
      cases b with
      | stored row => cases hb
      | pending second =>
          cases ha
          cases hb
          rfl

/- The rows of the pending memberships. -/
def LoadedGroup.pendingRows
    (ctx : RequestContext)
    (group : LoadedGroup) :
    List GroupMember :=
  group.pendingIds.map (newGroupMember ctx group.id)

/-
  The pending memberships can be inserted unless the user has
  a membership in the database, even one that the flush is
  about to delete.
-/
theorem insertGroupMembers_isOk_iff
    (hGroup : s.groups.contains group.id = true)
    (hTracks : group.Tracks s')
    (hUsers : s.users = s'.users) :
    (∃ t, s.insertGroupMembers ctx group.id group.pendingIds =
        .ok t) ↔
      ∀ userId ∈ group.pendingIds,
        userId ∉ s.memberIdsOf group.id := by
  have hMap :
      (∃ t, s.insertGroupMembers ctx group.id
          group.pendingIds = .ok t) ↔
        ∃ t, s.groupMembers.tryInsertAll s.dialect.keyPolicy
          (fun member =>
            s.resolves s.groups member.groupId &&
              s.resolves s.users member.userId)
          (group.pendingRows ctx) = .ok t := by
    unfold Store.insertGroupMembers LoadedGroup.pendingRows
    cases s.groupMembers.tryInsertAll s.dialect.keyPolicy _
        (group.pendingIds.map
          (newGroupMember ctx group.id)) with
    | error e => simp [Except.map]
    | ok t => simp [Except.map]
  rw [hMap, Table.tryInsertAll_isOk_iff]
  unfold LoadedGroup.pendingRows
  rw [List.forall_mem_map, List.pairwise_map]
  constructor
  · rintro ⟨hRows, -⟩ userId hPending hMember
    rcases Store.mem_memberIdsOf.mp hMember with
      ⟨row, hRow, hRowGroup, hRowUser⟩
    have hApart := (hRows userId hPending).2 row hRow
    exact Bool.false_ne_true
      (hApart.symm.trans
        (decide_eq_true ⟨hRowGroup, hRowUser⟩))
  · intro hFree
    refine ⟨?_, ?_⟩
    · intro userId hPending
      have hUser :=
        hTracks.exist userId (mem_pendingIds.mp hPending)
      rw [← hUsers] at hUser
      refine ⟨?_, ?_⟩
      · rw [Bool.and_eq_true]
        exact ⟨Store.resolves_of_contains hGroup,
          Store.resolves_of_contains hUser⟩
      · intro row hRow
        apply decide_eq_false
        rintro ⟨hRowGroup, hRowUser⟩
        exact hFree userId hPending
          (Store.mem_memberIdsOf.mpr
            ⟨row, hRow, hRowGroup, hRowUser⟩)
    · apply (nodup_pendingIds hTracks).imp
      intro a b hNe
      apply decide_eq_false
      rintro ⟨-, hUser⟩
      exact hNe hUser

/- The rows of a group's memberships after the insertions. -/
theorem appends_insertGroupMembers
    (hOk :
      s.insertGroupMembers ctx group.id group.pendingIds =
        .ok s') :
    ∃ members',
      s.groupMembers.Appends members'
          (group.pendingRows ctx) ∧
        s' = { s with groupMembers := members' } := by
  unfold Store.insertGroupMembers at hOk
  cases hTry :
      s.groupMembers.tryInsertAll s.dialect.keyPolicy
        (fun member =>
          s.resolves s.groups member.groupId &&
            s.resolves s.users member.userId)
        (group.pendingIds.map
          (newGroupMember ctx group.id)) with
  | error e =>
      rw [hTry] at hOk
      cases hOk
  | ok members' =>
      rw [hTry] at hOk
      cases hOk
      exact ⟨members', Table.rows_of_tryInsertAll hTry, rfl⟩

/- The rows that leave are rows of the group. -/
theorem mem_removedRows
    (hTracks : group.Tracks s)
    {row : GroupMember} :
    row ∈ group.removedRows ↔
      (row ∈ s.groupMembers.rows ∧ row.groupId = group.id) ∧
        Membership.stored row ∉ group.memberships := by
  unfold LoadedGroup.removedRows
  rw [List.mem_filter, hTracks.rows, Store.mem_membershipsOf,
    decide_eq_true_iff]

/- A row is deleted under its key exactly if it leaves. -/
theorem key_mem_removedRows
    (hTracks : group.Tracks s)
    {row : GroupMember}
    (hRow : row ∈ s.groupMembers.rows) :
    row.id ∈ group.removedRows.map (·.id) ↔
      row ∈ group.removedRows := by
  rw [List.mem_map]
  constructor
  · rintro ⟨other, hOther, hId⟩
    have hSame : other = row :=
      s.groupMembers.eq_of_mem_of_id_eq
        ((mem_removedRows hTracks).mp hOther).1.1 hRow hId
    rw [← hSame]
    exact hOther
  · intro hMem
    exact ⟨row, hMem, rfl⟩

/-
  The inserted rows are those of the pending memberships, and
  their keys are new.
-/
theorem mem_appended
    {members' : Table GroupMember}
    (hAppends :
      s.groupMembers.Appends members'
        (group.pendingRows ctx)) :
    ∃ added,
      members'.rows = s.groupMembers.rows ++ added ∧
        (∀ groupId userId,
          (∃ row ∈ added,
              row.groupId = groupId ∧ row.userId = userId) ↔
            groupId = group.id ∧
              userId ∈ group.pendingIds) ∧
        ∀ old ∈ s.groupMembers.rows, ∀ row ∈ added,
          old.id ≠ row.id := by
  rcases hAppends with ⟨added, hRows, hAdded⟩
  refine ⟨added, hRows, ?_, ?_⟩
  · intro groupId userId
    have hPairs :
        added.map (fun row => (row.groupId, row.userId)) =
          group.pendingIds.map fun userId =>
            (group.id, userId) := by
      rw [Table.map_of_keyed hAdded fun _ _ => rfl]
      unfold LoadedGroup.pendingRows
      rw [List.map_map]
      rfl
    have hMem :
        (groupId, userId) ∈
            added.map (fun row => (row.groupId, row.userId)) ↔
          (groupId, userId) ∈
            group.pendingIds.map fun userId =>
              (group.id, userId) := by
      rw [hPairs]
    simpa [List.mem_map, Prod.ext_iff, and_comm, eq_comm]
      using hMem
  · intro old hOld row hRow
    have hSorted := members'.sorted
    rw [hRows, List.pairwise_append] at hSorted
    exact ne_of_lt (hSorted.2.2 old hOld row hRow)

/-
  The memberships after the deletions, which spare what was
  inserted.
-/
theorem memberIdsOf_deleteGroupMembers
    (hTracks : group.Tracks s)
    {members' : Table GroupMember}
    (hAppends :
      s.groupMembers.Appends members' (group.pendingRows ctx))
    {s₁ : Store}
    (hMembers : s₁.groupMembers = members')
    (groupId userId : Int) :
    userId ∈
        (s₁.deleteGroupMembers group.removedRows).memberIdsOf
          groupId ↔
      if groupId = group.id then
        userId ∈ group.memberIds
      else
        userId ∈ s.memberIdsOf groupId := by
  rcases mem_appended hAppends with
    ⟨added, hRows, hAdded, hKeys⟩
  have hSpared :
      ∀ row ∈ added, row.id ∉ group.removedRows.map (·.id) := by
    intro row hRow hId
    rcases List.mem_map.mp hId with ⟨old, hOld, hSame⟩
    exact hKeys old ((mem_removedRows hTracks).mp hOld).1.1
      row hRow hSame
  rw [Store.mem_memberIdsOf]
  unfold Store.deleteGroupMembers
  simp only [hMembers, Table.mem_deleteAll, hRows,
    List.mem_append]
  by_cases hGroup : groupId = group.id
  · subst hGroup
    rw [if_pos rfl]
    constructor
    · rintro ⟨row, ⟨hOld | hNew, hKept⟩, hRowGroup, rfl⟩
      · have hStored :
            Membership.stored row ∈ group.memberships := by
          by_contra hLeft
          apply hKept
          apply (key_mem_removedRows hTracks hOld).mpr
          exact (mem_removedRows hTracks).mpr
            ⟨⟨hOld, hRowGroup⟩, hLeft⟩
        exact List.mem_map.mpr ⟨_, hStored, rfl⟩
      · have hPending :=
          ((hAdded group.id row.userId).mp
            ⟨row, hNew, hRowGroup, rfl⟩).2
        exact List.mem_map.mpr
          ⟨_, mem_pendingIds.mp hPending, rfl⟩
    · intro hMember
      rcases List.mem_map.mp hMember with
        ⟨row | other, hIn, rfl⟩
      · have hLoaded := hTracks.stored row hIn
        rw [hTracks.rows, Store.mem_membershipsOf] at hLoaded
        refine ⟨row, ⟨Or.inl hLoaded.1, ?_⟩, hLoaded.2, rfl⟩
        intro hKey
        have hLeft :=
          (key_mem_removedRows hTracks hLoaded.1).mp hKey
        exact ((mem_removedRows hTracks).mp hLeft).2 hIn
      · rcases (hAdded group.id other).mpr
            ⟨rfl, mem_pendingIds.mpr hIn⟩ with
          ⟨row, hRow, hRowGroup, hRowUser⟩
        exact
          ⟨row, ⟨Or.inr hRow, hSpared row hRow⟩, hRowGroup,
            hRowUser⟩
  · rw [if_neg hGroup, Store.mem_memberIdsOf]
    constructor
    · rintro ⟨row, ⟨hOld | hNew, -⟩, hRowGroup, hRowUser⟩
      · exact ⟨row, hOld, hRowGroup, hRowUser⟩
      · exact absurd
          ((hAdded groupId userId).mp
            ⟨row, hNew, hRowGroup, hRowUser⟩).1
          hGroup
    · rintro ⟨row, hOld, hRowGroup, hRowUser⟩
      refine ⟨row, ⟨Or.inl hOld, ?_⟩, hRowGroup, hRowUser⟩
      intro hKey
      have hLeft :=
        (key_mem_removedRows hTracks hOld).mp hKey
      exact hGroup
        (hRowGroup.symm.trans
          ((mem_removedRows hTracks).mp hLeft).1.2)

/- A flush leaves the group as it is in memory. -/
theorem flushed_of_write
    (hTracks : group.Tracks s)
    (hOk : group.write ctx s = .ok s') :
    Flushed s (group.written ctx) group.memberIds s' := by
  rcases bind_eq_ok hOk with ⟨s₁, hUpdate, hRest⟩
  rcases updateGroup_eq_ok hTracks hUpdate with
    ⟨groups', hGroups, rfl⟩
  rcases bind_eq_ok hRest with ⟨s₂, hInsert, hDone⟩
  rcases appends_insertGroupMembers hInsert with
    ⟨members', hAppends, rfl⟩
  cases hDone
  refine
    { groups := hGroups
      members := ?_
      eq := rfl }
  rw [LoadedGroup.id_written]
  exact memberIdsOf_deleteGroupMembers hTracks hAppends rfl

theorem writeMembers_isOk_iff
    (hGroup : s.groups.contains group.id = true)
    (hTracks : group.Tracks s')
    (hUsers : s.users = s'.users) :
    (∃ t, group.writeMembers ctx s = .ok t) ↔
      ∀ userId ∈ group.pendingIds,
        userId ∉ s.memberIdsOf group.id := by
  rw [← @insertGroupMembers_isOk_iff s s' ctx group hGroup
    hTracks hUsers]
  constructor
  · rintro ⟨t, hOk⟩
    rcases bind_eq_ok hOk with ⟨s₁, hInsert, -⟩
    exact ⟨s₁, hInsert⟩
  · rintro ⟨s₁, hInsert⟩
    refine ⟨s₁.deleteGroupMembers group.removedRows, ?_⟩
    unfold LoadedGroup.writeMembers
    rw [hInsert]
    rfl

/-
  A flush is accepted if the new name is not in use and no
  pending membership has a row in the database.
-/
theorem write_isOk_iff
    (hTracks : group.Tracks s) :
    (∃ s', group.write ctx s = .ok s') ↔
      (group.displayName = group.row.displayName ∨
        NameUnused s group) ∧
      ∀ userId ∈ group.pendingIds,
        userId ∉ s.memberIdsOf group.id := by
  rw [← @updateGroup_isOk_iff s ctx group hTracks]
  have hMembers :
      ∀ s₁, s.updateGroup ctx group = .ok s₁ →
        ((∃ t, group.writeMembers ctx s₁ = .ok t) ↔
          ∀ userId ∈ group.pendingIds,
            userId ∉ s.memberIdsOf group.id) := by
    intro s₁ hUpdate
    rcases updateGroup_eq_ok hTracks hUpdate with
      ⟨groups', hGroups, rfl⟩
    have hGet :
        groups'.get? group.id = some (group.written ctx) :=
      (hGroups.get? group.id).trans
        (if_pos (LoadedGroup.id_written ctx group).symm)
    exact writeMembers_isOk_iff (Table.contains_of_get? hGet)
      hTracks rfl
  constructor
  · rintro ⟨s', hOk⟩
    rcases bind_eq_ok hOk with ⟨s₁, hUpdate, hRest⟩
    exact ⟨⟨s₁, hUpdate⟩,
      (hMembers s₁ hUpdate).mp ⟨s', hRest⟩⟩
  · rintro ⟨⟨s₁, hUpdate⟩, hFree⟩
    rcases (hMembers s₁ hUpdate).mpr hFree with ⟨s', hRest⟩
    refine ⟨s', ?_⟩
    unfold LoadedGroup.write
    rw [hUpdate]
    exact hRest

theorem updateGroup_error
    (hTracks : group.Tracks s)
    {e : DatabaseError}
    (hError : s.updateGroup ctx group = .error e) :
    e = .integrity := by
  unfold Store.updateGroup at hError
  by_cases hSame : group.displayName = group.row.displayName
  · rw [if_pos hSame] at hError
    cases hError
  · rw [if_neg hSame] at hError
    rcases Store.updateIn_eq_error_iff.mp hError with
      ⟨hMissing, -⟩ | ⟨-, hIntegrity, -⟩
    · have hFound := Table.contains_of_get? hTracks.row
      rw [hMissing] at hFound
      cases hFound
    · exact hIntegrity

theorem insertGroupMembers_error
    {groupId : Int}
    {userIds : List Int}
    {e : DatabaseError}
    (hError :
      s.insertGroupMembers ctx groupId userIds = .error e) :
    e = .integrity := by
  unfold Store.insertGroupMembers at hError
  cases hTry :
      s.groupMembers.tryInsertAll s.dialect.keyPolicy
        (fun member =>
          s.resolves s.groups member.groupId &&
            s.resolves s.users member.userId)
        (userIds.map (newGroupMember ctx groupId)) with
  | ok members' =>
      rw [hTry] at hError
      cases hError
  | error e' =>
      rw [hTry] at hError
      cases hError
      exact Table.tryInsertAll_error hTry

/- A flush is refused for a constraint only. -/
theorem write_error
    (hTracks : group.Tracks s)
    {e : DatabaseError}
    (hError : group.write ctx s = .error e) :
    e = .integrity := by
  unfold LoadedGroup.write at hError
  cases hUpdate : s.updateGroup ctx group with
  | error e' =>
      rw [hUpdate] at hError
      cases hError
      exact updateGroup_error hTracks hUpdate
  | ok s₁ =>
      rw [hUpdate] at hError
      change group.writeMembers ctx s₁ = .error e at hError
      unfold LoadedGroup.writeMembers at hError
      cases hInsert :
          s₁.insertGroupMembers ctx group.id
            group.pendingIds with
      | ok s₂ =>
          rw [hInsert] at hError
          cases hError
      | error e' =>
          rw [hInsert] at hError
          cases hError
          exact insertGroupMembers_error hInsert

end Scim

end AccessIQ
