import AccessIQ.Scim.GroupOutcomes

/-
  What the SCIM group mutations leave behind.

  A mutation that goes through has written one group and its
  members.  One that raises has left at most a denial.

  Key definitions include:
    * `GroupChange`
    * `GroupMutated`

  Key theorems include:
    * `wp_flushGroup`
    * `wp_createGroup`
    * `wp_replaceGroup`
    * `wp_patchGroup`
    * `wp_groupHandler`
-/

------------------------------------------------------------
-- Flushes
------------------------------------------------------------

namespace AccessIQ

namespace Scim

open Foundations Python

variable {w : World Question Reply}
variable {c s : Store}
variable {p : List DomainEvent}
variable {ctx : RequestContext}

@[simp] theorem id_loadGroup
    (group : Group)
    (rows : List GroupMember) :
    (loadGroup group rows).id = group.id :=
  rfl

/- A group that is as it was loaded has nothing to write. -/
theorem write_loadGroup
    (ctx : RequestContext)
    (s : Store)
    (group : Group)
    (rows : List GroupMember) :
    (loadGroup group rows).write ctx s = .ok s := by
  have hPending : (loadGroup group rows).pendingIds = [] := by
    rw [List.eq_nil_iff_forall_not_mem]
    intro userId hMem
    simp [mem_pendingIds, loadGroup] at hMem
  have hRemoved : (loadGroup group rows).removedRows = [] := by
    unfold LoadedGroup.removedRows
    rw [List.filter_eq_nil_iff]
    intro row hRow
    simpa [loadGroup] using hRow
  have hUpdate :
      s.updateGroup ctx (loadGroup group rows) = .ok s :=
    if_pos rfl
  unfold LoadedGroup.write LoadedGroup.writeMembers
  rw [hUpdate, hPending, hRemoved]
  rfl

/- A flush writes nothing but groups and memberships. -/
theorem write_eq
    {group : LoadedGroup}
    {s' : Store}
    (hOk : group.write ctx s = .ok s') :
    s' =
      { s with
        groups := s'.groups
        groupMembers := s'.groupMembers } := by
  rcases bind_eq_ok hOk with ⟨s₁, hUpdate, hRest⟩
  have hGroups : ∃ groups', s₁ = { s with groups := groups' } := by
    unfold Store.updateGroup at hUpdate
    by_cases hSame :
        group.displayName = group.row.displayName
    · rw [if_pos hSame] at hUpdate
      cases hUpdate
      exact ⟨s.groups, rfl⟩
    · rw [if_neg hSame] at hUpdate
      rcases Store.updateIn_eq_ok_iff.mp hUpdate with
        ⟨-, -, hFits, hStore⟩
      exact ⟨_, hStore⟩
  rcases hGroups with ⟨groups', rfl⟩
  rcases bind_eq_ok hRest with ⟨s₂, hInsert, hDone⟩
  rcases appends_insertGroupMembers hInsert with
    ⟨members', -, rfl⟩
  cases hDone
  rfl

theorem wp_flushGroup
    {group : LoadedGroup}
    {post : Post Store DomainEvent PyException Unit}
    (hError :
      ∀ e,
        (w.mayFail ∨ group.write ctx s = .error e) →
          post (.error (.database e)) ⟨c, s, true, p⟩)
    (hOk :
      ∀ s', group.write ctx s = .ok s' →
        post (.ok ()) ⟨c, s', false, p⟩) :
    (flushGroup ctx group).wp w post ⟨c, s, false, p⟩ := by
  unfold flushGroup
  by_cases hSame : group = loadGroup group.row group.rows
  · rw [if_pos hSame]
    apply hOk
    rw [hSame]
    exact write_loadGroup ctx s group.row group.rows
  · rw [if_neg hSame, Program.wp_flush_]
    refine ⟨fun hFail => hError _ (Or.inl hFail), hOk, ?_⟩
    intro e hWrite
    exact hError e (Or.inr hWrite)

end Scim

end AccessIQ

------------------------------------------------------------
-- Changes
------------------------------------------------------------

namespace AccessIQ

namespace Scim

open Foundations Python

/- The row of a group that is created. -/
def createdGroup
    (ctx : RequestContext)
    (s : Store)
    (displayName : String) :
    Group :=
  { newGroup ctx displayName with
    id := s.groups.freshId s.dialect.keyPolicy }

variable [Platform]

/-
  What a group service does to the store: it creates a group,
  or takes steps from a stored one.  A new group begins with
  the memberships that refer to its key already, of which a
  consistent store has none.
-/
inductive GroupChange
    (ctx : RequestContext)
    (s : Store) :
    Int → List EventKind → Store → Prop
  | created
      (displayName : String)
      (memberIds : List Int)
      (s' : Store)
      (hFree : DisplayNameFree s displayName none)
      (hLists : ListsUsers s memberIds)
      (hFlushed :
        s.membershipsOf (createdGroup ctx s displayName).id =
            [] →
          Flushed s (createdGroup ctx s displayName) memberIds
            s')
      (hEq :
        s' =
          { s with
            groups := s'.groups
            groupMembers := s'.groupMembers }) :
      GroupChange ctx s (createdGroup ctx s displayName).id
        (createdEvents (createdGroup ctx s displayName).id
          displayName memberIds)
        s'
  | changed
      (group : Group)
      (changed : LoadedGroup)
      (events : List EventKind)
      (s' : Store)
      (hGet : s.groups.get? group.id = some group)
      (hSteps :
        GroupSteps s
          (loadGroup group (s.membershipsOf group.id)) changed
          events)
      (hFlushed :
        Flushed s (changed.written ctx) changed.memberIds s') :
      GroupChange ctx s group.id events s'

/- Nothing but groups and memberships is written. -/
theorem GroupChange.eq
    {ctx : RequestContext}
    {s s' : Store}
    {groupId : Int}
    {events : List EventKind}
    (hChange : GroupChange ctx s groupId events s') :
    s' =
      { s with
        groups := s'.groups
        groupMembers := s'.groupMembers } := by
  cases hChange with
  | created displayName memberIds s' hFree hLists hFlushed
      hEq =>
      exact hEq
  | changed group changed events s' hGet hSteps hFlushed =>
      exact hFlushed.eq

end Scim

end AccessIQ

------------------------------------------------------------
-- Rules Of The Services
------------------------------------------------------------

namespace AccessIQ

namespace Scim

open Foundations Python

variable [Platform]
variable {w : World Question Reply}
variable {c s : Store}
variable {p : List DomainEvent}
variable {ctx : RequestContext}

theorem get?_of_findGroup
    {groupId : String}
    {group : Group}
    (hFind : s.findGroup groupId = some group) :
    s.groups.get? group.id = some group := by
  unfold Store.findGroup at hFind
  cases hParse : parseInt groupId with
  | none =>
      rw [hParse] at hFind
      cases hFind
  | some id =>
      rw [hParse] at hFind
      simp only at hFind
      by_cases hPositive : id < 1
      · rw [if_pos hPositive] at hFind
        cases hFind
      · rw [if_neg hPositive] at hFind
        have hId : group.id = id := Table.id_of_get? hFind
        rw [hId]
        exact hFind

theorem requireGroup_ok
    {groupId : String}
    {group : Group}
    (hFind : s.findGroup groupId = some group) :
    (requireGroup groupId).reading s =
      some
        (.ok
          (loadGroup group (s.membershipsOf group.id))) := by
  unfold requireGroup
  simp [hFind]

theorem requireGroup_error
    {groupId : String}
    (hFind : s.findGroup groupId = none) :
    (requireGroup groupId).reading s =
      some
        (.error (.groupService (.groupNotFound groupId))) := by
  unfold requireGroup
  simp [hFind]

/-
  The flush of a new group with its members; `s₁` is the
  store that holds the group already.
-/
theorem flushed_of_created
    {displayName : String}
    {memberIds : List Int}
    {s₁ s' : Store}
    {groups₁ : Table Group}
    (hLists : ListsUsers s memberIds)
    (hGroups :
      s.groups.Stores groups₁ (createdGroup ctx s displayName))
    (hStore : s₁ = { s with groups := groups₁ })
    (hEmpty :
      s.membershipsOf (createdGroup ctx s displayName).id = [])
    (hOk :
      LoadedGroup.write ctx
          { loadGroup (createdGroup ctx s displayName)
              (s₁.membershipsOf
                (createdGroup ctx s displayName).id) with
            memberships :=
              (loadGroup (createdGroup ctx s displayName)
                (s₁.membershipsOf
                  (createdGroup ctx s
                    displayName).id)).memberships ++
                memberIds.map .pending }
          s₁ =
        .ok s') :
    Flushed s (createdGroup ctx s displayName) memberIds
      s' := by
  subst hStore
  generalize hGroup : createdGroup ctx s displayName = group
    at hGroups hEmpty hOk
  have hRows :
      Store.membershipsOf { s with groups := groups₁ }
        group.id = [] :=
    hEmpty
  rw [hRows] at hOk
  have hGet : groups₁.get? group.id = some group :=
    (hGroups.get? group.id).trans (if_pos rfl)
  have hLoaded :=
    @tracks_loadGroup { s with groups := groups₁ } group hGet
  rw [hRows] at hLoaded
  have hStep :
      GroupStep { s with groups := groups₁ }
        (loadGroup group [])
        { loadGroup group [] with
          memberships := memberIds.map .pending }
        [.groupMembershipReplaced group.id memberIds] :=
    .replaced memberIds ⟨hLists.nodup, hLists.exist⟩
  have hFlushed :=
    flushed_of_write (hStep.tracks hLoaded).1 hOk
  have hRow :
      LoadedGroup.written ctx
          { loadGroup group [] with
            memberships := memberIds.map .pending } =
        group :=
    if_pos rfl
  have hIds :
      LoadedGroup.memberIds
          { loadGroup group [] with
            memberships := memberIds.map .pending } =
        memberIds :=
    memberIds_pending memberIds
  rw [hRow, hIds] at hFlushed
  exact
    { groups := hGroups.trans hFlushed.groups rfl
      members := hFlushed.members
      eq := hFlushed.eq }

theorem wp_createGroup
    {displayName : String}
    {memberIds : List Int}
    {post :
      Post Store DomainEvent PyException
        (Int × List DomainEvent)}
    (hError : ∀ e s' b, post (.error e) ⟨c, s', b, p⟩)
    (hOk :
      ∀ groupId events s',
        GroupChange ctx s groupId events s' →
          post (.ok (groupId, eventsAt ctx events))
            ⟨c, s', false, p⟩) :
    (createGroup ctx displayName memberIds).wp w post
      ⟨c, s, false, p⟩ := by
  unfold createGroup
  rw [Program.wp_bind]
  by_cases hFree : DisplayNameFree s displayName none
  · rw [Program.wp_of_reading (checkDuplicateGroup_ok hFree),
      Program.bindPost_ok, Program.wp_bind]
    by_cases hLists : ListsUsers s memberIds
    · rw [Program.wp_of_reading
          (requireDistinctUsers_ok hLists),
        Program.bindPost_ok, Program.wp_bind,
        Program.wp_flush]
      refine ⟨fun _ => hError _ _ _, ?_,
        fun e _ => hError _ _ _⟩
      intro s₁ id hInsert
      rcases Store.insertInto_eq_ok_iff.mp hInsert with
        ⟨-, hFits, rfl, rfl⟩
      rw [Program.bindPost_ok, Program.wp_bind,
        Program.wp_view, Program.bindPost_ok,
        Program.wp_bind]
      apply wp_flushGroup
      · intro e _
        exact hError _ _ _
      · intro s' hWrite
        apply hOk _ _ _
        apply GroupChange.created displayName memberIds s'
          hFree hLists
        · intro hEmpty
          have hGroups :=
            Table.stores_insert s.dialect.keyPolicy s.groups
              hFits
          exact flushed_of_created hLists hGroups rfl hEmpty
            hWrite
        · rw [write_eq hWrite]
    · rcases requireDistinctUsers_error hLists with
        ⟨exc, -, hReading⟩
      rw [Program.wp_of_reading hReading]
      exact hError _ _ _
  · rcases checkDuplicateGroup_error hFree with
      ⟨found, -, hReading⟩
    rw [Program.wp_of_reading hReading]
    exact hError _ _ _

/- The flush of a group that has taken steps. -/
theorem wp_flushSteps
    {group : Group}
    {changed : LoadedGroup}
    {events : List EventKind}
    {post : Post Store DomainEvent PyException Unit}
    (hGet : s.groups.get? group.id = some group)
    (hSteps :
      GroupSteps s
        (loadGroup group (s.membershipsOf group.id)) changed
        events)
    (hError : ∀ e, post (.error e) ⟨c, s, true, p⟩)
    (hOk :
      ∀ s', GroupChange ctx s group.id events s' →
        post (.ok ()) ⟨c, s', false, p⟩) :
    (flushGroup ctx changed).wp w post ⟨c, s, false, p⟩ := by
  have hTracks := (hSteps.tracks (tracks_loadGroup hGet)).1
  apply wp_flushGroup
  · intro e _
    exact hError _
  · intro s' hWrite
    exact hOk s'
      (.changed group changed events s' hGet hSteps
        (flushed_of_write hTracks hWrite))

theorem wp_replaceGroup
    {groupId displayName : String}
    {memberIds : List Int}
    {post :
      Post Store DomainEvent PyException
        (Int × List DomainEvent)}
    (hError : ∀ e b, post (.error e) ⟨c, s, b, p⟩)
    (hOk :
      ∀ id events s',
        GroupChange ctx s id events s' →
          post (.ok (id, eventsAt ctx events))
            ⟨c, s', false, p⟩) :
    (replaceGroup ctx groupId displayName memberIds).wp w
      post ⟨c, s, false, p⟩ := by
  unfold replaceGroup
  rw [Program.wp_bind]
  cases hFind : s.findGroup groupId with
  | none =>
      rw [Program.wp_of_reading (requireGroup_error hFind)]
      exact hError _ _
  | some group =>
      have hGet := get?_of_findGroup hFind
      rw [Program.wp_of_reading (requireGroup_ok hFind),
        Program.bindPost_ok, Program.wp_bind, id_loadGroup]
      by_cases hFree :
          DisplayNameFree s displayName (some group.id)
      · rw [Program.wp_of_reading
            (checkDuplicateGroup_ok hFree),
          Program.bindPost_ok, Program.wp_bind]
        by_cases hLists : ListsUsers s memberIds
        · rw [Program.wp_of_reading (replaceMembers_ok hLists),
            Program.bindPost_ok, Program.wp_bind]
          have hRenamed :=
            @GroupStep.renamed _ s
              (loadGroup group (s.membershipsOf group.id))
              displayName hFree
          have hReplaced :=
            @GroupStep.replaced _ s
              { loadGroup group (s.membershipsOf group.id) with
                displayName := displayName }
              memberIds hLists
          have hSteps :=
            (GroupSteps.of_step hRenamed).trans
              (.of_step hReplaced)
          apply wp_flushSteps hGet hSteps
          · intro e
            exact hError _ _
          · intro s' hChange
            exact hOk _ _ _ hChange
        · rcases
            @replaceMembers_error s
              { loadGroup group (s.membershipsOf group.id) with
                displayName := displayName }
              memberIds hLists with
            ⟨exc, -, hReading⟩
          rw [Program.wp_of_reading hReading]
          exact hError _ _
      · rcases checkDuplicateGroup_error hFree with
          ⟨found, -, hReading⟩
        rw [Program.wp_of_reading hReading]
        exact hError _ _

theorem wp_patchGroup
    {groupId : String}
    {operations : List GroupPatchOperation}
    {post :
      Post Store DomainEvent PyException
        (Int × List DomainEvent)}
    (hError : ∀ e b, post (.error e) ⟨c, s, b, p⟩)
    (hOk :
      ∀ id events s',
        GroupChange ctx s id events s' →
          post (.ok (id, eventsAt ctx events))
            ⟨c, s', false, p⟩) :
    (patchGroup ctx groupId operations).wp w post
      ⟨c, s, false, p⟩ := by
  unfold patchGroup
  rw [Program.wp_bind]
  cases hFind : s.findGroup groupId with
  | none =>
      rw [Program.wp_of_reading (requireGroup_error hFind)]
      exact hError _ _
  | some group =>
      have hGet := get?_of_findGroup hFind
      rw [Program.wp_of_reading (requireGroup_ok hFind),
        Program.bindPost_ok, Program.wp_bind]
      rcases
        reads_forEach
          (@reads_applyGroupOperation s _)
          (loadGroup group (s.membershipsOf group.id))
          operations with
        ⟨exc | ⟨changed, events⟩, hReading⟩
      · rw [Program.wp_of_reading hReading]
        exact hError _ _
      · rw [Program.wp_of_reading hReading,
          Program.bindPost_ok, Program.wp_bind]
        have hSteps :=
          steps_forEach
            (fun _ _ _ _ => steps_applyGroupOperation)
            hReading
        apply wp_flushSteps hGet hSteps
        · intro e
          exact hError _ _
        · intro s' hChange
          exact hOk _ _ _ hChange

end Scim

end AccessIQ

------------------------------------------------------------
-- Rules Of The Mutations
------------------------------------------------------------

namespace AccessIQ

namespace Scim

open Foundations Python

variable {α : Type}
variable {w : World Question Reply}
variable {s : Store}
variable {ctx : RequestContext}
variable {actor : User}

/- A denied group request is refused. -/
theorem wp_denyGroupRequest
    {response : ScimHttpException}
    {post : Post Store DomainEvent PyException α}
    (hRefused :
      ∀ e m, Refuses s m → post (.error e) m) :
    (denyGroupRequest ctx actor response :
        Handler α).wp w post ⟨s, s, false, []⟩ := by
  apply wp_auditAndRaise
  · intro r m hRefuses
    exact hRefused _ m hRefuses
  · intro m hRefuses
    exact hRefused _ m hRefuses

theorem wp_denyGroupChange
    {response : PyException → Option ScimHttpException}
    {e : PyException}
    {answer : Handler (α × List DomainEvent)}
    (hDeny :
      denyGroupChange ctx actor response e = some answer) :
    answer.wp w
      (fun r m => (∃ e, r = .error e) ∧ Refuses s m)
      ⟨s, s, false, []⟩ := by
  unfold denyGroupChange at hDeny
  cases hResponse : response e with
  | none =>
      rw [hResponse] at hDeny
      cases hDeny
  | some exc =>
      rw [hResponse] at hDeny
      cases hDeny
      apply wp_denyGroupRequest
      intro e m hRefuses
      exact ⟨⟨e, rfl⟩, hRefuses⟩

theorem reads_refreshedGroup
    (s : Store)
    (baseUrl : String)
    (groupId : Int) :
    ∃ r, (refreshedGroup baseUrl groupId).reading s =
      some r := by
  unfold refreshedGroup
  apply Program.reads_bind ⟨_, Program.reading_view s⟩
  intro s'
  cases hGet : s'.groups.get? groupId with
  | none => exact ⟨_, rfl⟩
  | some group =>
      apply Program.reads_bind ⟨_, rfl⟩
      intro group
      cases s'.groupResource baseUrl group with
      | error exc => exact ⟨_, rfl⟩
      | ok resource => exact ⟨_, rfl⟩

variable [Platform]

/-
  A group request that goes through has changed a group, and
  was audited.
-/
inductive GroupMutated
    (ctx : RequestContext)
    (s : Store) :
    Int → List DomainEvent → Store → Prop
  | mutated
      (groupId : Int)
      (events : List EventKind)
      (s' : Store)
      (auditEvents' : Table AuditEvent)
      (hChange : GroupChange ctx s groupId events s') :
      GroupMutated ctx s groupId (eventsAt ctx events)
        { s' with auditEvents := auditEvents' }

/- A change of a group, and the audit event about it. -/
theorem wp_auditedChange
    {change : Handler (Int × List DomainEvent)}
    {action : AuditAction}
    {reason : String}
    {deny :
      PyException →
        Option (Handler (Int × List DomainEvent))}
    (hChange :
      ∀ post : Post Store DomainEvent PyException
          (Int × List DomainEvent),
        (∀ e s' b, post (.error e) ⟨s, s', b, []⟩) →
        (∀ groupId events s',
          GroupChange ctx s groupId events s' →
            post (.ok (groupId, eventsAt ctx events))
              ⟨s, s', false, []⟩) →
          change.wp w post ⟨s, s, false, []⟩) :
    (do
        let changed ← change
        recordGroupAudit ctx actor action .succeeded reason
        return changed :
      Handler (Int × List DomainEvent)).wp w
      (MutationPost s deny (GroupMutated ctx s))
      ⟨s, s, false, []⟩ := by
  rw [Program.wp_bind]
  apply hChange
  · intro e s' b
    exact Or.inl ⟨rfl, rfl⟩
  · intro groupId events s' hGroup
    rw [Program.bindPost_ok, Program.wp_bind]
    apply wp_recordScimAudit
    · intro _
      exact Or.inl ⟨rfl, rfl⟩
    · intro _ error
      exact Or.inl ⟨rfl, rfl⟩
    · intro event _
      exact ⟨rfl, rfl, rfl, .mutated _ _ _ _ hGroup⟩

/-
  How a group mutation ends: it was refused, or it committed
  a change, published its events and answered with what it
  read of the group.
-/
inductive GroupServed
    (ctx : RequestContext)
    (baseUrl : String)
    (s : Store) :
    Post Store DomainEvent PyException
      ScimGroupProvisioningResult
  | refused
      (e : PyException)
      (m : Moment Store DomainEvent)
      (hRefuses : Refuses s m) :
      GroupServed ctx baseUrl s (.error e) m
  | mutated
      (r : Except PyException ScimGroupProvisioningResult)
      (groupId : Int)
      (events : List DomainEvent)
      (s' : Store)
      (hMutated : GroupMutated ctx s groupId events s')
      (hReading :
        (refreshedGroup baseUrl groupId).reading s' =
          some r) :
      GroupServed ctx baseUrl s r ⟨s', s', false, events⟩

variable {baseUrl : String}

-- a rule is applied to a program that is left as it stands
attribute [local irreducible] Program.wp

theorem wp_groupProvisioning
    {response : PyException → Option ScimHttpException}
    {body : Handler (Int × List DomainEvent)}
    (hBody :
      body.wp w
        (MutationPost s (denyGroupChange ctx actor response)
          (GroupMutated ctx s))
        ⟨s, s, false, []⟩) :
    (do
        let groupId ←
          provisioning groupDatabaseError
            (denyGroupChange ctx actor response) body
        refreshedGroup baseUrl groupId :
      Handler ScimGroupProvisioningResult).wp w
      (GroupServed ctx baseUrl s) ⟨s, s, false, []⟩ := by
  rw [Program.wp_bind]
  apply wp_provisioning hBody
  · intro e answer hDeny
    exact wp_denyGroupChange hDeny
  · intro groupId events s' hMutated
    rw [Program.bindPost_ok]
    rcases reads_refreshedGroup s' baseUrl groupId with
      ⟨r, hReading⟩
    rw [Program.wp_of_reading hReading]
    exact .mutated r groupId events s' hMutated hReading
  · intro e m hRefuses
    exact .refused e m hRefuses

/- A payload that does not parse is denied. -/
theorem wp_denyPayload
    {exc : ScimHttpException} :
    (denyGroupRequest ctx actor exc :
        Handler ScimGroupProvisioningResult).wp w
      (GroupServed ctx baseUrl s) ⟨s, s, false, []⟩ := by
  apply wp_denyGroupRequest
  intro e m hRefuses
  exact .refused e m hRefuses

theorem wp_createScimGroup
    {payload : Json} :
    (createScimGroup ctx actor payload baseUrl).wp w
      (GroupServed ctx baseUrl s) ⟨s, s, false, []⟩ := by
  unfold createScimGroup
  cases hParse : parseGroupPayload payload with
  | error exc =>
      cases exc with
      | scim exc => exact wp_denyPayload
      | _ =>
          rw [Program.wp_throw]
          exact .refused _ _ ⟨rfl, Or.inl rfl⟩
  | ok groupData =>
      simp only
      apply wp_groupProvisioning
      unfold groupCreation
      apply wp_auditedChange
      intro post hError hChanged
      exact wp_createGroup hError hChanged

theorem wp_replaceScimGroup
    {groupId : String}
    {payload : Json} :
    (replaceScimGroup ctx actor groupId payload baseUrl).wp w
      (GroupServed ctx baseUrl s) ⟨s, s, false, []⟩ := by
  unfold replaceScimGroup
  cases hParse : parseGroupPayload payload with
  | error exc =>
      cases exc with
      | scim exc => exact wp_denyPayload
      | _ =>
          rw [Program.wp_throw]
          exact .refused _ _ ⟨rfl, Or.inl rfl⟩
  | ok groupData =>
      simp only
      apply wp_groupProvisioning
      unfold groupReplacement
      apply wp_auditedChange
      intro post hError hChanged
      apply wp_replaceGroup
      · intro e b
        exact hError e s b
      · exact hChanged

theorem wp_patchScimGroup
    {groupId : String}
    {payload : Json} :
    (patchScimGroup ctx actor groupId payload baseUrl).wp w
      (GroupServed ctx baseUrl s) ⟨s, s, false, []⟩ := by
  unfold patchScimGroup
  apply wp_groupProvisioning
  cases hParse : parseGroupPatchPayload payload with
  | error exc =>
      simp only
      rw [Program.wp_throw]
      exact Or.inl ⟨rfl, rfl⟩
  | ok operations =>
      simp only
      unfold groupPatching
      apply wp_auditedChange
      intro post hError hChanged
      apply wp_patchGroup
      · intro e b
        exact hError e s b
      · exact hChanged

/- The rule of the three group mutations. -/
theorem wp_groupHandler
    {request : GroupRequest} :
    (request.handler actor).wp w
      (GroupServed request.ctx request.baseUrl s)
      ⟨s, s, false, []⟩ := by
  unfold GroupRequest.handler
  cases request.call with
  | create payload => exact wp_createScimGroup
  | replace groupId payload => exact wp_replaceScimGroup
  | patch groupId payload => exact wp_patchScimGroup

end Scim

end AccessIQ
