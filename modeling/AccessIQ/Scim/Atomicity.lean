import AccessIQ.Scim.Replay

/-
  A SCIM mutation that raises has changed nothing.

  Whatever fails, the transaction of the mutation is rolled
  back before a denial is recorded in one of its own, and
  nothing is published.  Once a mutation is committed its
  response is read without an error, so that no exception
  hides a change.

  Key definitions include:
    * `MembershipsResolve`
    * `ScimRequest.Raises`
    * `DeniedOnly`

  Key theorems include:
    * `GroupMutated.membershipsResolve`
    * `UserServed.refuses`
    * `GroupServed.refuses`
    * `scim_mutations_atomic`
-/

------------------------------------------------------------
-- Memberships
------------------------------------------------------------

namespace AccessIQ

open Foundations Python Scim

namespace Scim

/-
  The foreign keys that the schema declares for a membership.
  SQLite does not look at them.
-/
structure MembershipsResolve (s : Store) : Prop where
  group : Grounded s
  user :
    ∀ groupId userId,
      userId ∈ s.memberIdsOf groupId →
        s.users.contains userId = true

variable {s s' : Store}

theorem MembershipsResolve.flushed
    {row : Group}
    {memberIds : List Int}
    (hFlushed : Flushed s row memberIds s')
    (hResolve : MembershipsResolve s)
    (hExist :
      ∀ userId ∈ memberIds,
        s.users.contains userId = true) :
    MembershipsResolve s' := by
  have hUsers : s'.users = s.users := by
    rw [hFlushed.eq]
  constructor
  · exact hFlushed.grounded hResolve.group
  · intro groupId userId hMember
    rw [hFlushed.members] at hMember
    rw [hUsers]
    by_cases hGroup : groupId = row.id
    · rw [if_pos hGroup] at hMember
      exact hExist userId hMember
    · rw [if_neg hGroup] at hMember
      exact hResolve.user groupId userId hMember

theorem MembershipsResolve.congr
    (hResolve : MembershipsResolve s)
    (hUsers :
      ∀ userId, s.users.contains userId = true →
        s'.users.contains userId = true)
    (hGroups : s'.groups = s.groups)
    (hMembers : s'.groupMembers = s.groupMembers) :
    MembershipsResolve s' := by
  constructor
  · exact grounded_congr hGroups hMembers hResolve.group
  · intro groupId userId hMember
    unfold Store.memberIdsOf Store.membershipsOf at hMember
    rw [hMembers] at hMember
    exact hUsers userId
      (hResolve.user groupId userId hMember)

variable [Platform]
variable {ctx : RequestContext}
variable {groupId : Int}
variable {kinds : List EventKind}

/- The members of a group in memory are users. -/
theorem exist_memberIds
    {group changed : LoadedGroup}
    (hResolve : MembershipsResolve s)
    (hSteps : GroupSteps s group changed kinds)
    (hTracks : group.Tracks s) :
    ∀ userId ∈ changed.memberIds,
      s.users.contains userId = true := by
  have hChanged := (hSteps.tracks hTracks).1
  intro userId hMember
  rcases List.mem_map.mp hMember with ⟨row | other, hIn, rfl⟩
  · have hRow := hChanged.stored row hIn
    rw [hChanged.rows] at hRow
    exact hResolve.user changed.id row.userId
      (List.mem_map_of_mem hRow)
  · exact hChanged.exist other hIn

/- The group of a change is stored with its members. -/
theorem GroupChange.resolve
    (hChange : GroupChange ctx s groupId kinds s')
    (hResolve : MembershipsResolve s) :
    MembershipsResolve s' ∧
      s'.groups.contains groupId = true := by
  cases hChange with
  | created displayName memberIds _ hFree hLists hFlushed
      hEq =>
      have hDone :=
        hFlushed hResolve.group.membershipsOf_createdGroup
      exact ⟨hResolve.flushed hDone hLists.exist,
        Table.contains_of_get?
          (s'.groups.get?_of_mem hDone.groups.mem)⟩
  | changed group changed _ _ hGet hSteps hFlushed =>
      have hTracks := tracks_loadGroup hGet
      have hId := (hSteps.tracks hTracks).2
      refine ⟨hResolve.flushed hFlushed
        (exist_memberIds hResolve hSteps hTracks), ?_⟩
      rw [hFlushed.groups.contains_iff]
      refine Or.inl ?_
      rw [show
        Row.id (changed.written ctx) = changed.id from
          LoadedGroup.id_written ctx changed, hId]
      rfl

end Scim

end AccessIQ

------------------------------------------------------------
-- Responses
------------------------------------------------------------

namespace AccessIQ

open Foundations Python Scim

namespace Scim

variable {s s' : Store}
variable {baseUrl : String}

theorem groupResource_ok
    (hResolve : MembershipsResolve s)
    (group : Group) :
    ∃ resource,
      s.groupResource baseUrl group = .ok resource := by
  have hUsers :
      ∀ row ∈ (s.membershipsOf group.id).insertionSort
          (fun a b => a.userId ≤ b.userId),
        ∃ user, s.users.get? row.userId = some user := by
    intro row hRow
    rw [List.mem_insertionSort] at hRow
    apply Option.isSome_iff_exists.mp
    exact hResolve.user group.id row.userId
      (List.mem_map_of_mem hRow)
  unfold Store.groupResource
  cases hMembers : s.memberResources baseUrl group.id with
  | ok members => exact ⟨_, rfl⟩
  | error e =>
      -- some member would not be found
      unfold Store.memberResources at hMembers
      rcases mapM_eq_error hMembers with ⟨row, hRow, hError⟩
      rcases hUsers row hRow with ⟨user, hGet⟩
      rw [hGet] at hError
      cases hError

/- A group that was committed is read without an error. -/
theorem refreshedGroup_ok
    {groupId : Int}
    (hResolve : MembershipsResolve s)
    (hGroup : s.groups.contains groupId = true) :
    ∃ result,
      (refreshedGroup baseUrl groupId).reading s =
        some (.ok result) := by
  rcases Option.isSome_iff_exists.mp hGroup with
    ⟨group, hGet⟩
  have hOk :
      ∃ resource,
        s.groupResource baseUrl group = .ok resource :=
    groupResource_ok hResolve group
  rcases hOk with ⟨resource, hResource⟩
  unfold refreshedGroup
  rw [Program.reading_bind_of_ok (Program.reading_view s),
    hGet, Program.reading_bind_of_ok
      (Program.reading_getOrRaise_some s group _), hResource]
  exact ⟨_, rfl⟩

/- So is a user. -/
theorem refreshedUser_ok
    {userId : Int}
    (hUser : s.users.contains userId = true) :
    ∃ result,
      (refreshedUser baseUrl userId).reading s =
        some (.ok result) := by
  rcases Option.isSome_iff_exists.mp hUser with ⟨user, hGet⟩
  unfold refreshedUser
  rw [Program.reading_bind_of_ok (Program.reading_view s),
    hGet, Program.reading_bind_of_ok
      (Program.reading_getOrRaise_some s user _)]
  exact ⟨_, rfl⟩

variable [Platform]
variable {ctx : RequestContext}
variable {e : PyException}
variable {m : Moment Store DomainEvent}

theorem UserMutated.contains
    {userId : Int}
    {events : List DomainEvent}
    (hMutated : UserMutated ctx s userId events s') :
    s'.users.contains userId = true := by
  cases hMutated with
  | created userName displayName active desired kinds _ hFree
      hPlain hStep =>
      exact Table.contains_of_get? hStep.get?
  | changed old new desired kinds _ hGet hChanged hPlain
      hStep =>
      exact Table.contains_of_get? hStep.get?

theorem GroupMutated.resolve
    {groupId : Int}
    {events : List DomainEvent}
    (hMutated : GroupMutated ctx s groupId events s')
    (hResolve : MembershipsResolve s) :
    MembershipsResolve s' ∧
      s'.groups.contains groupId = true := by
  cases hMutated with
  | mutated kinds s' auditEvents' hChange =>
      rcases hChange.resolve hResolve with ⟨hDone, hGroup⟩
      refine ⟨hDone.congr ?_ rfl rfl, hGroup⟩
      intro userId hUser
      exact hUser

/- A user mutation that raises was refused. -/
theorem UserServed.refuses
    (hServed : UserServed ctx baseUrl s (.error e) m) :
    Refuses s m := by
  cases hServed with
  | refused e m hRefuses => exact hRefuses
  | mutated r userId events s' hMutated hReading =>
      have hOk :
          ∃ result,
            (refreshedUser baseUrl userId).reading s' =
              some (.ok result) :=
        refreshedUser_ok hMutated.contains
      rcases hOk with ⟨result, hOk⟩
      rw [hOk] at hReading
      cases hReading

/- A group mutation that raises was refused. -/
theorem GroupServed.refuses
    (hResolve : MembershipsResolve s)
    (hServed : GroupServed ctx baseUrl s (.error e) m) :
    Refuses s m := by
  cases hServed with
  | refused e m hRefuses => exact hRefuses
  | mutated r groupId events s' hMutated hReading =>
      rcases hMutated.resolve hResolve with ⟨hDone, hGroup⟩
      have hOk :
          ∃ result,
            (refreshedGroup baseUrl groupId).reading s' =
              some (.ok result) :=
        refreshedGroup_ok hDone hGroup
      rcases hOk with ⟨result, hOk⟩
      rw [hOk] at hReading
      cases hReading

end Scim

end AccessIQ

------------------------------------------------------------
-- Requests
------------------------------------------------------------

namespace AccessIQ

open Foundations Python Scim

namespace Scim

/-
  Nothing was published, and no table but that of the audit
  events is different, which has one denial more at most.
-/
structure DeniedOnly
    (s s' : Store)
    (published : List DomainEvent) : Prop where
  users : s'.users = s.users
  enterpriseUserProfiles :
    s'.enterpriseUserProfiles = s.enterpriseUserProfiles
  groups : s'.groups = s.groups
  groupMembers : s'.groupMembers = s.groupMembers
  others : s' = { s with auditEvents := s'.auditEvents }
  audited :
    ∃ added : List AuditEvent,
      added.length ≤ 1 ∧
        (∀ event ∈ added, event.result = .denied) ∧
          s'.auditEvents.rows = s.auditEvents.rows ++ added
  published : published = []

theorem DeniedOnly.unchanged
    {s : Store} :
    DeniedOnly s s [] where
  users := rfl
  enterpriseUserProfiles := rfl
  groups := rfl
  groupMembers := rfl
  others := rfl
  audited := by
    refine
      ⟨[], Nat.zero_le 1, ?_, (List.append_nil _).symm⟩
    intro event hMem
    cases hMem
  published := rfl

theorem DeniedOnly.denied
    {s : Store}
    {event : AuditEvent}
    (hDenied : event.result = .denied) :
    DeniedOnly s (s.withAuditEvent event) [] where
  users := rfl
  enterpriseUserProfiles := rfl
  groups := rfl
  groupMembers := rfl
  others := rfl
  audited := by
    refine
      ⟨[Row.withId event
          (s.auditEvents.freshId s.dialect.keyPolicy)],
        le_refl 1, ?_, rfl⟩
    intro added hAdded
    rw [List.mem_singleton.mp hAdded]
    exact hDenied
  published := rfl

theorem DeniedOnly.of_refuses
    {s : Store}
    {m : Moment Store DomainEvent}
    (hRefuses : Refuses s m) :
    DeniedOnly s m.committed m.published := by
  rcases hRefuses with
    ⟨hPublished, hSame | ⟨event, hDenied, hCommitted⟩⟩
  · rw [hPublished, hSame]
    exact .unchanged
  · rw [hPublished, hCommitted]
    exact .denied hDenied

variable [Platform]

/- The route of the request raises. -/
def ScimRequest.Raises
    (env : Environment)
    (s : Store) :
    ScimRequest → Prop
  | .user request =>
      ∃ e, (request.serve.serve env s).result = .error e
  | .group request =>
      ∃ e, (request.serve.serve env s).result = .error e

variable {s : Store}

theorem userRequest_atomic
    (env : Environment)
    (request : UserRequest) :
    (∃ e, (request.serve.serve env s).result = .error e) →
      DeniedOnly s (request.serve.serve env s).committed
        (request.serve.serve env s).published := by
  apply serve_route fun result committed published =>
    (∃ e, result = .error e) →
      DeniedOnly s committed published
  · intro _ _
    exact DeniedOnly.unchanged
  · intro user
    apply Program.wp_mono wp_userHandler
    intro r m hServed hRaises
    rcases hRaises with ⟨e, rfl⟩
    exact .of_refuses hServed.refuses

theorem groupRequest_atomic
    (env : Environment)
    (hResolve : MembershipsResolve s)
    (request : GroupRequest) :
    (∃ e, (request.serve.serve env s).result = .error e) →
      DeniedOnly s (request.serve.serve env s).committed
        (request.serve.serve env s).published := by
  apply serve_route fun result committed published =>
    (∃ e, result = .error e) →
      DeniedOnly s committed published
  · intro _ _
    exact DeniedOnly.unchanged
  · intro user
    apply Program.wp_mono wp_groupHandler
    intro r m hServed hRaises
    rcases hRaises with ⟨e, rfl⟩
    exact .of_refuses (hServed.refuses hResolve)

/-
  A mutation of the SCIM routes that raises, for whatever
  reason, leaves at most a denial behind.
-/
theorem scim_mutations_atomic
    (env : Environment)
    (hResolve : MembershipsResolve s)
    (request : ScimRequest)
    (hRaises : request.Raises env s) :
    DeniedOnly s (request.committed env s)
      (request.published env s) := by
  cases request with
  | user request => exact userRequest_atomic env request hRaises
  | group request =>
      exact groupRequest_atomic env hResolve request hRaises

end Scim

end AccessIQ

------------------------------------------------------------
-- A Denial
------------------------------------------------------------

namespace AccessIQ

open Foundations Python Scim

namespace Scim

section Denial

attribute [local instance] asciiPlatform

/- A group is renamed, and then gets an unknown member. -/
def failingRequest : GroupRequest :=
  ⟨scimContext, "",
    .patch "1"
      (.object
        [("Operations",
          .array
            [.object
              [("op", .string "replace"),
                ("path", .string "displayName"),
                ("value", .string "Field Sales")],
            .object
              [("op", .string "add"),
                ("path", .string "members"),
                ("value",
                  .array
                    [.object
                      [("value", .string "99")]])]])])⟩

theorem membershipsResolve_salesStore :
    MembershipsResolve salesStore := by
  have hOnly :
      ∀ groupId userId,
        userId ∈ salesStore.memberIdsOf groupId →
          groupId = 1 ∧ userId = 1 := by
    intro groupId userId hMember
    rcases Store.mem_memberIdsOf.mp hMember with
      ⟨row, hRow, hGroup, hUser⟩
    have hSame : row = ⟨1, 1, 1, 0⟩ :=
      List.mem_singleton.mp hRow
    subst hSame
    exact ⟨hGroup.symm, hUser.symm⟩
  constructor
  · intro groupId userId hMember
    rw [(hOnly groupId userId hMember).1]
    rfl
  · intro groupId userId hMember
    rw [(hOnly groupId userId hMember).2]
    rfl

theorem scim_mutations_atomic_sales :
    (ScimRequest.group failingRequest).Raises
        steadyEnvironment salesStore ∧
      DeniedOnly salesStore
        ((ScimRequest.group failingRequest).committed
          steadyEnvironment salesStore)
        ((ScimRequest.group failingRequest).published
          steadyEnvironment salesStore) := by
  have hNone :
      (failingRequest.serve.serve steadyEnvironment
        salesStore).result.toOption.isNone = true := by
    decide +kernel
  have hRaises :
      (ScimRequest.group failingRequest).Raises
        steadyEnvironment salesStore := by
    cases hResult :
        (failingRequest.serve.serve steadyEnvironment
          salesStore).result with
    | error e => exact ⟨e, hResult⟩
    | ok result =>
        rw [hResult] at hNone
        cases hNone
  exact ⟨hRaises,
    scim_mutations_atomic steadyEnvironment
      membershipsResolve_salesStore _ hRaises⟩

example :
    (failingRequest.serve.serve steadyEnvironment
        salesStore).committed.auditEvents.rows.map
      (·.result) =
        [.denied] := by
  decide +kernel

end Denial

end Scim

end AccessIQ
