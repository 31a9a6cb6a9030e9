import AccessIQ.Seed
import AccessIQ.Scim.GroupResults

/-
  Group operations without a path.

  An operation without a path carries its attributes in one
  object, and stands for one operation with a path for each
  of them.  The parser keeps only the display name when there
  are members too, so the two requests agree when only one
  attribute is there, when both end with the same exception,
  or when the members would change nothing.

  Key definitions include:
    * `pathedOperations`
    * `groupPatchResult`
    * `PathlessAgrees`

  Key theorems include:
    * `carried_cases`
    * `pathless_agrees_iff`
-/

------------------------------------------------------------
-- Carried Attributes
------------------------------------------------------------

namespace AccessIQ

namespace Scim

open Foundations Python

/- The group attributes of an object, in its order. -/
def carriedAttributes
    (value : JsonObject) :
    JsonObject :=
  value.filter fun member =>
    member.1 == "displayName" || member.1 == "members"

/- The operation on one attribute, with its path. -/
def pathedOperation
    (rawOp : String)
    (member : String × Json) :
    Json :=
  .object
    [("op", .string rawOp),
      ("path", .string member.1),
      ("value", member.2)]

def pathedOperations
    (rawOp : String)
    (value : JsonObject) :
    List Json :=
  (carriedAttributes value).map (pathedOperation rawOp)

/- A PATCH payload with these operations. -/
def patchPayload
    (rest : JsonObject)
    (operations : List Json) :
    Json :=
  .object (("Operations", .array operations) :: rest)

theorem get?_carriedAttributes
    (value : JsonObject)
    {key : String}
    (hKey : key = "displayName" ∨ key = "members") :
    JsonObject.get? (carriedAttributes value) key =
      JsonObject.get? value key := by
  have hCarried :
      ∀ member : String × Json,
        (member.1 == "displayName" ||
            member.1 == "members") = true ∧
          (member.1 == key) = true ↔
        (member.1 == key) = true := by
    intro member
    rw [Bool.or_eq_true, beq_iff_eq, beq_iff_eq, beq_iff_eq]
    constructor
    · exact And.right
    · intro hMember
      exact ⟨hMember ▸ hKey, hMember⟩
  unfold JsonObject.get? carriedAttributes
  rw [List.find?_filter]
  congr 2
  funext member
  rw [Bool.eq_iff_iff, decide_eq_true_iff]
  exact hCarried member

/- The attributes an object with distinct names can carry. -/
inductive Carries : JsonObject → Prop
  | name
      (displayName : Json) :
      Carries [("displayName", displayName)]
  | members
      (members : Json) :
      Carries [("members", members)]
  | nameFirst
      (displayName members : Json) :
      Carries
        [("displayName", displayName), ("members", members)]
  | membersFirst
      (displayName members : Json) :
      Carries
        [("members", members), ("displayName", displayName)]

theorem carried_cases
    {value : JsonObject}
    (hNodup : (value.map Prod.fst).Nodup)
    (hCarries :
      (JsonObject.get? value "displayName").isSome ∨
        (JsonObject.get? value "members").isSome) :
    Carries (carriedAttributes value) := by
  have hNames :
      ∀ member ∈ carriedAttributes value,
        member.1 = "displayName" ∨ member.1 = "members" := by
    intro member hMember
    simpa using (List.mem_filter.mp hMember).2
  have hDistinct :
      ((carriedAttributes value).map Prod.fst).Nodup :=
    (List.filter_sublist.map Prod.fst).nodup hNodup
  rw [← get?_carriedAttributes value (Or.inl rfl),
    ← get?_carriedAttributes value (Or.inr rfl)] at hCarries
  generalize carriedAttributes value = carried
    at hNames hDistinct hCarries ⊢
  match carried with
  | [] => simp [JsonObject.get?] at hCarries
  | [(name, a)] =>
      rcases hNames _ List.mem_cons_self with rfl | rfl
      · exact .name a
      · exact .members a
  | [(first, a), (second, b)] =>
      have hNe : first ≠ second := by
        simpa using hDistinct
      rcases hNames _ List.mem_cons_self with rfl | rfl
      · rcases hNames (second, b) (by simp) with rfl | rfl
        · exact absurd rfl hNe
        · exact .nameFirst a b
      · rcases hNames (second, b) (by simp) with rfl | rfl
        · exact .membersFirst b a
        · exact absurd rfl hNe
  | (first, a) :: (second, b) :: (third, c) :: rest =>
      exfalso
      have hFirst := hNames (first, a) (by simp)
      have hSecond := hNames (second, b) (by simp)
      have hThird := hNames (third, c) (by simp)
      simp only [List.map_cons, List.nodup_cons,
        List.mem_cons, not_or] at hDistinct
      grind

end Scim

end AccessIQ

------------------------------------------------------------
-- Parsing
------------------------------------------------------------

namespace AccessIQ

namespace Scim

open Foundations Python

variable [Platform]

/- An add or replace operation that has no path. -/
structure PathlessOperation
    (operation : JsonObject)
    (rawOp : String)
    (op : PatchOp)
    (value : JsonObject) : Prop where
  opText : getOrNull operation "op" = .string rawOp
  named : PatchOp.named (Platform.lower rawOp) = some op
  changes : op ≠ .remove
  noPath : getOrNull operation "path" = .null
  object : getOrNull operation "value" = .object value
  nodup : (value.map Prod.fst).Nodup
  carries :
    (JsonObject.get? value "displayName").isSome ∨
      (JsonObject.get? value "members").isSome

variable {operation value rest : JsonObject}
variable {rawOp : String}
variable {op : PatchOp}

theorem parse_pathlessOperation
    (hPathless : PathlessOperation operation rawOp op value) :
    parseGroupPatchOperation (.object operation) =
      parsePathlessGroupOperation op (.object value) := by
  unfold parseGroupPatchOperation parseNamedGroupOperation
  simp only [hPathless.opText, hPathless.named,
    hPathless.noPath, hPathless.object]
  exact if_neg hPathless.changes

theorem parse_pathed_displayName
    (hNamed : PatchOp.named (Platform.lower rawOp) = some op)
    (hChanges : op ≠ .remove)
    (displayName : Json) :
    parseGroupPatchOperation
        (pathedOperation rawOp ("displayName", displayName)) =
      (parseGroupDisplayName displayName).map
        (.displayName op) := by
  have hPath :
      Platform.lower "displayName" = "displayname" :=
    Platform.lower_of_isAscii _ (by decide +kernel)
  have hFilter : matchMemberFilter "displayName" = none := by
    decide +kernel
  simp [parseGroupPatchOperation, parseNamedGroupOperation,
    pathedOperation, getOrNull, JsonObject.get?, hNamed,
    hFilter, parsePathGroupOperation, hPath, hChanges]

theorem parse_pathed_members
    (hNamed : PatchOp.named (Platform.lower rawOp) = some op)
    (hChanges : op ≠ .remove)
    (members : Json) :
    parseGroupPatchOperation
        (pathedOperation rawOp ("members", members)) =
      (parseMemberPatchValue members).map
        (.members op) := by
  have hPath : Platform.lower "members" = "members" :=
    Platform.lower_of_isAscii _ (by decide +kernel)
  have hFilter : matchMemberFilter "members" = none := by
    decide +kernel
  simp [parseGroupPatchOperation, parseNamedGroupOperation,
    pathedOperation, getOrNull, JsonObject.get?, hNamed,
    hFilter, parsePathGroupOperation, hPath, hChanges]

theorem parse_patchPayload
    (operation : Json)
    (operations : List Json) :
    parseGroupPatchPayload
        (patchPayload rest (operation :: operations)) =
      (operation :: operations).mapM
        parseGroupPatchOperation :=
  rfl

end Scim

end AccessIQ

------------------------------------------------------------
-- Malformed Values
------------------------------------------------------------

namespace AccessIQ

namespace Scim

open Foundations Python

/- The exceptions about a display name that is malformed. -/
theorem parseGroupDisplayName_error
    {displayName : Json}
    {exc : PyException}
    (hError : parseGroupDisplayName displayName = .error exc) :
    ∃ text ∈ ["displayName is required",
        "displayName must be 100 characters or fewer"],
      exc = invalidPayload text := by
  unfold parseGroupDisplayName at hError
  cases displayName with
  | string name =>
      simp only at hError
      by_cases hEmpty : strip name = ""
      · rw [if_pos hEmpty] at hError
        cases hError
        exact ⟨_, List.mem_cons_self, rfl⟩
      · rw [if_neg hEmpty] at hError
        by_cases hLong : 100 < (strip name).length
        · rw [if_pos hLong] at hError
          cases hError
          exact ⟨_, List.mem_cons_of_mem _ List.mem_cons_self,
            rfl⟩
        · rw [if_neg hLong] at hError
          cases hError
  | _ =>
      cases hError
      exact ⟨_, List.mem_cons_self, rfl⟩

variable [Platform]

def memberTexts : List String :=
  ["Each group member requires a value",
    "Group member value must be a user id",
    "Group member value must be a positive user id",
    "Each group member must be an object",
    "members value must be an object or array"]

theorem parseMemberId_error
    {member : Json}
    {exc : PyException}
    (hError : parseMemberId member = .error exc) :
    ∃ text ∈ memberTexts, exc = invalidPayload text := by
  unfold memberTexts
  unfold parseMemberId at hError
  cases member with
  | object members =>
      simp only at hError
      split at hError
      · split at hError
        · cases hError
          simp
        · split at hError
          · cases hError
            simp
          · split at hError
            · cases hError
              simp
            · cases hError
      · cases hError
        simp
  | _ =>
      cases hError
      simp

theorem parseMemberPatchValue_error
    {members : Json}
    {exc : PyException}
    (hError : parseMemberPatchValue members = .error exc) :
    ∃ text ∈ memberTexts, exc = invalidPayload text := by
  unfold parseMemberPatchValue at hError
  cases members with
  | array members =>
      rcases mapM_eq_error hError with ⟨member, -, hMember⟩
      exact parseMemberId_error hMember
  | object member =>
      cases hMember : parseMemberId (.object member) with
      | error exc' =>
          simp only [hMember, Except.map] at hError
          cases hError
          exact parseMemberId_error hMember
      | ok memberId =>
          simp only [hMember, Except.map] at hError
          cases hError
  | _ =>
      cases hError
      refine ⟨_, ?_, rfl⟩
      simp [memberTexts]

/- The two attributes are malformed in different ways. -/
theorem malformed_ne
    {displayName members : Json}
    {exc exc' : PyException}
    (hName : parseGroupDisplayName displayName = .error exc)
    (hMembers :
      parseMemberPatchValue members = .error exc') :
    exc ≠ exc' := by
  rcases parseGroupDisplayName_error hName with
    ⟨text, hText, rfl⟩
  rcases parseMemberPatchValue_error hMembers with
    ⟨text', hText', rfl⟩
  intro hEq
  have hSame : text = text' := by
    simpa [invalidPayload] using hEq
  subst hSame
  have hApart :
      ∀ text ∈ ["displayName is required",
          "displayName must be 100 characters or fewer"],
        text ∉ memberTexts := by
    decide +kernel
  exact hApart text hText hText'

end Scim

end AccessIQ

------------------------------------------------------------
-- Results
------------------------------------------------------------

namespace AccessIQ

namespace Scim

open Foundations Python

variable [Platform]

/- What a PATCH of a group does with its payload. -/
def groupPatch
    (ctx : RequestContext)
    (groupId : String)
    (payload : Json) :
    Handler (Int × List DomainEvent) :=
  match parseGroupPatchPayload payload with
  | .error exc => throw exc
  | .ok operations => patchGroup ctx groupId operations

/-
  What comes of a PATCH: its exception, or the name and the
  members of the group.
-/
def groupPatchResult
    (ctx : RequestContext)
    (s : Store)
    (groupId : String)
    (payload : Json) :
    Except PyException (Option GroupView) :=
  groupResult (groupPatch ctx groupId payload) s

/- Another group has exactly this name. -/
def NameTaken
    (s : Store)
    (group : Group)
    (displayName : String) : Prop :=
  group.displayName ≠ displayName ∧
    ∃ other ∈ s.groups.rows,
      other.id ≠ group.id ∧ other.displayName = displayName

/-
  When the members of a well formed operation make no
  difference to a stored group: the rename is refused either
  way, or there are no members to write.
-/
def MembersImmaterial
    (s : Store)
    (group : Group)
    (op : PatchOp)
    (nameFirst : Bool)
    (displayName : String)
    (userIds : List Int) : Prop :=
  (RenameRefused s group displayName ∧
      (nameFirst = true ∨
        MembersAccepted s op (s.memberIdsOf group.id)
          userIds)) ∨
    (¬ RenameRefused s group displayName ∧
      NameTaken s group displayName ∧
      MembersAccepted s op (s.memberIdsOf group.id)
        userIds) ∨
    (¬ RenameRefused s group displayName ∧
      ¬ NameTaken s group displayName ∧
      userIds = [] ∧
      (op = .add ∨ s.memberIdsOf group.id = []))

/- When an object with both attributes is applied in full. -/
def BothAgree
    (s : Store)
    (groupId : String)
    (op : PatchOp)
    (nameFirst : Bool)
    (displayName members : Json) : Prop :=
  match parseGroupDisplayName displayName,
    parseMemberPatchValue members with
  | .error _, .error _ => nameFirst = true
  | .error _, .ok _ => True
  | .ok _, .error _ => False
  | .ok name, .ok userIds =>
      ∀ group,
        s.findGroup groupId = some group →
          MembersImmaterial s group op nameFirst name userIds

/- When an operation without a path is applied in full. -/
def PathlessAgrees
    (s : Store)
    (groupId : String)
    (op : PatchOp)
    (value : JsonObject) : Prop :=
  match carriedAttributes value with
  | [("displayName", displayName), ("members", members)] =>
      BothAgree s groupId op true displayName members
  | [("members", members), ("displayName", displayName)] =>
      BothAgree s groupId op false displayName members
  | _ => True

variable {ctx : RequestContext}
variable {s : Store}
variable {groupId : String}
variable {payload : Json}

theorem groupPatchResult_of_malformed
    {exc : PyException}
    (hParse : parseGroupPatchPayload payload = .error exc) :
    groupPatchResult ctx s groupId payload = .error exc := by
  unfold groupPatchResult groupPatch
  rw [hParse]
  rfl

theorem groupPatchResult_of_parsed
    {operations : List GroupPatchOperation}
    (hParse :
      parseGroupPatchPayload payload = .ok operations) :
    groupPatchResult ctx s groupId payload =
      groupResult (patchGroup ctx groupId operations) s := by
  unfold groupPatchResult groupPatch
  rw [hParse]

end Scim

end AccessIQ

------------------------------------------------------------
-- Readings Of Both Operations
------------------------------------------------------------

namespace AccessIQ

namespace Scim

open Foundations Python

variable {β : Type}
variable {s : Store}
variable {step :
  LoadedGroup → β → Handler (LoadedGroup × List EventKind)}
variable {group changed : LoadedGroup}
variable {events : List EventKind}
variable {b : β}
variable {bs : List β}
variable {e : PyException}

theorem forEach_error
    (hFirst : (step group b).reading s = some (.error e)) :
    (forEach step group (b :: bs)).reading s =
      some (.error e) := by
  unfold forEach
  exact Program.reading_bind_of_error hFirst _

theorem forEach_later_error
    (hFirst :
      (step group b).reading s = some (.ok (changed, events)))
    (hLater :
      (forEach step changed bs).reading s =
        some (.error e)) :
    (forEach step group (b :: bs)).reading s =
      some (.error e) := by
  unfold forEach
  rw [Program.reading_bind_of_ok hFirst]
  exact Program.reading_bind_of_error hLater _

theorem forEach_ok
    {done : LoadedGroup}
    (hFirst :
      (step group b).reading s = some (.ok (changed, events)))
    (hLater :
      ∃ later,
        (forEach step changed bs).reading s =
          some (.ok (done, later))) :
    ∃ all,
      (forEach step group (b :: bs)).reading s =
        some (.ok (done, all)) := by
  rcases hLater with ⟨later, hLater⟩
  refine ⟨events ++ later, ?_⟩
  unfold forEach
  rw [Program.reading_bind_of_ok hFirst,
    Program.reading_bind_of_ok hLater]
  rfl

variable [Platform]

/- The two operations in the order of the object. -/
def bothOperations
    (op : PatchOp)
    (nameFirst : Bool)
    (displayName : String)
    (userIds : List Int) :
    List GroupPatchOperation :=
  if nameFirst = true then
    [.displayName op displayName, .members op userIds]
  else
    [.members op userIds, .displayName op displayName]

variable {op : PatchOp}
variable {nameFirst : Bool}
variable {displayName : String}
variable {userIds : List Int}

theorem both_accepted
    (hOp : op ≠ .remove)
    (hOld : group.displayName = group.row.displayName)
    (hRename : ¬ RenameRefused s group.row displayName)
    (hMembers :
      MembersAccepted s op group.memberIds userIds) :
    ∃ events,
      (forEach applyGroupOperation group
          (bothOperations op nameFirst displayName
            userIds)).reading s =
        some
          (.ok
            ({ group.withMembers op userIds with
                displayName := displayName },
              events)) := by
  cases nameFirst with
  | true =>
      rcases rename_accepted hOp hOld hRename with
        ⟨_, hName⟩
      rcases
        @members_accepted s
          { group with displayName := displayName } userIds
          _ op hOp hMembers with
        ⟨_, hLater⟩
      exact forEach_ok hName (forEach_ok hLater ⟨_, rfl⟩)
  | false =>
      rcases members_accepted hOp hMembers with ⟨_, hFirst⟩
      rcases
        @rename_accepted _ s (group.withMembers op userIds)
          op displayName hOp hOld hRename with
        ⟨_, hName⟩
      exact forEach_ok hFirst (forEach_ok hName ⟨_, rfl⟩)

theorem both_membersRefused
    (hOp : op ≠ .remove)
    (hOld : group.displayName = group.row.displayName)
    (hRename :
      nameFirst = true →
        ¬ RenameRefused s group.row displayName)
    (hMembers :
      ¬ MembersAccepted s op group.memberIds userIds) :
    ∃ exc, AboutMember exc ∧
      (forEach applyGroupOperation group
          (bothOperations op nameFirst displayName
            userIds)).reading s =
        some (.error exc) := by
  cases nameFirst with
  | true =>
      rcases rename_accepted hOp hOld (hRename rfl) with
        ⟨_, hName⟩
      rcases
        @members_refused s
          { group with displayName := displayName } userIds
          _ op hOp hMembers with
        ⟨exc, hAbout, hLater⟩
      exact ⟨exc, hAbout,
        forEach_later_error hName (forEach_error hLater)⟩
  | false =>
      rcases members_refused hOp hMembers with
        ⟨exc, hAbout, hFirst⟩
      exact ⟨exc, hAbout, forEach_error hFirst⟩

theorem both_renameRefused
    (hOp : op ≠ .remove)
    (hOld : group.displayName = group.row.displayName)
    (hRename : RenameRefused s group.row displayName)
    (hMembers :
      nameFirst = true ∨
        MembersAccepted s op group.memberIds userIds) :
    ∃ found,
      s.findGroupByDisplayName displayName = some found ∧
        (forEach applyGroupOperation group
            (bothOperations op nameFirst displayName
              userIds)).reading s =
          some
            (.error
              (.groupService
                (.duplicateGroup displayName found))) := by
  cases nameFirst with
  | true =>
      rcases rename_refused hOp hOld hRename with
        ⟨found, hFind, hName⟩
      exact ⟨found, hFind, forEach_error hName⟩
  | false =>
      rcases hMembers with hFalse | hAccepted
      · cases hFalse
      · rcases members_accepted hOp hAccepted with
          ⟨_, hFirst⟩
        rcases
          @rename_refused _ s (group.withMembers op userIds)
            op displayName hOp hOld hRename with
          ⟨found, hFind, hName⟩
        exact ⟨found, hFind,
          forEach_later_error hFirst (forEach_error hName)⟩

end Scim

end AccessIQ

------------------------------------------------------------
-- Results Of Both Operations
------------------------------------------------------------

namespace AccessIQ

namespace Scim

open Foundations Python

variable {s : Store}
variable {group : Group}
variable {op : PatchOp}
variable {displayName : String}
variable {userIds : List Int}

theorem writes_iff_name
    (changed : LoadedGroup) :
    changed.Writes s ↔
      ¬ NameTaken s changed.row changed.displayName ∧
        ∀ userId ∈ changed.pendingIds,
          userId ∉ s.memberIdsOf changed.id := by
  have hName :
      (changed.displayName = changed.row.displayName ∨
          NameUnused s changed) ↔
        ¬ NameTaken s changed.row changed.displayName := by
    constructor
    · rintro hFree ⟨hNe, other, hOther, hApart, hTaken⟩
      rcases hFree with hSame | hUnused
      · exact hNe hSame.symm
      · exact hUnused other hOther hApart hTaken
    · intro hFree
      by_cases hSame :
          changed.displayName = changed.row.displayName
      · exact Or.inl hSame
      · apply Or.inr
        intro other hOther hApart hTaken
        apply hFree
        exact ⟨fun h => hSame h.symm, other, hOther, hApart,
          hTaken⟩
  constructor
  · intro hWrites
    exact ⟨hName.mp hWrites.name, hWrites.members⟩
  · intro hFree
    exact ⟨hName.mpr hFree.1, hFree.2⟩

theorem pendingIds_loaded :
    (loaded s group).pendingIds = [] := by
  rw [List.eq_nil_iff_forall_not_mem]
  intro userId hMem
  simp [mem_pendingIds, loadGroup] at hMem

theorem mem_pendingIds_withMembers
    {userId : Int} :
    userId ∈
        ((loaded s group).withMembers op userIds).pendingIds ↔
      userId ∈ userIds := by
  have hLoaded :
      Membership.pending userId ∉
        (loaded s group).memberships := by
    rw [← mem_pendingIds, pendingIds_loaded]
    exact List.not_mem_nil
  rw [mem_pendingIds]
  unfold LoadedGroup.withMembers
  by_cases hAdd : op = .add
  · simp [hAdd, hLoaded]
  · simp [hAdd]

/- A rename alone is written if the name is not taken. -/
theorem writes_renamed :
    LoadedGroup.Writes
        { loaded s group with displayName := displayName } s ↔
      ¬ NameTaken s group displayName := by
  rw [writes_iff_name]
  constructor
  · exact And.left
  · intro hFree
    refine ⟨hFree, ?_⟩
    intro userId hPending
    have hNone : userId ∈ (loaded s group).pendingIds :=
      hPending
    rw [pendingIds_loaded] at hNone
    cases hNone

theorem writes_both :
    LoadedGroup.Writes
        { (loaded s group).withMembers op userIds with
          displayName := displayName } s ↔
      ¬ NameTaken s group displayName ∧
        ∀ userId ∈ userIds,
          userId ∉ s.memberIdsOf group.id := by
  rw [writes_iff_name]
  apply and_congr Iff.rfl
  constructor
  · intro hFresh userId hUser
    exact hFresh userId (mem_pendingIds_withMembers.mpr hUser)
  · intro hFresh userId hPending
    exact hFresh userId (mem_pendingIds_withMembers.mp hPending)

/- Members that can be written change the set unless empty. -/
theorem members_eq_iff
    (hFresh :
      ∀ userId ∈ userIds, userId ∉ s.memberIdsOf group.id) :
    LoadedGroup.view
        { loaded s group with displayName := displayName } =
      LoadedGroup.view
        { (loaded s group).withMembers op userIds with
          displayName := displayName } ↔
      userIds = [] ∧
        (op = .add ∨ s.memberIdsOf group.id = []) := by
  have hView :
      LoadedGroup.view
          { loaded s group with displayName := displayName } =
        LoadedGroup.view
          { (loaded s group).withMembers op userIds with
            displayName := displayName } ↔
        ∀ userId,
          userId ∈ s.memberIdsOf group.id ↔
            userId ∈
              (if op = .add then
                s.memberIdsOf group.id
              else
                []) ++ userIds := by
    have hIds :=
      memberIds_withMembers (loaded s group) op userIds
    rw [memberIds_loaded] at hIds
    rw [← hIds, ← memberIds_loaded]
    unfold LoadedGroup.view
    rw [GroupView.mk.injEq, Finset.ext_iff]
    simp only [true_and, List.mem_toFinset]
    rfl
  rw [hView]
  constructor
  · intro hSame
    have hNone : userIds = [] := by
      rw [List.eq_nil_iff_forall_not_mem]
      intro userId hUser
      apply hFresh userId hUser
      exact (hSame userId).mpr (List.mem_append_right _ hUser)
    refine ⟨hNone, ?_⟩
    by_cases hAdd : op = .add
    · exact Or.inl hAdd
    · apply Or.inr
      rw [List.eq_nil_iff_forall_not_mem]
      intro userId hMember
      have hListed := (hSame userId).mp hMember
      rw [if_neg hAdd, hNone] at hListed
      cases hListed
  · rintro ⟨rfl, rfl | hEmpty⟩ userId
    · simp
    · simp [hEmpty]

end Scim

end AccessIQ

------------------------------------------------------------
-- Agreement
------------------------------------------------------------

namespace AccessIQ

namespace Scim

open Foundations Python

variable [Platform]
variable {ctx : RequestContext}
variable {s : Store}
variable {groupId : String}
variable {group : Group}
variable {op : PatchOp}
variable {nameFirst : Bool}
variable {displayName : String}
variable {userIds : List Int}

omit [Platform] in
theorem aboutMember_ne_duplicate
    {exc : PyException}
    (hAbout : AboutMember exc)
    {name : String}
    {found : Group} :
    exc ≠ .groupService (.duplicateGroup name found) := by
  rcases hAbout with ⟨userId, rfl | rfl⟩
  · exact nofun
  · exact nofun

omit [Platform] in
theorem aboutMember_ne_database
    {exc : PyException}
    (hAbout : AboutMember exc)
    {e : DatabaseError} :
    exc ≠ .database e := by
  rcases hAbout with ⟨userId, rfl | rfl⟩
  · exact nofun
  · exact nofun

/-
  The rename alone and the two operations, on a stored group
  that may not take the name.
-/
theorem agree_of_renameRefused
    (hFind : s.findGroup groupId = some group)
    (hOp : op ≠ .remove)
    (hRefused : RenameRefused s group displayName) :
    groupResult
        (patchGroup ctx groupId [.displayName op displayName])
        s =
      groupResult
        (patchGroup ctx groupId
          (bothOperations op nameFirst displayName userIds))
        s ↔
      MembersImmaterial s group op nameFirst displayName
        userIds := by
  have hIff :
      MembersImmaterial s group op nameFirst displayName
          userIds ↔
        nameFirst = true ∨
          MembersAccepted s op (loaded s group).memberIds
            userIds := by
    rw [memberIds_loaded]
    simp [MembersImmaterial, hRefused]
  rw [hIff]
  rcases
    @rename_refused _ s (loaded s group) op displayName hOp rfl
      hRefused with
    ⟨found, hFound, hName⟩
  rw [patchGroup_result_of_error hFind (forEach_error hName)]
  by_cases hReached :
      nameFirst = true ∨
        MembersAccepted s op (loaded s group).memberIds
          userIds
  · rcases
      @both_renameRefused s (loaded s group) _ op nameFirst
        displayName userIds hOp rfl hRefused hReached with
      ⟨found', hFound', hBoth⟩
    rw [patchGroup_result_of_error hFind hBoth]
    rw [hFound] at hFound'
    cases hFound'
    exact iff_of_true rfl hReached
  · rw [not_or] at hReached
    rcases
      @both_membersRefused s (loaded s group) _ op nameFirst
        displayName userIds hOp rfl
        (fun hFirst => absurd hFirst hReached.1)
        hReached.2 with
      ⟨exc, hAbout, hBoth⟩
    rw [patchGroup_result_of_error hFind hBoth]
    apply iff_of_false
    · intro hSame
      apply aboutMember_ne_duplicate hAbout
      exact (Except.error.inj hSame).symm
    · rw [not_or]
      exact hReached

/- On a stored group whose rename is not refused. -/
theorem agree_of_renamed
    (hFind : s.findGroup groupId = some group)
    (hOp : op ≠ .remove)
    (hRename : ¬ RenameRefused s group displayName) :
    groupResult
        (patchGroup ctx groupId [.displayName op displayName])
        s =
      groupResult
        (patchGroup ctx groupId
          (bothOperations op nameFirst displayName userIds))
        s ↔
      MembersImmaterial s group op nameFirst displayName
        userIds := by
  have hIff :
      MembersImmaterial s group op nameFirst displayName
          userIds ↔
        (NameTaken s group displayName ∧
            MembersAccepted s op (loaded s group).memberIds
              userIds) ∨
          (¬ NameTaken s group displayName ∧
            userIds = [] ∧
            (op = .add ∨ s.memberIdsOf group.id = [])) := by
    rw [memberIds_loaded]
    simp [MembersImmaterial, hRename]
  rw [hIff]
  rcases
    @rename_accepted _ s (loaded s group) op displayName hOp
      rfl hRename with
    ⟨_, hName⟩
  have hDone :
      ∃ later,
        (forEach applyGroupOperation
            { loaded s group with displayName := displayName }
            []).reading s =
          some
            (.ok
              ({ loaded s group with
                  displayName := displayName },
                later)) :=
    ⟨[], rfl⟩
  rcases forEach_ok hName hDone with ⟨_, hAlone⟩
  by_cases hAccepted :
      MembersAccepted s op (loaded s group).memberIds userIds
  · rcases
      @both_accepted s (loaded s group) _ op nameFirst
        displayName userIds hOp rfl hRename hAccepted with
      ⟨_, hBoth⟩
    by_cases hTaken : NameTaken s group displayName
    · rw [patchGroup_result_of_refused hFind hAlone
          (fun h => writes_renamed.mp h hTaken),
        patchGroup_result_of_refused hFind hBoth
          (fun h => (writes_both.mp h).1 hTaken)]
      exact iff_of_true rfl (Or.inl ⟨hTaken, hAccepted⟩)
    · rw [patchGroup_result_of_ok hFind hAlone
          (writes_renamed.mpr hTaken)]
      by_cases hFresh :
          ∀ userId ∈ userIds,
            userId ∉ s.memberIdsOf group.id
      · rw [patchGroup_result_of_ok hFind hBoth
            (writes_both.mpr ⟨hTaken, hFresh⟩),
          Except.ok.injEq, Option.some.injEq,
          members_eq_iff hFresh]
        simp [hTaken]
      · rw [patchGroup_result_of_refused hFind hBoth
          (fun h => hFresh (writes_both.mp h).2)]
        apply iff_of_false
        · exact nofun
        · rintro (⟨hName, -⟩ | ⟨-, rfl, -⟩)
          · exact hTaken hName
          · apply hFresh
            simp
  · rcases
      @both_membersRefused s (loaded s group) _ op nameFirst
        displayName userIds hOp rfl (fun _ => hRename)
        hAccepted with
      ⟨exc, hAbout, hBoth⟩
    rw [patchGroup_result_of_error hFind hBoth]
    apply iff_of_false
    · intro hSame
      by_cases hTaken : NameTaken s group displayName
      · rw [patchGroup_result_of_refused hFind hAlone
          (fun h => writes_renamed.mp h hTaken)] at hSame
        apply aboutMember_ne_database hAbout
        exact (Except.error.inj hSame).symm
      · rw [patchGroup_result_of_ok hFind hAlone
          (writes_renamed.mpr hTaken)] at hSame
        cases hSame
    · rintro (⟨-, hListed⟩ | ⟨-, rfl, -⟩)
      · exact hAccepted hListed
      · apply hAccepted
        exact ⟨⟨List.nodup_nil, by simp⟩, by simp⟩

/- The rename alone and the two operations. -/
theorem agree_iff
    (hOp : op ≠ .remove) :
    groupResult
        (patchGroup ctx groupId [.displayName op displayName])
        s =
      groupResult
        (patchGroup ctx groupId
          (bothOperations op nameFirst displayName userIds))
        s ↔
      ∀ group,
        s.findGroup groupId = some group →
          MembersImmaterial s group op nameFirst displayName
            userIds := by
  cases hFind : s.findGroup groupId with
  | none =>
      rw [patchGroup_result_of_unknown hFind,
        patchGroup_result_of_unknown hFind]
      exact iff_of_true rfl nofun
  | some group =>
      have hAll :
          (∀ g, some group = some g →
            MembersImmaterial s g op nameFirst displayName
              userIds) ↔
            MembersImmaterial s group op nameFirst displayName
              userIds := by
        constructor
        · intro hEvery
          exact hEvery group rfl
        · intro hOne g hSame
          cases hSame
          exact hOne
      rw [hAll]
      by_cases hRename : RenameRefused s group displayName
      · exact agree_of_renameRefused hFind hOp hRename
      · exact agree_of_renamed hFind hOp hRename

end Scim

end AccessIQ

------------------------------------------------------------
-- Operations Without A Path
------------------------------------------------------------

namespace AccessIQ

namespace Scim

open Foundations Python

variable [Platform]
variable {ctx : RequestContext}
variable {s : Store}
variable {groupId rawOp : String}
variable {op : PatchOp}
variable {operation value rest : JsonObject}

theorem groupPatchResult_congr
    {payload payload' : Json}
    (hParse :
      parseGroupPatchPayload payload =
        parseGroupPatchPayload payload') :
    groupPatchResult ctx s groupId payload =
      groupPatchResult ctx s groupId payload' := by
  unfold groupPatchResult groupPatch
  rw [hParse]

theorem parse_one
    (operation : Json) :
    parseGroupPatchPayload (patchPayload rest [operation]) =
      (parseGroupPatchOperation operation).map
        fun parsed => [parsed] := by
  rw [parse_patchPayload, List.mapM_cons, List.mapM_nil]
  cases parseGroupPatchOperation operation with
  | error exc => rfl
  | ok parsed => rfl

theorem parse_two_ok
    {first second : Json}
    {a b : GroupPatchOperation}
    (hFirst : parseGroupPatchOperation first = .ok a)
    (hSecond : parseGroupPatchOperation second = .ok b) :
    parseGroupPatchPayload
        (patchPayload rest [first, second]) =
      .ok [a, b] := by
  rw [parse_patchPayload, List.mapM_cons, List.mapM_cons,
    List.mapM_nil, hFirst, hSecond]
  rfl

theorem parse_two_error
    {first second : Json}
    {exc : PyException}
    (hFirst : parseGroupPatchOperation first = .error exc) :
    parseGroupPatchPayload
        (patchPayload rest [first, second]) =
      .error exc := by
  rw [parse_patchPayload, List.mapM_cons, hFirst]
  rfl

theorem parse_two_later_error
    {first second : Json}
    {a : GroupPatchOperation}
    {exc : PyException}
    (hFirst : parseGroupPatchOperation first = .ok a)
    (hSecond : parseGroupPatchOperation second = .error exc) :
    parseGroupPatchPayload
        (patchPayload rest [first, second]) =
      .error exc := by
  rw [parse_patchPayload, List.mapM_cons, List.mapM_cons,
    hFirst, hSecond]
  rfl

/- The operations on both attributes of an object. -/
def bothPathed
    (rawOp : String)
    (nameFirst : Bool)
    (displayName members : Json) :
    List Json :=
  if nameFirst = true then
    [pathedOperation rawOp ("displayName", displayName),
      pathedOperation rawOp ("members", members)]
  else
    [pathedOperation rawOp ("members", members),
      pathedOperation rawOp ("displayName", displayName)]

/-
  An exception while the two operations are parsed: the first
  that is malformed raises.
-/
theorem parse_bothPathed_error
    (hNamed : PatchOp.named (Platform.lower rawOp) = some op)
    (hOp : op ≠ .remove)
    {nameFirst : Bool}
    {displayName members : Json}
    {exc : PyException}
    (hRaises :
      (parseGroupDisplayName displayName = .error exc ∧
          (nameFirst = true ∨
            ∃ userIds,
              parseMemberPatchValue members = .ok userIds)) ∨
        (parseMemberPatchValue members = .error exc ∧
          (nameFirst = false ∨
            ∃ name,
              parseGroupDisplayName displayName =
                .ok name))) :
    parseGroupPatchPayload
        (patchPayload rest
          (bothPathed rawOp nameFirst displayName members)) =
      .error exc := by
  have hName := parse_pathed_displayName hNamed hOp displayName
  have hMembers := parse_pathed_members hNamed hOp members
  rcases hRaises with ⟨hError, hReached⟩ | ⟨hError, hReached⟩
  · rw [hError] at hName
    cases nameFirst with
    | true => exact parse_two_error hName
    | false =>
        rcases hReached with hFalse | ⟨userIds, hOk⟩
        · cases hFalse
        · rw [hOk] at hMembers
          exact parse_two_later_error hMembers hName
  · rw [hError] at hMembers
    cases nameFirst with
    | false => exact parse_two_error hMembers
    | true =>
        rcases hReached with hFalse | ⟨name, hOk⟩
        · cases hFalse
        · rw [hOk] at hName
          exact parse_two_later_error hName hMembers

theorem parse_bothPathed_ok
    (hNamed : PatchOp.named (Platform.lower rawOp) = some op)
    (hOp : op ≠ .remove)
    {nameFirst : Bool}
    {displayName members : Json}
    {name : String}
    {userIds : List Int}
    (hName : parseGroupDisplayName displayName = .ok name)
    (hMembers : parseMemberPatchValue members = .ok userIds) :
    parseGroupPatchPayload
        (patchPayload rest
          (bothPathed rawOp nameFirst displayName members)) =
      .ok (bothOperations op nameFirst name userIds) := by
  have hFirst := parse_pathed_displayName hNamed hOp displayName
  have hSecond := parse_pathed_members hNamed hOp members
  rw [hName] at hFirst
  rw [hMembers] at hSecond
  cases nameFirst with
  | true => exact parse_two_ok hFirst hSecond
  | false => exact parse_two_ok hSecond hFirst

/- A result is no exception of the parser. -/
theorem patchGroup_result_ne_invalid
    (hOp : op ≠ .remove)
    {name text : String} :
    groupResult
        (patchGroup ctx groupId [.displayName op name]) s ≠
      .error (invalidPayload text) := by
  cases hFind : s.findGroup groupId with
  | none =>
      rw [patchGroup_result_of_unknown hFind]
      exact nofun
  | some group =>
      by_cases hRename : RenameRefused s group name
      · rcases
          @rename_refused _ s (loaded s group) op name hOp rfl
            hRename with
          ⟨found, -, hName⟩
        rw [patchGroup_result_of_error hFind
          (forEach_error hName)]
        exact nofun
      · rcases
          @rename_accepted _ s (loaded s group) op name hOp
            rfl hRename with
          ⟨_, hName⟩
        have hDone :
            ∃ later,
              (forEach applyGroupOperation
                  { loaded s group with displayName := name }
                  []).reading s =
                some
                  (.ok
                    ({ loaded s group with
                        displayName := name },
                      later)) :=
          ⟨[], rfl⟩
        rcases forEach_ok hName hDone with ⟨_, hAlone⟩
        by_cases hTaken : NameTaken s group name
        · rw [patchGroup_result_of_refused hFind hAlone
            (fun h => writes_renamed.mp h hTaken)]
          exact nofun
        · rw [patchGroup_result_of_ok hFind hAlone
            (writes_renamed.mpr hTaken)]
          exact nofun

/- An object with both attributes is cut to the name. -/
theorem bothPathed_agree_iff
    (hNamed : PatchOp.named (Platform.lower rawOp) = some op)
    (hOp : op ≠ .remove)
    {payload : Json}
    {nameFirst : Bool}
    {displayName members : Json}
    (hParse :
      parseGroupPatchPayload payload =
        (parseGroupDisplayName displayName).map
          fun name => [.displayName op name]) :
    groupPatchResult ctx s groupId payload =
        groupPatchResult ctx s groupId
          (patchPayload rest
            (bothPathed rawOp nameFirst displayName
              members)) ↔
      BothAgree s groupId op nameFirst displayName members := by
  unfold BothAgree
  cases hName : parseGroupDisplayName displayName with
  | error exc =>
      rw [hName] at hParse
      rw [groupPatchResult_of_malformed hParse]
      cases hMembers : parseMemberPatchValue members with
      | ok userIds =>
          rw [groupPatchResult_of_malformed
            (parse_bothPathed_error hNamed hOp
              (Or.inl ⟨hName, Or.inr ⟨userIds, hMembers⟩⟩))]
          exact iff_of_true rfl trivial
      | error exc' =>
          cases nameFirst with
          | true =>
              rw [groupPatchResult_of_malformed
                (parse_bothPathed_error hNamed hOp
                  (Or.inl ⟨hName, Or.inl rfl⟩))]
              exact iff_of_true rfl rfl
          | false =>
              rw [groupPatchResult_of_malformed
                (parse_bothPathed_error hNamed hOp
                  (Or.inr ⟨hMembers, Or.inl rfl⟩))]
              apply iff_of_false
              · intro hSame
                exact malformed_ne hName hMembers
                  (Except.error.inj hSame)
              · exact Bool.false_ne_true
  | ok name =>
      rw [hName] at hParse
      rw [groupPatchResult_of_parsed hParse]
      cases hMembers : parseMemberPatchValue members with
      | ok userIds =>
          rw [groupPatchResult_of_parsed
            (parse_bothPathed_ok hNamed hOp hName hMembers)]
          exact agree_iff hOp
      | error exc =>
          rw [groupPatchResult_of_malformed
            (parse_bothPathed_error hNamed hOp
              (Or.inr ⟨hMembers, Or.inr ⟨name, hName⟩⟩))]
          rcases parseMemberPatchValue_error hMembers with
            ⟨text, -, rfl⟩
          exact iff_of_false (patchGroup_result_ne_invalid hOp)
            not_false

/-
  A PATCH of one operation without a path comes to the same
  as the PATCH of its attributes exactly if the members make
  no difference.
-/
theorem pathless_agrees_iff
    (ctx : RequestContext)
    (s : Store)
    (groupId rawOp : String)
    (op : PatchOp)
    (rest operation value : JsonObject)
    (hPathless :
      PathlessOperation operation rawOp op value) :
    groupPatchResult ctx s groupId
          (patchPayload rest [.object operation]) =
        groupPatchResult ctx s groupId
          (patchPayload rest (pathedOperations rawOp value)) ↔
      PathlessAgrees s groupId op value := by
  have hNamed := hPathless.named
  have hOp := hPathless.changes
  have hCarries :=
    carried_cases hPathless.nodup hPathless.carries
  have hName :=
    get?_carriedAttributes value (Or.inl rfl)
  have hMembers :=
    get?_carriedAttributes value (Or.inr rfl)
  have hParse :=
    (@parse_one _ rest (.object operation)).trans
      (congrArg (Except.map fun parsed => [parsed])
        (parse_pathlessOperation hPathless))
  unfold parsePathlessGroupOperation at hParse
  simp only [← hName, ← hMembers] at hParse
  unfold pathedOperations PathlessAgrees
  generalize carriedAttributes value = carried
    at hCarries hParse ⊢
  cases hCarries with
  | name displayName =>
      apply iff_of_true _ trivial
      apply groupPatchResult_congr
      rw [hParse]
      exact
        (congrArg (Except.map fun parsed => [parsed])
            (parse_pathed_displayName hNamed hOp
              displayName)).symm.trans
          (parse_one _).symm
  | members members =>
      apply iff_of_true _ trivial
      apply groupPatchResult_congr
      rw [hParse]
      exact
        (congrArg (Except.map fun parsed => [parsed])
            (parse_pathed_members hNamed hOp
              members)).symm.trans
          (parse_one _).symm
  | nameFirst displayName members =>
      apply @bothPathed_agree_iff _ _ _ _ _ _ _ hNamed hOp _
        true
      rw [hParse]
      cases hDisplay : parseGroupDisplayName displayName with
      | error exc => simp [JsonObject.get?, hDisplay, Except.map]
      | ok name => simp [JsonObject.get?, hDisplay, Except.map]
  | membersFirst displayName members =>
      apply @bothPathed_agree_iff _ _ _ _ _ _ _ hNamed hOp _
        false
      rw [hParse]
      cases hDisplay : parseGroupDisplayName displayName with
      | error exc => simp [JsonObject.get?, hDisplay, Except.map]
      | ok name => simp [JsonObject.get?, hDisplay, Except.map]

end Scim

end AccessIQ

------------------------------------------------------------
-- Members That Are Dropped
------------------------------------------------------------

namespace AccessIQ

namespace Scim

open Foundations Python

attribute [local instance] asciiPlatform

def patchContext : RequestContext where
  correlationId := "request-1"
  now := 0
  subject := 4

/- A new name for the group, and another member. -/
def nameAndMembers : JsonObject :=
  [("displayName", .string "Field Sales"),
    ("members",
      .array [.object [("value", .string "2")]])]

def replaceNameAndMembers : JsonObject :=
  [("op", .string "replace"),
    ("value", .object nameAndMembers)]

theorem pathless_replaceNameAndMembers :
    PathlessOperation replaceNameAndMembers "replace" .replace
      nameAndMembers where
  opText := rfl
  named := by decide +kernel
  changes := nofun
  noPath := rfl
  object := rfl
  nodup := by decide +kernel
  carries := Or.inl rfl

/-
  The members of the operation are dropped: the group keeps
  its first member, while the two operations with paths
  replace it.
-/
theorem pathless_members_dropped :
    PathlessOperation replaceNameAndMembers "replace"
        .replace nameAndMembers ∧
      (groupPatchResult patchContext salesStore "1"
          (patchPayload []
            [.object replaceNameAndMembers])).toOption =
        some (some ⟨"Field Sales", {1}⟩) ∧
      (groupPatchResult patchContext salesStore "1"
          (patchPayload []
            (pathedOperations "replace"
              nameAndMembers))).toOption =
        some (some ⟨"Field Sales", {2}⟩) ∧
      groupPatchResult patchContext salesStore "1"
          (patchPayload []
            [.object replaceNameAndMembers]) ≠
        groupPatchResult patchContext salesStore "1"
          (patchPayload []
            (pathedOperations "replace"
              nameAndMembers)) := by
  have hPathless :
      (groupPatchResult patchContext salesStore "1"
          (patchPayload []
            [.object replaceNameAndMembers])).toOption =
        some (some ⟨"Field Sales", {1}⟩) := by
    decide +kernel
  have hPathed :
      (groupPatchResult patchContext salesStore "1"
          (patchPayload []
            (pathedOperations "replace"
              nameAndMembers))).toOption =
        some (some ⟨"Field Sales", {2}⟩) := by
    decide +kernel
  refine ⟨pathless_replaceNameAndMembers, hPathless, hPathed,
    ?_⟩
  intro hSame
  rw [hSame, hPathed] at hPathless
  revert hPathless
  decide +kernel

/- A rename alone is applied in full. -/
theorem pathless_agrees_iff_rename :
    groupPatchResult patchContext salesStore "1"
        (patchPayload []
          [.object
            [("op", .string "replace"),
              ("value",
                .object
                  [("displayName",
                    .string "Field Sales")])]]) =
      groupPatchResult patchContext salesStore "1"
        (patchPayload []
          (pathedOperations "replace"
            [("displayName", .string "Field Sales")])) := by
  apply
    (pathless_agrees_iff patchContext salesStore "1" "replace"
      .replace [] _ _
      { opText := rfl
        named := by decide +kernel
        changes := nofun
        noPath := rfl
        object := rfl
        nodup := by decide +kernel
        carries := Or.inl rfl }).mpr
  trivial

end Scim

end AccessIQ
