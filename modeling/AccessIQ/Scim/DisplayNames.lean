import AccessIQ.Scim.FilterLiterals
import AccessIQ.Scim.GroupResults
import AccessIQ.Scim.Listing
import AccessIQ.Scim.PathlessPatch
import AccessIQ.Scim.Replay
import AccessIQ.Users

/-
  Case folding of display names.

  The database lowers the stored name and Python the one that
  is asked for.  SQLite lowers ASCII letters only, so that a
  group is found under its own name exactly when Python
  lowers no other letter of it.

  Key definitions include:
    * `NamedLike`
    * `NamesDistinct`
    * `AnswersDuplicate`
    * `FoldingAgrees`

  Key theorems include:
    * `GroupChange.namesDistinct`
    * `reached_namesDistinct`
    * `folding_agrees_iff`
-/

------------------------------------------------------------
-- Names
------------------------------------------------------------

namespace AccessIQ

namespace Scim

open Foundations Python

variable [Platform]

/- The query for a display name selects the group. -/
def NamedLike
    (s : Store)
    (displayName : String)
    (group : Group) : Prop :=
  s.dialect.lower group.displayName =
    Platform.lower displayName

/- At most one group is selected for any display name. -/
def NamesDistinct
    (s : Store) : Prop :=
  ∀ displayName,
    ∀ group ∈ s.groups.rows, ∀ other ∈ s.groups.rows,
      NamedLike s displayName group →
        NamedLike s displayName other →
          group = other

variable {s s' : Store}
variable {displayName : String}
variable {group : Group}

theorem findGroupByDisplayName_some
    {found : Group}
    (hFind :
      s.findGroupByDisplayName displayName = some found) :
    found ∈ s.groups.rows ∧
      NamedLike s displayName found := by
  unfold Store.findGroupByDisplayName at hFind
  refine ⟨List.mem_of_find?_eq_some hFind, ?_⟩
  have hFound := List.find?_some hFind
  exact beq_iff_eq.mp hFound

/- A group that the query selects is the one it returns. -/
theorem findGroupByDisplayName_of_distinct
    (hDistinct : NamesDistinct s)
    (hGroup : group ∈ s.groups.rows)
    (hNamed : NamedLike s displayName group) :
    s.findGroupByDisplayName displayName = some group := by
  cases hFind : s.findGroupByDisplayName displayName with
  | none =>
      unfold Store.findGroupByDisplayName at hFind
      have hNot := List.find?_eq_none.mp hFind group hGroup
      exact absurd (beq_iff_eq.mpr hNamed) hNot
  | some found =>
      rcases findGroupByDisplayName_some hFind with
        ⟨hFound, hNamedFound⟩
      rw [hDistinct displayName found hFound group hGroup
        hNamedFound hNamed]

/- The name of a group row was checked, or is the old one. -/
def NameChecked
    (s : Store)
    (row : Group) : Prop :=
  DisplayNameFree s row.displayName (some row.id) ∨
    ∃ old, s.groups.get? row.id = some old ∧
      old.displayName = row.displayName

theorem GroupStep.nameChecked
    {group changed : LoadedGroup}
    {events : List EventKind}
    (hStep : GroupStep s group changed events) :
    changed.displayName = group.displayName ∨
      DisplayNameFree s changed.displayName
        (some group.id) := by
  cases hStep with
  | renamed displayName hFree => exact Or.inr hFree
  | added => exact Or.inl rfl
  | removed => exact Or.inl rfl
  | replaced => exact Or.inl rfl

theorem GroupSteps.nameChecked
    {group changed : LoadedGroup}
    {events : List EventKind}
    (hSteps : GroupSteps s group changed events) :
    changed.displayName = group.displayName ∨
      DisplayNameFree s changed.displayName
        (some group.id) := by
  induction hSteps with
  | refl group => exact Or.inl rfl
  | @cons group group' changed events later hStep hSteps ih =>
      have hId : group'.id = group.id := by
        cases hStep <;> rfl
      rw [hId] at ih
      rcases ih with hSame | hFree
      · rw [hSame]
        exact hStep.nameChecked
      · exact Or.inr hFree

/- A change of a group stores a row whose name is checked. -/
theorem GroupChange.stores
    {ctx : RequestContext}
    {groupId : Int}
    {events : List EventKind}
    (hGrounded : Grounded s)
    (hChange : GroupChange ctx s groupId events s') :
    ∃ row,
      s.groups.Stores s'.groups row ∧ NameChecked s row := by
  cases hChange with
  | created displayName memberIds s' hFree hLists hFlushed
      hEq =>
      have hNew := hFlushed hGrounded.membershipsOf_createdGroup
      refine ⟨_, hNew.groups, Or.inl ?_⟩
      intro found hFind
      cases hFree found hFind
  | changed group changed events s' hGet hSteps hFlushed =>
      refine ⟨_, hFlushed.groups, ?_⟩
      have hTracks := hSteps.tracks (tracks_loadGroup hGet)
      have hId : (changed.written ctx).id = group.id := by
        rw [LoadedGroup.id_written]
        exact hTracks.2
      unfold NameChecked
      rw [hId, LoadedGroup.displayName_written]
      rcases hSteps.nameChecked with hSame | hFree
      · exact Or.inr ⟨group, hGet, hSame.symm⟩
      · exact Or.inl hFree

end Scim

end AccessIQ

------------------------------------------------------------
-- Distinct Names
------------------------------------------------------------

namespace AccessIQ

namespace Scim

open Foundations Python

variable [Platform]
variable {s s' : Store}

theorem namesDistinct_congr
    (hGroups : s'.groups = s.groups)
    (hDialect : s'.dialect = s.dialect)
    (hDistinct : NamesDistinct s) :
    NamesDistinct s' := by
  unfold NamesDistinct NamedLike at *
  rw [hGroups, hDialect]
  exact hDistinct

/-
  What a group is asked for by selects what its own name
  does, if Python lowers what the database has lowered as it
  lowers the text itself.
-/
theorem NamedLike.of_same
    {displayName : String}
    {group other : Group}
    (hLower :
      ∀ text,
        Platform.lower (s.dialect.lower text) =
          Platform.lower text)
    (hGroup : NamedLike s displayName group)
    (hOther : NamedLike s displayName other) :
    NamedLike s group.displayName other := by
  unfold NamedLike at *
  calc
    s.dialect.lower other.displayName =
        Platform.lower displayName := hOther
    _ = Platform.lower (Platform.lower displayName) :=
        (Platform.lower_lower displayName).symm
    _ = Platform.lower
          (s.dialect.lower group.displayName) := by
        rw [hGroup]
    _ = Platform.lower group.displayName := hLower _

/- A stored row with a checked name keeps names distinct. -/
theorem namesDistinct_stores
    {row : Group}
    (hLower :
      ∀ text,
        Platform.lower (s.dialect.lower text) =
          Platform.lower text)
    (hDistinct : NamesDistinct s)
    (hDialect : s'.dialect = s.dialect)
    (hStores : s.groups.Stores s'.groups row)
    (hChecked : NameChecked s row) :
    NamesDistinct s' := by
  have hApart :
      ∀ displayName, ∀ other ∈ s.groups.rows,
        other.id ≠ row.id →
          NamedLike s displayName row →
            NamedLike s displayName other → False := by
    intro displayName other hOther hNe hRowNamed hOtherNamed
    rcases hChecked with hFree | ⟨old, hOld, hName⟩
    · have hFound :=
        findGroupByDisplayName_of_distinct hDistinct hOther
          (hRowNamed.of_same hLower hOtherNamed)
      have hSelf := hFree other hFound
      exact hNe (Option.some.inj hSelf).symm
    · have hOldNamed : NamedLike s displayName old := by
        unfold NamedLike at *
        rw [hName]
        exact hRowNamed
      have hSame :=
        hDistinct displayName old (Table.mem_of_get? hOld)
          other hOther hOldNamed hOtherNamed
      have hOldId : old.id = row.id := Table.id_of_get? hOld
      rw [hSame] at hOldId
      exact hNe hOldId
  have hNamed :
      ∀ displayName group,
        NamedLike s' displayName group ↔
          NamedLike s displayName group := by
    intro displayName group
    unfold NamedLike
    rw [hDialect]
  intro displayName group hGroup other hOther hA hB
  rw [hNamed] at hA hB
  rcases (hStores group).mp hGroup with
    rfl | ⟨hGroup, hGroupNe⟩
  · rcases (hStores other).mp hOther with
      rfl | ⟨hOther, hOtherNe⟩
    · rfl
    · exact (hApart displayName other hOther hOtherNe hA
        hB).elim
  · rcases (hStores other).mp hOther with
      rfl | ⟨hOther, hOtherNe⟩
    · exact (hApart displayName group hGroup hGroupNe hB
        hA).elim
    · exact hDistinct displayName group hGroup other hOther
        hA hB

/- What a run of requests keeps. -/
structure NamesKept
    (s : Store) : Prop where
  dialect : s.dialect = .sqlite
  grounded : Grounded s
  distinct : NamesDistinct s

theorem ScimEffect.namesKept
    {events : List DomainEvent}
    (hLower :
      ∀ text,
        Platform.lower (asciiLower text) =
          Platform.lower text)
    (hEffect : ScimEffect s events s')
    (hKept : NamesKept s) :
    NamesKept s' := by
  have hGrounded := hEffect.grounded hKept.grounded
  have hStoreLower :
      ∀ text,
        Platform.lower (s.dialect.lower text) =
          Platform.lower text := by
    rw [hKept.dialect]
    exact hLower
  cases hEffect with
  | none => exact hKept
  | denied =>
      exact ⟨hKept.dialect, hGrounded,
        namesDistinct_congr rfl rfl hKept.distinct⟩
  | user ctx userId events s' hMutated =>
      cases hMutated with
      | created _ _ _ _ _ _ _ _ hStep =>
          exact ⟨by rw [hStep.eq]; exact hKept.dialect,
            hGrounded,
            namesDistinct_congr (by rw [hStep.eq])
              (by rw [hStep.eq]) hKept.distinct⟩
      | changed _ _ _ _ _ _ _ _ hStep =>
          exact ⟨by rw [hStep.eq]; exact hKept.dialect,
            hGrounded,
            namesDistinct_congr (by rw [hStep.eq])
              (by rw [hStep.eq]) hKept.distinct⟩
  | group ctx groupId events s' hMutated =>
      cases hMutated with
      | mutated events s₁ auditEvents' hChange =>
          rcases hChange.stores hKept.grounded with
            ⟨row, hStores, hChecked⟩
          have hDialect : s₁.dialect = s.dialect := by
            rw [hChange.eq]
          have hNext :=
            namesDistinct_stores hStoreLower hKept.distinct
              hDialect hStores hChecked
          exact ⟨hDialect.trans hKept.dialect, hGrounded,
            @namesDistinct_congr _ s₁ _ rfl rfl hNext⟩

/- The store after a request. -/
def directoryStore
    (s : Store)
    (request : DirectoryRequest × Environment) :
    Store :=
  (serveDirectory s request).1

theorem namesKept_directoryStore
    (hLower :
      ∀ text,
        Platform.lower (asciiLower text) =
          Platform.lower text)
    (s : Store)
    (request : DirectoryRequest × Environment)
    (hKept : NamesKept s) :
    NamesKept (directoryStore s request) := by
  have hEffect := directoryEffect s request
  unfold directoryStore
  generalize serveDirectory s request = served at hEffect ⊢
  rcases served with ⟨s', events⟩
  cases hEffect with
  | registered userData users' hFree hUsers =>
      exact ⟨hKept.dialect,
        grounded_congr rfl rfl hKept.grounded,
        namesDistinct_congr rfl rfl hKept.distinct⟩
  | scim _ _ hEffect =>
      exact ScimEffect.namesKept hLower hEffect hKept

/- In a run that begins without groups, names are distinct. -/
theorem reached_namesDistinct
    {start : Store}
    (hDialect : start.dialect = .sqlite)
    (hGroups : start.groups.rows = [])
    (hMembers : start.groupMembers.rows = [])
    (hLower :
      ∀ text,
        Platform.lower (asciiLower text) =
          Platform.lower text)
    (requests : List (DirectoryRequest × Environment)) :
    NamesKept (serveAll directoryStore start requests) := by
  apply serveAll_invariant (namesKept_directoryStore hLower)
  constructor
  · exact hDialect
  · intro groupId userId hMember
    unfold Store.memberIdsOf Store.membershipsOf at hMember
    rw [hMembers] at hMember
    cases hMember
  · intro displayName group hGroup
    rw [hGroups] at hGroup
    cases hGroup

end Scim

end AccessIQ

------------------------------------------------------------
-- Agreement
------------------------------------------------------------

namespace AccessIQ

namespace Scim

open Foundations Python

/- A body that reads and then raises is served so. -/
theorem serve_result_of_reading
    {α : Type}
    {body : Handler α}
    {s : Store}
    {r : Except PyException α}
    (hReading : body.reading s = some r)
    (env : Environment) :
    (body.serve env s).result = r := by
  have hWp :
      body.wp env.world
        (fun result _ => result = r)
        (Moment.start s) := by
    unfold Moment.start
    rw [Program.wp_of_reading hReading]
  exact
    @Program.serve_of_wp _ _ _ _ _ _ _ _ env.conforms_world _
      _ (fun result _ _ => result = r) hWp

/-
  The service raises `DuplicateGroupError`, which the routes
  answer with 409.
-/
def AnswersDuplicate
    (displayName : String)
    (served : Response (Int × List DomainEvent)) : Prop :=
  ∃ existing : Group,
    served.result =
      .error
        (.groupService (.duplicateGroup displayName existing))

variable [Platform]

/-
  The group is selected by its own name, and no group is
  created or renamed to a name that is equal to it up to
  Python's lower case.
-/
structure FoldingAgrees
    (s : Store)
    (group : Group) : Prop where
  selected :
    ∀ encoded, JsonEncodes group.displayName encoded →
      ∃ matching,
        matchingGroups s (some ("displayName eq " ++ encoded)) =
          .ok matching ∧
        group ∈ matching
  created :
    ∀ env ctx displayName memberIds,
      Platform.lower displayName =
          Platform.lower group.displayName →
        AnswersDuplicate displayName
          ((createGroup ctx displayName memberIds).serve env s)
  replaced :
    ∀ env ctx groupId other displayName memberIds,
      s.findGroup groupId = some other →
        other ≠ group → displayName ≠ other.displayName →
          Platform.lower displayName =
              Platform.lower group.displayName →
            AnswersDuplicate displayName
              ((replaceGroup ctx groupId displayName
                memberIds).serve env s)
  patched :
    ∀ env ctx groupId other displayName op,
      s.findGroup groupId = some other →
        other ≠ group → displayName ≠ other.displayName →
          op ≠ PatchOp.remove →
            Platform.lower displayName =
                Platform.lower group.displayName →
              AnswersDuplicate displayName
                ((patchGroup ctx groupId
                  [.displayName op displayName]).serve env s)

variable {s : Store}
variable {group : Group}

/- What the filter on a display name selects. -/
theorem matchingGroups_displayName
    {displayName encoded : String}
    (hEncodes : JsonEncodes displayName encoded) :
    matchingGroups s (some ("displayName eq " ++ encoded)) =
      .ok
        (s.groups.rows.filter fun other =>
          s.dialect.lower other.displayName ==
            Platform.lower displayName) := by
  have hText :
      filterText "" "displayName" " " "eq" " " encoded "" =
        "displayName eq " ++ encoded := by
    unfold filterText
    rw [String.append_empty]
    rfl
  have hParsed :=
    @parseScimFilter_of_parts _ groupFilterOperators (by decide)
      "displayName" "eq" ["eq", "co"] rfl (by decide)
      (by decide) displayName encoded hEncodes "" " " " " ""
      (by decide) ⟨by decide, by decide⟩
      ⟨by decide, by decide⟩ (by decide)
  rw [hText] at hParsed
  unfold matchingGroups
  rw [hParsed]
  rfl

theorem selected_iff
    (hGroup : group ∈ s.groups.rows)
    {encoded : String}
    (hEncodes : JsonEncodes group.displayName encoded) :
    (∃ matching,
        matchingGroups s
            (some ("displayName eq " ++ encoded)) =
          .ok matching ∧
        group ∈ matching) ↔
      NamedLike s group.displayName group := by
  rw [matchingGroups_displayName hEncodes]
  constructor
  · rintro ⟨matching, hMatching, hMem⟩
    cases hMatching
    exact beq_iff_eq.mp (List.mem_filter.mp hMem).2
  · intro hNamed
    exact ⟨_, rfl,
      List.mem_filter.mpr ⟨hGroup, beq_iff_eq.mpr hNamed⟩⟩

/- A name that selects another group is not free. -/
theorem displayName_taken
    {displayName : String}
    (hFind :
      s.findGroupByDisplayName displayName = some group)
    {currentGroup : Option Int}
    (hOther : currentGroup ≠ some group.id) :
    ¬DisplayNameFree s displayName currentGroup := by
  intro hFree
  exact hOther (hFree group hFind)

/-
  A group whose name Python and the database lower alike
  stands in the way of every name equal to its own.
-/
theorem foldingAgrees_of_namedLike
    (hDistinct : NamesDistinct s)
    (hGroup : group ∈ s.groups.rows)
    (hNamed : NamedLike s group.displayName group) :
    FoldingAgrees s group := by
  have hFind :
      ∀ displayName,
        Platform.lower displayName =
            Platform.lower group.displayName →
          s.findGroupByDisplayName displayName =
            some group := by
    intro displayName hSame
    apply findGroupByDisplayName_of_distinct hDistinct hGroup
    unfold NamedLike at *
    rw [hNamed, hSame]
  have hOther :
      ∀ groupId other,
        s.findGroup groupId = some other → other ≠ group →
          some other.id ≠ some group.id := by
    intro groupId other hFound hNe hId
    have hMem := Table.mem_of_get? (get?_of_findGroup hFound)
    exact hNe
      (s.groups.eq_of_mem_of_id_eq hMem hGroup
        (Option.some.inj hId))
  constructor
  · intro encoded hEncodes
    exact (selected_iff hGroup hEncodes).mpr hNamed
  · intro env ctx displayName memberIds hSame
    have hTaken :=
      @displayName_taken _ s group displayName
        (hFind displayName hSame) none nofun
    rcases checkDuplicateGroup_error hTaken with
      ⟨existing, -, hReading⟩
    refine ⟨existing, serve_result_of_reading ?_ env⟩
    unfold createGroup
    exact Program.reading_bind_of_error hReading _
  · intro env ctx groupId other displayName memberIds hFound
      hNe _ hSame
    have hTaken :=
      displayName_taken (hFind displayName hSame)
        (hOther groupId other hFound hNe)
    rcases checkDuplicateGroup_error hTaken with
      ⟨existing, -, hReading⟩
    refine ⟨existing, serve_result_of_reading ?_ env⟩
    unfold replaceGroup
    rw [Program.reading_bind_of_ok (requireGroup_ok hFound)]
    exact Program.reading_bind_of_error hReading _
  · intro env ctx groupId other displayName op hFound hNe
      hRenamed hOp hSame
    have hTaken :=
      displayName_taken (hFind displayName hSame)
        (hOther groupId other hFound hNe)
    rcases
        @renameGroup_error s (loaded s other) _ displayName
          (fun h => hRenamed h.symm) hTaken with
      ⟨existing, -, hReading⟩
    have hOperation :
        (applyGroupOperation (loaded s other)
            (.displayName op displayName)).reading s =
          some
            (.error
              (.groupService
                (.duplicateGroup displayName existing))) := by
      unfold applyGroupOperation
      simp only
      rw [if_neg hOp]
      exact hReading
    refine ⟨existing, serve_result_of_reading ?_ env⟩
    unfold patchGroup
    rw [Program.reading_bind_of_ok (requireGroup_ok hFound)]
    exact Program.reading_bind_of_error
      (forEach_error hOperation) _

/-
  On SQLite, a group of any state that a run reaches is found
  under its name in every case exactly when Python lowers no
  more of the name than its ASCII letters.
-/
theorem folding_agrees_iff
    {start : Store}
    (hDialect : start.dialect = .sqlite)
    (hGroups : start.groups.rows = [])
    (hMembers : start.groupMembers.rows = [])
    (hLower :
      ∀ text,
        Platform.lower (asciiLower text) =
          Platform.lower text)
    (requests : List (DirectoryRequest × Environment))
    {s : Store}
    (hReached : serveAll directoryStore start requests = s)
    {group : Group}
    (hGroup : group ∈ s.groups.rows) :
    FoldingAgrees s group ↔
      asciiLower group.displayName =
        Platform.lower group.displayName := by
  have hKept :=
    reached_namesDistinct hDialect hGroups hMembers hLower
      requests
  rw [hReached] at hKept
  have hNamed :
      NamedLike s group.displayName group ↔
        asciiLower group.displayName =
          Platform.lower group.displayName := by
    unfold NamedLike
    rw [hKept.dialect]
    rfl
  rw [← hNamed]
  constructor
  · intro hAgrees
    have hEncodes := jsonEncodes_jsonDumps group.displayName
    exact (selected_iff hGroup hEncodes).mp
      (hAgrees.selected _ hEncodes)
  · intro hOwn
    exact foldingAgrees_of_namedLike hKept.distinct hGroup hOwn

end Scim

end AccessIQ

------------------------------------------------------------
-- A Name Beyond ASCII
------------------------------------------------------------

namespace AccessIQ

namespace Scim

open Foundations Python

/- A group is created. -/
def namedRequests
    (displayName : String) :
    List (DirectoryRequest × Environment) :=
  [(.scim
      (.group
        ⟨scimContext, "",
          .create
            (.object [("displayName", .string displayName)])⟩),
      steadyEnvironment)]

/- Lower case of the ASCII letters and of one letter more. -/
def latinLower
    (c : Char) :
    Char :=
  if c = 'É' then 'é' else c.toLower

theorem toLower_ne_accented
    {c : Char}
    (hNe : c ≠ 'É') :
    c.toLower ≠ 'É' := by
  unfold Char.toLower
  split
  · rename_i hUpper
    intro hSame
    have hLow := UInt32.le_iff_toNat_le.mp hUpper.1
    have hHigh := UInt32.le_iff_toNat_le.mp hUpper.2
    have hValue := congrArg (fun d : Char => d.val.toNat) hSame
    simp at hLow hHigh hValue
    omega
  · exact hNe

theorem latinLower_latinLower
    (c : Char) :
    latinLower (latinLower c) = latinLower c := by
  by_cases hAccented : c = 'É'
  · subst hAccented
    decide
  · unfold latinLower
    rw [if_neg hAccented,
      if_neg (toLower_ne_accented hAccented)]
    exact toLower_toLower c

/- A platform that lowers one letter beyond ASCII. -/
@[reducible] def latinPlatform : Platform :=
  { asciiPlatform with
    lower := fun s => String.ofList (s.toList.map latinLower)
    lower_of_isAscii := by
      intro s hAscii
      unfold asciiLower
      congr 1
      apply List.map_congr_left
      intro c hc
      have hSmall := List.all_eq_true.mp hAscii c hc
      unfold latinLower
      apply if_neg
      intro hAccented
      subst hAccented
      exact absurd hSmall (by decide)
    lower_lower := by
      intro s
      rw [String.toList_ofList, List.map_map]
      congr 2
      funext c
      exact latinLower_latinLower c }

attribute [local instance] latinPlatform

/- A group that a filter on its own name does not select. -/
theorem own_name_not_selected :
    ∃ group ∈
        (serveAll directoryStore (seededStore .sqlite)
          (namedRequests "É")).groups.rows,
      ¬FoldingAgrees
          (serveAll directoryStore (seededStore .sqlite)
            (namedRequests "É"))
          group := by
  have hGroups :
      (serveAll directoryStore (seededStore .sqlite)
          (namedRequests "É")).groups.rows.map
        (·.displayName) = ["É"] := by
    decide +kernel
  have hDialect :
      (serveAll directoryStore (seededStore .sqlite)
          (namedRequests "É")).dialect = .sqlite := by
    decide +kernel
  rcases List.map_eq_cons_iff.mp hGroups with
    ⟨group, rest, hRows, hName, -⟩
  have hGroup :
      group ∈
        (serveAll directoryStore (seededStore .sqlite)
          (namedRequests "É")).groups.rows := by
    rw [hRows]
    exact List.mem_cons_self
  refine ⟨group, hGroup, ?_⟩
  intro hAgrees
  have hEncodes := jsonEncodes_jsonDumps group.displayName
  have hNamed :=
    (selected_iff hGroup hEncodes).mp
      (hAgrees.selected _ hEncodes)
  unfold NamedLike at hNamed
  rw [hDialect, hName] at hNamed
  exact absurd hNamed (by decide)

end Scim

end AccessIQ

namespace AccessIQ

namespace Scim

open Foundations Python

attribute [local instance] asciiPlatform

theorem folding_agrees_iff_sales :
    ∃ group ∈
        (serveAll directoryStore (seededStore .sqlite)
          (namedRequests "Sales")).groups.rows,
      group.displayName = "Sales" ∧
        (FoldingAgrees
            (serveAll directoryStore (seededStore .sqlite)
              (namedRequests "Sales"))
            group ↔
          asciiLower group.displayName =
            Platform.lower group.displayName) := by
  have hGroups :
      (serveAll directoryStore (seededStore .sqlite)
          (namedRequests "Sales")).groups.rows.map
        (·.displayName) = ["Sales"] := by
    decide +kernel
  rcases List.map_eq_cons_iff.mp hGroups with
    ⟨group, rest, hRows, hName, -⟩
  have hGroup :
      group ∈
        (serveAll directoryStore (seededStore .sqlite)
          (namedRequests "Sales")).groups.rows := by
    rw [hRows]
    exact List.mem_cons_self
  refine ⟨group, hGroup, hName, ?_⟩
  exact
    @folding_agrees_iff asciiPlatform _ rfl rfl rfl
      asciiLower_asciiLower (namedRequests "Sales") _ rfl _
      hGroup

end Scim

end AccessIQ
