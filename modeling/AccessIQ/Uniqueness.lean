import AccessIQ.Application
import AccessIQ.Scim.Atomicity
import AccessIQ.Scim.DisplayNames

/-
  Names that are unique up to the case of their letters.

  The unique constraints of the database compare names as
  they are written.  That no two groups, employee numbers or
  campaigns differ in letter case only rests on a query that
  each operation makes before it writes.  The query compares
  what the database lowers with what Python lowers, so it is
  about the names that both lower alike: on SQLite the names
  whose letters in upper case are ASCII letters.

  Key definitions include:
    * `LowersOnward`
    * `folded`
    * `NamesApart`
    * `Unique`

  Key theorems include:
    * `lower_eq_iff_folded`
    * `UserMutated.numbersDistinct`
    * `GroupMutated.displayNamesDistinct`
    * `NamesApart.of_effect`
    * `namesApart_serveGovernance`
    * `namesApart_serveApplication`
    * `names_stay_unique`
-/

------------------------------------------------------------
-- Folded Names
------------------------------------------------------------

namespace AccessIQ

namespace Uniqueness

open Foundations Python Scim Governance

variable [Platform]

/-
  Python lowers what the database has lowered as it lowers
  the text itself.
-/
def LowersOnward
    (dialect : Dialect) : Prop :=
  ∀ text,
    Platform.lower (dialect.lower text) = Platform.lower text

/- A text in lower case, if the database lowers it alike. -/
def folded
    (dialect : Dialect)
    (text : String) :
    Option String :=
  if dialect.lower text = Platform.lower text then
    some (Platform.lower text)
  else
    none

theorem folded_eq_some_iff
    {dialect : Dialect}
    {text value : String} :
    folded dialect text = some value ↔
      dialect.lower text = Platform.lower text ∧
        Platform.lower text = value := by
  unfold folded
  split
  · rename_i hAlike
    rw [Option.some.injEq]
    exact ⟨fun hValue => ⟨hAlike, hValue⟩, And.right⟩
  · rename_i hApart
    exact ⟨nofun, fun hFolded => absurd hFolded.1 hApart⟩

/- On SQLite every ASCII name is folded. -/
theorem folded_sqlite_of_isAscii
    {text : String}
    (hAscii : isAscii text = true) :
    folded .sqlite text = some (asciiLower text) := by
  have hLower := Platform.lower_of_isAscii text hAscii
  rw [folded_eq_some_iff, hLower]
  exact ⟨rfl, rfl⟩

/- A query for a name finds the rows that are folded alike. -/
theorem lower_eq_iff_folded
    {dialect : Dialect}
    {text value : String}
    (hLower : LowersOnward dialect)
    (hText : folded dialect text = some value)
    (stored : String) :
    dialect.lower stored = Platform.lower text ↔
      folded dialect stored = some value := by
  rcases folded_eq_some_iff.mp hText with ⟨-, hValue⟩
  rw [folded_eq_some_iff, ← hValue]
  constructor
  · intro hFound
    have hSame :
        Platform.lower stored = Platform.lower text := by
      rw [← hLower stored, hFound, Platform.lower_lower]
    exact ⟨hFound.trans hSame.symm, hSame⟩
  · rintro ⟨hAlike, hSame⟩
    exact hAlike.trans hSame

/- The values that no two rows may share. -/
def foldedDisplayName
    (dialect : Dialect)
    (group : Group) :
    Option String :=
  folded dialect group.displayName

def foldedNumber
    (dialect : Dialect)
    (profile : EnterpriseUserProfile) :
    Option String :=
  profile.employeeNumber.bind (folded dialect)

def foldedName
    (dialect : Dialect)
    (campaign : CertificationCampaign) :
    Option String :=
  folded dialect campaign.name

variable {s : Store}
variable {value : String}

/- The queries of the services look for a folded value. -/
theorem findGroupByDisplayName_eq
    (hLower : LowersOnward s.dialect)
    {displayName : String}
    (hName : folded s.dialect displayName = some value) :
    s.findGroupByDisplayName displayName =
      s.groups.rows.find? fun group =>
        foldedDisplayName s.dialect group == some value := by
  unfold Store.findGroupByDisplayName foldedDisplayName
  congr 1
  funext group
  rw [Bool.eq_iff_iff, beq_iff_eq, beq_iff_eq]
  exact lower_eq_iff_folded hLower hName group.displayName

theorem findProfileByEmployeeNumber_eq
    (hLower : LowersOnward s.dialect)
    {employeeNumber : String}
    (hNumber : folded s.dialect employeeNumber = some value) :
    s.findProfileByEmployeeNumber employeeNumber =
      s.enterpriseUserProfiles.rows.find? fun profile =>
        foldedNumber s.dialect profile == some value := by
  unfold Store.findProfileByEmployeeNumber foldedNumber
  congr 1
  funext profile
  cases profile.employeeNumber with
  | none => rfl
  | some stored =>
      rw [Option.any_some, Option.bind_some,
        Bool.eq_iff_iff, beq_iff_eq, beq_iff_eq]
      exact lower_eq_iff_folded hLower hNumber stored

theorem campaignNameFree_iff
    (hLower : LowersOnward s.dialect)
    {name : String}
    (hName : folded s.dialect (strip name) = some value) :
    CampaignNameFree s name ↔
      (s.certificationCampaigns.rows.find? fun campaign =>
          foldedName s.dialect campaign == some value) =
        none := by
  have hFound :
      ∀ campaign : CertificationCampaign,
        (s.dialect.lower campaign.name ==
            Platform.lower (strip name)) =
          (foldedName s.dialect campaign == some value) := by
    intro campaign
    unfold foldedName
    rw [Bool.eq_iff_iff, beq_iff_eq, beq_iff_eq]
    exact lower_eq_iff_folded hLower hName campaign.name
  unfold CampaignNameFree
  simp only [hFound]

end Uniqueness

end AccessIQ

------------------------------------------------------------
-- What A Request Stores
------------------------------------------------------------

namespace AccessIQ

open Foundations Python Scim Uniqueness

namespace Scim

variable [Platform]
variable {ctx : RequestContext}
variable {s s' : Store}

/- A profile step checks an employee number that it sets. -/
theorem ProfileStep.numbersDistinct
    {user : User}
    {desired : EnterpriseProfileMutation}
    {changes : List EnterpriseProfileChange}
    {kinds : List EventKind}
    (hStep : ProfileStep ctx s user desired changes kinds s')
    (hLower : LowersOnward s.dialect)
    (hDistinct :
      s.enterpriseUserProfiles.DistinctBy
        (foldedNumber s.dialect)) :
    s'.enterpriseUserProfiles.DistinctBy
      (foldedNumber s.dialect) := by
  cases hStep with
  | unset => exact hDistinct
  | absent => exact hDistinct
  | same => exact hDistinct
  | written profile users' profiles' change changes created
      hCreated hProfile hChecked hUsers hProfiles =>
      apply hDistinct.stores hProfiles
      intro value hValue
      unfold foldedNumber at hValue
      unfold EnterpriseProfileMutation.applied at hValue
      simp only at hValue
      cases hNumber : desired.employeeNumber with
      | none =>
          -- the number of the profile stays
          rw [hNumber] at hValue
          right
          rcases hProfile with hFound | ⟨-, rfl⟩
          · have hMem :=
              (Store.enterpriseProfileOf_eq_some_iff.mp
                hFound).1
            exact
              ⟨profile, Table.get?_of_mem _ hMem, hValue⟩
          · cases hValue
      | some number =>
          rw [hNumber] at hValue
          cases number with
          | none => cases hValue
          | some employeeNumber =>
              left
              rw [← findProfileByEmployeeNumber_eq hLower
                hValue]
              exact hChecked.number employeeNumber hNumber

theorem UserMutated.numbersDistinct
    {userId : Int}
    {events : List DomainEvent}
    (hMutated : UserMutated ctx s userId events s')
    (hLower : LowersOnward s.dialect)
    (hDistinct :
      s.enterpriseUserProfiles.DistinctBy
        (foldedNumber s.dialect)) :
    s'.enterpriseUserProfiles.DistinctBy
      (foldedNumber s.dialect) := by
  have hOfStep :
      ∀ {user desired kinds},
        UserStep ctx s user desired kinds s' →
          s'.enterpriseUserProfiles.DistinctBy
            (foldedNumber s.dialect) := by
    intro user desired kinds hStep
    cases hStep with
    | stored users' changes kinds s₂ auditEvents' hUsers
        hProfile =>
        exact hProfile.numbersDistinct hLower hDistinct
  cases hMutated with
  | created _ _ _ _ _ _ _ _ hStep => exact hOfStep hStep
  | changed _ _ _ _ _ _ _ _ hStep => exact hOfStep hStep

/- The users are stored with lower case addresses. -/
theorem UserMutated.emailsLower
    {userId : Int}
    {events : List DomainEvent}
    (hMutated : UserMutated ctx s userId events s')
    (hEmails :
      ∀ user ∈ s.users.rows,
        Platform.lower user.email = user.email) :
    ∀ user ∈ s'.users.rows,
      Platform.lower user.email = user.email := by
  have hOfStep :
      ∀ {user desired kinds},
        UserStep ctx s user desired kinds s' →
          Platform.lower user.email = user.email →
            ∀ other ∈ s'.users.rows,
              Platform.lower other.email = other.email := by
    intro user desired kinds hStep hUser other hOther
    rcases (hStep.users other).mp hOther with
      rfl | ⟨hOld, -⟩
    · unfold withAttributes
      split
      · exact hUser
      · exact hUser
    · exact hEmails other hOld
  cases hMutated with
  | created userName displayName active desired kinds _ hFree
      hPlain hStep =>
      exact hOfStep hStep (Platform.lower_lower userName)
  | changed old new desired kinds _ hGet hChanged hPlain
      hStep =>
      apply hOfStep hStep
      rcases hChanged.email with hSame | ⟨userName, hNew, -⟩
      · rw [hSame]
        exact hEmails old (Table.mem_of_get? hGet)
      · rw [hNew]
        exact Platform.lower_lower userName

/- A group is stored with a display name that was checked. -/
theorem GroupMutated.displayNamesDistinct
    {groupId : Int}
    {events : List DomainEvent}
    (hMutated : GroupMutated ctx s groupId events s')
    (hLower : LowersOnward s.dialect)
    (hGrounded : Grounded s)
    (hDistinct :
      s.groups.DistinctBy (foldedDisplayName s.dialect)) :
    s'.groups.DistinctBy (foldedDisplayName s.dialect) := by
  cases hMutated with
  | mutated kinds s₁ auditEvents' hChange =>
      rcases hChange.stores hGrounded with
        ⟨row, hStores, hChecked⟩
      apply hDistinct.stores hStores
      intro value hValue
      rcases hChecked with hFree | ⟨old, hOld, hName⟩
      · left
        rw [← findGroupByDisplayName_eq hLower hValue]
        intro found hFind
        exact (Option.some.inj (hFree found hFind)).symm
      · right
        refine ⟨old, hOld, ?_⟩
        unfold foldedDisplayName at *
        rw [hName]
        exact hValue

end Scim

end AccessIQ

------------------------------------------------------------
-- Names In The Database
------------------------------------------------------------

namespace AccessIQ

open Foundations Python Scim Governance Access Delegation
open Connectors Remediation

namespace Uniqueness

/- The part of the database that holds names. -/
def named
    (s : Store) :
    Dialect × Table User × Table Group × Table GroupMember ×
      Table EnterpriseUserProfile ×
        Table CertificationCampaign :=
  (s.dialect, s.users, s.groups, s.groupMembers,
    s.enterpriseUserProfiles, s.certificationCampaigns)

variable [Platform]

/- What every request keeps. -/
structure NamesApart (s : Store) : Prop where
  lowersOnward : LowersOnward s.dialect
  emails :
    ∀ user ∈ s.users.rows,
      Platform.lower user.email = user.email
  displayNames :
    s.groups.DistinctBy (foldedDisplayName s.dialect)
  employeeNumbers :
    s.enterpriseUserProfiles.DistinctBy
      (foldedNumber s.dialect)
  campaignNames :
    s.certificationCampaigns.DistinctBy
      (foldedName s.dialect)
  memberships : MembershipsResolve s

variable {s s' : Store}

theorem NamesApart.congr
    (hApart : NamesApart s)
    (hNamed : named s' = named s) :
    NamesApart s' := by
  unfold named at hNamed
  simp only [Prod.mk.injEq] at hNamed
  obtain
    ⟨hDialect, hUsers, hGroups, hMembers, hProfiles,
      hCampaigns⟩ := hNamed
  constructor
  · rw [hDialect]
    exact hApart.lowersOnward
  · rw [hUsers]
    exact hApart.emails
  · rw [hGroups, hDialect]
    exact hApart.displayNames
  · rw [hProfiles, hDialect]
    exact hApart.employeeNumbers
  · rw [hCampaigns, hDialect]
    exact hApart.campaignNames
  · refine hApart.memberships.congr ?_ hGroups hMembers
    rw [hUsers]
    exact fun _ hUser => hUser

theorem NamesApart.of_mutated_user
    {ctx : RequestContext}
    {userId : Int}
    {events : List DomainEvent}
    (hApart : NamesApart s)
    (hMutated : UserMutated ctx s userId events s') :
    NamesApart s' := by
  have hNumbers :=
    hMutated.numbersDistinct hApart.lowersOnward
      hApart.employeeNumbers
  have hEmails := hMutated.emailsLower hApart.emails
  have hOfStep :
      ∀ {user desired kinds},
        UserStep ctx s user desired kinds s' →
          NamesApart s' := by
    intro user desired kinds hStep
    have hOthers := hStep.eq
    have hDialect : s'.dialect = s.dialect := by
      rw [hOthers]
    have hGroups : s'.groups = s.groups := by
      rw [hOthers]
    have hMembers : s'.groupMembers = s.groupMembers := by
      rw [hOthers]
    have hCampaigns :
        s'.certificationCampaigns =
          s.certificationCampaigns := by
      rw [hOthers]
    constructor
    · rw [hDialect]
      exact hApart.lowersOnward
    · exact hEmails
    · rw [hGroups, hDialect]
      exact hApart.displayNames
    · rw [hDialect]
      exact hNumbers
    · rw [hCampaigns, hDialect]
      exact hApart.campaignNames
    · apply hApart.memberships.congr _ hGroups hMembers
      intro userId hUser
      rw [hStep.users.contains_iff]
      exact Or.inr hUser
  cases hMutated with
  | created _ _ _ _ _ _ _ _ hStep => exact hOfStep hStep
  | changed _ _ _ _ _ _ _ _ hStep => exact hOfStep hStep

theorem NamesApart.of_mutated_group
    {ctx : RequestContext}
    {groupId : Int}
    {events : List DomainEvent}
    (hApart : NamesApart s)
    (hMutated : GroupMutated ctx s groupId events s') :
    NamesApart s' := by
  have hNames :=
    hMutated.displayNamesDistinct hApart.lowersOnward
      hApart.memberships.group hApart.displayNames
  have hMemberships :=
    (hMutated.resolve hApart.memberships).1
  cases hMutated with
  | mutated kinds s₁ auditEvents' hChange =>
      have hOthers := hChange.eq
      have hDialect : s₁.dialect = s.dialect := by
        rw [hOthers]
      constructor
      · rw [hOthers]
        exact hApart.lowersOnward
      · rw [hOthers]
        exact hApart.emails
      · rw [hDialect]
        exact hNames
      · rw [hOthers]
        exact hApart.employeeNumbers
      · rw [hOthers]
        exact hApart.campaignNames
      · exact hMemberships

/- Every request of the directory keeps them. -/
theorem NamesApart.of_effect
    {events : List DomainEvent}
    (hApart : NamesApart s)
    (hEffect : DirectoryEffect s events s') :
    NamesApart s' := by
  cases hEffect with
  | registered userData users' hFree hUsers =>
      constructor
      · exact hApart.lowersOnward
      · intro user hUser
        rcases (hUsers user).mp hUser with rfl | ⟨hOld, -⟩
        · exact Platform.lower_lower userData.email
        · exact hApart.emails user hOld
      · exact hApart.displayNames
      · exact hApart.employeeNumbers
      · exact hApart.campaignNames
      · refine hApart.memberships.congr ?_ rfl rfl
        intro userId hUser
        exact (hUsers.contains_iff userId).mpr (Or.inr hUser)
  | scim _ _ hScim =>
      cases hScim with
      | none => exact hApart
      | denied event hDenied => exact hApart.congr rfl
      | user ctx userId _ _ hMutated =>
          exact hApart.of_mutated_user hMutated
      | group ctx groupId _ _ hMutated =>
          exact hApart.of_mutated_group hMutated

/- So does a campaign whose name was not found. -/
theorem NamesApart.of_created
    {ctx : RequestContext}
    {payload : CampaignCreateRequest}
    {actor : User}
    {campaign : CertificationCampaign}
    (hApart : NamesApart s)
    (hFree : CampaignNameFree s payload.name)
    (hCreated : Created ctx payload s actor campaign s') :
    NamesApart s' := by
  rcases hCreated with
    ⟨reviewer, hReviewer, hFits, event, rfl, rfl⟩
  constructor
  · exact hApart.lowersOnward
  · exact hApart.emails
  · exact hApart.displayNames
  · exact hApart.employeeNumbers
  · have hStores :=
      Table.stores_insert s.dialect.keyPolicy
        s.certificationCampaigns hFits
    apply hApart.campaignNames.stores hStores
    intro value hValue
    left
    intro found hFind
    rw [campaignNameFree_iff hApart.lowersOnward hValue]
      at hFree
    cases hFree.symm.trans hFind
  · exact hApart.memberships.congr (fun _ h => h) rfl rfl

/- A campaign keeps its name. -/
theorem NamesApart.putCampaign
    {loaded new : CertificationCampaign}
    (hApart : NamesApart s)
    (hMem : loaded ∈ s.certificationCampaigns.rows)
    (hSame : SameCampaign loaded new) :
    NamesApart (s.putCampaign new) := by
  have hStores :
      s.certificationCampaigns.Stores
        (s.certificationCampaigns.put new) new :=
    fun _ => Table.mem_put (hSame.hasVersion hMem)
  constructor
  · exact hApart.lowersOnward
  · exact hApart.emails
  · exact hApart.displayNames
  · exact hApart.employeeNumbers
  · apply hApart.campaignNames.stores hStores
    intro value hValue
    right
    refine ⟨loaded, ?_, ?_⟩
    · rw [Table.get?_eq_some_iff]
      exact ⟨hMem, hSame.id.symm⟩
    · unfold foldedName at *
      rw [← hSame.name]
      exact hValue
  · exact hApart.memberships.congr (fun _ h => h) rfl rfl

/- Every request about campaigns keeps the names apart. -/
theorem namesApart_serveGovernance
    (hApart : NamesApart s)
    (request : GovernanceRequest × Environment) :
    NamesApart (serveGovernance s request) := by
  rcases request with ⟨request, env⟩
  have hPut :
      ∀ {s₁ s' : Store} {loaded new : CertificationCampaign}
        {event : AuditEvent},
        s' = (s₁.putCampaign new).withAuditEvent event →
          named s₁ = named s →
            loaded ∈ s.certificationCampaigns.rows →
              SameCampaign loaded new → NamesApart s' := by
    intro s₁ s' loaded new event hStored hNamed hMem hSame
    have hCampaigns :
        s₁.certificationCampaigns =
          s.certificationCampaigns := by
      unfold named at hNamed
      simp only [Prod.mk.injEq] at hNamed
      exact hNamed.2.2.2.2.2
    rw [← hCampaigns] at hMem
    rw [hStored]
    have hPut := (hApart.congr hNamed).putCampaign hMem hSame
    exact hPut.congr rfl
  have hCases :
      ∀ {s' : Store} {done : Prop},
        s' = s ∨ done → (done → NamesApart s') →
          NamesApart s' := by
    intro s' done hCases hDone
    rcases hCases with rfl | hDid
    · exact hApart
    · exact hDone hDid
  cases request with
  | create ctx payload =>
      refine hCases (committed_cases fun user =>
        wp_createCampaign ctx payload user) ?_
      rintro ⟨user, campaign, hFree, hCreated⟩
      exact hApart.of_created hFree hCreated
  | start ctx campaignId =>
      refine hCases (committed_cases fun user =>
        wp_startCampaign ctx campaignId user) ?_
      rintro ⟨user, campaign, hStarted⟩
      cases hStarted with
      | again loaded hGet hDraft hItems event hCampaign
          hStored =>
          rw [hCampaign] at hStored
          exact hPut hStored rfl (Table.mem_of_get? hGet)
            (sameCampaign_started ctx loaded)
      | generated loaded hGet hDraft hNone items hItems s₁
          hInserted event hCampaign hStored =>
          rcases insertCertificationReviewItems_eq_ok
            hInserted with ⟨t, -, rfl⟩
          rw [hCampaign] at hStored
          exact hPut hStored rfl (Table.mem_of_get? hGet)
            ((sameCampaign_recalculated _ loaded).trans
              (sameCampaign_started ctx _))
  | decide ctx itemId payload =>
      refine hCases (committed_cases fun user =>
        wp_recordDecision ctx itemId payload user) ?_
      rintro ⟨user, _, item, campaign, t, event, hDecided⟩
      exact hPut hDecided.stored rfl
        (Table.mem_of_get? hDecided.campaign_found)
        (sameCampaign_recalculated _ campaign)
  | complete ctx campaignId =>
      refine hCases (committed_cases fun user =>
        wp_completeCampaign ctx campaignId user) ?_
      rintro
        ⟨user, campaign, loaded, hGet, -, -, hCampaign, event,
          hStored⟩
      rw [hCampaign] at hStored
      exact hPut hStored rfl (Table.mem_of_get? hGet)
        ((sameCampaign_recalculated _ loaded).trans
          (sameCampaign_completed ctx _))
  | cancel ctx campaignId =>
      refine hCases (committed_cases fun user =>
        wp_cancelCampaign ctx campaignId user) ?_
      rintro
        ⟨user, campaign, loaded, hGet, -, hCampaign, event,
          hStored⟩
      rw [hCampaign] at hStored
      exact hPut hStored rfl (Table.mem_of_get? hGet)
        (sameCampaign_cancelled ctx loaded)

/- So does every request of the application. -/
theorem namesApart_serveApplication
    (s : Store)
    (request : ApplicationRequest × Environment)
    (hApart : NamesApart s) :
    NamesApart (serveApplication s request) := by
  rcases request with ⟨request, env⟩
  cases request with
  | directory directory =>
      exact hApart.of_effect
        (directoryEffect s (directory, env))
  | access access =>
      apply hApart.congr
      exact serveAccess_frame named (fun _ _ _ => rfl) s
        (access, env)
  | governance governance =>
      exact namesApart_serveGovernance hApart
        (governance, env)
  | delegation delegation =>
      apply hApart.congr
      exact serveDelegation_frame named (fun _ _ _ => rfl) s
        (delegation, env)
  | remediation orchestrator ctx campaignId =>
      apply hApart.congr
      exact serveRemediation_frame named
        (fun _ _ _ _ _ => rfl) s
        ⟨env, orchestrator, ctx, campaignId⟩

end Uniqueness

end AccessIQ

------------------------------------------------------------
-- Uniqueness
------------------------------------------------------------

namespace AccessIQ

open Foundations Python Scim Governance

namespace Uniqueness

variable [Platform]

/-
  Nothing that names a row of the database names another row,
  also in other letters if the database lowers both as Python
  does, and memberships join groups and users.
-/
structure Unique (s : Store) : Prop where
  emailsLower :
    ∀ user ∈ s.users.rows,
      Platform.lower user.email = user.email
  emails : (s.users.rows.map (·.email)).Nodup
  displayNames :
    (s.groups.rows.map (·.displayName)).Nodup ∧
      (s.groups.rows.filterMap
        (foldedDisplayName s.dialect)).Nodup
  employeeNumbers :
    (s.enterpriseUserProfiles.rows.filterMap
        (·.employeeNumber)).Nodup ∧
      (s.enterpriseUserProfiles.rows.filterMap
        (foldedNumber s.dialect)).Nodup
  campaignNames :
    (s.certificationCampaigns.rows.map (·.name)).Nodup ∧
      (s.certificationCampaigns.rows.filterMap
        (foldedName s.dialect)).Nodup
  members : ∀ groupId, (s.memberIdsOf groupId).Nodup
  membersExist :
    ∀ groupId, ∀ userId ∈ s.memberIdsOf groupId,
      s.groups.contains groupId = true ∧
        s.users.contains userId = true
  profiles :
    (s.enterpriseUserProfiles.rows.map (·.userId)).Nodup

variable {s : Store}

omit [Platform] in
/- What a unique constraint covers is never shared. -/
theorem nodup_map_of_conflicts
    {α β : Type}
    [Row α]
    (t : Table α)
    {f : α → β}
    (hConflicts :
      ∀ a b, f a = f b → Row.conflicts a b = true) :
    (t.rows.map f).Nodup := by
  unfold List.Nodup
  rw [List.pairwise_map]
  apply t.unique.imp
  intro a b hApart hSame
  rw [hConflicts a b hSame] at hApart
  cases hApart

omit [Platform] in
theorem nodup_filterMap_of_conflicts
    {α β : Type}
    [Row α]
    (t : Table α)
    {f : α → Option β}
    (hConflicts :
      ∀ a b value,
        f a = some value →
          f b = some value → Row.conflicts a b = true) :
    (t.rows.filterMap f).Nodup := by
  unfold List.Nodup
  rw [List.pairwise_filterMap]
  apply t.unique.imp
  intro a b hApart value hA other hB hSame
  subst hSame
  rw [hConflicts a b value hA hB] at hApart
  cases hApart

theorem NamesApart.unique
    (hApart : NamesApart s) :
    Unique s where
  emailsLower := hApart.emails
  emails := by
    apply nodup_map_of_conflicts
    intro a b hSame
    exact decide_eq_true hSame
  displayNames := by
    refine ⟨?_,
      Table.distinctBy_iff_nodup.mp hApart.displayNames⟩
    apply nodup_map_of_conflicts
    intro a b hSame
    exact decide_eq_true hSame
  employeeNumbers := by
    refine ⟨?_,
      Table.distinctBy_iff_nodup.mp hApart.employeeNumbers⟩
    apply nodup_filterMap_of_conflicts
    intro a b number hA hB
    have hSome : a.employeeNumber.isSome = true := by
      rw [hA]
      rfl
    exact decide_eq_true
      (Or.inr ⟨hSome, hA.trans hB.symm⟩)
  campaignNames := by
    refine ⟨?_,
      Table.distinctBy_iff_nodup.mp hApart.campaignNames⟩
    apply nodup_map_of_conflicts
    intro a b hSame
    exact decide_eq_true hSame
  members := s.nodup_memberIdsOf
  membersExist groupId userId hMember :=
    ⟨hApart.memberships.group groupId userId hMember,
      hApart.memberships.user groupId userId hMember⟩
  profiles := by
    apply nodup_map_of_conflicts
    intro a b hSame
    exact decide_eq_true (Or.inl hSame)

theorem Unique.namesApart
    (hUnique : Unique s)
    (hLower : LowersOnward s.dialect) :
    NamesApart s where
  lowersOnward := hLower
  emails := hUnique.emailsLower
  displayNames :=
    Table.distinctBy_iff_nodup.mpr hUnique.displayNames.2
  employeeNumbers :=
    Table.distinctBy_iff_nodup.mpr hUnique.employeeNumbers.2
  campaignNames :=
    Table.distinctBy_iff_nodup.mpr hUnique.campaignNames.2
  memberships :=
    ⟨fun groupId userId hMember =>
        (hUnique.membersExist groupId userId hMember).1,
      fun groupId userId hMember =>
        (hUnique.membersExist groupId userId hMember).2⟩

/-
  No request of the application gives a name a second time,
  if Python lowers what the database has lowered as it lowers
  the text itself.
-/
theorem names_stay_unique
    (hLower :
      ∀ text,
        Platform.lower (s.dialect.lower text) =
          Platform.lower text)
    (hUnique : Unique s)
    (requests : List (ApplicationRequest × Environment)) :
    Unique (serveAll serveApplication s requests) := by
  apply NamesApart.unique
  apply serveAll_invariant namesApart_serveApplication
  exact hUnique.namesApart hLower

end Uniqueness

end AccessIQ

------------------------------------------------------------
-- A Run
------------------------------------------------------------

namespace AccessIQ

open Foundations Python Scim Governance

namespace Uniqueness

section Naming

attribute [local instance] asciiPlatform

/- The identity administrator. -/
def namingContext : RequestContext where
  correlationId := "request-1"
  now := 0
  subject := 4

/-
  A group, an employee and a campaign are named, and each a
  second time in other letters.
-/
def namingRequests :
    List (ApplicationRequest × Environment) :=
  [createGroup "Sales", createGroup "SALES",
    createUser "dan@example.com" "e-1",
    createUser "eve@example.com" "E-1",
    .governance
      (.create namingContext ⟨"Spring", none, 5⟩),
    .governance
      (.create namingContext ⟨" SPRING ", none, 5⟩)].map
    (·, steadyEnvironment)
where
  createGroup (displayName : String) : ApplicationRequest :=
    .directory
      (.scim
        (.group
          ⟨namingContext, "",
            .create
              (.object
                [("displayName", .string displayName)])⟩))
  createUser
      (userName employeeNumber : String) :
      ApplicationRequest :=
    .directory
      (.scim
        (.user
          ⟨namingContext, "",
            .create
              (.object
                [("userName", .string userName),
                  ("displayName", .string userName),
                  (scimSchemaEnterpriseUser,
                    .object
                      [("employeeNumber",
                        .string employeeNumber)])])⟩))

theorem unique_seededStore :
    Unique (seededStore .sqlite) where
  emailsLower := by decide +kernel
  emails := by decide +kernel
  displayNames := ⟨List.nodup_nil, List.nodup_nil⟩
  employeeNumbers := ⟨List.nodup_nil, List.nodup_nil⟩
  campaignNames := ⟨List.nodup_nil, List.nodup_nil⟩
  members := (seededStore .sqlite).nodup_memberIdsOf
  membersExist := by
    intro groupId userId hMember
    cases hMember
  profiles := List.nodup_nil

theorem names_stay_unique_seeded :
    Unique
      (serveAll serveApplication (seededStore .sqlite)
        namingRequests) :=
  @names_stay_unique _ (seededStore .sqlite)
    (fun text => asciiLower_asciiLower text)
    unique_seededStore namingRequests

example :
    let final :=
      serveAll serveApplication (seededStore .sqlite)
        namingRequests
    final.groups.rows.map (·.displayName) = ["Sales"] ∧
      final.enterpriseUserProfiles.rows.map
          (·.employeeNumber) =
        [some "e-1"] ∧
      final.certificationCampaigns.rows.map (·.name) =
        ["Spring"] := by
  decide +kernel

end Naming

end Uniqueness

end AccessIQ
