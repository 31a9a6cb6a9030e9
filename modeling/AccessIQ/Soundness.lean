import AccessIQ.Interleavings
import AccessIQ.Scim.Hierarchy

/-
  The invariants of the routers hold together.

  Each router keeps an invariant of its own tables.  The
  requests of the other routers keep it as well: a completed
  campaign is closed, so that its remediation jobs stay those
  of its revoked items, and users are never removed, so that
  what refers to them still does.  Along a run the database
  moves on as the state machines allow, and what its
  statements never take back is still there.

  Key definitions include:
    * `Sound`
    * `Continues`

  Key theorems include:
    * `Governance.Kept.jobSound`
    * `Sound.of_effect`
    * `sound_serveApplication`
    * `application_stays_sound`
-/

------------------------------------------------------------
-- Remediated Campaigns
------------------------------------------------------------

namespace AccessIQ

open Foundations Governance Remediation

variable {s s' : Store}

/- An item is decided among the decisions of its campaign. -/
theorem Governance.Consistent.decisionRecord_eq
    (hConsistent : Consistent s)
    {item : CertificationReviewItem}
    (hItem : item ∈ s.certificationReviewItems.rows) :
    s.decisionRecord item.id =
      (s.decisionsOf item.campaignId).find?
        (·.reviewItemId == item.id) := by
  unfold Store.decisionRecord Store.decisionsOf
  rw [List.find?_filter]
  apply List.find?_congr
  intro d hDecision
  rcases hConsistent.item_of_decision d hDecision with
    ⟨other, hOther, hId, hCampaign⟩
  by_cases hSame : d.reviewItemId = item.id
  · have hEq : other = item :=
      s.certificationReviewItems.eq_of_mem_of_id_eq hOther
        hItem (hId.trans hSame)
    rw [hEq] at hCampaign
    simp [hSame, hCampaign]
  · simp [hSame]

/- A job of a completed campaign survives its requests. -/
theorem Governance.Kept.jobSound
    (hKept : Kept s s')
    (hConsistent : Consistent s)
    {job : RemediationJob}
    (hSound : JobSound s job) :
    JobSound s' job := by
  rcases hSound.item with
    ⟨item, hItem, hId, hCampaign, hRevoked⟩
  rcases hSound.campaign with ⟨c, hGet, hCompleted⟩
  have hMem := Table.mem_of_get? hGet
  have hCampaignId : c.id = job.campaignId :=
    Table.id_of_get? hGet
  have hTerminal : c.status.Terminal := by
    rw [hCompleted]
    rfl
  rcases hKept.moved.moved c hMem with ⟨c', hMem', hMoved⟩
  rcases hMoved.closed hTerminal with ⟨rfl, hDecisions⟩
  have hSubjects :
      (s'.reviewItemsOf c'.id).map reviewSubject =
        (s.reviewItemsOf c'.id).map reviewSubject := by
    apply hMoved.kept
    rintro ⟨hDraft, -⟩
    rw [hCompleted] at hDraft
    cases hDraft
  have hOwn : item ∈ s.reviewItemsOf c'.id := by
    rw [mem_reviewItemsOf]
    exact ⟨hItem, hCampaign.trans hCampaignId.symm⟩
  have hSubject :
      reviewSubject item ∈
        (s'.reviewItemsOf c'.id).map reviewSubject := by
    rw [hSubjects]
    exact List.mem_map_of_mem hOwn
  rcases List.mem_map.mp hSubject with
    ⟨item', hOwn', hSame⟩
  rcases mem_reviewItemsOf.mp hOwn' with
    ⟨hItem', hCampaign'⟩
  have hSameId : item'.id = item.id :=
    congrArg (·.id) hSame
  have hSameCampaign : item'.campaignId = item.campaignId :=
    congrArg (·.campaignId) hSame
  constructor
  · refine ⟨item', hItem', hSameId.trans hId,
      hSameCampaign.trans hCampaign, ?_⟩
    unfold Store.revoked at *
    rw [hKept.consistent.decisionRecord_eq hItem', hSameId,
      hCampaign', hDecisions]
    rw [hConsistent.decisionRecord_eq hItem, hCampaign,
      ← hCampaignId] at hRevoked
    exact hRevoked
  · refine ⟨c', ?_, hCompleted⟩
    rw [Table.get?_eq_some_iff]
    exact ⟨hMem', hCampaignId⟩
  · exact hSound.terminal

theorem Governance.Kept.jobsSound
    (hKept : Kept s s')
    (hConsistent : Consistent s)
    (hJobs : s'.remediationJobs = s.remediationJobs)
    (hSound : JobsSound s) :
    JobsSound s' := by
  constructor
  · rw [hJobs]
    intro job hJob
    exact hKept.jobSound hConsistent (hSound.sound job hJob)
  · exact distinct_reviewItems s'

end AccessIQ

------------------------------------------------------------
-- All Invariants
------------------------------------------------------------

namespace AccessIQ

open Foundations Python Scim Access Delegation Governance
open Connectors Remediation

/- The delegate of every delegation is a user. -/
def Delegated (s : Store) : Prop :=
  ∀ a ∈ s.delegationAssignments.rows,
    s.users.contains a.delegateUserId = true

/-
  The managers form a hierarchy of users, the counts of every
  campaign are those of its decisions, every remediation job
  is the one of a revoked item of a completed campaign, and
  every delegation is a user's and can be audited.
-/
structure Sound (s : Store) : Prop where
  managers : Hierarchical s
  campaigns : Consistent s
  jobs : JobsSound s
  delegates : Delegated s
  delegations : Audited s

variable {s s' : Store}

/- What the jobs of remediation refer to. -/
def remediated
    (s : Store) :
    Table CertificationCampaign ×
      Table CertificationReviewItem ×
        Table CertificationDecision × Table RemediationJob :=
  (s.certificationCampaigns, s.certificationReviewItems,
    s.certificationDecisions, s.remediationJobs)

theorem sameGovernance_of_remediated
    (hSame : remediated s' = remediated s) :
    SameGovernance s s' := by
  unfold remediated at hSame
  simp only [Prod.mk.injEq] at hSame
  exact ⟨hSame.1, hSame.2.1, hSame.2.2.1⟩

theorem Remediation.JobsSound.congr
    (hSound : JobsSound s)
    (hSame : remediated s' = remediated s) :
    JobsSound s' := by
  unfold remediated at hSame
  simp only [Prod.mk.injEq] at hSame
  obtain ⟨hCampaigns, hItems, hDecisions, hJobs⟩ := hSame
  constructor
  · rw [hJobs]
    intro job hJob
    have hOld := hSound.sound job hJob
    constructor
    · unfold Store.revoked Store.decisionRecord
      rw [hItems, hDecisions]
      exact hOld.item
    · rw [hCampaigns]
      exact hOld.campaign
    · exact hOld.terminal
  · exact distinct_reviewItems s'

/- What the audit of a delegation refers to. -/
def audited
    (s : Store) :
    Dialect × Table Application × Table Entitlement ×
      Table DelegationAssignment :=
  (s.dialect, s.applications, s.entitlements,
    s.delegationAssignments)

theorem contains_of_users_eq
    (hUsers : s'.users = s.users)
    (userId : Int)
    (hUser : s.users.contains userId = true) :
    s'.users.contains userId = true := by
  rw [hUsers]
  exact hUser

/- A delegate stays a user while users remain. -/
theorem Delegated.congr
    (hDelegated : Delegated s)
    (hSame :
      s'.delegationAssignments = s.delegationAssignments)
    (hUsers :
      ∀ userId,
        s.users.contains userId = true →
          s'.users.contains userId = true) :
    Delegated s' := by
  intro a ha
  rw [hSame] at ha
  exact hUsers _ (hDelegated a ha)

theorem resolves_users_of_contains
    (hDialect : s'.dialect = s.dialect)
    (hUsers :
      ∀ userId,
        s.users.contains userId = true →
          s'.users.contains userId = true)
    (userId : Int)
    (hResolves : s.resolves s.users userId = true) :
    s'.resolves s'.users userId = true := by
  unfold Store.resolves at *
  rw [hDialect]
  rw [Bool.or_eq_true] at *
  exact hResolves.imp_right (hUsers userId)

/- A delegation stays auditable while users remain. -/
theorem Delegation.Audited.congr
    (hAudited : Audited s)
    (hSame : audited s' = audited s)
    (hUsers :
      ∀ userId,
        s.users.contains userId = true →
          s'.users.contains userId = true) :
    Audited s' := by
  unfold audited at hSame
  simp only [Prod.mk.injEq] at hSame
  obtain ⟨hDialect, hApps, hEntitlements, hAssignments⟩ :=
    hSame
  have hResolves :=
    resolves_users_of_contains hDialect hUsers
  intro a ha
  rw [hAssignments] at ha
  rcases hAudited a ha with
    ⟨actorId, applicationId, entitlementId, hReference,
      hActor, hDelegate, hApplication, hEntitlement⟩
  refine ⟨actorId, applicationId, entitlementId, ?_,
    hResolves _ hActor, hResolves _ hDelegate, ?_, ?_⟩
  · unfold Store.auditReference Store.entitlementBySlugs at *
    rw [hApps, hEntitlements]
    exact hReference
  · unfold Store.resolves at *
    rw [hDialect, hApps]
    exact hApplication
  · unfold Store.resolves at *
    rw [hDialect, hEntitlements]
    exact hEntitlement

/- Nothing but the audit trail or other tables changed. -/
theorem Sound.congr
    (hSound : Sound s)
    (hRemediated : remediated s' = remediated s)
    (hAudited : audited s' = audited s)
    (hUsers : s'.users = s.users)
    (hProfiles :
      s'.enterpriseUserProfiles =
        s.enterpriseUserProfiles) :
    Sound s' where
  managers := hSound.managers.congr hUsers hProfiles
  campaigns :=
    hSound.campaigns.of_same
      (sameGovernance_of_remediated hRemediated)
  jobs := hSound.jobs.congr hRemediated
  delegates := by
    apply hSound.delegates.congr (congrArg (·.2.2.2) hAudited)
    exact contains_of_users_eq hUsers
  delegations := by
    apply hSound.delegations.congr hAudited
    exact contains_of_users_eq hUsers

end AccessIQ

------------------------------------------------------------
-- Steps
------------------------------------------------------------

namespace AccessIQ

open Foundations Python Scim Access Delegation Governance
open Connectors Remediation

variable [Platform]
variable {s s' : Store}

/- Users are never removed. -/
theorem DirectoryEffect.contains
    {events : List DomainEvent}
    (hEffect : DirectoryEffect s events s')
    {userId : Int}
    (hUser : s.users.contains userId = true) :
    s'.users.contains userId = true := by
  cases hEffect with
  | registered userData users' hFree hUsers =>
      exact (hUsers.contains_iff userId).mpr (Or.inr hUser)
  | scim _ _ hScim =>
      cases hScim with
      | none => exact hUser
      | denied => exact hUser
      | user ctx changedId _ _ hMutated =>
          cases hMutated with
          | created _ _ _ _ _ _ _ _ hStep =>
              exact
                (hStep.users.contains_iff userId).mpr
                  (Or.inr hUser)
          | changed _ _ _ _ _ _ _ _ hStep =>
              exact
                (hStep.users.contains_iff userId).mpr
                  (Or.inr hUser)
      | group ctx groupId _ _ hMutated =>
          cases hMutated with
          | mutated kinds s₁ auditEvents' hChange =>
              rw [hChange.eq]
              exact hUser

/- Users and groups change. -/
theorem Sound.of_effect
    {events : List DomainEvent}
    (hSound : Sound s)
    (hEffect : DirectoryEffect s events s') :
    Sound s' where
  managers := hierarchical_of_effect hEffect hSound.managers
  campaigns := by
    apply hSound.campaigns.of_same
    apply sameGovernance_of_remediated
    exact hEffect.frame remediated fun _ _ _ _ _ _ => rfl
  jobs := by
    apply hSound.jobs.congr
    exact hEffect.frame remediated fun _ _ _ _ _ _ => rfl
  delegates := by
    apply hSound.delegates.congr
    · exact hEffect.frame Store.delegationAssignments
        fun _ _ _ _ _ _ => rfl
    · exact fun _ hUser => hEffect.contains hUser
  delegations := by
    apply hSound.delegations.congr
    · exact hEffect.frame audited fun _ _ _ _ _ _ => rfl
    · exact fun _ hUser => hEffect.contains hUser

/- Campaigns are started, decided and closed. -/
theorem sound_serveGovernance
    (hSound : Sound s)
    (request : GovernanceRequest × Environment) :
    Sound (serveGovernance s request) := by
  have hKept : Kept s (serveGovernance s request) :=
    kept_serveReview s (.governance request.1, request.2)
      hSound.campaigns
  have hUsers :
      (serveGovernance s request).users = s.users :=
    serveGovernance_frame Store.users
      (fun _ _ _ _ _ => rfl) s request
  have hAudited :
      audited (serveGovernance s request) = audited s :=
    serveGovernance_frame audited (fun _ _ _ _ _ => rfl) s
      request
  constructor
  · apply hSound.managers.congr hUsers
    exact serveGovernance_frame Store.enterpriseUserProfiles
      (fun _ _ _ _ _ => rfl) s request
  · exact hKept.consistent
  · apply hKept.jobsSound hSound.campaigns _ hSound.jobs
    exact serveGovernance_frame Store.remediationJobs
      (fun _ _ _ _ _ => rfl) s request
  · apply hSound.delegates.congr (congrArg (·.2.2.2) hAudited)
    exact contains_of_users_eq hUsers
  · apply hSound.delegations.congr hAudited
    exact contains_of_users_eq hUsers

/- Only users become delegates. -/
omit [Platform] in
theorem Delegation.DelegationStep.delegated
    (hStep : DelegationStep s s')
    (hDelegated : Delegated s) :
    Delegated s' := by
  cases hStep with
  | unchanged => exact hDelegated
  | assigned hAssigned =>
      rcases hAssigned.delegate with ⟨delegate, hUser, -⟩
      rcases hAssigned.stored with ⟨hFits, event, rfl⟩
      intro a ha
      rcases (Table.mem_insert _ _ hFits).mp ha with ha | rfl
      · exact hDelegated a ha
      · exact Table.contains_of_get? hUser
  | removed hRemoved =>
      rcases hRemoved.stored with ⟨hFits, event, rfl⟩
      intro a ha
      rcases (Table.mem_modify _ hFits).mp ha with
        ⟨r, hr, rfl⟩
      have hOld := hDelegated r hr
      unfold Table.updateRow
      split <;> exact hOld

/- Delegations are assigned and withdrawn. -/
theorem sound_serveDelegation
    (hSound : Sound s)
    (request : DelegationRequest × Environment) :
    Sound (serveDelegation s request) := by
  have hRemediated :
      remediated (serveDelegation s request) = remediated s :=
    serveDelegation_frame remediated (fun _ _ _ => rfl) s
      request
  have hStep := serveDelegation_step s request
  constructor
  · apply hSound.managers.congr
    · exact serveDelegation_frame Store.users
        (fun _ _ _ => rfl) s request
    · exact serveDelegation_frame
        Store.enterpriseUserProfiles
        (fun _ _ _ => rfl) s request
  · exact hSound.campaigns.of_same
      (sameGovernance_of_remediated hRemediated)
  · exact hSound.jobs.congr hRemediated
  · exact hStep.delegated hSound.delegates
  · exact hStep.audited hSound.delegations

/- Campaigns are remediated. -/
theorem sound_serveRemediation
    (hSound : Sound s)
    (request : RemediationRequest) :
    Sound (serveRemediation s request) := by
  have hFrame :
      ∀ {β : Type} (f : Store → β),
        (∀ (s : Store) provisioningJobs entries events jobs,
          f { s with
              provisioningJobs := provisioningJobs
              provisioningHistory := entries
              auditEvents := events
              remediationJobs := jobs } =
            f s) →
          f (serveRemediation s request) = f s :=
    fun f hFrame => serveRemediation_frame f hFrame s request
  have hUsers := hFrame Store.users fun _ _ _ _ _ => rfl
  have hAudited := hFrame audited fun _ _ _ _ _ => rfl
  constructor
  · apply hSound.managers.congr hUsers
    exact hFrame Store.enterpriseUserProfiles
      fun _ _ _ _ _ => rfl
  · apply hSound.campaigns.of_same
    constructor
    · exact hFrame Store.certificationCampaigns
        fun _ _ _ _ _ => rfl
    · exact hFrame Store.certificationReviewItems
        fun _ _ _ _ _ => rfl
    · exact hFrame Store.certificationDecisions
        fun _ _ _ _ _ => rfl
  · exact jobsSound_serveRemediation s request hSound.jobs
  · apply hSound.delegates.congr (congrArg (·.2.2.2) hAudited)
    exact contains_of_users_eq hUsers
  · apply hSound.delegations.congr hAudited
    exact contains_of_users_eq hUsers

/- Every request of the application keeps all invariants. -/
theorem sound_serveApplication
    (s : Store)
    (request : ApplicationRequest × Environment)
    (hSound : Sound s) :
    Sound (serveApplication s request) := by
  rcases request with ⟨request, env⟩
  cases request with
  | directory directory =>
      exact hSound.of_effect
        (directoryEffect s (directory, env))
  | access access =>
      have hFrame :
          ∀ {β : Type} (f : Store → β),
            (∀ (s : Store) events assignments,
              f { s with
                  auditEvents := events
                  accessAssignments := assignments } =
                f s) →
              f (serveAccess s (access, env)) = f s :=
        fun f hFrame => serveAccess_frame f hFrame s _
      exact hSound.congr
        (hFrame remediated fun _ _ _ => rfl)
        (hFrame audited fun _ _ _ => rfl)
        (hFrame Store.users fun _ _ _ => rfl)
        (hFrame Store.enterpriseUserProfiles
          fun _ _ _ => rfl)
  | governance governance =>
      exact sound_serveGovernance hSound (governance, env)
  | delegation delegation =>
      exact sound_serveDelegation hSound (delegation, env)
  | remediation orchestrator ctx campaignId =>
      exact sound_serveRemediation hSound
        ⟨env, orchestrator, ctx, campaignId⟩

end AccessIQ

------------------------------------------------------------
-- Runs
------------------------------------------------------------

namespace AccessIQ

open Foundations Python Scim Access Delegation Governance
open Connectors Remediation

/-
  How the database looks later: campaigns have moved along
  their state machine and closed ones are as they were, no
  remediation job was changed, and no user was removed.
-/
structure Continues (s s' : Store) : Prop where
  campaigns : Evolved s s'
  jobs :
    s.remediationJobs.rows <+: s'.remediationJobs.rows
  users :
    ∀ userId,
      s.users.contains userId = true →
        s'.users.contains userId = true

theorem continues_refl
    (s : Store) :
    Continues s s :=
  ⟨evolved_refl s, List.prefix_rfl, fun _ hUser => hUser⟩

theorem continues_trans
    (a b c : Store)
    (hAB : Continues a b)
    (hBC : Continues b c) :
    Continues a c where
  campaigns := evolved_trans a b c hAB.campaigns hBC.campaigns
  jobs := hAB.jobs.trans hBC.jobs
  users userId hUser :=
    hBC.users userId (hAB.users userId hUser)

variable {s s' : Store}

theorem continues_of_remediated
    (hSame : remediated s' = remediated s)
    (hUsers :
      ∀ userId,
        s.users.contains userId = true →
          s'.users.contains userId = true) :
    Continues s s' where
  campaigns :=
    (governanceMoved_of_same
      (sameGovernance_of_remediated hSame)).evolved
  jobs := by
    unfold remediated at hSame
    simp only [Prod.mk.injEq] at hSame
    rw [hSame.2.2.2]
  users := hUsers

variable [Platform]

theorem continues_serveApplication
    (s : Store)
    (request : ApplicationRequest × Environment)
    (hSound : Sound s) :
    Continues s (serveApplication s request) := by
  rcases request with ⟨request, env⟩
  cases request with
  | directory directory =>
      have hEffect := directoryEffect s (directory, env)
      apply continues_of_remediated
      · exact hEffect.frame remediated
          fun _ _ _ _ _ _ => rfl
      · exact fun _ hUser => hEffect.contains hUser
  | access access =>
      apply continues_of_remediated
      · exact serveAccess_frame remediated (fun _ _ _ => rfl)
          s (access, env)
      · apply contains_of_users_eq
        exact serveAccess_frame Store.users
          (fun _ _ _ => rfl) s (access, env)
  | governance governance =>
      have hKept :=
        kept_serveReview s (.governance governance, env)
          hSound.campaigns
      constructor
      · exact hKept.moved.evolved
      · have hJobs :=
          serveGovernance_frame Store.remediationJobs
            (fun _ _ _ _ _ => rfl) s (governance, env)
        exact hJobs ▸ List.prefix_rfl
      · apply contains_of_users_eq
        exact serveGovernance_frame Store.users
          (fun _ _ _ _ _ => rfl) s (governance, env)
  | delegation delegation =>
      apply continues_of_remediated
      · exact serveDelegation_frame remediated
          (fun _ _ _ => rfl) s (delegation, env)
      · apply contains_of_users_eq
        exact serveDelegation_frame Store.users
          (fun _ _ _ => rfl) s (delegation, env)
  | remediation orchestrator ctx campaignId =>
      let request : RemediationRequest :=
        ⟨env, orchestrator, ctx, campaignId⟩
      have hGrow := jobsGrow_serveRemediation s request
      rcases hGrow.2 with ⟨_, _, _, _, hElsewhere⟩
      have hMoved :
          GovernanceMoved s (serveRemediation s request) := by
        apply governanceMoved_of_same
        rw [hElsewhere]
        exact ⟨rfl, rfl, rfl⟩
      constructor
      · exact hMoved.evolved
      · exact hGrow.1
      · apply contains_of_users_eq
        exact serveRemediation_frame Store.users
          (fun _ _ _ _ _ => rfl) s request

/-
  In every run of the application the invariants hold, what
  is closed, executed or registered stays, and the audit trail
  and the provisioning history only grow.
-/
theorem application_stays_sound
    (hSound : Sound s)
    (before after : List (ApplicationRequest × Environment)) :
    let reached := serveAll serveApplication s before
    let final := serveAll serveApplication reached after
    Sound reached ∧ Continues reached final ∧
      Permanent reached final := by
  intro reached final
  have hReached : Sound reached :=
    serveAll_invariant sound_serveApplication hSound before
  have hContinues : Continues reached final :=
    serveAll_related continues_refl continues_trans
      sound_serveApplication continues_serveApplication
      hReached after
  exact ⟨hReached, hContinues,
    permanent_serveAll reached after⟩

end AccessIQ

------------------------------------------------------------
-- A Run
------------------------------------------------------------

namespace AccessIQ

open Foundations Python Scim Access Delegation Governance
open Connectors Remediation Relation

theorem hierarchical_of_no_profiles
    {s : Store}
    (hNone : s.enterpriseUserProfiles.rows = []) :
    Hierarchical s := by
  have hManagers : ∀ userId, s.managerOf userId = none := by
    intro userId
    unfold Store.managerOf Store.enterpriseProfileOf
    rw [hNone]
    exact ite_self none
  constructor
  · intro userId hCycle
    rcases TransGen.head'_iff.mp hCycle with
      ⟨managerId, hFirst, -⟩
    have hSome : s.managerOf userId = some managerId := hFirst
    rw [hManagers userId] at hSome
    cases hSome
  · constructor
    · intro profile hMem
      rw [hNone] at hMem
      cases hMem
    · intro profile hMem
      rw [hNone] at hMem
      cases hMem

/- Nothing was done yet that could be unsound. -/
theorem sound_of_none
    {s : Store}
    (hProfiles : s.enterpriseUserProfiles.rows = [])
    (hCampaigns : s.certificationCampaigns.rows = [])
    (hItems : s.certificationReviewItems.rows = [])
    (hDecisions : s.certificationDecisions.rows = [])
    (hJobs : s.remediationJobs.rows = [])
    (hAssignments : s.delegationAssignments.rows = []) :
    Sound s where
  managers := hierarchical_of_no_profiles hProfiles
  campaigns := consistent_of_none hCampaigns hItems hDecisions
  jobs := jobsSound_of_none hJobs
  delegates := by
    intro a ha
    rw [hAssignments] at ha
    cases ha
  delegations := by
    intro a ha
    rw [hAssignments] at ha
    cases ha

section Run

attribute [local instance] asciiPlatform

/- Sarah may work on Salesforce, and Bob gets access to it. -/
def accessRequests :
    List (ApplicationRequest × Environment) :=
  [.delegation (.assign aliceContext salesforceHelpdesk),
    .access
      ⟨.grant, aliceContext,
        { targetUserId := 1, entitlementId := 1 },
        alice⟩].map
    (·, steadyEnvironment)

/-
  The access is reviewed and remediated while Maya becomes
  Bob's manager.
-/
def reviewRequests :
    List (ApplicationRequest × Environment) :=
  [.governance
      (.create aliceContext
        { name := "Quarterly Review", reviewerId := 5 }),
    .governance (.start aliceContext 1),
    .directory
      (.scim
        (.user
          ⟨aliceContext, "",
            .patch "1"
              (.object
                [("Operations",
                  .array
                    [.object
                      [("op", .string "replace"),
                        ("path", .string "manager"),
                        ("value", .string "6")]])])⟩)),
    .governance
      (.decide aliceContext 1 { decision := .revoke }),
    .governance (.complete aliceContext 1),
    .remediation mockOrchestrator aliceContext 1].map
    (·, flakyEnvironment)

theorem application_stays_sound_seeded :
    let reached :=
      serveAll serveApplication (seededStore .sqlite)
        accessRequests
    let final :=
      serveAll serveApplication reached reviewRequests
    Sound reached ∧ Continues reached final ∧
      Permanent reached final :=
  application_stays_sound
    (sound_of_none rfl rfl rfl rfl rfl rfl) accessRequests
    reviewRequests

example :
    let final :=
      serveAll serveApplication
        (serveAll serveApplication (seededStore .sqlite)
          accessRequests)
        reviewRequests
    final.managerOf 1 = some 6 ∧
      final.certificationCampaigns.rows.map (·.status) =
        [.completed] ∧
      final.remediationJobs.rows.map (·.status) =
        [.completed] := by
  decide +kernel

end Run

end AccessIQ
