import AccessIQ.Governance.Revocation

/-
  What the assignment key of a review item refers to.

  SQLite hands out one above the largest key present, so the
  key of a removed assignment can come back, and without
  enforced foreign keys a review item may still hold it.  An
  item keeps referring to the access that was reviewed as
  long as every grant that goes through finds its key free of
  the items of another pair.

  Key definitions include:
    * `RefersToReviewed`
    * `GoesThrough`
    * `KeyFree`
    * `FindsKeyFree`

  Key theorems include:
    * `serveAccess_assignments`
    * `refers_serveReview`
    * `references_kept_iff`
    * `reviewed_key_granted_again`
-/

------------------------------------------------------------
-- References
------------------------------------------------------------

namespace AccessIQ

namespace Governance

open Foundations Python Access Delegation

/-
  An assignment that a review item refers to has the user and
  the entitlement of the item.
-/
def RefersToReviewed
    (s : Store) : Prop :=
  ∀ item ∈ s.certificationReviewItems.rows,
    ∀ a,
      s.accessAssignments.get? item.accessAssignmentId =
          some a →
        a.userId = item.userId ∧
          a.entitlementId = item.entitlementId

/-
  No review item of another pair holds the key that a grant
  would take.
-/
def KeyFree
    (s : Store)
    (data : AccessActionRequest) : Prop :=
  ∀ item ∈ s.certificationReviewItems.rows,
    item.accessAssignmentId =
        s.accessAssignments.freshId s.dialect.keyPolicy →
      item.userId = data.targetUserId ∧
        item.entitlementId = data.entitlementId

variable [Platform]

/- A grant finds its rows and passes all its checks. -/
def GoesThrough
    (s : Store)
    (request : AccessRequest) : Prop :=
  request.kind = .grant ∧
    s.findAccessAssignment request.data.targetUserId
        request.data.entitlementId =
      none ∧
    ∃ target : AccessTarget s request.data,
      AccessKind.grant.passes s request.ctx.now
          request.actor target.user target.entitlement
          target.application =
        true

/- A request, if it is a grant that goes through. -/
def FindsKeyFree
    (s : Store)
    (request : ReviewRequest × Environment) : Prop :=
  match request.1 with
  | .access access => GoesThrough s access → KeyFree s access.data
  | .governance _ => True

end Governance

end AccessIQ

------------------------------------------------------------
-- Assignments After A Request
------------------------------------------------------------

namespace AccessIQ

namespace Governance

open Foundations Python Access Delegation

variable [Platform]

/-
  A request leaves the assignments as they are, or it passed
  its checks and had its effect.
-/
theorem assignments_of_outcome
    {α : Type}
    {mayFail : Prop}
    {change : AccessChange α}
    {effects : change.Effects}
    (kind : AccessKind)
    (hPolicy : change.policy = kind.policy)
    {ctx : RequestContext}
    {data : AccessActionRequest}
    {actor : User}
    {s s' : Store}
    {result : Except PyException α}
    {events : List DomainEvent}
    (hOutcome :
      AccessOutcome mayFail change effects ctx data actor s
        result s' events) :
    s'.accessAssignments = s.accessAssignments ∨
      (change.conflict
          (s.findAccessAssignment data.targetUserId
            data.entitlementId) =
        none ∧
        (∃ target : AccessTarget s data,
          kind.passes s ctx.now actor target.user
              target.entitlement target.application =
            true) ∧
        ∃ s₁ event n,
          SameButAudit s s₁ ∧
            effects.effect ctx data s₁ event n s') := by
  cases hOutcome with
  | userNotFound => exact Or.inl rfl
  | entitlementNotFound => exact Or.inl rfl
  | applicationNotFound => exact Or.inl rfl
  | databaseFailed => exact Or.inl rfl
  | unauthorized => exact Or.inl rfl
  | conflict target authorization s₁ response hAuthorized =>
      rcases AuthorizedAs.sameButAudit hAuthorized with
        ⟨t, rfl⟩
      exact Or.inl rfl
  | denied target authorization s₁ hAuthorized =>
      rcases AuthorizedAs.sameButAudit hAuthorized with
        ⟨t, rfl⟩
      exact Or.inl rfl
  | changed target authorization s₁ _ n hAuthorized
      hConflict hAllowed hEffect =>
      rcases accessAuthorization_of_authorizedAs hAuthorized
        with ⟨hEq, hAuthorization⟩
      have hPasses :
          kind.passes s ctx.now actor target.user
              target.entitlement target.application =
            true := by
        unfold AccessKind.passes
        simp only [hEq, hAuthorization, Bool.true_and]
        rw [← hPolicy]
        exact hAllowed
      exact Or.inr ⟨hConflict, ⟨target, hPasses⟩, s₁, _, n,
        AuthorizedAs.sameButAudit hAuthorized, hEffect⟩

/-
  An access request removes assignments, or it is a grant
  that goes through and adds its own.
-/
theorem serveAccess_assignments
    (s : Store)
    (request : AccessRequest)
    (env : Environment) :
    (∀ i a,
      (serveAccess s (request, env)).accessAssignments.get?
          i = some a →
        s.accessAssignments.get? i = some a) ∨
      (GoesThrough s request ∧
        ∃ hFits : s.accessAssignments.Fits
            (newAccessAssignment request.ctx request.data),
          (serveAccess s (request, env)).accessAssignments =
            s.accessAssignments.insert s.dialect.keyPolicy
              (newAccessAssignment request.ctx request.data)
              hFits) := by
  rcases request with ⟨kind, ctx, data, actor⟩
  cases kind with
  | grant =>
      rcases assignments_of_outcome .grant rfl
          (grantAccess_outcome env s ctx data actor) with
        hSame | ⟨hConflict, hTarget, s₁, event, n, hAudit,
          hEffect⟩
      · left
        intro i a hGet
        rw [← hSame]
        exact hGet
      · right
        rcases hAudit with ⟨t, rfl⟩
        rcases hEffect with ⟨hFits, -, hStored⟩
        refine ⟨⟨rfl, ?_, hTarget⟩, hFits, ?_⟩
        · cases hFind :
              s.findAccessAssignment data.targetUserId
                data.entitlementId with
          | none => rfl
          | some a =>
              rw [hFind] at hConflict
              cases hConflict
        · exact congrArg Store.accessAssignments hStored
  | revoke =>
      left
      rcases assignments_of_outcome .revoke rfl
          (revokeAccess_outcome env s ctx data actor) with
        hSame | ⟨-, -, s₁, event, n, hAudit, hEffect⟩
      · intro i a hGet
        rw [← hSame]
        exact hGet
      · rcases hAudit with ⟨t, rfl⟩
        rcases hEffect with ⟨a, -, -, hStored⟩
        intro i b hGet
        have hTable := congrArg Store.accessAssignments hStored
        change
          (serveAccess s
            (⟨.revoke, ctx, data, actor⟩,
              env)).accessAssignments =
            s.accessAssignments.delete a.id at hTable
        rw [hTable] at hGet
        rw [Table.get?_eq_some_iff] at hGet ⊢
        exact ⟨((Table.mem_delete _).mp hGet.1).1, hGet.2⟩

/- On SQLite a grant that goes through is stored. -/
theorem serveAccess_goesThrough
    {s : Store}
    (hDialect : s.dialect = .sqlite)
    {request : AccessRequest}
    (hThrough : GoesThrough s request)
    {env : Environment}
    (hSteady : env.Steady) :
    ∃ hFits : s.accessAssignments.Fits
        (newAccessAssignment request.ctx request.data),
      (serveAccess s (request, env)).accessAssignments =
        s.accessAssignments.insert s.dialect.keyPolicy
          (newAccessAssignment request.ctx request.data)
          hFits := by
  rcases request with ⟨kind, ctx, data, actor⟩
  rcases hThrough with ⟨hKind, hNone, target, hPasses⟩
  change kind = .grant at hKind
  subst hKind
  change
    s.findAccessAssignment data.targetUserId
      data.entitlementId = none at hNone
  unfold AccessKind.passes at hPasses
  rw [Bool.and_eq_true] at hPasses
  have hResolves :
      ∀ i, s.resolves s.users i = true := by
    intro i
    unfold Store.resolves
    rw [hDialect]
    rfl
  have hReferences :
      ∀ i, s.resolves s.entitlements i = true := by
    intro i
    unfold Store.resolves
    rw [hDialect]
    rfl
  have hOutcome := grantAccess_outcome env s ctx data actor
  change
    ∃ hFits : s.accessAssignments.Fits
        (newAccessAssignment ctx data),
      ((grantAccess ctx data actor).serve env
          s).committed.accessAssignments = _
  generalize (grantAccess ctx data actor).serve env s = r
    at hOutcome ⊢
  rcases r with ⟨result, committed, published⟩
  simp only at hOutcome ⊢
  cases hOutcome with
  | userNotFound hMissing =>
      cases target.user_found.symm.trans hMissing
  | entitlementNotFound hMissing =>
      cases target.entitlement_found.symm.trans hMissing
  | applicationNotFound entitlement hSome hMissing =>
      cases target.entitlement_found.symm.trans hSome
      cases target.application_found.symm.trans hMissing
  | databaseFailed target' e hError hReason =>
      rcases hReason with hFail | hUnknown |
        ⟨authorization, s₁, hAuthorized, -, -, hBlocked⟩
      · exact absurd hFail hSteady.not_mayFail
      · cases (hResolves actor.id).symm.trans hUnknown
      · rcases AuthorizedAs.sameButAudit hAuthorized with
          ⟨t, rfl⟩
        change
          (s.resolves s.users data.targetUserId &&
            s.resolves s.entitlements
              data.entitlementId) = false at hBlocked
        rw [hResolves, hReferences] at hBlocked
        cases hBlocked
  | unauthorized target' hUnauthorized =>
      cases target'.eq target
      rw [accessAuthorization_of_unauthorized hUnauthorized]
        at hPasses
      cases hPasses.1
  | conflict target' authorization s₁ response hAuthorized
      hConflict =>
      rw [hNone] at hConflict
      cases hConflict
  | denied target' authorization s₁ hAuthorized hConflict
      hDenied =>
      cases target'.eq target
      rcases accessAuthorization_of_authorizedAs hAuthorized
        with ⟨hEq, -⟩
      rw [hEq] at hPasses
      cases hPasses.2.symm.trans hDenied
  | changed target' authorization s₁ _ n hAuthorized
      hConflict hAllowed hEffect =>
      rcases AuthorizedAs.sameButAudit hAuthorized with
        ⟨t, rfl⟩
      rcases hEffect with ⟨hFits, -, rfl⟩
      exact ⟨hFits, rfl⟩

/- A governance request leaves the assignments alone. -/
theorem assignments_serveGovernance
    (s : Store)
    (request : GovernanceRequest × Environment) :
    (serveGovernance s request).accessAssignments =
      s.accessAssignments := by
  have hStep := serveGovernance_step s request
  generalize serveGovernance s request = s' at hStep ⊢
  cases hStep with
  | unchanged => rfl
  | created hCreated =>
      rcases hCreated with ⟨_, -, _, _, -, rfl⟩
      rfl
  | started hStarted =>
      cases hStarted with
      | again loaded hGet hDraft hItems event hCampaign
          hStored =>
          rw [hStored]
          rfl
      | generated loaded hGet hDraft hNone items hItems s₁
          hInserted event hCampaign hStored =>
          rcases insertCertificationReviewItems_eq_ok
            hInserted with ⟨t, -, rfl⟩
          rw [hStored]
          rfl
  | decided hDecided =>
      rw [hDecided.stored]
      rfl
  | completed hCompleted =>
      rcases hCompleted with ⟨_, -, -, -, rfl, _, rfl⟩
      rfl
  | cancelled hCancelled =>
      rcases hCancelled with ⟨_, -, -, rfl, _, rfl⟩
      rfl

end Governance

end AccessIQ

------------------------------------------------------------
-- Keeping The References
------------------------------------------------------------

namespace AccessIQ

namespace Governance

open Foundations Python Access Delegation

/- Items of the same subject refer to the same access. -/
theorem refers_of_subject
    {item item' : CertificationReviewItem}
    (hSame : reviewSubject item' = reviewSubject item) :
    item'.accessAssignmentId = item.accessAssignmentId ∧
      item'.userId = item.userId ∧
      item'.entitlementId = item.entitlementId := by
  have hKey :
      (reviewSubject item').accessAssignmentId =
        (reviewSubject item).accessAssignmentId :=
    congrArg CertificationReviewItem.accessAssignmentId hSame
  have hUser :
      (reviewSubject item').userId =
        (reviewSubject item).userId :=
    congrArg CertificationReviewItem.userId hSame
  have hEntitlement :
      (reviewSubject item').entitlementId =
        (reviewSubject item).entitlementId :=
    congrArg CertificationReviewItem.entitlementId hSame
  exact ⟨hKey, hUser, hEntitlement⟩

theorem Snapshot.refers
    {s : Store}
    {items : List CertificationReviewItem}
    (hSnapshot : Snapshot s items)
    {item : CertificationReviewItem}
    (hItem : item ∈ items) :
    ∃ a ∈ s.accessAssignments.rows,
      item.accessAssignmentId = a.id ∧
        item.userId = a.userId ∧
        item.entitlementId = a.entitlementId := by
  unfold Snapshot at hSnapshot
  generalize s.accessAssignments.rows = rows at hSnapshot ⊢
  induction hSnapshot with
  | nil => cases hItem
  | @cons a first rows rest hFirst _ ih =>
      rcases List.mem_cons.mp hItem with rfl | hRest
      · exact ⟨a, List.mem_cons_self, hFirst⟩
      · rcases ih hRest with ⟨b, hb, hEq⟩
        exact ⟨b, List.mem_cons_of_mem _ hb, hEq⟩

/-
  Every item of the next state was taken from an assignment
  or has the subject of an item that was there.
-/
theorem Kept.item_cases
    {s s' : Store}
    (hKept : Kept s s')
    {item' : CertificationReviewItem}
    (hItem : item' ∈ s'.certificationReviewItems.rows) :
    (∃ a ∈ s.accessAssignments.rows,
      item'.accessAssignmentId = a.id ∧
        item'.userId = a.userId ∧
        item'.entitlementId = a.entitlementId) ∨
      ∃ item ∈ s.certificationReviewItems.rows,
        reviewSubject item' = reviewSubject item := by
  rcases hKept.consistent.campaign_of_item item' hItem with
    ⟨c', hC', hId', hStarted⟩
  rcases hKept.moved.new c' hC' with ⟨c, hC, hId⟩ | hDraft
  · rcases hKept.moved.moved c hC with ⟨c'', hC'', hMove⟩
    have hOf : item' ∈ s'.reviewItemsOf c.id := by
      apply mem_reviewItemsOf.mpr
      exact ⟨hItem, hId'.symm.trans hId.symm⟩
    by_cases hStart :
        c.status = .draft ∧ c''.status = .active
    · left
      exact (hMove.taken hStart.1 hStart.2).refers hOf
    · right
      have hSubjects := hMove.kept hStart
      have hMem :
          reviewSubject item' ∈
            (s.reviewItemsOf c.id).map reviewSubject := by
        rw [← hSubjects]
        exact List.mem_map_of_mem hOf
      rcases List.mem_map.mp hMem with ⟨item, hOld, hEq⟩
      exact ⟨item, (mem_reviewItemsOf.mp hOld).1, hEq.symm⟩
  · exact absurd hDraft hStarted

variable [Platform]

/-
  A request keeps the references, unless it is a grant that
  goes through and takes the key of another pair's item.
-/
theorem refers_serveReview
    {s : Store}
    (hConsistent : Consistent s)
    (hRefers : RefersToReviewed s)
    {request : ReviewRequest × Environment}
    (hFree : FindsKeyFree s request) :
    RefersToReviewed (serveReview s request) := by
  have hKept := kept_serveReview s request hConsistent
  rcases request with ⟨request, env⟩
  cases request with
  | governance governance =>
      have hSame :
          (serveReview s
            (.governance governance, env)).accessAssignments =
            s.accessAssignments :=
        assignments_serveGovernance s (governance, env)
      intro item' hItem' a hGet
      rw [hSame] at hGet
      rcases hKept.item_cases hItem' with
        ⟨b, hb, hKey, hUser, hEntitlement⟩ |
          ⟨item, hItem, hSubject⟩
      · have hFound := s.accessAssignments.get?_of_mem hb
        rw [hKey] at hGet
        have hEq : a = b :=
          Option.some.inj (hGet.symm.trans hFound)
        rw [hEq]
        exact ⟨hUser.symm, hEntitlement.symm⟩
      · rcases refers_of_subject hSubject with
          ⟨hKey, hUser, hEntitlement⟩
        rw [hKey] at hGet
        rw [hUser, hEntitlement]
        exact hRefers item hItem a hGet
  | access access =>
      have hItems :
          (serveReview s
            (.access access, env)).certificationReviewItems =
            s.certificationReviewItems :=
        (sameGovernance_serveAccess s (access, env)).items
      intro item hItem a hGet
      rw [hItems] at hItem
      rcases serveAccess_assignments s access env with
        hOld | ⟨hThrough, hFits, hTable⟩
      · exact hRefers item hItem a (hOld _ a hGet)
      · change
          (serveAccess s
            (access, env)).accessAssignments.get?
              item.accessAssignmentId = some a at hGet
        rw [hTable, Table.get?_insert] at hGet
        by_cases hKey :
            item.accessAssignmentId =
              s.accessAssignments.freshId s.dialect.keyPolicy
        · rw [if_pos hKey] at hGet
          rcases hFree hThrough item hItem hKey with
            ⟨hUser, hEntitlement⟩
          cases hGet
          exact ⟨hUser.symm, hEntitlement.symm⟩
        · rw [if_neg hKey] at hGet
          exact hRefers item hItem a hGet

/-
  If the references hold after a request that nothing made
  fail, a grant that went through found its key free.
-/
theorem findsKeyFree_of_refers
    {s : Store}
    (hDialect : s.dialect = .sqlite)
    {request : ReviewRequest × Environment}
    (hSteady : request.2.Steady)
    (hRefers : RefersToReviewed (serveReview s request)) :
    FindsKeyFree s request := by
  rcases request with ⟨request, env⟩
  cases request with
  | governance governance => trivial
  | access access =>
      intro hThrough item hItem hKey
      rcases serveAccess_goesThrough hDialect hThrough hSteady
        with ⟨hFits, hTable⟩
      have hItems :
          (serveReview s
            (.access access, env)).certificationReviewItems =
            s.certificationReviewItems :=
        (sameGovernance_serveAccess s (access, env)).items
      have hGet :
          (serveReview s
            (.access access, env)).accessAssignments.get?
              item.accessAssignmentId =
            some
              (Row.withId
                (newAccessAssignment access.ctx access.data)
                (s.accessAssignments.freshId
                  s.dialect.keyPolicy)) := by
        change
          (serveAccess s
            (access, env)).accessAssignments.get?
              item.accessAssignmentId = _
        rw [hTable, hKey, Table.get?_insert, if_pos rfl]
      rw [← hItems] at hItem
      rcases hRefers item hItem _ hGet with
        ⟨hUser, hEntitlement⟩
      exact ⟨hUser.symm, hEntitlement.symm⟩

/-
  On SQLite, in a run of grants, revocations and campaign
  requests from no campaigns: if every grant that goes
  through finds its key free, the references hold in every
  state the run comes through; and if nothing fails, they
  hold only then.
-/
theorem references_kept_iff
    {start : Store}
    (hDialect : start.dialect = .sqlite)
    (hCampaigns : start.certificationCampaigns.rows = [])
    (hItems : start.certificationReviewItems.rows = [])
    (hDecisions : start.certificationDecisions.rows = [])
    (requests : List (ReviewRequest × Environment)) :
    (EachStep serveReview FindsKeyFree start requests →
      ∀ before, before <+: requests →
        RefersToReviewed
          (serveAll serveReview start before)) ∧
      ((∀ request ∈ requests, request.2.Steady) →
        (∀ before, before <+: requests →
          RefersToReviewed
            (serveAll serveReview start before)) →
          EachStep serveReview FindsKeyFree start
            requests) := by
  have hConsistent :=
    consistent_of_none hCampaigns hItems hDecisions
  have hNone : RefersToReviewed start := by
    intro item hItem
    rw [hItems] at hItem
    cases hItem
  constructor
  · intro hMeets before hBefore
    have hStep :
        ∀ s request,
          Consistent s ∧ RefersToReviewed s →
            FindsKeyFree s request →
              Consistent (serveReview s request) ∧
                RefersToReviewed (serveReview s request) := by
      intro s request hInv hFree
      exact ⟨(kept_serveReview s request hInv.1).consistent,
        refers_serveReview hInv.1 hInv.2 hFree⟩
    have hBoth := serveAll_of_eachStep hStep
      ⟨hConsistent, hNone⟩ hMeets hBefore
    exact hBoth.2
  · intro hSteady hRefers
    have hStep :
        ∀ (s : Store) request,
          s.dialect = .sqlite →
            (serveReview s request).dialect = .sqlite :=
      fun s request h =>
        (dialect_serveReview s request).trans h
    have hShows :
        ∀ s, ∀ request ∈ requests,
          s.dialect = .sqlite →
            RefersToReviewed (serveReview s request) →
              FindsKeyFree s request := by
      intro s request hMem hSqlite hProperty
      exact findsKeyFree_of_refers hSqlite
        (hSteady request hMem) hProperty
    exact eachStep_of_serveAll hStep hShows hDialect hRefers

end Governance

end AccessIQ

------------------------------------------------------------
-- A Key That Comes Back
------------------------------------------------------------

namespace AccessIQ

namespace Governance

open Foundations Python Access

attribute [local instance] asciiPlatform

/- A grant and a campaign that reviews it. -/
def startedReview :
    List (ReviewRequest × Environment) :=
  approvedReview.take 3

/-
  The reviewed access is revoked, and another user is granted
  another entitlement under its key.
-/
def regrantedReview :
    List (ReviewRequest × Environment) :=
  startedReview ++
    [(.access
        ⟨.revoke, aliceContext,
          { targetUserId := 1, entitlementId := 1 }, alice⟩,
        steadyEnvironment),
      (.access
        ⟨.grant, aliceContext,
          { targetUserId := 2, entitlementId := 3 }, alice⟩,
        steadyEnvironment)]

theorem references_kept_iff_startedReview :
    (EachStep serveReview FindsKeyFree
        (seededStore .sqlite) startedReview →
      ∀ before, before <+: startedReview →
        RefersToReviewed
          (serveAll serveReview (seededStore .sqlite)
            before)) ∧
      ((∀ request ∈ startedReview, request.2.Steady) →
        (∀ before, before <+: startedReview →
          RefersToReviewed
            (serveAll serveReview (seededStore .sqlite)
              before)) →
          EachStep serveReview FindsKeyFree
            (seededStore .sqlite) startedReview) :=
  references_kept_iff rfl rfl rfl rfl startedReview

/-
  The item of user 1 and entitlement 1 now refers to the
  assignment of user 2 and entitlement 3.
-/
theorem reviewed_key_granted_again :
    let s :=
      serveAll serveReview (seededStore .sqlite)
        regrantedReview
    s.certificationReviewItems.rows.map
        (fun item =>
          (item.accessAssignmentId, item.userId,
            item.entitlementId)) = [(1, 1, 1)] ∧
      s.accessAssignments.rows.map
        (fun a => (a.id, a.userId, a.entitlementId)) =
          [(1, 2, 3)] ∧
      ¬ RefersToReviewed s := by
  intro s
  have hItems :
      s.certificationReviewItems.rows.map
          (fun item =>
            (item.accessAssignmentId, item.userId,
              item.entitlementId)) = [(1, 1, 1)] := by
    decide +kernel
  have hAssignments :
      s.accessAssignments.rows.map
          (fun a => (a.id, a.userId, a.entitlementId)) =
        [(1, 2, 3)] := by
    decide +kernel
  refine ⟨hItems, hAssignments, ?_⟩
  intro hRefers
  have hItem :
      ((1, 1, 1) : Int × Int × Int) ∈
        s.certificationReviewItems.rows.map
          (fun item =>
            (item.accessAssignmentId, item.userId,
              item.entitlementId)) := by
    rw [hItems]
    exact List.mem_singleton_self _
  have hAssignment :
      ((1, 2, 3) : Int × Int × Int) ∈
        s.accessAssignments.rows.map
          (fun a => (a.id, a.userId, a.entitlementId)) := by
    rw [hAssignments]
    exact List.mem_singleton_self _
  rcases List.mem_map.mp hItem with ⟨item, hItem, hEq⟩
  rcases List.mem_map.mp hAssignment with ⟨a, ha, hEq'⟩
  injection hEq with hItemKey hItemPair
  injection hItemPair with hItemUser hItemEntitlement
  injection hEq' with hKey hPair
  injection hPair with hUser hEntitlement
  have hGet :
      s.accessAssignments.get? item.accessAssignmentId =
        some a := by
    rw [hItemKey, ← hKey]
    exact s.accessAssignments.get?_of_mem ha
  have hSame := (hRefers item hItem a hGet).1
  omega

end Governance

end AccessIQ
