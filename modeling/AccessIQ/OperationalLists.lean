import Mathlib.Data.String.Basic
import AccessIQ.Foundations.Pagination
import AccessIQ.Connectors.Results
import AccessIQ.Seed

/-
  The paged lists of provisioning jobs, their history,
  campaigns and review items.

  A list is sorted by one field alone, and most fields have
  many equal values.  The pages of a list give every matching
  row once exactly if no page begins among rows that are
  equal in the sort field.

  Key definitions include:
    * `applySorting`
    * `listJobs`
    * `listHistory`
    * `listCampaigns`
    * `listReviewItems`
    * `Partitions`

  Key theorems include:
    * `partitions_iff`
    * `operational_pages_partition_iff`
    * `tied_jobs_shown_twice`
-/

------------------------------------------------------------
-- Sorting
------------------------------------------------------------

namespace AccessIQ

open Foundations Python Governance

/- What the lists raise. -/
inductive ListError where
  | campaignNotFound (campaignId : Int)
  | unsupportedSortField (sortBy : String)
  | unsupportedSortOrder (sortOrder : String)
  deriving DecidableEq, Repr

def supportedSortOrders : List String :=
  ["ascending", "descending"]

/- `_apply_sorting`. -/
def applySorting
    {α : Type}
    (sortFields : List (String × SortKey α))
    (sortBy sortOrder : String) :
    Except ListError (SortKey α) :=
  if sortOrder ∉ supportedSortOrders then
    .error (.unsupportedSortOrder sortOrder)
  else
    match sortFields.lookup sortBy with
    | none => .error (.unsupportedSortField sortBy)
    | some key =>
        .ok
          (if sortOrder = "descending" then
            key.descending
          else
            key)

/- `value or default` of an optional string. -/
def orDefault
    (value : Option String)
    (default : String) :
    String :=
  match value with
  | none => default
  | some text => if text = "" then default else text

/- SQLite puts NULL before all values, PostgreSQL after. -/
def Dialect.nullsFirst : Dialect → Bool
  | .sqlite => true
  | .postgresql => false

/- A filter that is not given admits every value. -/
def admits
    {κ : Type}
    [DecidableEq κ]
    (filter : Option κ)
    (value : κ) :
    Bool :=
  match filter with
  | none => true
  | some wanted => value == wanted

end AccessIQ

------------------------------------------------------------
-- Provisioning Jobs And History
------------------------------------------------------------

namespace AccessIQ

open Foundations Python

structure ProvisioningJobFilters where
  connector : Option String := none
  operation : Option String := none
  status : Option String := none
  correlationId : Option String := none
  targetType : Option String := none
  targetId : Option String := none
  deriving DecidableEq, Repr

/- `_apply_job_filters`. -/
def ProvisioningJobFilters.admitsJob
    (filters : ProvisioningJobFilters)
    (job : ProvisioningJob) :
    Bool :=
  admits filters.connector job.connector &&
    admits filters.operation job.operation.value &&
    admits filters.status job.status.value &&
    admits filters.correlationId job.correlationId &&
    admits filters.targetType job.targetType &&
    (filters.targetId.isNone ||
      filters.targetId == job.targetId)

/- `SUPPORTED_PROVISIONING_JOB_SORT_FIELDS`. -/
def provisioningJobSortFields
    (collation : SortKey String)
    (dialect : Dialect) :
    List (String × SortKey ProvisioningJob) :=
  [("id", .column (·.id)),
    ("created_at", .column (·.createdAt)),
    ("started_at", .nullable dialect.nullsFirst (·.startedAt)),
    ("completed_at",
      .nullable dialect.nullsFirst (·.completedAt)),
    ("connector", collation.on (·.connector)),
    ("operation", collation.on (·.operation.value)),
    ("status", collation.on (·.status.value))]

def matchingJobs
    (s : Store)
    (filters : ProvisioningJobFilters) :
    List ProvisioningJob :=
  s.provisioningJobs.rows.filter filters.admitsJob

/- `ProvisioningJobService.list_jobs`. -/
def listJobs
    (collation : SortKey String)
    (s : Store)
    (filters : ProvisioningJobFilters)
    (sortBy : Option String)
    (sortOrder : String)
    (order : RowOrder ProvisioningJob)
    (offset limit : Nat) :
    Except ListError (List ProvisioningJob) := do
  let key ←
    applySorting (provisioningJobSortFields collation s.dialect)
      (orDefault sortBy "created_at") sortOrder
  return page offset limit
    (orderBy order key (matchingJobs s filters))

structure ProvisioningHistoryFilters where
  jobId : Option Int := none
  connector : Option String := none
  operation : Option String := none
  eventType : Option String := none
  status : Option String := none
  correlationId : Option String := none
  deriving DecidableEq, Repr

/- `_apply_history_filters`. -/
def ProvisioningHistoryFilters.admitsHistory
    (filters : ProvisioningHistoryFilters)
    (history : ProvisioningHistory) :
    Bool :=
  admits filters.jobId history.jobId &&
    admits filters.connector history.connector &&
    admits filters.operation history.operation.value &&
    admits filters.eventType history.eventType.value &&
    admits filters.status history.status.value &&
    admits filters.correlationId history.correlationId

/- `SUPPORTED_PROVISIONING_HISTORY_SORT_FIELDS`. -/
def provisioningHistorySortFields
    (collation : SortKey String) :
    List (String × SortKey ProvisioningHistory) :=
  [("id", .column (·.id)),
    ("created_at", .column (·.createdAt)),
    ("connector", collation.on (·.connector)),
    ("operation", collation.on (·.operation.value)),
    ("event_type", collation.on (·.eventType.value)),
    ("status", collation.on (·.status.value))]

def matchingHistory
    (s : Store)
    (filters : ProvisioningHistoryFilters) :
    List ProvisioningHistory :=
  s.provisioningHistory.rows.filter filters.admitsHistory

/- `ProvisioningJobService.list_history`. -/
def listHistory
    (collation : SortKey String)
    (s : Store)
    (filters : ProvisioningHistoryFilters)
    (sortBy : Option String)
    (sortOrder : String)
    (order : RowOrder ProvisioningHistory)
    (offset limit : Nat) :
    Except ListError (List ProvisioningHistory) := do
  let key ←
    applySorting (provisioningHistorySortFields collation)
      (orDefault sortBy "created_at") sortOrder
  return page offset limit
    (orderBy order key (matchingHistory s filters))

end AccessIQ

------------------------------------------------------------
-- Campaigns And Review Items
------------------------------------------------------------

namespace AccessIQ

namespace Governance

open Foundations Python

structure CampaignFilters where
  status : Option String := none
  createdBy : Option Int := none
  reviewerId : Option Int := none
  deriving DecidableEq, Repr

def CampaignFilters.admitsCampaign
    (filters : CampaignFilters)
    (campaign : CertificationCampaign) :
    Bool :=
  admits filters.status campaign.status.value &&
    admits filters.createdBy campaign.createdBy &&
    admits filters.reviewerId campaign.defaultReviewerId

def matchingCampaigns
    (s : Store)
    (filters : CampaignFilters) :
    List CertificationCampaign :=
  s.certificationCampaigns.rows.filter filters.admitsCampaign

structure ReviewItemFilters where
  status : Option String := none
  reviewerId : Option Int := none
  decision : Option String := none
  deriving DecidableEq, Repr

/- The conditions on a review item itself. -/
def ReviewItemFilters.admitsItem
    (filters : ReviewItemFilters)
    (campaignId : Int)
    (item : CertificationReviewItem) :
    Bool :=
  item.campaignId == campaignId &&
    admits filters.status item.status.value &&
    admits filters.reviewerId item.reviewerId

/-
  The rows of the query for review items: with a decision to
  look for, an item is joined with each of its decisions.
-/
def joinedReviewItems
    (s : Store)
    (campaignId : Int)
    (filters : ReviewItemFilters) :
    List CertificationReviewItem :=
  let items :=
    s.certificationReviewItems.rows.filter
      (filters.admitsItem campaignId)
  match filters.decision with
  | none => items
  | some wanted =>
      items.flatMap fun item =>
        (s.certificationDecisions.rows.filter fun decision =>
          decision.reviewItemId == item.id &&
            decision.decision.value == wanted).map
          fun _ => item

/- The review items that match, each once. -/
def matchingReviewItems
    (s : Store)
    (campaignId : Int)
    (filters : ReviewItemFilters) :
    List CertificationReviewItem :=
  s.certificationReviewItems.rows.filter fun item =>
    filters.admitsItem campaignId item &&
      (filters.decision.isNone ||
        s.certificationDecisions.rows.any fun decision =>
          decision.reviewItemId == item.id &&
            filters.decision == some decision.decision.value)

/- `SUPPORTED_REVIEW_ITEM_SORT_FIELDS`. -/
def reviewItemSortFields
    (collation : SortKey String)
    (dialect : Dialect) :
    List (String × SortKey CertificationReviewItem) :=
  [("id", .column (·.id)),
    ("status", collation.on (·.status.value)),
    ("created_at", .column (·.createdAt)),
    ("reviewed_at",
      .nullable dialect.nullsFirst (·.reviewedAt)),
    ("user_id", .column (·.userId)),
    ("application_id", .column (·.applicationId))]

/- `ReviewService.list_review_items`. -/
def listReviewItems
    (collation : SortKey String)
    (s : Store)
    (campaignId : Int)
    (filters : ReviewItemFilters)
    (sortBy : Option String)
    (sortOrder : String)
    (order : RowOrder CertificationReviewItem)
    (offset limit : Nat) :
    Except ListError (List CertificationReviewItem) :=
  match s.certificationCampaigns.get? campaignId with
  | none => .error (.campaignNotFound campaignId)
  | some _ => do
      let key ←
        applySorting (reviewItemSortFields collation s.dialect)
          (orDefault sortBy "id") sortOrder
      let items :=
        page offset limit
          (orderBy order key
            (joinedReviewItems s campaignId filters))
      return items.eraseDups

variable [Platform]

/- `SUPPORTED_CAMPAIGN_SORT_FIELDS`. -/
def campaignSortFields
    (collation : SortKey String)
    (dialect : Dialect) :
    List (String × SortKey CertificationCampaign) :=
  [("id", .column (·.id)),
    ("name", collation.on fun c => dialect.lower c.name),
    ("status", collation.on (·.status.value)),
    ("created_at", .column (·.createdAt)),
    ("started_at", .nullable dialect.nullsFirst (·.startedAt)),
    ("completed_at",
      .nullable dialect.nullsFirst (·.completedAt))]

/- `CampaignService.list_campaigns`. -/
def listCampaigns
    (collation : SortKey String)
    (s : Store)
    (filters : CampaignFilters)
    (sortBy : Option String)
    (sortOrder : String)
    (order : RowOrder CertificationCampaign)
    (offset limit : Nat) :
    Except ListError (List CertificationCampaign) := do
  let key ←
    applySorting (campaignSortFields collation s.dialect)
      (orDefault sortBy "created_at") sortOrder
  return page offset limit
    (orderBy order key (matchingCampaigns s filters))

end Governance

end AccessIQ

------------------------------------------------------------
-- Pages
------------------------------------------------------------

namespace AccessIQ

open Foundations Python Governance

/-
  The pages of a list, put together, have every matching row
  once, whatever order each query has.
-/
def Partitions
    {α : Type}
    (list :
      RowOrder α → Nat → Nat → Except ListError (List α))
    (matching : List α)
    (limit : Nat) : Prop :=
  ∀ (orders : Nat → RowOrder α) (n : Nat),
    matching.length ≤ n * limit →
      ∃ pages,
        (List.range n).mapM
            (fun i => list (orders i) (i * limit) limit) =
          .ok pages ∧
        pages.flatten.Perm matching

theorem partitions_iff
    {α : Type}
    {list :
      RowOrder α → Nat → Nat → Except ListError (List α)}
    {key : SortKey α}
    {matching : List α}
    (hNodup : matching.Nodup)
    {limit : Nat}
    (hList :
      ∀ order offset,
        list order offset limit =
          .ok (page offset limit
            (orderBy order key matching))) :
    Partitions list matching limit ↔
      CutsBetweenKeys key limit matching := by
  have hPages :
      ∀ (orders : Nat → RowOrder α) n,
        (List.range n).mapM
            (fun i => list (orders i) (i * limit) limit) =
          .ok ((List.range n).map fun i =>
            page (i * limit) limit
              (orderBy (orders i) key matching)) := by
    intro orders n
    simp only [hList]
    exact List.mapM_pure
  constructor
  · intro hPartitions
    by_cases hLimit : limit = 0
    · subst hLimit
      intro i hInside
      by_contra hNone
      have hNone' :
          ∀ row ∈ matching,
            countBelow key matching row ≠ i * 0 :=
        fun row hRow hCount => hNone ⟨row, hRow, hCount⟩
      rcases exists_tie hInside hNone'
          (orderBy_perm .stored key matching)
          (orderBy_sorted .stored key matching) with
        ⟨before, x, y, after, -, hLength, -⟩
      omega
    · have hEnough :
          matching.length ≤ matching.length * limit :=
        Nat.le_mul_of_pos_right _ (Nat.pos_of_ne_zero hLimit)
      apply (flatMap_pages_perm_iff hNodup hEnough).mp
      intro orders
      rcases hPartitions orders _ hEnough with
        ⟨pages, hOk, hPerm⟩
      rw [hPages] at hOk
      cases hOk
      exact hPerm
  · intro hCuts orders n hEnough
    refine ⟨_, hPages orders n, ?_⟩
    exact flatMap_pages_perm hCuts hEnough orders

/- The decisions of one item that a filter looks for. -/
theorem decisions_of_item
    (s : Store)
    (item : CertificationReviewItem)
    (wanted : String) :
    (s.certificationDecisions.rows.filter fun decision =>
        decision.reviewItemId == item.id &&
          decision.decision.value == wanted).map
        (fun _ => item) =
      if s.certificationDecisions.rows.any fun decision =>
          decision.reviewItemId == item.id &&
            decision.decision.value == wanted then
        [item]
      else
        [] := by
  have hUnique :=
    s.certificationDecisions.unique.filter fun decision =>
      decision.reviewItemId == item.id &&
        decision.decision.value == wanted
  have hMem :
      ∀ decision ∈
        s.certificationDecisions.rows.filter
          (fun decision =>
            decision.reviewItemId == item.id &&
              decision.decision.value == wanted),
        decision.reviewItemId = item.id := by
    intro decision hDecision
    have hBoth := (List.mem_filter.mp hDecision).2
    rw [Bool.and_eq_true] at hBoth
    exact beq_iff_eq.mp hBoth.1
  have hAny :=
    List.any_filter (l := s.certificationDecisions.rows)
      (p := fun decision =>
        decision.reviewItemId == item.id &&
          decision.decision.value == wanted)
      (q := fun _ => true)
  simp only [Bool.and_true] at hAny
  rw [← hAny]
  generalize
    s.certificationDecisions.rows.filter
      (fun decision =>
        decision.reviewItemId == item.id &&
          decision.decision.value == wanted) = found
    at hUnique hMem ⊢
  cases found with
  | nil => rfl
  | cons first rest =>
      cases rest with
      | nil => rfl
      | cons second rest =>
          have hSame :
              first.reviewItemId = second.reviewItemId :=
            (hMem first List.mem_cons_self).trans
              (hMem second
                (List.mem_cons_of_mem _
                  List.mem_cons_self)).symm
          have hConflict :=
            (List.pairwise_cons.mp hUnique).1 second
              List.mem_cons_self
          exact absurd hSame (of_decide_eq_false hConflict)

theorem flatMap_if
    {α : Type}
    (p : α → Bool)
    (rows : List α) :
    (rows.flatMap fun a => if p a then [a] else []) =
      rows.filter p := by
  induction rows with
  | nil => rfl
  | cons a rest ih =>
      rw [List.flatMap_cons, ih, List.filter_cons]
      split <;> rfl

/- Items are joined with at most one decision each. -/
theorem joinedReviewItems_eq
    (s : Store)
    (campaignId : Int)
    (filters : ReviewItemFilters) :
    joinedReviewItems s campaignId filters =
      matchingReviewItems s campaignId filters := by
  unfold joinedReviewItems matchingReviewItems
  cases hDecision : filters.decision with
  | none => simp
  | some wanted =>
      simp only [decisions_of_item, flatMap_if,
        List.filter_filter, Option.isNone_some,
        Bool.false_or]
      apply List.filter_congr
      intro item _
      rw [Bool.and_comm]
      congr 2
      funext decision
      congr 1
      rw [Bool.eq_iff_iff, beq_iff_eq, beq_iff_eq]
      constructor
      · intro hEq
        rw [hEq]
      · intro hEq
        exact (Option.some.inj hEq).symm

theorem eraseDups_of_nodup
    {α : Type}
    [BEq α]
    [LawfulBEq α]
    {rows : List α}
    (hNodup : rows.Nodup) :
    rows.eraseDups = rows := by
  induction rows with
  | nil => rfl
  | cons a rest ih =>
      rw [List.nodup_cons] at hNodup
      have hRest : rest.filter (fun b => !b == a) = rest := by
        apply List.filter_eq_self.mpr
        intro b hb
        have hNe : b ≠ a := by
          intro hEq
          subst hEq
          exact hNodup.1 hb
        simpa using hNe
      rw [List.eraseDups_cons, hRest, ih hNodup.2]

theorem nodup_page
    {α : Type}
    (offset limit : Nat)
    {rows : List α}
    (hNodup : rows.Nodup) :
    (page offset limit rows).Nodup :=
  (hNodup.sublist (List.drop_sublist _ _)).sublist
    (List.take_sublist _ _)

theorem listReviewItems_eq
    (collation : SortKey String)
    {s : Store}
    {campaignId : Int}
    {campaign : CertificationCampaign}
    (hCampaign :
      s.certificationCampaigns.get? campaignId =
        some campaign)
    (filters : ReviewItemFilters)
    {sortBy : Option String}
    {sortOrder : String}
    {key : SortKey CertificationReviewItem}
    (hKey :
      applySorting (reviewItemSortFields collation s.dialect)
        (orDefault sortBy "id") sortOrder = .ok key)
    (order : RowOrder CertificationReviewItem)
    (offset limit : Nat) :
    listReviewItems collation s campaignId filters sortBy
        sortOrder order offset limit =
      .ok (page offset limit
        (orderBy order key
          (matchingReviewItems s campaignId filters))) := by
  have hNodup :
      (matchingReviewItems s campaignId filters).Nodup :=
    s.certificationReviewItems.nodup_rows.filter _
  have hSorted :=
    (orderBy_perm order key
      (matchingReviewItems s campaignId filters)).nodup_iff.mpr
        hNodup
  unfold listReviewItems
  simp only [hCampaign, hKey, joinedReviewItems_eq]
  have hPage := eraseDups_of_nodup
    (nodup_page offset limit hSorted)
  exact congrArg Except.ok hPage

end AccessIQ

------------------------------------------------------------
-- The Four Lists
------------------------------------------------------------

namespace AccessIQ

open Foundations Python Governance

variable [Platform]

/-
  The pages of each list partition its matching rows exactly
  if every page begins with a new value of the sort field.
-/
theorem operational_pages_partition_iff
    (collation : SortKey String)
    (s : Store)
    (sortBy : Option String)
    (sortOrder : String)
    (limit : Nat) :
    (∀ filters key,
      applySorting
          (provisioningJobSortFields collation s.dialect)
          (orDefault sortBy "created_at") sortOrder =
          .ok key →
        (Partitions
            (listJobs collation s filters sortBy sortOrder)
            (matchingJobs s filters) limit ↔
          CutsBetweenKeys key limit
            (matchingJobs s filters))) ∧
      (∀ filters key,
        applySorting (provisioningHistorySortFields collation)
            (orDefault sortBy "created_at") sortOrder =
            .ok key →
          (Partitions
              (listHistory collation s filters sortBy
                sortOrder)
              (matchingHistory s filters) limit ↔
            CutsBetweenKeys key limit
              (matchingHistory s filters))) ∧
      (∀ filters key,
        applySorting (campaignSortFields collation s.dialect)
            (orDefault sortBy "created_at") sortOrder =
            .ok key →
          (Partitions
              (listCampaigns collation s filters sortBy
                sortOrder)
              (matchingCampaigns s filters) limit ↔
            CutsBetweenKeys key limit
              (matchingCampaigns s filters))) ∧
      (∀ campaignId campaign filters key,
        s.certificationCampaigns.get? campaignId =
            some campaign →
          applySorting
              (reviewItemSortFields collation s.dialect)
              (orDefault sortBy "id") sortOrder = .ok key →
          (Partitions
              (listReviewItems collation s campaignId filters
                sortBy sortOrder)
              (matchingReviewItems s campaignId filters)
              limit ↔
            CutsBetweenKeys key limit
              (matchingReviewItems s campaignId filters))) := by
  refine ⟨?_, ?_, ?_, ?_⟩
  · intro filters key hKey
    apply partitions_iff
    · exact s.provisioningJobs.nodup_rows.filter _
    · intro order offset
      unfold listJobs
      rw [hKey]
      rfl
  · intro filters key hKey
    apply partitions_iff
    · exact s.provisioningHistory.nodup_rows.filter _
    · intro order offset
      unfold listHistory
      rw [hKey]
      rfl
  · intro filters key hKey
    apply partitions_iff
    · exact s.certificationCampaigns.nodup_rows.filter _
    · intro order offset
      unfold listCampaigns
      rw [hKey]
      rfl
  · intro campaignId campaign filters key hCampaign hKey
    apply partitions_iff
    · exact s.certificationReviewItems.nodup_rows.filter _
    · intro order offset
      exact listReviewItems_eq collation hCampaign filters hKey
        order offset limit

end AccessIQ

------------------------------------------------------------
-- Jobs Of One Status
------------------------------------------------------------

namespace AccessIQ

open Foundations Python

attribute [local instance] asciiPlatform

/- Text in the order of its characters. -/
def binaryCollation : SortKey String :=
  .column fun text => text

def jobAt
    (id : Int)
    (createdAt : Timestamp) :
    ProvisioningJob where
  id := id
  correlationId := "request"
  connector := "mock"
  operation := .createUser
  targetType := "user"
  targetId := none
  status := .pending
  createdAt := createdAt

/- Two jobs of the same status. -/
def storeWithTwoJobs : Store :=
  { Store.empty .sqlite with
    provisioningJobs :=
      { rows := [jobAt 1 0, jobAt 2 1]
        issued := 2
        sorted := by decide
        bounded := by decide
        unique := by decide } }

theorem operational_pages_partition_iff_twoJobs :
    Partitions
        (listJobs binaryCollation storeWithTwoJobs {}
          (some "status") "ascending")
        (matchingJobs storeWithTwoJobs {}) 1 ↔
      CutsBetweenKeys
        (binaryCollation.on fun job : ProvisioningJob =>
          job.status.value) 1
        (matchingJobs storeWithTwoJobs {}) :=
  (operational_pages_partition_iff binaryCollation
    storeWithTwoJobs (some "status") "ascending" 1).1 {} _
    rfl

/- The rows in the opposite order. -/
def reversedOrder : RowOrder ProvisioningJob where
  arrange rows := rows.reverse
  perm rows := List.reverse_perm rows

/-
  With a page size of one, both pages show the first job and
  the second job is never shown.
-/
theorem tied_jobs_shown_twice :
    listJobs binaryCollation storeWithTwoJobs {}
          (some "status") "ascending" .stored 0 1 =
        .ok [jobAt 1 0] ∧
      listJobs binaryCollation storeWithTwoJobs {}
          (some "status") "ascending" reversedOrder 1 1 =
        .ok [jobAt 1 0] ∧
      ¬ Partitions
          (listJobs binaryCollation storeWithTwoJobs {}
            (some "status") "ascending")
          (matchingJobs storeWithTwoJobs {}) 1 := by
  refine ⟨rfl, rfl, ?_⟩
  intro hPartitions
  rcases hPartitions
      (fun i => if i = 0 then .stored else reversedOrder) 2
      (by decide) with
    ⟨pages, hOk, hPerm⟩
  have hPages : [[jobAt 1 0], [jobAt 1 0]] = pages :=
    Except.ok.inj hOk
  have hNodup :
      (matchingJobs storeWithTwoJobs {}).Nodup := by
    decide
  rw [← hPages] at hPerm
  exact absurd (hPerm.nodup_iff.mpr hNodup) (by decide)

end AccessIQ
