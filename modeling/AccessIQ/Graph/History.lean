import AccessIQ.Graph.ReadModel

/-
  Review and remediation history of a user.

  The edges from a user to a review item have one type for
  the subject of the item and for its reviewer, so that the
  history of a user lists the items the user reviews too, and
  an item twice whose subject reviews it.

  Key definitions include:
    * `findReviewHistory`
    * `findRemediationHistory`
    * `OwnHistory`

  Key theorems include:
    * `findReviewHistory_perm`
    * `own_history_iff`
-/

------------------------------------------------------------
-- Queries
------------------------------------------------------------

namespace AccessIQ

namespace Graph

open Foundations Python Governance Remediation

/- `node.properties[key]` -/
def GraphNode.getProperty
    (node : GraphNode)
    (key : String) :
    Except (KeyError String) PropertyValue :=
  match node.properties.lookup key with
  | some value => .ok value
  | none => .error ⟨key⟩

/- The review item at the end of an edge. -/
def reviewItemAt
    (graph : AuthorizationGraph)
    (target : String) :
    Option GraphNode :=
  (graph.getNode target).filter fun node =>
    node.type == .reviewItem

/- `find_review_history` -/
def findReviewHistory
    (graph : AuthorizationGraph)
    (userId : Int) :
    List GraphNode :=
  (graph.outgoing (rowNodeId .user userId)
    (some .reviewedIn)).filterMap fun edge =>
      reviewItemAt graph edge.target

/- `find_remediation_history` -/
def findRemediationHistory
    (graph : AuthorizationGraph)
    (userId : Int) :
    Except (KeyError String) (List GraphNode) := do
  let reviewItemIds ←
    (findReviewHistory graph userId).mapM fun node =>
      node.getProperty "source_id"
  return graph.nodes.values.filter fun node =>
    node.type == .remediationJob &&
      reviewItemIds.contains
        ((node.properties.lookup "review_item_id").getD .none)

/- The review items of a user's access. -/
def reviewItemsOf
    (s : Store)
    (userId : Int) :
    List CertificationReviewItem :=
  s.certificationReviewItems.rows.filter fun item =>
    item.userId == userId

/- The remediation jobs of these items. -/
def remediationJobsOf
    (s : Store)
    (userId : Int) :
    List RemediationJob :=
  s.remediationJobs.rows.filter fun job =>
    (reviewItemsOf s userId).any fun item =>
      item.id == job.reviewItemId

/- The histories of a user list what is the user's own. -/
structure OwnHistory
    (s : Store)
    (graph : AuthorizationGraph)
    (userId : Int) : Prop where
  reviews :
    (findReviewHistory graph userId).Perm
      ((reviewItemsOf s userId).map reviewItemNode)
  remediations :
    ∃ nodes,
      findRemediationHistory graph userId = .ok nodes ∧
      nodes.Perm
        ((remediationJobsOf s userId).map remediationJobNode)

end Graph

end AccessIQ

------------------------------------------------------------
-- Reviewed In
------------------------------------------------------------

namespace AccessIQ

namespace Graph

open Foundations Python Governance Remediation

variable [Platform]

/- The edges of campaigns and review items. -/
theorem filter_relationshipEdges_reviewedIn
    (s : Store) :
    (relationshipEdges s).filter
        (fun a => a.edgeType == .reviewedIn) =
      s.certificationCampaigns.rows.flatMap campaignEdges ++
        s.certificationReviewItems.rows.flatMap
          reviewItemEdges := by
  unfold relationshipEdges operationEdges
  simp only [List.filter_append]
  rw [hasTypes_entitlementEdges.filter_eq_nil (by decide),
    hasTypes_membershipEdges.filter_eq_nil (by decide),
    hasTypes_accessEdges.filter_eq_nil (by decide),
    hasTypes_profileEdges.filter_eq_nil (by decide),
    hasTypes_delegationEdges.filter_eq_nil (by decide),
    hasTypes_campaignEdges.filter_eq_self,
    hasTypes_reviewItemEdges.filter_eq_self,
    hasTypes_provisioningJobEdges.filter_eq_nil (by decide),
    hasTypes_provisioningHistoryEdges.filter_eq_nil
      (by decide),
    hasTypes_remediationEdges.filter_eq_nil (by decide),
    hasTypes_auditEdges.filter_eq_nil (by decide)]
  simp

section Built

variable {s : Store}
variable {registry : List RegisteredConnector}
variable
  (hNames : (registry.map RegisteredConnector.name).Nodup)
include hNames

/- A node has the type its id begins with. -/
theorem type_of_getNode
    {t : NodeType}
    {x : String}
    {node : GraphNode}
    (hNode :
      (buildAuthorizationGraph s registry).getNode
        (graphNodeId t x) = some node) :
    node.type = t := by
  have hEntry := Dict.get?_eq_some_iff.mp hNode
  rw [entries_buildAuthorizationGraph s hNames] at hEntry
  rcases List.mem_map.mp hEntry with ⟨other, hOther, hEq⟩
  rcases List.mem_flatMap.mp hOther with ⟨t', _, hOther⟩
  rcases type_of_mem_nodesOf hOther with ⟨hType, y, hId⟩
  rcases Prod.mk.inj hEq with ⟨hKey, rfl⟩
  rw [hType]
  exact (graphNodeId_injective (hId.symm.trans hKey)).1

/- An item is found at the end of its edges. -/
theorem reviewItemAt_item
    {item : CertificationReviewItem}
    (hItem : item ∈ s.certificationReviewItems.rows) :
    reviewItemAt (buildAuthorizationGraph s registry)
        (rowNodeId .reviewItem item.id) =
      some (reviewItemNode item) := by
  have hGet :
      (buildAuthorizationGraph s registry).getNode
          (rowNodeId .reviewItem item.id) =
        some (reviewItemNode item) :=
    get?_buildAuthorizationGraph hNames (t := .reviewItem)
      (List.mem_map_of_mem hItem)
  unfold reviewItemAt
  rw [hGet]
  rfl

/- No item is found at a campaign. -/
theorem reviewItemAt_campaign
    (campaignId : Int) :
    reviewItemAt (buildAuthorizationGraph s registry)
        (rowNodeId .certificationCampaign campaignId) =
      none := by
  unfold reviewItemAt
  cases hNode :
      (buildAuthorizationGraph s registry).getNode
        (rowNodeId .certificationCampaign campaignId) with
  | none => rfl
  | some node =>
      have hType := type_of_getNode hNames hNode
      rw [Option.filter_some, hType]
      rfl

/- The items that a user's edges lead to. -/
def itemsAt
    (userId : Int)
    (item : CertificationReviewItem) :
    List GraphNode :=
  (if item.userId = userId then
      [reviewItemNode item]
    else
      []) ++
    (if item.reviewerId = userId then
      [reviewItemNode item]
    else
      [])

/- What an edge of the builder leads a user to. -/
def historyAt
    (graph : AuthorizationGraph)
    (userId : Int)
    (a : EdgeArguments) :
    Option GraphNode :=
  if Ends graph.nodes.keys a ∧
      a.source = rowNodeId .user userId then
    reviewItemAt graph a.target
  else
    none

omit hNames in
/- The history, by the edges that the builder asked for. -/
theorem findReviewHistory_arguments
    (userId : Int) :
    (findReviewHistory (buildAuthorizationGraph s registry)
        userId).Perm
      (((relationshipEdges s).filter
        (fun a => a.edgeType == .reviewedIn)).filterMap
          (historyAt (buildAuthorizationGraph s registry)
            userId)) := by
  have hOutgoing :=
    (outgoing_perm (buildAuthorizationGraph s registry)
      (rowNodeId .user userId) .reviewedIn).filterMap
        fun edge =>
          reviewItemAt (buildAuthorizationGraph s registry)
            edge.target
  apply hOutgoing.trans
  apply List.Perm.of_eq
  calc
    _ =
        ((((buildAuthorizationGraph s registry).edges.filter
            fun edge => edge.type == .reviewedIn).map
          GraphEdge.arguments).filter
            fun a =>
              a.source == rowNodeId .user userId).filterMap
              fun a =>
                reviewItemAt
                  (buildAuthorizationGraph s registry)
                  a.target := by
        rw [List.filter_map, List.filterMap_map]
        rfl
    _ = _ := by
        rw [arguments_of_type, List.filter_filter,
          List.filterMap_filter]
        apply List.filterMap_congr
        intro a _
        unfold historyAt
        simp [and_comm]

/- The edges of an item lead its subject and its reviewer. -/
theorem filterMap_reviewItemEdges
    {userId : Int}
    (hUser : s.users.contains userId = true)
    {item : CertificationReviewItem}
    (hItem : item ∈ s.certificationReviewItems.rows) :
    (reviewItemEdges item).filterMap
        (historyAt (buildAuthorizationGraph s registry)
          userId) =
      itemsAt userId item := by
  have hItemAt := reviewItemAt_item hNames hItem
  have hItemKey :
      rowNodeId .reviewItem item.id ∈
        (buildAuthorizationGraph s registry).nodes.keys :=
    Dict.mem_keys_iff.mpr
      ⟨_, get?_buildAuthorizationGraph hNames
        (t := .reviewItem) (List.mem_map_of_mem hItem)⟩
  have hUserKey :
      rowNodeId .user userId ∈
        (buildAuthorizationGraph s registry).nodes.keys :=
    mem_keys_of_contains hNames (t := .user) rfl
      (fun _ => rfl) hUser
  -- An edge leads the user to the item if it starts there.
  have hAt :
      ∀ sourceId label,
        historyAt (buildAuthorizationGraph s registry) userId
            (reviewedInEdge item .user sourceId label) =
          if sourceId = userId then
            some (reviewItemNode item)
          else
            none := by
    intro sourceId label
    unfold historyAt
    by_cases hSame : sourceId = userId
    · subst hSame
      rw [if_pos ⟨⟨hUserKey, hItemKey⟩, rfl⟩, if_pos rfl]
      exact hItemAt
    · rw [if_neg hSame, if_neg]
      rintro ⟨-, hSource⟩
      exact hSame (rowNodeId_injective hSource)
  have hOther :
      ∀ {a : EdgeArguments} {t : NodeType} {x : Int},
        t ≠ .user → a.source = rowNodeId t x →
          historyAt (buildAuthorizationGraph s registry)
              userId a =
            none := by
    intro a t x hType hSource
    unfold historyAt
    rw [if_neg]
    rintro ⟨-, hUserSource⟩
    rw [hSource] at hUserSource
    exact hType (graphNodeId_injective hUserSource).1
  have hGroup :
      (item.groupId.toList.map fun groupId =>
        reviewedInEdge item .group groupId
          "Group reviewed in item").filterMap
            (historyAt (buildAuthorizationGraph s registry)
              userId) =
        [] := by
    apply List.filterMap_eq_nil_iff.mpr
    intro a ha
    rcases List.mem_map.mp ha with ⟨groupId, -, rfl⟩
    exact hOther (t := .group) (by decide) rfl
  unfold reviewItemEdges itemsAt
  rw [List.filterMap_append, hGroup, List.append_nil]
  rw [List.filterMap_cons_none
      (hOther (t := .reviewItem) (by decide) rfl),
    List.filterMap_cons, hAt, List.filterMap_cons, hAt,
    List.filterMap_cons_none
      (hOther (t := .application) (by decide) rfl),
    List.filterMap_cons_none
      (hOther (t := .entitlement) (by decide) rfl),
    List.filterMap_nil]
  by_cases hSubject : item.userId = userId <;>
    by_cases hReviewer : item.reviewerId = userId <;>
      simp [hSubject, hReviewer]

theorem findReviewHistory_perm
    {userId : Int}
    (hUser : s.users.contains userId = true) :
    (findReviewHistory (buildAuthorizationGraph s registry)
        userId).Perm
      (s.certificationReviewItems.rows.flatMap
        (itemsAt userId)) := by
  apply (findReviewHistory_arguments userId).trans
  rw [filter_relationshipEdges_reviewedIn,
    List.filterMap_append, List.filterMap_flatMap,
    List.filterMap_flatMap]
  have hCampaigns :
      (s.certificationCampaigns.rows.flatMap fun campaign =>
        (campaignEdges campaign).filterMap
          (historyAt (buildAuthorizationGraph s registry)
            userId)) =
        [] := by
    apply List.flatMap_eq_nil_iff.mpr
    intro campaign _
    apply List.filterMap_eq_nil_iff.mpr
    intro a ha
    rcases List.mem_map.mp ha with ⟨_, _, rfl⟩
    unfold historyAt
    simp only [reviewItemAt_campaign hNames]
    exact ite_self _
  rw [hCampaigns, List.nil_append]
  apply List.Perm.of_eq
  apply List.flatMap_congr
  intro item hItem
  exact filterMap_reviewItemEdges hNames hUser hItem

end Built

omit [Platform] in
theorem mapM_getProperty
    {key : String}
    {nodes : List GraphNode}
    (hKey :
      ∀ node ∈ nodes,
        (node.properties.lookup key).isSome = true) :
    (nodes.mapM fun node => node.getProperty key) =
      .ok
        (nodes.map fun node =>
          (node.properties.lookup key).getD .none) := by
  induction nodes with
  | nil => rfl
  | cons node rest ih =>
      have hRest :=
        ih fun other hOther =>
          hKey other (List.mem_cons_of_mem _ hOther)
      have hNode :
          node.getProperty key =
            .ok ((node.properties.lookup key).getD .none) := by
        unfold GraphNode.getProperty
        cases hLookup : node.properties.lookup key with
        | none =>
            have hSome := hKey node List.mem_cons_self
            rw [hLookup] at hSome
            cases hSome
        | some value => rfl
      rw [List.mapM_cons, hNode, hRest]
      rfl

omit [Platform] in
/- The ids of the review items in a history. -/
theorem mapM_source_id
    {graph : AuthorizationGraph}
    {userId : Int}
    {items : List CertificationReviewItem}
    (hHistory :
      (findReviewHistory graph userId).Perm
        (items.map reviewItemNode)) :
    ∃ ids,
      (findReviewHistory graph userId).mapM
          (fun node => node.getProperty "source_id") =
        .ok ids ∧
      ∀ id : Int,
        PropertyValue.int id ∈ ids ↔
          ∃ item ∈ items, item.id = id := by
  refine ⟨_, mapM_getProperty ?_, ?_⟩
  · intro node hNode
    rcases List.mem_map.mp (hHistory.mem_iff.mp hNode) with
      ⟨item, _, rfl⟩
    rfl
  · intro id
    rw [(hHistory.map _).mem_iff, List.map_map, List.mem_map]
    constructor
    · rintro ⟨item, hItem, hId⟩
      exact ⟨item, hItem, PropertyValue.int.inj hId⟩
    · rintro ⟨item, hItem, rfl⟩
      exact ⟨item, hItem, rfl⟩

omit [Platform] in
/- An item counts for its subject and for its reviewer. -/
theorem length_flatMap_itemsAt
    (userId : Int)
    (items : List CertificationReviewItem) :
    (items.flatMap (itemsAt userId)).length =
      (items.filter fun item => item.userId == userId).length +
        (items.filter
          fun item => item.reviewerId == userId).length := by
  induction items with
  | nil => rfl
  | cons item rest ih =>
      rw [List.flatMap_cons, List.length_append, ih]
      unfold itemsAt
      by_cases hSubject : item.userId = userId <;>
        by_cases hReviewer : item.reviewerId = userId <;>
          simp [hSubject, hReviewer] <;>
          omega

omit [Platform] in
theorem flatMap_itemsAt_of_ne
    {userId : Int}
    {items : List CertificationReviewItem}
    (hNone : ∀ item ∈ items, item.reviewerId ≠ userId) :
    items.flatMap (itemsAt userId) =
      (items.filter fun item => item.userId == userId).map
        reviewItemNode := by
  induction items with
  | nil => rfl
  | cons item rest ih =>
      have hRest :=
        ih fun other hOther =>
          hNone other (List.mem_cons_of_mem _ hOther)
      rw [List.flatMap_cons, hRest]
      unfold itemsAt
      rw [if_neg (hNone item List.mem_cons_self)]
      by_cases hSubject : item.userId = userId <;>
        simp [hSubject]

/-
  The histories of a user are the user's own exactly when
  the user reviews no item.
-/
theorem own_history_iff
    {s : Store}
    {registry : List RegisteredConnector}
    (hNames : (registry.map RegisteredConnector.name).Nodup)
    {userId : Int}
    (hUser : s.users.contains userId = true) :
    OwnHistory s (buildAuthorizationGraph s registry)
        userId ↔
      ∀ item ∈ s.certificationReviewItems.rows,
        item.reviewerId ≠ userId := by
  have hPerm := findReviewHistory_perm hNames hUser
  constructor
  · intro hOwn item hItem hReviewer
    have hLength := (hPerm.symm.trans hOwn.reviews).length_eq
    rw [length_flatMap_itemsAt, List.length_map] at hLength
    have hEmpty :
        s.certificationReviewItems.rows.filter
            (fun item => item.reviewerId == userId) =
          [] := by
      apply List.length_eq_zero_iff.mp
      unfold reviewItemsOf at hLength
      omega
    have hNot := List.filter_eq_nil_iff.mp hEmpty item hItem
    exact hNot (beq_iff_eq.mpr hReviewer)
  · intro hNone
    rw [flatMap_itemsAt_of_ne hNone] at hPerm
    refine ⟨hPerm, ?_⟩
    rcases mapM_source_id hPerm with ⟨ids, hIds, hMem⟩
    unfold findRemediationHistory
    rw [hIds]
    refine ⟨_, rfl, ?_⟩
    apply List.Perm.of_eq
    have hJob :
        ∀ job : RemediationJob,
          ids.contains (PropertyValue.int job.reviewItemId) =
            (reviewItemsOf s userId).any fun item =>
              item.id == job.reviewItemId := by
      intro job
      rw [Bool.eq_iff_iff, List.contains_iff_mem, hMem,
        List.any_eq_true]
      simp [reviewItemsOf]
    rw [values_buildAuthorizationGraph s hNames,
      ← List.filter_filter, List.filter_comm,
      filter_databaseNodes]
    change
      ((s.remediationJobs.rows.map remediationJobNode).filter
        fun node =>
          ids.contains
            ((node.properties.lookup
              "review_item_id").getD .none)) = _
    rw [List.filter_map]
    unfold remediationJobsOf
    congr 1
    apply List.filter_congr
    intro job _
    exact hJob job

end Graph

end AccessIQ

------------------------------------------------------------
-- A Reviewer
------------------------------------------------------------

namespace AccessIQ

namespace Graph

open Foundations Python Governance

section Example

attribute [local instance] asciiPlatform

/- The access of one user is reviewed by another. -/
def reviewedStore : Store :=
  { managedStore with
    certificationCampaigns :=
      { rows :=
          [{ id := 1
             name := "Quarterly"
             description := none
             status := .active
             createdBy := 4
             defaultReviewerId := 4
             createdAt := 0 }]
        issued := 1
        sorted := by decide
        bounded := by decide
        unique := by decide }
    certificationReviewItems :=
      { rows :=
          [{ id := 1
             campaignId := 1
             accessAssignmentId := 1
             userId := 1
             applicationId := 1
             entitlementId := 1
             reviewerId := 4
             status := .pending
             createdAt := 0 }]
        issued := 1
        sorted := by decide
        bounded := by decide
        unique := by decide } }

theorem own_history_iff_reviewed :
    OwnHistory reviewedStore
        (buildAuthorizationGraph reviewedStore
          [salesforceConnector]) 1 ↔
      ∀ item ∈ reviewedStore.certificationReviewItems.rows,
        item.reviewerId ≠ 1 :=
  own_history_iff (by decide) (by decide)

/- A reviewer's history lists an item of another user. -/
theorem reviewer_has_history :
    ¬OwnHistory reviewedStore
        (buildAuthorizationGraph reviewedStore
          [salesforceConnector]) 4 := by
  intro hOwn
  have hFound :=
    @findReviewHistory_perm _ reviewedStore
      [salesforceConnector] (by decide) 4 (by decide)
  have hLength := (hFound.symm.trans hOwn.reviews).length_eq
  exact absurd hLength (by decide)

end Example

end Graph

end AccessIQ
