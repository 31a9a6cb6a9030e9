import AccessIQ.Ai.Collection
import AccessIQ.Graph.Within

/-
  Where evidence comes from.

  The evidence of a question is of nodes and edges of the
  graph, but for the result of one lookup at most.

  Key definitions include:
    * `said`
    * `SaidOf`
    * `OfNode`
    * `OfItem`
    * `OfLookup`
    * `OneLookup`

  Key theorems include:
    * `collect_cases`
-/

------------------------------------------------------------
-- Where Evidence Comes From
------------------------------------------------------------

namespace AccessIQ

namespace Ai

open AccessIQ.Graph AuthorizationGraph Foundations Python

/- What tells the graph's evidence apart. -/
def said
    (item : EvidenceItem) :
    String × String × String × String × Option String :=
  (item.type, item.title, item.description, item.reference,
    item.correlationId)

/- The same of the evidence of a node. -/
def nodeSaid
    (node : GraphNode) :
    String × String × String × String × Option String :=
  (node.type.value, s!"{node.type.value}: {node.label}",
    nodeDescription node, node.reference, none)

/- What the graph says of one of its edges or nodes. -/
def SaidOf
    (graph : AuthorizationGraph)
    (key :
      String × String × String × String × Option String) :
    Prop :=
  (∃ edge ∈ graph.edges,
      key = said (edgeEvidence graph edge)) ∨
    ∃ node ∈ graph.nodes.values, key = nodeSaid node

/- Evidence of a node of the graph. -/
def OfNode
    (digest : String → String)
    (graph : AuthorizationGraph)
    (evidence : AIEvidence) : Prop :=
  ∃ node ∈ graph.nodes.values, ∃ distance priority,
    evidence = fromNode digest node distance priority

/- An item of the graph's evidence. -/
def OfItem
    (digest : String → String)
    (graph : AuthorizationGraph)
    (evidence : AIEvidence) : Prop :=
  ∃ item distance nodeId edgeId priority,
    SaidOf graph (said item) ∧
      evidence =
        fromGraphEvidence digest item distance nodeId edgeId
          priority

/- The result of a lookup. -/
def OfLookup
    (digest : String → String)
    (evidence : AIEvidence) : Prop :=
  ∃ type title description reference priority,
    (type = "QUERY_RESULT" ∨ type = "PATH_RESULT") ∧
      evidence =
        syntheticEvidence digest type title description
          reference priority

/- Evidence of the graph, and no result of a lookup. -/
def OfGraph
    (digest : String → String)
    (graph : AuthorizationGraph)
    (evidence : AIEvidence) : Prop :=
  OfNode digest graph evidence ∨ OfItem digest graph evidence

/- Evidence at a node is of the node or of an edge there. -/
theorem saidOf_of_mem_nodeEvidence
    {graph : AuthorizationGraph}
    {node : GraphNode}
    {item : EvidenceItem}
    (hNode : node ∈ graph.nodes.values)
    (hItem : item ∈ nodeEvidence graph node) :
    SaidOf graph (said item) := by
  unfold nodeEvidence at hItem
  rcases List.mem_cons.mp hItem with rfl | hEdge
  · exact Or.inr ⟨node, hNode, rfl⟩
  · rcases List.mem_map.mp hEdge with ⟨edge, hMem, rfl⟩
    exact Or.inl ⟨edge, (mem_edgesFor_iff.mp hMem).1, rfl⟩

/- Its type is of an edge, or of a node without a request. -/
theorem typed_of_saidOf
    {graph : AuthorizationGraph}
    {item : EvidenceItem}
    (hSaid : SaidOf graph (said item)) :
    (∃ type : EdgeType, item.type = type.value) ∨
      ∃ type : NodeType,
        item.type = type.value ∧
          item.correlationId = none := by
  rcases hSaid with ⟨edge, -, hEdge⟩ | ⟨node, -, hNode⟩
  · exact Or.inl ⟨edge.type, congrArg (·.1) hEdge⟩
  · exact Or.inr
      ⟨node.type, congrArg (·.1) hNode,
        congrArg (·.2.2.2.2) hNode⟩

variable {digest : String → String}
variable {graph : AuthorizationGraph}

/- Duplicates of the graph's evidence are told by this. -/
theorem saidOf_duplicateKey
    {evidence : AIEvidence}
    (hGraph : OfGraph digest graph evidence) :
    SaidOf graph evidence.duplicateKey := by
  rcases hGraph with
    ⟨node, hNode, _, _, rfl⟩ | ⟨_, _, _, _, _, hSaid, rfl⟩
  · exact Or.inr ⟨node, hNode, rfl⟩
  · exact hSaid

theorem ofGraph_of_mem_userEvidenceOf
    {userId : Int}
    {evidence : AIEvidence}
    (hMem : evidence ∈ userEvidenceOf digest graph userId) :
    OfGraph digest graph evidence := by
  unfold userEvidenceOf userEvidence at hMem
  rcases List.mem_map.mp hMem with ⟨item, hItem, rfl⟩
  cases hNode : graph.getNode (rowNodeId .user userId) with
  | none =>
      rw [hNode] at hItem
      cases hItem
  | some node =>
      rw [hNode] at hItem
      exact Or.inr
        ⟨item, _, _, _, _,
          saidOf_of_mem_nodeEvidence
            (mem_nodes_of_getNode hNode) hItem,
          rfl⟩

theorem ofGraph_of_mem_nodeDetailEvidence
    {nodeId : String}
    {distance : Int}
    {evidence : AIEvidence}
    (hMem :
      evidence ∈
        nodeDetailEvidence digest graph nodeId distance) :
    OfGraph digest graph evidence := by
  unfold nodeDetailEvidence at hMem
  cases hNode : graph.getNode nodeId with
  | none =>
      rw [hNode] at hMem
      cases hMem
  | some node =>
      rw [hNode] at hMem
      rcases List.mem_map.mp hMem with ⟨item, hItem, rfl⟩
      exact Or.inr
        ⟨item, _, _, _, _,
          saidOf_of_mem_nodeEvidence
            (mem_nodes_of_getNode hNode) hItem,
          rfl⟩

theorem ofGraph_of_mem_historyEvidence
    {nodes : List GraphNode}
    {evidence : AIEvidence}
    (hNodes : ∀ node ∈ nodes, node ∈ graph.nodes.values)
    (hMem : evidence ∈ historyEvidence digest nodes) :
    OfGraph digest graph evidence := by
  unfold historyEvidence at hMem
  rcases List.mem_map.mp hMem with ⟨node, hNode, rfl⟩
  exact Or.inl ⟨node, hNodes node hNode, _, _, rfl⟩

theorem ofGraph_of_mem_graphPathEvidence
    {path : GraphPath}
    {distance : Int}
    {evidence : AIEvidence}
    (hPath : PathWithin graph path)
    (hMem :
      evidence ∈
        graphPathEvidence digest graph path distance) :
    OfGraph digest graph evidence := by
  unfold graphPathEvidence at hMem
  rcases List.mem_append.mp hMem with hNode | hEdge
  · rcases List.mem_map.mp hNode with
      ⟨⟨node, i⟩, hAt, rfl⟩
    have hMem := List.fst_mem_of_mem_zipIdx hAt
    exact Or.inl ⟨node, hPath.nodes node hMem, _, _, rfl⟩
  · rcases List.mem_map.mp hEdge with
      ⟨⟨edge, i⟩, hAt, rfl⟩
    have hMem := List.fst_mem_of_mem_zipIdx hAt
    exact Or.inr
      ⟨edgeEvidence graph edge, _, _, _, _,
        Or.inl ⟨edge, hPath.edges edge hMem, rfl⟩, rfl⟩

theorem ofGraph_of_mem_namedEvidence
    {classification : IntentClassification}
    {evidence : AIEvidence}
    (hMem :
      evidence ∈ namedEvidence digest classification graph) :
    OfGraph digest graph evidence := by
  unfold namedEvidence at hMem
  rcases List.mem_append.mp hMem with hMem | hMem
  · rcases List.mem_append.mp hMem with hMem | hMem
    · cases hUser : classification.userId with
      | none =>
          rw [hUser] at hMem
          cases hMem
      | some userId =>
          rw [hUser] at hMem
          exact ofGraph_of_mem_userEvidenceOf hMem
    · cases hApplication : classification.applicationId with
      | none =>
          rw [hApplication] at hMem
          cases hMem
      | some applicationId =>
          rw [hApplication] at hMem
          exact ofGraph_of_mem_nodeDetailEvidence hMem
  · cases hEntitlement : classification.entitlementId with
    | none =>
        rw [hEntitlement] at hMem
        cases hMem
    | some entitlementId =>
        rw [hEntitlement] at hMem
        exact ofGraph_of_mem_nodeDetailEvidence hMem

/- At most one result of a lookup, and evidence of the graph. -/
def OneLookup
    (digest : String → String)
    (graph : AuthorizationGraph)
    (evidence : List AIEvidence) : Prop :=
  ∃ lookup : Option AIEvidence,
    (∀ item ∈ lookup, OfLookup digest item) ∧
      ∀ item ∈ evidence,
        lookup = some item ∨ OfGraph digest graph item

theorem oneLookup_of_ofGraph
    {evidence : List AIEvidence}
    (hGraph :
      ∀ item ∈ evidence, OfGraph digest graph item) :
    OneLookup digest graph evidence := by
  refine ⟨none, ?_, ?_⟩
  · intro item hNone
    cases hNone
  · intro item hItem
    exact Or.inr (hGraph item hItem)

theorem oneLookup_cons
    {lookup : AIEvidence}
    {evidence : List AIEvidence}
    (hLookup : OfLookup digest lookup)
    (hGraph :
      ∀ item ∈ evidence, OfGraph digest graph item) :
    OneLookup digest graph (lookup :: evidence) := by
  refine ⟨some lookup, ?_, ?_⟩
  · intro item hItem
    cases hItem
    exact hLookup
  · intro item hItem
    rcases List.mem_cons.mp hItem with rfl | hRest
    · exact Or.inl rfl
    · exact Or.inr (hGraph item hRest)

theorem oneLookup_managerChainEvidence
    (userId : Int) :
    OneLookup digest graph
      (managerChainEvidence digest graph userId) := by
  unfold managerChainEvidence
  cases hChain : (findManagerChain graph userId).getD [] with
  | nil =>
      apply oneLookup_cons
      · exact ⟨_, _, _, _, _, Or.inl rfl, rfl⟩
      · intro item hNone
        cases hNone
  | cons node nodes =>
      apply oneLookup_of_ofGraph
      intro item hItem
      rcases List.mem_map.mp hItem with
        ⟨⟨found, i⟩, hAt, rfl⟩
      have hMem := List.fst_mem_of_mem_zipIdx hAt
      rw [← hChain] at hMem
      have hFound := mem_nodes_of_findManagerChain hMem
      exact Or.inl ⟨found, hFound, _, _, rfl⟩

/- A path between two nodes, if one is asked for. -/
theorem pathWithin_of_map_some
    {source target : String}
    {path : GraphPath}
    (hPath :
      (graph.findShortestPath source target).map some =
        .ok (some path)) :
    PathWithin graph path := by
  rcases map_eq_ok hPath with ⟨found, hFound, hSome⟩
  cases hSome
  exact pathWithin_of_findShortestPath hFound

theorem pathWithin_of_resolvePath
    {request : AIContextRequest}
    {classification : IntentClassification}
    {path : GraphPath}
    (hPath :
      resolvePath request classification graph =
        .ok (some path)) :
    PathWithin graph path := by
  unfold resolvePath at hPath
  split at hPath
  · exact pathWithin_of_map_some hPath
  · split at hPath
    · cases hPath
    · split at hPath
      · exact pathWithin_of_map_some hPath
      · exact pathWithin_of_map_some hPath
      · cases hPath

theorem oneLookup_of_pathEvidenceOf
    {request : AIContextRequest}
    {classification : IntentClassification}
    {evidence : List AIEvidence}
    (hOk :
      pathEvidenceOf digest request classification graph =
        .ok evidence) :
    OneLookup digest graph evidence := by
  unfold pathEvidenceOf at hOk
  rcases map_eq_ok hOk with ⟨path, hPath, rfl⟩
  apply oneLookup_of_ofGraph
  intro item hItem
  cases path with
  | none => cases hItem
  | some path =>
      exact
        ofGraph_of_mem_graphPathEvidence
          (pathWithin_of_resolvePath hPath) hItem

theorem oneLookup_of_accessGapEvidence
    {request : AIContextRequest}
    {classification : IntentClassification}
    {evidence : List AIEvidence}
    (hOk :
      accessGapEvidence digest request classification graph =
        .ok evidence) :
    OneLookup digest graph evidence := by
  unfold accessGapEvidence at hOk
  rcases map_eq_ok hOk with ⟨path, hPath, rfl⟩
  cases path with
  | none =>
      apply oneLookup_of_ofGraph
      intro item hNone
      cases hNone
  | some path =>
      apply oneLookup_cons
      · exact ⟨_, _, _, _, _, Or.inr rfl, rfl⟩
      · intro item hItem
        exact
          ofGraph_of_mem_graphPathEvidence
            (pathWithin_of_resolvePath hPath) hItem

theorem oneLookup_historyEvidence
    {nodes : List GraphNode}
    (hNodes : ∀ node ∈ nodes, node ∈ graph.nodes.values) :
    OneLookup digest graph (historyEvidence digest nodes) :=
  oneLookup_of_ofGraph fun _ hItem =>
    ofGraph_of_mem_historyEvidence hNodes hItem

/- A case for every intent that calls for evidence. -/
theorem oneLookup_of_intentEvidence
    [Platform]
    {request : AIContextRequest}
    {classification : IntentClassification}
    {evidence : List AIEvidence}
    (hOk :
      intentEvidence digest request classification graph =
        .ok evidence) :
    OneLookup digest graph evidence := by
  have hNone : OneLookup digest graph [] :=
    oneLookup_of_ofGraph fun _ hItem => nomatch hItem
  unfold intentEvidence at hOk
  split at hOk
  · exact oneLookup_of_pathEvidenceOf hOk
  · exact oneLookup_of_accessGapEvidence hOk
  · cases hOk
    exact oneLookup_managerChainEvidence _
  · rcases map_eq_ok hOk with ⟨nodes, hNodes, rfl⟩
    exact
      oneLookup_historyEvidence
        (mem_nodes_of_findProvisioningHistory hNodes)
  · rcases map_eq_ok hOk with ⟨nodes, hNodes, rfl⟩
    exact
      oneLookup_historyEvidence
        (mem_nodes_of_findRemediationHistory hNodes)
  · cases hOk
    exact
      oneLookup_historyEvidence fun _ hNode =>
        mem_nodes_of_findReviewHistory hNode
  · rcases map_eq_ok hOk with ⟨paths, hPaths, rfl⟩
    apply oneLookup_of_ofGraph
    intro item hItem
    rcases List.mem_flatMap.mp hItem with
      ⟨path, hMem, hPath⟩
    exact
      ofGraph_of_mem_graphPathEvidence
        (pathWithin_of_accessPaths hPaths path hMem) hPath
  · cases hOk
    exact hNone

/- Evidence is of the graph, but for one lookup at most. -/
theorem collect_cases
    [Platform]
    {request : AIContextRequest}
    {classification : IntentClassification}
    {collected : List AIEvidence}
    (hOk :
      collectEvidence digest request classification graph =
        .ok collected) :
    OneLookup digest graph collected := by
  unfold collectEvidence at hOk
  rcases map_eq_ok hOk with ⟨evidence, hEvidence, rfl⟩
  rcases oneLookup_of_intentEvidence hEvidence with
    ⟨lookup, hLookup, hCases⟩
  refine ⟨lookup, hLookup, ?_⟩
  intro item hItem
  rcases List.mem_append.mp
      (mem_of_mem_deduplicateEvidence hItem) with
    hNamed | hFound
  · exact Or.inr (ofGraph_of_mem_namedEvidence hNamed)
  · exact hCases item hFound

end Ai

end AccessIQ
