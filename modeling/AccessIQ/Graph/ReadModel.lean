import AccessIQ.Graph.Builder
import AccessIQ.Python.Numbers
import AccessIQ.Seed

/-
  The authorization graph is a faithful read model.

  Distinct rows have distinct node ids, so adding the nodes
  of a table never replaces one.  When every foreign key
  resolves, no edge between rows is left out.

  Key definitions include:
    * `nodesOf`
    * `relationshipEdges`
    * `ForeignKeysResolve`
    * `Indexed`
    * `FaithfulReadModel`

  Key theorems include:
    * `graphNodeId_injective`
    * `entries_addNodes`
    * `edges_addEdgesIfNodesExist`
    * `buildAuthorizationGraph_faithful`
-/

------------------------------------------------------------
-- Node Ids
------------------------------------------------------------

namespace AccessIQ

namespace Graph

open Foundations Python

theorem NodeType.value_injective
    {t t' : NodeType}
    (hValue : t.value = t'.value) :
    t = t' := by
  cases t <;> cases t' <;> first
    | rfl
    | exact absurd hValue (by decide)

theorem NodeType.colon_notMem_value
    (t : NodeType) :
    ':' ∉ t.value.toList := by
  cases t <;> decide

/- A text is split in one way at the first of a character. -/
theorem split_at_first
    {stop : Char}
    {l l' r r' : List Char}
    (hl : stop ∉ l)
    (hl' : stop ∉ l')
    (hEq : l ++ stop :: r = l' ++ stop :: r') :
    l = l' ∧ r = r' := by
  induction l generalizing l' with
  | nil =>
      cases l' with
      | nil => exact ⟨rfl, List.tail_eq_of_cons_eq hEq⟩
      | cons c cs =>
          have hHead := List.head_eq_of_cons_eq hEq
          rw [← hHead] at hl'
          exact absurd List.mem_cons_self hl'
  | cons c cs ih =>
      cases l' with
      | nil =>
          have hHead := List.head_eq_of_cons_eq hEq
          rw [hHead] at hl
          exact absurd List.mem_cons_self hl
      | cons d ds =>
          rw [List.mem_cons, not_or] at hl hl'
          have hHead := List.head_eq_of_cons_eq hEq
          have hTail := List.tail_eq_of_cons_eq hEq
          rcases ih hl.2 hl'.2 hTail with ⟨rfl, rfl⟩
          rw [hHead]
          exact ⟨rfl, rfl⟩

/- A node id tells the type and the source id. -/
theorem graphNodeId_injective
    {t t' : NodeType}
    {x x' : String}
    (hEq : graphNodeId t x = graphNodeId t' x') :
    t = t' ∧ x = x' := by
  have hList := congrArg String.toList hEq
  unfold graphNodeId at hList
  simp only [String.toList_append, List.append_assoc]
    at hList
  have hColon : ":".toList = [':'] := rfl
  rw [hColon, List.singleton_append,
    List.singleton_append] at hList
  rcases split_at_first t.colon_notMem_value
      t'.colon_notMem_value hList with
    ⟨hType, hText⟩
  exact
    ⟨NodeType.value_injective (String.toList_inj.mp hType),
      String.toList_inj.mp hText⟩

theorem rowNodeId_injective
    {t : NodeType}
    {i j : Int}
    (hEq : rowNodeId t i = rowNodeId t j) :
    i = j :=
  toString_injective (graphNodeId_injective hEq).2

end Graph

end AccessIQ

------------------------------------------------------------
-- Adding Nodes
------------------------------------------------------------

namespace AccessIQ

namespace Graph

open Foundations Python

/- An index has a list for each node, and for no other id. -/
structure Indexed
    (graph : AuthorizationGraph) : Prop where
  outgoing :
    ∀ id, id ∈ graph.outgoingIndex.keys ↔
      id ∈ graph.nodes.keys
  incoming :
    ∀ id, id ∈ graph.incomingIndex.keys ↔
      id ∈ graph.nodes.keys

theorem indexed_addNode
    {graph : AuthorizationGraph}
    (hIndexed : Indexed graph)
    (node : GraphNode) :
    Indexed (graph.addNode node) where
  outgoing id := by
    unfold AuthorizationGraph.addNode
    rw [Dict.mem_keys_setDefault, Dict.mem_keys_set,
      hIndexed.outgoing]
  incoming id := by
    unfold AuthorizationGraph.addNode
    rw [Dict.mem_keys_setDefault, Dict.mem_keys_set,
      hIndexed.incoming]

theorem indexed_addNodes
    {graph : AuthorizationGraph}
    (hIndexed : Indexed graph)
    (nodes : List GraphNode) :
    Indexed (addNodes nodes graph) := by
  induction nodes generalizing graph with
  | nil => exact hIndexed
  | cons node nodes ih =>
      exact ih (indexed_addNode hIndexed node)

@[simp] theorem edges_addNodes
    (nodes : List GraphNode)
    (graph : AuthorizationGraph) :
    (addNodes nodes graph).edges = graph.edges := by
  induction nodes generalizing graph with
  | nil => rfl
  | cons node nodes ih => exact ih (graph.addNode node)

theorem addNodes_append
    (first second : List GraphNode)
    (graph : AuthorizationGraph) :
    addNodes (first ++ second) graph =
      addNodes second (addNodes first graph) :=
  List.foldl_append

/- Nodes with new and distinct ids are added at the end. -/
theorem entries_addNodes
    {nodes : List GraphNode}
    {graph : AuthorizationGraph}
    (hFresh :
      ∀ node ∈ nodes, node.id ∉ graph.nodes.keys)
    (hNodup : (nodes.map GraphNode.id).Nodup) :
    (addNodes nodes graph).nodes.entries =
      graph.nodes.entries ++
        nodes.map fun node => (node.id, node) := by
  induction nodes generalizing graph with
  | nil =>
      rw [List.map_nil, List.append_nil]
      rfl
  | cons node nodes ih =>
      rw [List.map_cons, List.nodup_cons] at hNodup
      have hNode := hFresh node List.mem_cons_self
      have hEntries :
          (graph.addNode node).nodes.entries =
            graph.nodes.entries ++ [(node.id, node)] :=
        Dict.entries_set_of_not_mem hNode node
      have hRest :
          (addNodes nodes (graph.addNode node)).nodes.entries =
            (graph.addNode node).nodes.entries ++
              nodes.map fun node => (node.id, node) := by
        apply ih
        · intro other hOther hMem
          rcases Dict.mem_keys_set.mp hMem with hId | hMem
          · apply hNodup.1
            rw [← hId]
            exact List.mem_map_of_mem hOther
          · exact hFresh other
              (List.mem_cons_of_mem _ hOther) hMem
        · exact hNodup.2
      rw [List.map_cons]
      change
        (addNodes nodes (graph.addNode node)).nodes.entries = _
      rw [hRest, hEntries, List.append_assoc]
      rfl

end Graph

end AccessIQ

------------------------------------------------------------
-- Adding Edges
------------------------------------------------------------

namespace AccessIQ

namespace Graph

open Foundations Python

/- What `add_edge` was called with for an edge. -/
def GraphEdge.arguments
    (edge : GraphEdge) :
    EdgeArguments where
  source := edge.source
  target := edge.target
  edgeType := edge.type
  label := edge.label
  reference := edge.reference
  properties := edge.properties
  timestamp := edge.timestamp
  correlationId := edge.correlationId

@[simp] theorem arguments_edge
    (arguments : EdgeArguments)
    (number : Nat) :
    (arguments.edge number).arguments = arguments :=
  rfl

/- Both ends of an edge are among some ids. -/
def Ends
    (keys : List String)
    (arguments : EdgeArguments) : Prop :=
  arguments.source ∈ keys ∧ arguments.target ∈ keys

instance
    (keys : List String) :
    DecidablePred (Ends keys) :=
  fun arguments =>
    inferInstanceAs
      (Decidable
        (arguments.source ∈ keys ∧ arguments.target ∈ keys))

/- Adding an edge adds it, or does nothing. -/
theorem addEdgeIfNodesExist_cases
    (graph : AuthorizationGraph)
    (arguments : EdgeArguments) :
    (Ends graph.nodes.keys arguments ∧
        addEdgeIfNodesExist graph arguments =
          graph.addEdge arguments) ∨
      (¬ Ends graph.nodes.keys arguments ∧
        addEdgeIfNodesExist graph arguments = graph) := by
  unfold addEdgeIfNodesExist
  by_cases hEnds : Ends graph.nodes.keys arguments
  · left
    refine ⟨hEnds, if_neg ?_⟩
    rintro (hSource | hTarget)
    · exact hSource hEnds.1
    · exact hTarget hEnds.2
  · right
    refine ⟨hEnds, if_pos ?_⟩
    by_contra hBoth
    push Not at hBoth
    exact hEnds hBoth

@[simp] theorem nodes_addEdgesIfNodesExist
    (edges : List EdgeArguments)
    (graph : AuthorizationGraph) :
    (addEdgesIfNodesExist edges graph).nodes =
      graph.nodes := by
  induction edges generalizing graph with
  | nil => rfl
  | cons arguments edges ih =>
      have hStep :
          (addEdgeIfNodesExist graph arguments).nodes =
            graph.nodes := by
        rcases addEdgeIfNodesExist_cases graph arguments with
          ⟨_, hEq⟩ | ⟨_, hEq⟩
        · rw [hEq]
          rfl
        · rw [hEq]
      rw [← hStep]
      exact ih (addEdgeIfNodesExist graph arguments)

/- The edges whose ends exist are added in their order. -/
theorem edges_addEdgesIfNodesExist
    (edges : List EdgeArguments)
    (graph : AuthorizationGraph) :
    (addEdgesIfNodesExist edges graph).edges.map
        GraphEdge.arguments =
      graph.edges.map GraphEdge.arguments ++
        edges.filter (Ends graph.nodes.keys) := by
  induction edges generalizing graph with
  | nil =>
      rw [List.filter_nil, List.append_nil]
      rfl
  | cons arguments edges ih =>
      have hRest := ih (addEdgeIfNodesExist graph arguments)
      change
        ((addEdgesIfNodesExist edges
          (addEdgeIfNodesExist graph arguments)).edges.map
            GraphEdge.arguments) = _
      rw [hRest]
      rcases addEdgeIfNodesExist_cases graph arguments with
        ⟨hEnds, hEq⟩ | ⟨hEnds, hEq⟩
      · rw [hEq, List.filter_cons_of_pos (by simpa using hEnds)]
        unfold AuthorizationGraph.addEdge
        simp
      · rw [hEq, List.filter_cons_of_neg (by simpa using hEnds)]

theorem edgesJoinNodes_addEdgesIfNodesExist
    {graph : AuthorizationGraph}
    (hJoin : graph.EdgesJoinNodes)
    (edges : List EdgeArguments) :
    (addEdgesIfNodesExist edges graph).EdgesJoinNodes := by
  intro edge hEdge
  rw [nodes_addEdgesIfNodesExist]
  have hMem :
      edge.arguments ∈
        (addEdgesIfNodesExist edges graph).edges.map
          GraphEdge.arguments :=
    List.mem_map_of_mem hEdge
  rw [edges_addEdgesIfNodesExist, List.mem_append] at hMem
  rcases hMem with hOld | hNew
  · rcases List.mem_map.mp hOld with ⟨old, hOld, hEq⟩
    have hEnds := hJoin old hOld
    have hSource := congrArg EdgeArguments.source hEq
    have hTarget := congrArg EdgeArguments.target hEq
    change old.source = edge.source at hSource
    change old.target = edge.target at hTarget
    rw [← hSource, ← hTarget]
    exact hEnds
  · have hEnds := (List.mem_filter.mp hNew).2
    exact of_decide_eq_true hEnds

theorem mem_keys_appendEdge
    {index : Dict String (List GraphEdge)}
    {key id : String}
    {edge : GraphEdge}
    (hKey : key ∈ index.keys) :
    id ∈ (appendEdge index key edge).keys ↔
      id ∈ index.keys := by
  unfold appendEdge
  rw [Dict.mem_keys_set]
  constructor
  · rintro (rfl | hId)
    · exact hKey
    · exact hId
  · exact Or.inr

theorem indexed_addEdgesIfNodesExist
    {graph : AuthorizationGraph}
    (hIndexed : Indexed graph)
    (edges : List EdgeArguments) :
    Indexed (addEdgesIfNodesExist edges graph) := by
  induction edges generalizing graph with
  | nil => exact hIndexed
  | cons arguments edges ih =>
      apply ih
      rcases addEdgeIfNodesExist_cases graph arguments with
        ⟨hEnds, hEq⟩ | ⟨_, hEq⟩
      · rw [hEq]
        constructor
        · intro id
          exact (mem_keys_appendEdge
            ((hIndexed.outgoing _).mpr hEnds.1)).trans
              (hIndexed.outgoing id)
        · intro id
          exact (mem_keys_appendEdge
            ((hIndexed.incoming _).mpr hEnds.2)).trans
              (hIndexed.incoming id)
      · rw [hEq]
        exact hIndexed

theorem addEdgesIfNodesExist_append
    (first second : List EdgeArguments)
    (graph : AuthorizationGraph) :
    addEdgesIfNodesExist (first ++ second) graph =
      addEdgesIfNodesExist second
        (addEdgesIfNodesExist first graph) :=
  List.foldl_append

end Graph

end AccessIQ

------------------------------------------------------------
-- What The Builder Adds
------------------------------------------------------------

namespace AccessIQ

namespace Graph

open Foundations Python

variable [Platform]

/- The nodes of one type, in the order they are added. -/
def nodesOf
    (s : Store)
    (registry : List RegisteredConnector) :
    NodeType → List GraphNode
  | .user => s.users.rows.map userNode
  | .group => s.groups.rows.map groupNode
  | .enterpriseProfile =>
      s.enterpriseUserProfiles.rows.map
        enterpriseProfileNode
  | .application => s.applications.rows.map applicationNode
  | .entitlement => s.entitlements.rows.map entitlementNode
  | .connector =>
      (listConnectors registry).map connectorNode
  | .certificationCampaign =>
      s.certificationCampaigns.rows.map campaignNode
  | .reviewItem =>
      s.certificationReviewItems.rows.map reviewItemNode
  | .delegation =>
      s.delegationAssignments.rows.map delegationNode
  | .provisioningJob =>
      s.provisioningJobs.rows.map provisioningJobNode
  | .provisioningHistory =>
      s.provisioningHistory.rows.map provisioningHistoryNode
  | .remediationJob =>
      s.remediationJobs.rows.map remediationJobNode
  | .auditEvent => s.auditEvents.rows.map auditEventNode

/- The types in the order the builder adds their nodes. -/
def nodeTypes : List NodeType :=
  [.user, .group, .enterpriseProfile, .application,
    .entitlement, .connector, .certificationCampaign,
    .reviewItem, .delegation, .provisioningJob,
    .provisioningHistory, .remediationJob, .auditEvent]

/- The edges of delegations, reviews, jobs and audits. -/
def operationEdges
    (s : Store) :
    List EdgeArguments :=
  s.delegationAssignments.rows.flatMap delegationEdges ++
    s.certificationCampaigns.rows.flatMap campaignEdges ++
    s.certificationReviewItems.rows.flatMap
      reviewItemEdges ++
    s.provisioningJobs.rows.flatMap provisioningJobEdges ++
    s.provisioningHistory.rows.flatMap
      provisioningHistoryEdges ++
    s.remediationJobs.rows.flatMap remediationEdges ++
    s.auditEvents.rows.flatMap auditEdges

/- All edges the builder asks for. -/
def relationshipEdges
    (s : Store) :
    List EdgeArguments :=
  s.entitlements.rows.flatMap entitlementEdges ++
    s.groupMembers.rows.flatMap membershipEdges ++
    s.accessAssignments.rows.flatMap accessEdges ++
    s.enterpriseUserProfiles.rows.flatMap profileEdges ++
    operationEdges s

theorem buildAuthorizationGraph_eq
    (s : Store)
    (registry : List RegisteredConnector) :
    buildAuthorizationGraph s registry =
      addEdgesIfNodesExist (relationshipEdges s)
        (addNodes (nodeTypes.flatMap (nodesOf s registry))
          .empty) := by
  unfold buildAuthorizationGraph relationshipEdges nodeTypes
  unfold operationEdges
  unfold addRelationshipEdges addAuditEdges
  unfold addRemediationEdges addProvisioningEdges
  unfold addGovernanceEdges addDelegationEdges
  unfold addOperationsNodes addGovernanceNodes
  unfold addConnectorNodes addApplicationNodes
  unfold addIdentityNodes
  simp only [List.flatMap_cons, List.flatMap_nil,
    List.append_nil, nodesOf, addNodes_append,
    addEdgesIfNodesExist_append]

omit [Platform] in
theorem mem_nodeTypes
    (t : NodeType) :
    t ∈ nodeTypes := by
  cases t <;> decide

/- A node carries its type, and its id begins with it. -/
theorem type_of_mem_nodesOf
    {s : Store}
    {registry : List RegisteredConnector}
    {t : NodeType}
    {node : GraphNode}
    (hNode : node ∈ nodesOf s registry t) :
    node.type = t ∧ ∃ x, node.id = graphNodeId t x := by
  cases t <;>
    (rcases List.mem_map.mp hNode with ⟨row, _, rfl⟩
     exact ⟨rfl, _, rfl⟩)

omit [Platform] in
/- Rows of one table have distinct node ids. -/
theorem nodup_ids_map
    {α : Type}
    [Row α]
    (table : Table α)
    (t : NodeType)
    (node : α → GraphNode)
    (hId : ∀ r, (node r).id = rowNodeId t (Row.id r)) :
    ((table.rows.map node).map GraphNode.id).Nodup := by
  have hIds :
      (table.rows.map node).map GraphNode.id =
        (table.rows.map Row.id).map (rowNodeId t) := by
    rw [List.map_map, List.map_map]
    apply List.map_congr_left
    intro r _
    exact hId r
  rw [hIds]
  exact table.nodup_ids.map fun _ _ => rowNodeId_injective

theorem nodup_ids_nodesOf
    (s : Store)
    {registry : List RegisteredConnector}
    (hNames :
      (registry.map RegisteredConnector.name).Nodup)
    (t : NodeType) :
    ((nodesOf s registry t).map GraphNode.id).Nodup := by
  cases t
  case connector =>
    have hIds :
        ((listConnectors registry).map connectorNode).map
            GraphNode.id =
          ((listConnectors registry).map
            RegisteredConnector.name).map
              (graphNodeId .connector) := by
      rw [List.map_map, List.map_map]
      rfl
    have hPerm :
        ((listConnectors registry).map
          RegisteredConnector.name).Perm
          (registry.map RegisteredConnector.name) :=
      (List.perm_insertionSort _ registry).map _
    change
      (((listConnectors registry).map connectorNode).map
        GraphNode.id).Nodup
    rw [hIds]
    exact (hPerm.nodup_iff.mpr hNames).map fun _ _ hEq =>
      (graphNodeId_injective hEq).2
  all_goals
    exact nodup_ids_map _ _ _ fun _ => rfl

theorem nodup_ids_databaseNodes
    (s : Store)
    {registry : List RegisteredConnector}
    (hNames :
      (registry.map RegisteredConnector.name).Nodup) :
    ((nodeTypes.flatMap (nodesOf s registry)).map
      GraphNode.id).Nodup := by
  rw [List.map_flatMap, List.nodup_flatMap]
  refine ⟨fun t _ => nodup_ids_nodesOf s hNames t, ?_⟩
  have hTypes : nodeTypes.Nodup := by decide
  refine hTypes.imp ?_
  intro t t' hNe id hId hId'
  rcases List.mem_map.mp hId with ⟨node, hNode, rfl⟩
  rcases List.mem_map.mp hId' with ⟨node', hNode', hEq⟩
  rcases (type_of_mem_nodesOf hNode).2 with ⟨x, hx⟩
  rcases (type_of_mem_nodesOf hNode').2 with ⟨x', hx'⟩
  rw [hx, hx'] at hEq
  exact hNe (graphNodeId_injective hEq).1.symm

/- The nodes of the graph are those of the rows. -/
theorem entries_buildAuthorizationGraph
    (s : Store)
    {registry : List RegisteredConnector}
    (hNames :
      (registry.map RegisteredConnector.name).Nodup) :
    (buildAuthorizationGraph s registry).nodes.entries =
      (nodeTypes.flatMap (nodesOf s registry)).map
        fun node => (node.id, node) := by
  rw [buildAuthorizationGraph_eq,
    nodes_addEdgesIfNodesExist, entries_addNodes]
  · rfl
  · intro node _ hMem
    cases hMem
  · exact nodup_ids_databaseNodes s hNames

theorem get?_buildAuthorizationGraph
    {s : Store}
    {registry : List RegisteredConnector}
    (hNames :
      (registry.map RegisteredConnector.name).Nodup)
    {t : NodeType}
    {node : GraphNode}
    (hNode : node ∈ nodesOf s registry t) :
    (buildAuthorizationGraph s registry).nodes.get?
      node.id = some node := by
  rw [Dict.get?_eq_some_iff,
    entries_buildAuthorizationGraph s hNames]
  apply List.mem_map.mpr
  refine ⟨node, List.mem_flatMap.mpr ?_, rfl⟩
  exact ⟨t, mem_nodeTypes t, hNode⟩

theorem values_buildAuthorizationGraph
    (s : Store)
    {registry : List RegisteredConnector}
    (hNames :
      (registry.map RegisteredConnector.name).Nodup) :
    (buildAuthorizationGraph s registry).nodes.values =
      nodeTypes.flatMap (nodesOf s registry) := by
  unfold Dict.values
  rw [entries_buildAuthorizationGraph s hNames,
    List.map_map]
  exact List.map_id _

/- The nodes of a type are the rows of its table. -/
theorem filter_databaseNodes
    (s : Store)
    (registry : List RegisteredConnector)
    (t : NodeType) :
    (nodeTypes.flatMap (nodesOf s registry)).filter
        (fun node => node.type == t) =
      nodesOf s registry t := by
  have hSame :
      (nodesOf s registry t).filter
          (fun node => node.type == t) =
        nodesOf s registry t := by
    apply List.filter_eq_self.mpr
    intro node hNode
    exact beq_iff_eq.mpr (type_of_mem_nodesOf hNode).1
  have hOther :
      ∀ t', t' ≠ t →
        (nodesOf s registry t').filter
            (fun node => node.type == t) = [] := by
    intro t' hNe
    apply List.filter_eq_nil_iff.mpr
    intro node hNode
    rw [(type_of_mem_nodesOf hNode).1, beq_iff_eq]
    exact hNe
  rw [List.filter_flatMap]
  unfold nodeTypes
  cases t <;>
    simp [List.flatMap_cons, hSame, hOther]

end Graph

end AccessIQ

------------------------------------------------------------
-- Edges By Type
------------------------------------------------------------

namespace AccessIQ

namespace Graph

open Foundations Python Delegation Governance Remediation

/- The edge types the rows of the first phases account for. -/
def relationTypes : List EdgeType :=
  [.memberOf, .hasEntitlement, .managedBy]

/- The edges of every row are of the types. -/
def HasTypes
    {α : Type}
    (edges : α → List EdgeArguments)
    (types : List EdgeType) : Prop :=
  ∀ row, ∀ a ∈ edges row, a.edgeType ∈ types

section Filtered

variable {α : Type}
variable {rows : List α}
variable {edges : α → List EdgeArguments}
variable {wanted : EdgeType}

theorem HasTypes.filter_eq_nil
    {types : List EdgeType}
    (hTypes : HasTypes edges types)
    (hWanted : wanted ∉ types) :
    (rows.flatMap edges).filter
        (fun a => a.edgeType == wanted) = [] := by
  apply List.filter_eq_nil_iff.mpr
  intro a ha hEq
  rcases List.mem_flatMap.mp ha with ⟨row, _, ha⟩
  rw [← beq_iff_eq.mp hEq] at hWanted
  exact hWanted (hTypes row a ha)

theorem HasTypes.filter_eq_self
    (hTypes : HasTypes edges [wanted]) :
    (rows.flatMap edges).filter
        (fun a => a.edgeType == wanted) =
      rows.flatMap edges := by
  apply List.filter_eq_self.mpr
  intro a ha
  rcases List.mem_flatMap.mp ha with ⟨row, _, ha⟩
  rw [beq_iff_eq]
  exact List.mem_singleton.mp (hTypes row a ha)

end Filtered

theorem hasTypes_entitlementEdges :
    HasTypes entitlementEdges [.grantsAccessTo] := by
  intro entitlement a ha
  rw [List.mem_singleton.mp ha]
  simp

theorem hasTypes_membershipEdges :
    HasTypes membershipEdges [.memberOf] := by
  intro membership a ha
  rw [List.mem_singleton.mp ha]
  simp

theorem hasTypes_accessEdges :
    HasTypes accessEdges [.hasEntitlement] := by
  intro assignment a ha
  rw [List.mem_singleton.mp ha]
  simp

theorem hasTypes_managerEdges :
    HasTypes managerEdges [.managedBy] := by
  intro profile a ha
  unfold managerEdges at ha
  cases hManager : profile.managerId with
  | none =>
      rw [hManager] at ha
      cases ha
  | some managerId =>
      rw [hManager] at ha
      rw [List.mem_singleton.mp ha]
      simp

theorem hasTypes_profileEdges :
    HasTypes profileEdges [.connectedTo, .managedBy] := by
  intro profile a ha
  rcases List.mem_cons.mp ha with rfl | ha
  · simp
  · exact List.mem_cons_of_mem _
      (hasTypes_managerEdges profile a ha)

theorem hasTypes_campaignEdges :
    HasTypes campaignEdges [.reviewedIn] := by
  intro campaign a ha
  rcases List.mem_map.mp ha with ⟨_, _, rfl⟩
  simp

theorem hasTypes_reviewItemEdges :
    HasTypes reviewItemEdges [.reviewedIn] := by
  intro item a ha
  unfold reviewItemEdges at ha
  rcases List.mem_append.mp ha with ha | ha
  · simp only [List.mem_cons, List.not_mem_nil,
      or_false] at ha
    rcases ha with rfl | rfl | rfl | rfl | rfl <;>
      simp [reviewedInEdge]
  · rcases List.mem_map.mp ha with ⟨_, _, rfl⟩
    simp [reviewedInEdge]

theorem hasTypes_provisioningHistoryEdges :
    HasTypes provisioningHistoryEdges [.provisionedBy] := by
  intro history a ha
  rw [List.mem_singleton.mp ha]
  simp

theorem hasTypes_remediationEdges :
    HasTypes remediationEdges
      [.remediatedBy, .auditedBy, .provisionedBy] := by
  intro job a ha
  unfold remediationEdges at ha
  rcases List.mem_append.mp ha with ha | ha
  · simp only [List.mem_cons, List.not_mem_nil,
      or_false] at ha
    rcases ha with rfl | rfl | rfl <;> simp [remediationEdge]
  · rcases List.mem_map.mp ha with ⟨_, _, rfl⟩
    simp [remediationEdge]

theorem hasTypes_auditEdges :
    HasTypes auditEdges [.auditedBy] := by
  intro event a ha
  rcases List.mem_map.mp ha with ⟨_, _, rfl⟩
  simp

variable [Platform]

theorem hasTypes_delegationEdges :
    HasTypes delegationEdges
      [.delegatedTo, .auditedBy, .connectedTo] := by
  intro assignment a ha
  unfold delegationEdges scopeEdges at ha
  rcases List.mem_append.mp ha with ha | ha
  · simp only [List.mem_cons, List.not_mem_nil,
      or_false] at ha
    rcases ha with rfl | rfl <;> simp
  · cases hScope :
        delegationScopeNodeId assignment.scopeType.value
          assignment.scopeId with
    | none =>
        rw [hScope] at ha
        cases ha
    | some target =>
        rw [hScope] at ha
        rw [List.mem_singleton.mp ha]
        simp

theorem hasTypes_provisioningJobEdges :
    HasTypes provisioningJobEdges
      [.connectedTo, .provisionedBy] := by
  intro job a ha
  unfold provisioningJobEdges at ha
  rcases List.mem_cons.mp ha with rfl | ha
  · simp
  · rcases List.mem_map.mp ha with ⟨_, _, rfl⟩
    simp

/- The operations have no edges of the relation types. -/
theorem filter_operationEdges
    (s : Store)
    {wanted : EdgeType}
    (hWanted : wanted ∈ relationTypes) :
    (operationEdges s).filter
        (fun a => a.edgeType == wanted) = [] := by
  have hOther :
      ∀ {types : List EdgeType},
        (∀ t ∈ types, t ∉ relationTypes) →
          wanted ∉ types :=
    fun hTypes hMem => hTypes _ hMem hWanted
  unfold operationEdges
  simp only [List.filter_append]
  rw [hasTypes_delegationEdges.filter_eq_nil
      (hOther (by decide)),
    hasTypes_campaignEdges.filter_eq_nil
      (hOther (by decide)),
    hasTypes_reviewItemEdges.filter_eq_nil
      (hOther (by decide)),
    hasTypes_provisioningJobEdges.filter_eq_nil
      (hOther (by decide)),
    hasTypes_provisioningHistoryEdges.filter_eq_nil
      (hOther (by decide)),
    hasTypes_remediationEdges.filter_eq_nil
      (hOther (by decide)),
    hasTypes_auditEdges.filter_eq_nil
      (hOther (by decide))]
  rfl

theorem filter_relationshipEdges_memberOf
    (s : Store) :
    (relationshipEdges s).filter
        (fun a => a.edgeType == .memberOf) =
      s.groupMembers.rows.flatMap membershipEdges := by
  unfold relationshipEdges
  rw [List.filter_append, List.filter_append,
    List.filter_append, List.filter_append,
    hasTypes_entitlementEdges.filter_eq_nil (by decide),
    hasTypes_membershipEdges.filter_eq_self,
    hasTypes_accessEdges.filter_eq_nil (by decide),
    hasTypes_profileEdges.filter_eq_nil (by decide),
    filter_operationEdges s (by decide)]
  simp

theorem filter_relationshipEdges_hasEntitlement
    (s : Store) :
    (relationshipEdges s).filter
        (fun a => a.edgeType == .hasEntitlement) =
      s.accessAssignments.rows.flatMap accessEdges := by
  unfold relationshipEdges
  rw [List.filter_append, List.filter_append,
    List.filter_append, List.filter_append,
    hasTypes_entitlementEdges.filter_eq_nil (by decide),
    hasTypes_membershipEdges.filter_eq_nil (by decide),
    hasTypes_accessEdges.filter_eq_self,
    hasTypes_profileEdges.filter_eq_nil (by decide),
    filter_operationEdges s (by decide)]
  simp

theorem filter_relationshipEdges_managedBy
    (s : Store) :
    (relationshipEdges s).filter
        (fun a => a.edgeType == .managedBy) =
      s.enterpriseUserProfiles.rows.flatMap
        managerEdges := by
  have hProfiles :
      (s.enterpriseUserProfiles.rows.flatMap
        profileEdges).filter
          (fun a => a.edgeType == .managedBy) =
        s.enterpriseUserProfiles.rows.flatMap
          managerEdges := by
    rw [List.filter_flatMap]
    apply List.flatMap_congr
    intro profile _
    unfold profileEdges
    rw [List.filter_cons_of_neg (by simp)]
    apply List.filter_eq_self.mpr
    intro a ha
    have hType := hasTypes_managerEdges profile a ha
    exact beq_iff_eq.mpr (List.mem_singleton.mp hType)
  unfold relationshipEdges
  rw [List.filter_append, List.filter_append,
    List.filter_append, List.filter_append,
    hasTypes_entitlementEdges.filter_eq_nil (by decide),
    hasTypes_membershipEdges.filter_eq_nil (by decide),
    hasTypes_accessEdges.filter_eq_nil (by decide),
    hProfiles, filter_operationEdges s (by decide)]
  simp

end Graph

end AccessIQ

------------------------------------------------------------
-- Foreign Keys
------------------------------------------------------------

namespace AccessIQ

namespace Graph

open Foundations Python

/- Every foreign key of the database resolves. -/
structure ForeignKeysResolve
    (s : Store) : Prop where
  memberGroup :
    ∀ m ∈ s.groupMembers.rows,
      s.groups.contains m.groupId = true
  memberUser :
    ∀ m ∈ s.groupMembers.rows,
      s.users.contains m.userId = true
  profileUser :
    ∀ p ∈ s.enterpriseUserProfiles.rows,
      s.users.contains p.userId = true
  profileManager :
    ∀ p ∈ s.enterpriseUserProfiles.rows,
      ∀ managerId ∈ p.managerId,
        s.users.contains managerId = true
  entitlementApplication :
    ∀ e ∈ s.entitlements.rows,
      s.applications.contains e.applicationId = true
  accessUser :
    ∀ a ∈ s.accessAssignments.rows,
      s.users.contains a.userId = true
  accessEntitlement :
    ∀ a ∈ s.accessAssignments.rows,
      s.entitlements.contains a.entitlementId = true
  auditEvent :
    ∀ e ∈ s.auditEvents.rows,
      s.users.contains e.requesterId = true ∧
        s.users.contains e.targetUserId = true ∧
        s.applications.contains e.applicationId = true ∧
        s.entitlements.contains e.entitlementId = true
  historyJob :
    ∀ h ∈ s.provisioningHistory.rows,
      s.provisioningJobs.contains h.jobId = true
  delegation :
    ∀ a ∈ s.delegationAssignments.rows,
      s.users.contains a.delegateUserId = true ∧
        s.users.contains a.createdBy = true
  campaign :
    ∀ c ∈ s.certificationCampaigns.rows,
      s.users.contains c.createdBy = true ∧
        s.users.contains c.defaultReviewerId = true
  reviewItem :
    ∀ i ∈ s.certificationReviewItems.rows,
      s.certificationCampaigns.contains i.campaignId =
          true ∧
        s.accessAssignments.contains i.accessAssignmentId =
          true ∧
        s.users.contains i.userId = true ∧
        s.applications.contains i.applicationId = true ∧
        s.entitlements.contains i.entitlementId = true ∧
        s.users.contains i.reviewerId = true
  reviewItemGroup :
    ∀ i ∈ s.certificationReviewItems.rows,
      ∀ groupId ∈ i.groupId,
        s.groups.contains groupId = true
  decision :
    ∀ d ∈ s.certificationDecisions.rows,
      s.certificationCampaigns.contains d.campaignId =
          true ∧
        s.certificationReviewItems.contains d.reviewItemId =
          true ∧
        s.users.contains d.reviewerId = true
  remediation :
    ∀ j ∈ s.remediationJobs.rows,
      s.certificationCampaigns.contains j.campaignId =
          true ∧
        s.certificationReviewItems.contains j.reviewItemId =
          true ∧
        s.users.contains j.initiatedBy = true
  remediationJob :
    ∀ j ∈ s.remediationJobs.rows,
      ∀ jobId ∈ j.provisioningJobId,
        s.provisioningJobs.contains jobId = true

variable [Platform]

/- A row has a node in the graph. -/
theorem mem_keys_of_contains
    {α : Type}
    [Row α]
    {s : Store}
    {registry : List RegisteredConnector}
    (hNames :
      (registry.map RegisteredConnector.name).Nodup)
    {table : Table α}
    {t : NodeType}
    {node : α → GraphNode}
    (hNodes : nodesOf s registry t = table.rows.map node)
    (hId : ∀ r, (node r).id = rowNodeId t (Row.id r))
    {i : Int}
    (hContains : table.contains i = true) :
    rowNodeId t i ∈
      (buildAuthorizationGraph s registry).nodes.keys := by
  rcases table.contains_iff.mp hContains with ⟨r, hr, rfl⟩
  have hNode : node r ∈ nodesOf s registry t := by
    rw [hNodes]
    exact List.mem_map_of_mem hr
  rw [← hId]
  exact Dict.mem_keys_iff.mpr
    ⟨node r, get?_buildAuthorizationGraph hNames hNode⟩

/- The edges of the graph are those asked for. -/
theorem mem_edges_buildAuthorizationGraph
    {s : Store}
    {registry : List RegisteredConnector}
    (a : EdgeArguments) :
    (∃ edge ∈ (buildAuthorizationGraph s registry).edges,
      edge.arguments = a) ↔
      a ∈ relationshipEdges s ∧
        Ends (buildAuthorizationGraph s registry).nodes.keys
          a := by
  have hEdges :
      (buildAuthorizationGraph s registry).edges.map
          GraphEdge.arguments =
        (relationshipEdges s).filter
          (Ends
            (buildAuthorizationGraph s
              registry).nodes.keys) := by
    rw [buildAuthorizationGraph_eq,
      edges_addEdgesIfNodesExist, edges_addNodes,
      nodes_addEdgesIfNodesExist]
    rfl
  rw [← List.mem_map, hEdges, List.mem_filter,
    decide_eq_true_eq]

/- The edges of a type, as the builder asked for them. -/
theorem arguments_of_type
    (s : Store)
    (registry : List RegisteredConnector)
    (t : EdgeType) :
    ((buildAuthorizationGraph s registry).edges.filter
        (fun edge => edge.type == t)).map
        GraphEdge.arguments =
      ((relationshipEdges s).filter
        (fun a => a.edgeType == t)).filter
          (Ends
            (buildAuthorizationGraph s
              registry).nodes.keys) := by
  have hFilter :
      ∀ edges : List GraphEdge,
        (edges.filter (fun edge => edge.type == t)).map
            GraphEdge.arguments =
          (edges.map GraphEdge.arguments).filter
            (fun a => a.edgeType == t) := by
    intro edges
    rw [List.filter_map]
    rfl
  rw [hFilter, buildAuthorizationGraph_eq,
    edges_addEdgesIfNodesExist, edges_addNodes,
    nodes_addEdgesIfNodesExist]
  change List.filter _ ([] ++ _) = _
  rw [List.nil_append, List.filter_comm]

/- The two ends of the edges of a type. -/
def endsOfType
    (graph : AuthorizationGraph)
    (t : EdgeType) :
    List (String × String) :=
  (graph.edges.filter fun edge => edge.type == t).map
    fun edge => (edge.source, edge.target)

theorem endsOfType_eq
    {s : Store}
    {registry : List RegisteredConnector}
    {t : EdgeType}
    {asked : List EdgeArguments}
    (hAsked :
      (relationshipEdges s).filter
          (fun a => a.edgeType == t) = asked)
    (hEnds :
      ∀ a ∈ asked,
        Ends
          (buildAuthorizationGraph s registry).nodes.keys
          a) :
    endsOfType (buildAuthorizationGraph s registry) t =
      asked.map fun a => (a.source, a.target) := by
  have hKept :
      asked.filter
          (Ends
            (buildAuthorizationGraph s registry).nodes.keys) =
        asked := by
    apply List.filter_eq_self.mpr
    intro a ha
    exact decide_eq_true (hEnds a ha)
  have hArguments := arguments_of_type s registry t
  rw [hAsked, hKept] at hArguments
  rw [← hArguments, List.map_map]
  rfl

section Relations

variable {s : Store}
variable {registry : List RegisteredConnector}
variable (hKeys : ForeignKeysResolve s)
variable
  (hNames : (registry.map RegisteredConnector.name).Nodup)

include hKeys hNames

theorem endsOfType_memberOf :
    endsOfType (buildAuthorizationGraph s registry)
        .memberOf =
      s.groupMembers.rows.map fun m =>
        (rowNodeId .user m.userId,
          rowNodeId .group m.groupId) := by
  rw [endsOfType_eq (filter_relationshipEdges_memberOf s)]
  · rw [List.map_flatMap, List.map_eq_flatMap]
    rfl
  · intro a ha
    rcases List.mem_flatMap.mp ha with ⟨m, hm, ha⟩
    rw [List.mem_singleton.mp ha]
    constructor
    · exact mem_keys_of_contains hNames (t := .user) rfl
        (fun _ => rfl) (hKeys.memberUser m hm)
    · exact mem_keys_of_contains hNames (t := .group) rfl
        (fun _ => rfl) (hKeys.memberGroup m hm)

theorem endsOfType_hasEntitlement :
    endsOfType (buildAuthorizationGraph s registry)
        .hasEntitlement =
      s.accessAssignments.rows.map fun a =>
        (rowNodeId .user a.userId,
          rowNodeId .entitlement a.entitlementId) := by
  rw [endsOfType_eq
    (filter_relationshipEdges_hasEntitlement s)]
  · rw [List.map_flatMap, List.map_eq_flatMap]
    rfl
  · intro a ha
    rcases List.mem_flatMap.mp ha with ⟨x, hx, ha⟩
    rw [List.mem_singleton.mp ha]
    constructor
    · exact mem_keys_of_contains hNames (t := .user) rfl
        (fun _ => rfl) (hKeys.accessUser x hx)
    · exact mem_keys_of_contains hNames (t := .entitlement)
        rfl (fun _ => rfl) (hKeys.accessEntitlement x hx)

theorem endsOfType_managedBy :
    endsOfType (buildAuthorizationGraph s registry)
        .managedBy =
      s.enterpriseUserProfiles.rows.filterMap fun p =>
        p.managerId.map fun managerId =>
          (rowNodeId .user p.userId,
            rowNodeId .user managerId) := by
  rw [endsOfType_eq (filter_relationshipEdges_managedBy s)]
  · rw [List.map_flatMap, List.filterMap_eq_flatMap_toList]
    apply List.flatMap_congr
    intro p _
    unfold managerEdges
    cases p.managerId <;> rfl
  · intro a ha
    rcases List.mem_flatMap.mp ha with ⟨p, hp, ha⟩
    have hManager := hKeys.profileManager p hp
    unfold managerEdges at ha
    cases hId : p.managerId with
    | none =>
        rw [hId] at ha
        cases ha
    | some managerId =>
        rw [hId] at ha hManager
        rw [List.mem_singleton.mp ha]
        constructor
        · exact mem_keys_of_contains hNames (t := .user) rfl
            (fun _ => rfl) (hKeys.profileUser p hp)
        · exact mem_keys_of_contains hNames (t := .user) rfl
            (fun _ => rfl) (hManager managerId rfl)

end Relations

end Graph

end AccessIQ

------------------------------------------------------------
-- Entitlements Of A User
------------------------------------------------------------

namespace AccessIQ

namespace Graph

open Foundations Python

/- Outgoing edges of a type, up to their order. -/
theorem outgoing_perm
    (graph : AuthorizationGraph)
    (id : String)
    (t : EdgeType) :
    (graph.outgoing id (some t)).Perm
      ((graph.edges.filter fun edge => edge.type == t).filter
        fun edge => edge.source == id) := by
  have hIndex := graph.outgoing_eq id
  unfold AuthorizationGraph.outgoing
  unfold AuthorizationGraph.ofType
  rw [hIndex, List.filter_comm]
  exact List.perm_insertionSort _ _

/- The entitlement nodes of the assignments of a user. -/
def assignedEntitlements
    (s : Store)
    (userId : Int) :
    List GraphNode :=
  (s.accessAssignments.rows.filter
    fun a => a.userId == userId).filterMap fun a =>
      (s.entitlements.get? a.entitlementId).map
        entitlementNode

theorem nodup_assignedEntitlements
    (s : Store)
    (userId : Int) :
    (assignedEntitlements s userId).Nodup := by
  have hPairs :
      (s.accessAssignments.rows.filter
        fun a => a.userId == userId).Pairwise
          fun a b => a.entitlementId ≠ b.entitlementId := by
    apply (s.accessAssignments.unique.filter _).imp_of_mem
    intro a b ha hb hConflict hEq
    have hUser := (List.mem_filter.mp ha).2
    have hUser' := (List.mem_filter.mp hb).2
    rw [beq_iff_eq] at hUser hUser'
    apply of_decide_eq_false hConflict
    exact ⟨hUser.trans hUser'.symm, hEq⟩
  unfold assignedEntitlements
  rw [List.Nodup, List.pairwise_filterMap]
  refine hPairs.imp ?_
  intro a b hNe node hNode node' hNode' hEq
  rcases Option.map_eq_some_iff.mp hNode with ⟨e, he, rfl⟩
  rcases Option.map_eq_some_iff.mp hNode' with
    ⟨e', he', rfl⟩
  have hId := congrArg GraphNode.id hEq
  have hRow : e.id = e'.id := rowNodeId_injective hId
  apply hNe
  calc a.entitlementId = e.id :=
        (Table.id_of_get? he).symm
    _ = e'.id := hRow
    _ = b.entitlementId := Table.id_of_get? he'

variable [Platform]

/- The query finds the entitlements of the assignments. -/
theorem findEntitlements_perm
    {s : Store}
    {registry : List RegisteredConnector}
    (hKeys : ForeignKeysResolve s)
    (hNames :
      (registry.map RegisteredConnector.name).Nodup)
    (userId : Int) :
    (findEntitlements (buildAuthorizationGraph s registry)
      userId).Perm (assignedEntitlements s userId) := by
  have hFound := (outgoing_perm
    (buildAuthorizationGraph s registry)
    (rowNodeId .user userId) .hasEntitlement).filterMap
      fun edge =>
        (buildAuthorizationGraph s registry).getNode
          edge.target
  have hEnds :
      (((buildAuthorizationGraph s registry).edges.filter
          fun edge => edge.type == .hasEntitlement).filter
            fun edge =>
              edge.source ==
                rowNodeId .user userId).filterMap
            (fun edge =>
              (buildAuthorizationGraph s registry).getNode
                edge.target) =
        ((endsOfType (buildAuthorizationGraph s registry)
          .hasEntitlement).filter fun ends =>
            ends.1 == rowNodeId .user userId).filterMap
              fun ends =>
                (buildAuthorizationGraph s registry).getNode
                  ends.2 := by
    unfold endsOfType
    rw [List.filter_map, List.filterMap_map]
    rfl
  have hNode :
      ∀ a ∈ s.accessAssignments.rows,
        (buildAuthorizationGraph s registry).getNode
            (rowNodeId .entitlement a.entitlementId) =
          (s.entitlements.get? a.entitlementId).map
            entitlementNode := by
    intro a ha
    have hContains := hKeys.accessEntitlement a ha
    rcases s.entitlements.contains_iff.mp hContains with
      ⟨e, he, hId⟩
    have hGet := s.entitlements.get?_of_mem he
    rw [hId] at hGet
    rw [hGet, ← hId]
    exact get?_buildAuthorizationGraph hNames
      (t := .entitlement) (List.mem_map_of_mem he)
  have hUser :
      ∀ a ∈ s.accessAssignments.rows,
        (rowNodeId .user a.userId == rowNodeId .user userId) =
          (a.userId == userId) := by
    intro a _
    rw [Bool.eq_iff_iff, beq_iff_eq, beq_iff_eq]
    constructor
    · exact rowNodeId_injective
    · intro hEq
      rw [hEq]
  rw [hEnds, endsOfType_hasEntitlement hKeys hNames,
    List.filter_map, List.filterMap_map] at hFound
  have hRows :
      (s.accessAssignments.rows.filter fun a =>
        rowNodeId .user a.userId ==
          rowNodeId .user userId).filterMap
          (fun a =>
            (buildAuthorizationGraph s registry).getNode
              (rowNodeId .entitlement a.entitlementId)) =
        assignedEntitlements s userId := by
    unfold assignedEntitlements
    rw [List.filter_congr hUser]
    apply List.filterMap_congr
    intro a ha
    exact hNode a (List.mem_filter.mp ha).1
  rw [← hRows]
  exact hFound

end Graph

end AccessIQ

------------------------------------------------------------
-- Faithfulness
------------------------------------------------------------

namespace AccessIQ

namespace Graph

open Foundations Python

variable [Platform]

/-
  A graph that shows a database and a registry as they are:
  one node for each row and connector under an id of its
  own, edges that match the relations, indexes that match
  the edges.
-/
structure FaithfulReadModel
    (s : Store)
    (registry : List RegisteredConnector)
    (graph : AuthorizationGraph) :
    Prop where
  nodes :
    ∀ t,
      (graph.nodes.values.filter fun node => node.type == t) =
        nodesOf s registry t
  connectors :
    (nodesOf s registry .connector).Perm
      (registry.map connectorNode)
  ids : (graph.nodes.values.map GraphNode.id).Nodup
  stored :
    ∀ node ∈ graph.nodes.values,
      graph.nodes.get? node.id = some node
  memberOf :
    endsOfType graph .memberOf =
      s.groupMembers.rows.map fun m =>
        (rowNodeId .user m.userId,
          rowNodeId .group m.groupId)
  hasEntitlement :
    endsOfType graph .hasEntitlement =
      s.accessAssignments.rows.map fun a =>
        (rowNodeId .user a.userId,
          rowNodeId .entitlement a.entitlementId)
  managedBy :
    endsOfType graph .managedBy =
      s.enterpriseUserProfiles.rows.filterMap fun p =>
        p.managerId.map fun managerId =>
          (rowNodeId .user p.userId,
            rowNodeId .user managerId)
  edgesJoinNodes : graph.EdgesJoinNodes
  outgoing :
    ∀ id ∈ graph.nodes.keys,
      graph.outgoingIndex.get? id =
        some (graph.edges.filter fun edge =>
          edge.source == id)
  incoming :
    ∀ id ∈ graph.nodes.keys,
      graph.incomingIndex.get? id =
        some (graph.edges.filter fun edge =>
          edge.target == id)
  indexed : Indexed graph
  entitlements :
    ∀ userId,
      (findEntitlements graph userId).Nodup ∧
        ∀ node, node ∈ findEntitlements graph userId ↔
          ∃ a ∈ s.accessAssignments.rows,
            a.userId = userId ∧
              ∃ e,
                s.entitlements.get? a.entitlementId =
                    some e ∧
                  node = entitlementNode e

omit [Platform] in
/- The list under a node in an index that has one. -/
theorem get?_of_getD
    {index : Dict String (List GraphEdge)}
    {id : String}
    {edges : List GraphEdge}
    (hKey : id ∈ index.keys)
    (hEdges : (index.get? id).getD [] = edges) :
    index.get? id = some edges := by
  rcases Dict.mem_keys_iff.mp hKey with ⟨found, hFound⟩
  rw [hFound] at hEdges ⊢
  exact congrArg some hEdges

theorem indexed_buildAuthorizationGraph
    (s : Store)
    (registry : List RegisteredConnector) :
    Indexed (buildAuthorizationGraph s registry) := by
  have hEmpty : Indexed AuthorizationGraph.empty :=
    ⟨fun _ => Iff.rfl, fun _ => Iff.rfl⟩
  rw [buildAuthorizationGraph_eq]
  apply indexed_addEdgesIfNodesExist
  exact indexed_addNodes hEmpty _

theorem edgesJoinNodes_buildAuthorizationGraph
    (s : Store)
    (registry : List RegisteredConnector) :
    (buildAuthorizationGraph s registry).EdgesJoinNodes := by
  rw [buildAuthorizationGraph_eq]
  apply edgesJoinNodes_addEdgesIfNodesExist
  intro edge hEdge
  rw [edges_addNodes] at hEdge
  cases hEdge

omit [Platform] in
theorem mem_assignedEntitlements_iff
    {s : Store}
    {userId : Int}
    {node : GraphNode} :
    node ∈ assignedEntitlements s userId ↔
      ∃ a ∈ s.accessAssignments.rows,
        a.userId = userId ∧
          ∃ e,
            s.entitlements.get? a.entitlementId = some e ∧
              node = entitlementNode e := by
  unfold assignedEntitlements
  rw [List.mem_filterMap]
  constructor
  · rintro ⟨a, ha, hNode⟩
    rcases List.mem_filter.mp ha with ⟨hRow, hUser⟩
    rcases Option.map_eq_some_iff.mp hNode with
      ⟨e, he, hEq⟩
    exact ⟨a, hRow, beq_iff_eq.mp hUser, e, he, hEq.symm⟩
  · rintro ⟨a, hRow, hUser, e, he, hEq⟩
    refine ⟨a, ?_, ?_⟩
    · exact List.mem_filter.mpr ⟨hRow, beq_iff_eq.mpr hUser⟩
    · rw [he, hEq]
      rfl

/- The graph of a database shows the database as it is. -/
theorem buildAuthorizationGraph_faithful
    (s : Store)
    (registry : List RegisteredConnector)
    (hKeys : ForeignKeysResolve s)
    (hNames :
      (registry.map RegisteredConnector.name).Nodup) :
    FaithfulReadModel s registry
      (buildAuthorizationGraph s registry) := by
  have hValues := values_buildAuthorizationGraph s hNames
  have hIndexed := indexed_buildAuthorizationGraph s registry
  refine
    { nodes := ?_
      connectors := (List.perm_insertionSort _ registry).map _
      ids := ?_
      stored := ?_
      memberOf := endsOfType_memberOf hKeys hNames
      hasEntitlement :=
        endsOfType_hasEntitlement hKeys hNames
      managedBy := endsOfType_managedBy hKeys hNames
      edgesJoinNodes :=
        edgesJoinNodes_buildAuthorizationGraph s registry
      outgoing := ?_
      incoming := ?_
      indexed := hIndexed
      entitlements := ?_ }
  · intro t
    rw [hValues]
    exact filter_databaseNodes s registry t
  · rw [hValues]
    exact nodup_ids_databaseNodes s hNames
  · intro node hNode
    rw [hValues] at hNode
    rcases List.mem_flatMap.mp hNode with ⟨t, _, hNode⟩
    exact get?_buildAuthorizationGraph hNames hNode
  · intro id hId
    apply get?_of_getD
    · exact (hIndexed.outgoing id).mpr hId
    · exact AuthorizationGraph.outgoing_eq _ id
  · intro id hId
    apply get?_of_getD
    · exact (hIndexed.incoming id).mpr hId
    · exact AuthorizationGraph.incoming_eq _ id
  · intro userId
    have hPerm := findEntitlements_perm hKeys hNames userId
    constructor
    · exact hPerm.nodup_iff.mpr
        (nodup_assignedEntitlements s userId)
    · intro node
      rw [hPerm.mem_iff]
      exact mem_assignedEntitlements_iff

end Graph

end AccessIQ

------------------------------------------------------------
-- A Managed Employee
------------------------------------------------------------

namespace AccessIQ

namespace Graph

open Foundations Python

section Example

attribute [local instance] asciiPlatform

/-
  The seeded users, one of whom is in a group, has an
  entitlement and is managed by another.
-/
def managedStore : Store :=
  { salesStore with
    accessAssignments :=
      { rows := [⟨1, 1, 1, 0⟩]
        issued := 1
        sorted := by decide
        bounded := by decide
        unique := by decide }
    enterpriseUserProfiles :=
      { rows :=
          [{ id := 1
             userId := 1
             department := some "Sales"
             managerId := some 6
             createdAt := 0
             updatedAt := 0 }]
        issued := 1
        sorted := by decide
        bounded := by decide
        unique := by decide } }

def salesforceConnector : RegisteredConnector where
  name := "salesforce"
  displayName := "Salesforce"
  enabled := true
  supportedOperations := [.grantEntitlement]

theorem managedStore_foreignKeysResolve :
    ForeignKeysResolve managedStore where
  memberGroup := by decide
  memberUser := by decide
  profileUser := by decide
  profileManager := by
    intro p hp managerId hManager
    rw [List.mem_singleton.mp hp] at hManager
    cases hManager
    decide
  entitlementApplication := by decide
  accessUser := by decide
  accessEntitlement := by decide
  auditEvent := fun _ h => nomatch h
  historyJob := fun _ h => nomatch h
  delegation := fun _ h => nomatch h
  campaign := fun _ h => nomatch h
  reviewItem := fun _ h => nomatch h
  reviewItemGroup := fun _ h => nomatch h
  decision := fun _ h => nomatch h
  remediation := fun _ h => nomatch h
  remediationJob := fun _ h => nomatch h

theorem buildAuthorizationGraph_managedStore :
    FaithfulReadModel managedStore [salesforceConnector]
      (buildAuthorizationGraph managedStore
        [salesforceConnector]) :=
  buildAuthorizationGraph_faithful managedStore
    [salesforceConnector] managedStore_foreignKeysResolve
    (by decide)

end Example

end Graph

end AccessIQ
