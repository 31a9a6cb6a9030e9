import AccessIQ.Graph.ShortestPath
import AccessIQ.Graph.ManagerChain
import AccessIQ.Graph.History
import AccessIQ.Python.Dates

/-
  Evidence of the graph, and the queries that lead to it.

  A node is evidence of itself and of the edges at it; the
  evidence of an edge names both of its ends.

  Key definitions include:
    * `EvidenceItem`
    * `edgeEvidence`
    * `nodeEvidence`
    * `findProvisioningHistory`
    * `accessPaths`
    * `AuthorizationGraph.findShortestPath`
-/

------------------------------------------------------------
-- Evidence Items
------------------------------------------------------------

namespace AccessIQ

namespace Graph

open Python

structure EvidenceItem where
  type : String
  title : String
  description : String
  reference : String
  timestamp : Option Timestamp := none
  correlationId : Option String := none
  deriving DecidableEq, Repr

/- That a node exists. -/
def nodeDescription
    (node : GraphNode) :
    String :=
  s!"Graph node {node.id} exists in the authorization graph."

/- The label of a node, or its id if it is missing. -/
def labelOf
    (graph : AuthorizationGraph)
    (nodeId : String) :
    String :=
  match graph.getNode nodeId with
  | some node => node.label
  | none => nodeId

/- `edge_evidence` -/
def edgeEvidence
    (graph : AuthorizationGraph)
    (edge : GraphEdge) :
    EvidenceItem where
  type := edge.type.value
  title := edge.label
  description :=
    s!"{labelOf graph edge.source} --{edge.type.value}-> " ++
      labelOf graph edge.target
  reference := edge.reference
  timestamp := edge.timestamp
  correlationId := edge.correlationId

/- `node_evidence` -/
def nodeEvidence
    (graph : AuthorizationGraph)
    (node : GraphNode) :
    List EvidenceItem :=
  { type := node.type.value
    title := s!"{node.type.value}: {node.label}"
    description := nodeDescription node
    reference := node.reference
    timestamp := node.timestamp } ::
    (graph.edgesFor node.id).map (edgeEvidence graph)

/- `user_evidence` -/
def userEvidence
    (graph : AuthorizationGraph)
    (userId : Int) :
    List EvidenceItem :=
  match graph.getNode (rowNodeId .user userId) with
  | none => []
  | some node => nodeEvidence graph node

end Graph

end AccessIQ

------------------------------------------------------------
-- Paths
------------------------------------------------------------

namespace AccessIQ

namespace Graph

open Python

/- `shortest_path`, with turns for every node. -/
def AuthorizationGraph.findShortestPath
    (graph : AuthorizationGraph)
    (source target : String) :
    Except (KeyError String) GraphPath :=
  (graph.shortestPath (graph.nodes.keys.length + 1) source
    target).getD (.ok (noPath source target))

/- `str` of a property. -/
def PropertyValue.str
    [Platform] :
    PropertyValue → String
  | .none => "None"
  | .bool true => "True"
  | .bool false => "False"
  | .int n => toString n
  | .text s => s
  | .time t => replaceChar (isoformat true t) 'T' ' '
  | .texts l =>
      "[" ++ ", ".intercalate (l.map Platform.repr) ++ "]"

/- The paths of `user_access`; `none` if there is no user. -/
def accessPaths
    [Platform]
    (graph : AuthorizationGraph)
    (userId : Int) :
    Except (KeyError String) (Option (List GraphPath)) :=
  match graph.getNode (rowNodeId .user userId) with
  | none => .ok none
  | some _ => do
      let paths ←
        (findEntitlements graph userId).mapM
          fun entitlement => do
            let sourceId ←
              entitlement.getProperty "source_id"
            graph.findShortestPath (rowNodeId .user userId)
              (graphNodeId .entitlement sourceId.str)
      return some paths

end Graph

end AccessIQ

------------------------------------------------------------
-- Provisioning History
------------------------------------------------------------

namespace AccessIQ

namespace Graph

open Python

/- `node.properties.get(key)` -/
def GraphNode.property
    (node : GraphNode)
    (key : String) :
    PropertyValue :=
  (node.properties.lookup key).getD .none

/- A provisioning job for a user. -/
def isJobOf
    [Platform]
    (userId : Int)
    (node : GraphNode) :
    Bool :=
  node.type == .provisioningJob &&
    [PropertyValue.text "user", .text "entitlement"].contains
      (node.property "target_type") &&
    (node.property "target_id").str == toString userId

/- `find_provisioning_history` -/
def findProvisioningHistory
    [Platform]
    (graph : AuthorizationGraph)
    (userId : Int) :
    Except (KeyError String) (List GraphNode) := do
  let jobIds ←
    (graph.nodes.values.filter (isJobOf userId)).mapM
      fun node => node.getProperty "source_id"
  return graph.nodes.values.filter fun node =>
    node.type == .provisioningHistory &&
      jobIds.contains (node.property "job_id")

end Graph

end AccessIQ
