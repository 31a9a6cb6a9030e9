import AccessIQ.Ai.Evidence
import AccessIQ.Ai.Intents
import AccessIQ.Graph.Evidence

/-
  The evidence that a question calls for.

  Evidence of nodes, of edges and of lookups is made in three
  ways, each with an id from other parts of it.  The digest
  that an id shows is a parameter.

  Key definitions include:
    * `stableId`
    * `fromNode`
    * `fromGraphEvidence`
    * `syntheticEvidence`
    * `collectEvidence`
-/

------------------------------------------------------------
-- Making Evidence
------------------------------------------------------------

namespace AccessIQ

namespace Ai

open AccessIQ.Graph Python

/- The text whose digest an id shows. -/
def idText
    (parts : List String) :
    String :=
  "|".intercalate parts

/- `_stable_id`, where the digest is cut already. -/
def stableId
    (digest : String → String)
    (parts : List String) :
    String :=
  "ai-evidence:" ++ digest (idText parts)

/- `_EDGE_TYPE_VALUES` -/
def edgeTypeValues : List String :=
  [EdgeType.memberOf, .hasEntitlement, .grantsAccessTo,
    .provisionedBy, .reviewedIn, .remediatedBy, .managedBy,
    .delegatedTo, .connectedTo, .auditedBy].map
    EdgeType.value

variable (digest : String → String)

/- `_from_node` -/
def fromNode
    (node : GraphNode)
    (distance priority : Int) :
    AIEvidence where
  id :=
    stableId digest
      [node.type.value, node.reference, node.label,
        toString distance]
  evidenceType := node.type.value
  title := s!"{node.type.value}: {node.label}"
  description := nodeDescription node
  reference := node.reference
  timestamp := node.timestamp
  nodeId := some node.id
  distance := some distance
  priority := priority

/- `_from_graph_evidence`, at a node, at an edge or alone. -/
def fromGraphEvidence
    (item : EvidenceItem)
    (distance : Int)
    (nodeId edgeId : Option String := none)
    (priority : Int := 0) :
    AIEvidence where
  id :=
    stableId digest
      [item.type, item.reference, item.title,
        item.correlationId.getD ""]
  evidenceType := item.type
  title := item.title
  description := item.description
  reference := item.reference
  timestamp := item.timestamp
  correlationId := item.correlationId
  relationshipType :=
    if item.type ∈ edgeTypeValues then
      some item.type
    else
      none
  nodeId := nodeId
  edgeId := edgeId
  distance := some distance
  priority := priority

/- `_synthetic_evidence` -/
def syntheticEvidence
    (evidenceType title description reference : String)
    (priority : Int) :
    AIEvidence where
  id :=
    stableId digest
      [evidenceType, reference, title, description]
  evidenceType := evidenceType
  title := title
  description := description
  reference := reference
  priority := priority
  distance := some 0

end Ai

end AccessIQ

------------------------------------------------------------
-- Evidence Of The Graph
------------------------------------------------------------

namespace AccessIQ

namespace Ai

open AccessIQ.Graph Python

variable (digest : String → String)

/- `_user_evidence` -/
def userEvidenceOf
    (graph : AuthorizationGraph)
    (userId : Int) :
    List AIEvidence :=
  (userEvidence graph userId).map fun item =>
    fromGraphEvidence digest item 0

/- `_node_detail_evidence` -/
def nodeDetailEvidence
    (graph : AuthorizationGraph)
    (nodeId : String)
    (distance : Int) :
    List AIEvidence :=
  match graph.getNode nodeId with
  | none => []
  | some node =>
      (nodeEvidence graph node).map fun item =>
        fromGraphEvidence digest item distance (some node.id)

/- `_history_evidence` -/
def historyEvidence
    (nodes : List GraphNode) :
    List AIEvidence :=
  nodes.map fun node => fromNode digest node 1 70

/- `_manager_chain_evidence`; the fuel always suffices. -/
def managerChainEvidence
    (graph : AuthorizationGraph)
    (userId : Int) :
    List AIEvidence :=
  match (findManagerChain graph userId).getD [] with
  | [] =>
      [syntheticEvidence digest "QUERY_RESULT"
        "No manager chain found"
        (s!"User {userId} has no manager chain in the " ++
          "authorization graph.")
        s!"/graph/users/{userId}" 65]
  | nodes =>
      nodes.zipIdx.map fun (node, index) =>
        fromNode digest node (index + 1) 75

/- `_graph_path_evidence` -/
def graphPathEvidence
    (graph : AuthorizationGraph)
    (path : GraphPath)
    (distance : Int) :
    List AIEvidence :=
  (path.nodes.zipIdx.map fun (node, index) =>
      fromNode digest node (distance + index) 60) ++
    path.edges.zipIdx.map fun (edge, index) =>
      fromGraphEvidence digest (edgeEvidence graph edge)
        (distance + index) none (some edge.id) 80

/- `_resolve_path` -/
def resolvePath
    (request : AIContextRequest)
    (classification : IntentClassification)
    (graph : AuthorizationGraph) :
    Except (KeyError String) (Option GraphPath) :=
  match
    request.sourceType, request.sourceId,
      request.targetType, request.targetId
  with
  | some sourceType, some sourceId,
      some targetType, some targetId =>
      (graph.findShortestPath
          (graphNodeId sourceType sourceId)
          (graphNodeId targetType targetId)).map some
  | _, _, _, _ =>
      match classification.userId with
      | none => .ok none
      | some userId =>
          match
            classification.entitlementId,
              classification.applicationId
          with
          | some entitlementId, _ =>
              (graph.findShortestPath (rowNodeId .user userId)
                  (rowNodeId .entitlement
                    entitlementId)).map some
          | none, some applicationId =>
              (graph.findShortestPath (rowNodeId .user userId)
                  (rowNodeId .application
                    applicationId)).map some
          | none, none => .ok none

/- `_path_evidence` -/
def pathEvidenceOf
    (request : AIContextRequest)
    (classification : IntentClassification)
    (graph : AuthorizationGraph) :
    Except (KeyError String) (List AIEvidence) :=
  (resolvePath request classification graph).map fun path =>
    match path with
    | none => []
    | some path => graphPathEvidence digest graph path 0

/- What a lookup of a path came back with. -/
def pathResult
    (path : GraphPath) :
    AIEvidence :=
  let result := if path.found then "found" else "not found"
  syntheticEvidence digest "PATH_RESULT"
    s!"Graph path {result}"
    (s!"Path lookup from {path.source} to {path.target} " ++
      s!"returned {result} using deterministic graph " ++
      "traversal.")
    "/graph/path" 90

/- `_access_gap_evidence` -/
def accessGapEvidence
    (request : AIContextRequest)
    (classification : IntentClassification)
    (graph : AuthorizationGraph) :
    Except (KeyError String) (List AIEvidence) :=
  (resolvePath request classification graph).map fun path =>
    match path with
    | none => []
    | some path =>
        pathResult digest path ::
          graphPathEvidence digest graph path 0

end Ai

end AccessIQ

------------------------------------------------------------
-- Collection
------------------------------------------------------------

namespace AccessIQ

namespace Ai

open AccessIQ.Graph Python

variable [Platform]
variable (digest : String → String)

/- The evidence that the intent of a question calls for. -/
def intentEvidence
    (request : AIContextRequest)
    (classification : IntentClassification)
    (graph : AuthorizationGraph) :
    Except (KeyError String) (List AIEvidence) :=
  match classification.intent, classification.userId with
  | .accessPath, _ =>
      pathEvidenceOf digest request classification graph
  | .accessGap, _ =>
      accessGapEvidence digest request classification graph
  | .managerChain, some userId =>
      .ok (managerChainEvidence digest graph userId)
  | .provisioning, some userId =>
      (findProvisioningHistory graph userId).map
        (historyEvidence digest)
  | .remediation, some userId =>
      (findRemediationHistory graph userId).map
        (historyEvidence digest)
  | .review, some userId =>
      .ok
        (historyEvidence digest
          (findReviewHistory graph userId))
  | .explainAccess, some userId =>
      (accessPaths graph userId).map fun paths =>
        (paths.getD []).flatMap fun path =>
          graphPathEvidence digest graph path 1
  | _, _ => .ok []

/- The evidence of the records that are named by an id. -/
def namedEvidence
    (classification : IntentClassification)
    (graph : AuthorizationGraph) :
    List AIEvidence :=
  (match classification.userId with
    | none => []
    | some userId => userEvidenceOf digest graph userId) ++
  (match classification.applicationId with
    | none => []
    | some applicationId =>
        nodeDetailEvidence digest graph
          (rowNodeId .application applicationId) 1) ++
  (match classification.entitlementId with
    | none => []
    | some entitlementId =>
        nodeDetailEvidence digest graph
          (rowNodeId .entitlement entitlementId) 1)

/- `collect_evidence` -/
def collectEvidence
    (request : AIContextRequest)
    (classification : IntentClassification)
    (graph : AuthorizationGraph) :
    Except (KeyError String) (List AIEvidence) :=
  (intentEvidence digest request classification graph).map
    fun evidence =>
      deduplicateEvidence
        (namedEvidence digest classification graph ++
          evidence)

end Ai

end AccessIQ
