import AccessIQ.Application
import AccessIQ.Foundations.Caching
import AccessIQ.Graph.Evidence
import AccessIQ.Graph.Export

/-
  The authorization graph as the endpoints serve it.

  The graph is built when it is first asked for and is kept
  for all requests.  No request that changes the database
  touches it: what the endpoints tell about the database is
  as old as the last refresh or invalidation, or younger.

  Key definitions include:
    * `GraphQuery.answer`
    * `GraphRequest`
    * `serveGraph`
    * `answerGraph`

  Key theorems include:
    * `graph_answers_since`
-/

------------------------------------------------------------
-- Queries
------------------------------------------------------------

namespace AccessIQ

namespace Graph

open Foundations Python

structure GraphNodeDetail where
  node : GraphNode
  edges : List GraphEdge
  evidence : List EvidenceItem

structure GraphUserAccess where
  user : GraphNode
  entitlements : List GraphNode
  paths : List GraphPath
  evidence : List EvidenceItem

/- `node_detail` -/
def nodeDetail
    (graph : AuthorizationGraph)
    (node : GraphNode) :
    GraphNodeDetail where
  node := node
  edges := graph.edgesFor node.id
  evidence := nodeEvidence graph node

/- `access_evidence` -/
def accessEvidence
    (graph : AuthorizationGraph)
    (userId : Int) :
    List EvidenceItem :=
  (graph.outgoing (rowNodeId .user userId)
    (some .hasEntitlement)).map (edgeEvidence graph)

/- A GET endpoint of the graph routes. -/
inductive GraphQuery where
  | user (userId : Int)
  | userAccess (userId : Int)
  | userEvidence (userId : Int)
  | group (groupId : Int)
  | application (applicationId : Int)
  | path
      (sourceType : NodeType)
      (sourceId : String)
      (targetType : NodeType)
      (targetId : String)
  | exportJson
  | exportMermaid
  | exportDot

inductive GraphAnswer where
  | detail (detail : GraphNodeDetail)
  | access (access : GraphUserAccess)
  | evidence (evidence : List EvidenceItem)
  | path (path : GraphPath)
  | exported (nodes : List GraphNode) (edges : List GraphEdge)
  | text (text : String)

/- What an endpoint raises. -/
inductive GraphFailure where
  | raised (exc : PyException)
  | keyError (error : KeyError String)

/- `_not_found` -/
def graphNotFound
    (detail : String) :
    GraphFailure :=
  .raised (.http ⟨404, detail⟩)

/- The endpoints about one node. -/
def answerDetail
    (graph : AuthorizationGraph)
    (nodeId detail : String) :
    Except GraphFailure GraphAnswer :=
  match graph.getNode nodeId with
  | none => .error (graphNotFound detail)
  | some node => .ok (.detail (nodeDetail graph node))

/- `find_user_access`, by way of `user_access`. -/
def answerUserAccess
    [Platform]
    (graph : AuthorizationGraph)
    (userId : Int) :
    Except GraphFailure GraphAnswer :=
  match graph.getNode (rowNodeId .user userId),
      accessPaths graph userId with
  | none, _ =>
      .error (graphNotFound "Graph user node not found")
  | some _, .error error => .error (.keyError error)
  | some user, .ok paths =>
      .ok
        (.access
          { user := user
            entitlements := findEntitlements graph userId
            paths := paths.getD []
            evidence := accessEvidence graph userId })

/- `find_user_evidence` -/
def answerUserEvidence
    (graph : AuthorizationGraph)
    (userId : Int) :
    Except GraphFailure GraphAnswer :=
  if userEvidence graph userId = [] ∧
      graph.getNode (rowNodeId .user userId) = none then
    .error (graphNotFound "Graph user node not found")
  else
    .ok (.evidence (userEvidence graph userId))

/- The body of an endpoint, given the graph it works on. -/
def GraphQuery.answer
    [Platform]
    (graph : AuthorizationGraph) :
    GraphQuery → Except GraphFailure GraphAnswer
  | .user userId =>
      answerDetail graph (rowNodeId .user userId)
        "Graph user node not found"
  | .userAccess userId => answerUserAccess graph userId
  | .userEvidence userId => answerUserEvidence graph userId
  | .group groupId =>
      answerDetail graph (rowNodeId .group groupId)
        "Graph group node not found"
  | .application applicationId =>
      answerDetail graph (rowNodeId .application applicationId)
        "Graph application node not found"
  | .path sourceType sourceId targetType targetId =>
      match
        graph.findShortestPath
          (graphNodeId sourceType sourceId)
          (graphNodeId targetType targetId)
      with
      | .error error => .error (.keyError error)
      | .ok found => .ok (.path found)
  | .exportJson =>
      .ok (.exported (sortedNodes graph) graph.edges)
  | .exportMermaid => .ok (.text (Graph.exportMermaid graph))
  | .exportDot => .ok (.text (exportGraphvizDot graph))

end Graph

end AccessIQ

------------------------------------------------------------
-- Requests
------------------------------------------------------------

namespace AccessIQ

namespace Graph

open Foundations Python

/- `AuthorizationGraphCache` -/
abbrev AuthorizationGraphCache :=
  Cache AuthorizationGraph Timestamp

structure GraphCacheStatus where
  loaded : Bool
  valid : Bool
  nodeCount : Nat
  edgeCount : Nat
  version : Nat
  loadedAt : Option Timestamp
  deriving DecidableEq, Repr

/- `status` of the cache. -/
def AuthorizationGraphCache.status
    (cache : AuthorizationGraphCache) :
    GraphCacheStatus where
  loaded := cache.value.isSome
  valid := cache.valid
  nodeCount := cache.value.elim 0 (·.nodes.keys.length)
  edgeCount := cache.value.elim 0 (·.edges.length)
  version := cache.version
  loadedAt := cache.loadedAt

def graphRoles : List String :=
  ["security_admin", "iam_admin", "auditor"]

/-
  A request that changes the database, or one of the graph
  routes.
-/
inductive GraphRequest where
  | change (request : ApplicationRequest) (env : Environment)
  | query (ctx : RequestContext) (query : GraphQuery)
  | status (ctx : RequestContext)
  | refresh (ctx : RequestContext)
  | invalidate (ctx : RequestContext)

variable [Platform]

/- Whom a graph route serves, or how it refuses the caller. -/
def graphCaller
    (s : Store)
    (ctx : RequestContext) :
    Except PyException User :=
  ((authenticated ctx graphRoles).serve steadyEnvironment
    s).result

/- The roles are checked before the cache is touched. -/
def usedBy
    (s : Store)
    (ctx : RequestContext)
    (use : CacheUse Store Timestamp) :
    CacheUse Store Timestamp :=
  match graphCaller s ctx with
  | .error _ => .pass
  | .ok _ => use

/- What a request does to the database or to the cache. -/
def GraphRequest.use
    (s : Store) :
    GraphRequest → CacheUse Store Timestamp
  | .change request env =>
      .write (serveApplication s (request, env))
  | .query ctx _ => usedBy s ctx (.load ctx.now)
  | .status ctx => usedBy s ctx .pass
  | .refresh ctx => usedBy s ctx (.refresh ctx.now)
  | .invalidate ctx => usedBy s ctx .invalidate

/- The database and the cache of a process. -/
abbrev GraphProcess :=
  Cached Store AuthorizationGraph Timestamp

/- The database and the cache after one request. -/
def serveGraph
    (registry : List RegisteredConnector) :
    GraphProcess → GraphRequest → GraphProcess :=
  Cached.serve (buildAuthorizationGraph · registry)
    GraphRequest.use

/- What an endpoint answers the caller on a graph. -/
def answerOn
    (graph : AuthorizationGraph)
    (caller : Except PyException User)
    (query : GraphQuery) :
    Except GraphFailure GraphAnswer :=
  match caller with
  | .error exc => .error (.raised exc)
  | .ok _ => query.answer graph

/- What an endpoint answers on the graph the cache loads. -/
def answerGraph
    (registry : List RegisteredConnector)
    (x : GraphProcess)
    (ctx : RequestContext)
    (query : GraphQuery) :
    Except GraphFailure GraphAnswer :=
  answerOn
    (x.cache.load (buildAuthorizationGraph x.state registry)
      ctx.now).1
    (graphCaller x.state ctx) query

end Graph

end AccessIQ

------------------------------------------------------------
-- Runs
------------------------------------------------------------

namespace AccessIQ

namespace Graph

open Foundations Python

variable [Platform]

/- A process that was just started. -/
def startedOn
    (s : Store) :
    GraphProcess where
  state := s

/-
  In every run, each graph endpoint answers from the graph of
  the database as it was at some moment of the run, after
  which no caller who was admitted refreshed or invalidated
  the cache.  It answers from the graph of the database as it
  is if the database did not change since one did.  And as
  long as the version stays, so does the graph.
-/
theorem graph_answers_since
    (registry : List RegisteredConnector)
    (s : Store)
    (requests : List GraphRequest) :
    let reached := fun run =>
      serveAll (serveGraph registry) (startedOn s) run
    (∀ ctx query, ∃ before after,
      requests = before ++ after ∧
        Cached.Undisturbed
          (buildAuthorizationGraph · registry)
          GraphRequest.use (reached before) after ∧
        answerGraph registry (reached requests) ctx query =
          answerOn
            (buildAuthorizationGraph (reached before).state
              registry)
            (graphCaller (reached requests).state ctx)
            query) ∧
      (∀ before r after, requests = before ++ r :: after →
        (GraphRequest.use (reached before).state r).Discards →
        (∀ early late, after = early ++ late →
          (reached (before ++ r :: early)).state =
            (reached requests).state) →
        ∀ ctx query,
          answerGraph registry (reached requests) ctx query =
            answerOn
              (buildAuthorizationGraph (reached requests).state
                registry)
              (graphCaller (reached requests).state ctx)
              query) ∧
      ∀ before after, requests = before ++ after →
        Cached.SameByVersion (reached before).cache
          (reached requests).cache := by
  intro reached
  refine ⟨?_, ?_, ?_⟩
  · intro ctx query
    rcases Cached.load_since
        (f := (buildAuthorizationGraph · registry))
        (x := startedOn s) rfl requests ctx.now with
      ⟨before, after, hSplit, hServed, hRun⟩
    refine ⟨before, after, hSplit, hRun, ?_⟩
    unfold answerGraph
    exact congrArg
      (answerOn · (graphCaller (reached requests).state ctx)
        query)
      hServed
  · rintro before r after rfl hDiscards hQuiet ctx query
    unfold answerGraph
    exact congrArg
      (answerOn ·
        (graphCaller (reached (before ++ r :: after)).state ctx)
        query)
      (Cached.load_current
        (f := (buildAuthorizationGraph · registry))
        (x := startedOn s) rfl before after r hDiscards
        hQuiet ctx.now)
  · rintro before after rfl
    have hLater :
        Cached.SameByVersion (reached before).cache
          (serveAll (serveGraph registry) (reached before)
            after).cache :=
      Cached.version_identifies (reached before) after
    rw [← serveAll_append] at hLater
    exact hLater

end Graph

end AccessIQ

namespace AccessIQ

namespace Graph

open Foundations Python

section Example

attribute [local instance] asciiPlatform

/- Ian looks at Bob's access, then Alice grants him some. -/
def staleRun : List GraphRequest :=
  [.query { Governance.aliceContext with subject := 4 }
      (.userAccess 1),
    .change
      (.access
        ⟨.grant, Governance.aliceContext,
          { targetUserId := 1, entitlementId := 1 }, alice⟩)
      steadyEnvironment]

/- How many entitlements Bob has, as a process tells. -/
def servedEntitlements
    (run : List GraphRequest) :
    Nat :=
  let x :=
    serveAll (serveGraph [])
      (startedOn (seededStore .sqlite)) run
  (findEntitlements
    (x.cache.load (buildAuthorizationGraph x.state [])
      0).1 1).length

/- The grant shows after an invalidation only. -/
example :
    servedEntitlements staleRun = 0 ∧
      servedEntitlements
          (staleRun ++
            [.invalidate Governance.aliceContext]) =
        1 := by
  decide +kernel

end Example

end Graph

end AccessIQ
