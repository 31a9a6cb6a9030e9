import AccessIQ.Foundations.Execution
import AccessIQ.Graph.Evidence

/-
  What queries answer with.

  Whatever a query asks, it answers with nodes and edges of
  the graph.

  Key definitions include:
    * `PathWithin`

  Key theorems include:
    * `mem_nodes_of_managerChainFrom`
    * `pathWithin_of_findShortestPath`
    * `pathWithin_of_accessPaths`
-/

------------------------------------------------------------
-- Nodes
------------------------------------------------------------

namespace AccessIQ

namespace Graph

open AuthorizationGraph Foundations Python

variable {graph : AuthorizationGraph}

/- A node that is found is a node of the graph. -/
theorem mem_nodes_of_getNode
    {nodeId : String}
    {node : GraphNode}
    (hNode : graph.getNode nodeId = some node) :
    node ∈ graph.nodes.values :=
  Dict.mem_values_of_get? hNode

theorem mem_nodes_of_getItem
    {nodeId : String}
    {node : GraphNode}
    (hNode : graph.nodes.getItem nodeId = .ok node) :
    node ∈ graph.nodes.values := by
  unfold Dict.getItem at hNode
  split at hNode
  · rename_i hGet
    cases hNode
    exact Dict.mem_values_of_get? hGet
  · cases hNode

/- The managers in a chain are nodes, round by round. -/
theorem mem_nodes_of_managerChainFrom
    {fuel : Nat}
    {current : String}
    {seen : List String}
    {nodes : List GraphNode}
    (hChain :
      managerChainFrom graph fuel current seen =
        some nodes) :
    ∀ node ∈ nodes, node ∈ graph.nodes.values := by
  induction fuel generalizing current seen nodes with
  | zero => cases hChain
  | succ fuel ih =>
      unfold managerChainFrom at hChain
      split at hChain
      · cases hChain
        intro node hNone
        cases hNone
      · split at hChain
        · cases hChain
          intro node hNone
          cases hNone
        · split at hChain
          · cases hChain
            intro node hNone
            cases hNone
          · rename_i manager hManager
            rcases Option.map_eq_some_iff.mp hChain with
              ⟨others, hOthers, rfl⟩
            intro node hNode
            rcases List.mem_cons.mp hNode with rfl | hNode
            · exact mem_nodes_of_getNode hManager
            · exact ih hOthers node hNode

theorem mem_nodes_of_findManagerChain
    {userId : Int}
    {node : GraphNode}
    (hNode :
      node ∈ (findManagerChain graph userId).getD []) :
    node ∈ graph.nodes.values := by
  cases hChain : findManagerChain graph userId with
  | none =>
      rw [hChain] at hNode
      cases hNode
  | some nodes =>
      rw [hChain] at hNode
      exact mem_nodes_of_managerChainFrom hChain node hNode

theorem mem_nodes_of_findReviewHistory
    {userId : Int}
    {node : GraphNode}
    (hNode : node ∈ findReviewHistory graph userId) :
    node ∈ graph.nodes.values := by
  unfold findReviewHistory reviewItemAt at hNode
  rcases List.mem_filterMap.mp hNode with
    ⟨edge, -, hFound⟩
  exact
    mem_nodes_of_getNode (Option.filter_eq_some_iff.mp hFound).1

theorem mem_nodes_of_findRemediationHistory
    {userId : Int}
    {nodes : List GraphNode}
    (hOk : findRemediationHistory graph userId = .ok nodes) :
    ∀ node ∈ nodes, node ∈ graph.nodes.values := by
  unfold findRemediationHistory at hOk
  rcases bind_eq_ok hOk with ⟨ids, -, hNodes⟩
  cases hNodes
  intro node hNode
  exact (List.mem_filter.mp hNode).1

theorem mem_nodes_of_findProvisioningHistory
    [Platform]
    {userId : Int}
    {nodes : List GraphNode}
    (hOk : findProvisioningHistory graph userId = .ok nodes) :
    ∀ node ∈ nodes, node ∈ graph.nodes.values := by
  unfold findProvisioningHistory at hOk
  rcases bind_eq_ok hOk with ⟨ids, -, hNodes⟩
  cases hNodes
  intro node hNode
  exact (List.mem_filter.mp hNode).1

end Graph

end AccessIQ

------------------------------------------------------------
-- Paths
------------------------------------------------------------

namespace AccessIQ

namespace Graph

open AuthorizationGraph Foundations Python

/- A path over nodes and edges of the graph. -/
structure PathWithin
    (graph : AuthorizationGraph)
    (path : GraphPath) : Prop where
  nodes : ∀ node ∈ path.nodes, node ∈ graph.nodes.values
  edges : ∀ edge ∈ path.edges, edge ∈ graph.edges

variable {graph : AuthorizationGraph}

theorem pathWithin_noPath
    (source target : String) :
    PathWithin graph (noPath source target) where
  nodes := by
    intro node hNone
    cases hNone
  edges := by
    intro edge hNone
    cases hNone

theorem pathWithin_of_pathAlong
    {source target : String}
    {route : Route String GraphEdge}
    {path : GraphPath}
    (hEdges : ∀ edge ∈ route.edges, edge ∈ graph.edges)
    (hPath : graph.pathAlong source target route = .ok path) :
    PathWithin graph path := by
  unfold pathAlong at hPath
  rcases bind_eq_ok hPath with ⟨nodes, hNodes, hBuilt⟩
  cases hBuilt
  refine ⟨?_, hEdges⟩
  intro node hNode
  rcases exists_of_mem_mapM hNodes node hNode with
    ⟨nodeId, -, hItem⟩
  exact mem_nodes_of_getItem hItem

/- The edges that the search passes are of the graph. -/
theorem mem_edges_of_walk
    {source target : String}
    {nodes : List String}
    {edges : List GraphEdge}
    (hWalk :
      Walk graph.neighborSteps source nodes edges target) :
    ∀ edge ∈ edges, edge ∈ graph.edges := by
  intro edge hEdge
  rcases List.getElem?_of_mem hEdge with ⟨i, hAt⟩
  exact ((isWalk_iff_walk.mpr hWalk).joins i edge hAt).1

theorem pathWithin_of_findShortestPath
    {source target : String}
    {path : GraphPath}
    (hPath : graph.findShortestPath source target = .ok path) :
    PathWithin graph path := by
  unfold findShortestPath shortestPath at hPath
  split at hPath
  · cases hSearch :
        breadthFirst graph.neighborSteps target
          (graph.nodes.keys.length + 1) [source]
          [Route.start source] with
    | none =>
        rw [hSearch] at hPath
        cases hPath
        exact pathWithin_noPath source target
    | some outcome =>
        rw [hSearch] at hPath
        cases outcome with
        | none =>
            cases hPath
            exact pathWithin_noPath source target
        | some route =>
            have hFound :=
              breadthFirst_found
                (searching_start graph.neighborSteps source
                  target)
                hSearch
            exact
              pathWithin_of_pathAlong
                (mem_edges_of_walk hFound.1) hPath
  · cases hPath
    exact pathWithin_noPath source target

theorem pathWithin_of_accessPaths
    [Platform]
    {userId : Int}
    {paths : Option (List GraphPath)}
    (hPaths : accessPaths graph userId = .ok paths) :
    ∀ path ∈ paths.getD [], PathWithin graph path := by
  unfold accessPaths at hPaths
  split at hPaths
  · cases hPaths
    intro path hNone
    cases hNone
  · rcases bind_eq_ok hPaths with ⟨found, hFound, hSome⟩
    cases hSome
    intro path hPath
    rcases exists_of_mem_mapM hFound path hPath with
      ⟨entitlement, -, hOk⟩
    rcases bind_eq_ok hOk with ⟨sourceId, -, hSearch⟩
    exact pathWithin_of_findShortestPath hSearch

end Graph

end AccessIQ
