import AccessIQ.Graph.Models

/-
  Shortest paths of the authorization graph.

  The search reads every edge in both directions.  It is the
  breadth-first search over the edges at a node, each with
  the node at its other end.

  Key definitions include:
    * `AuthorizationGraph.neighborSteps`
    * `AuthorizationGraph.shortestPath`
    * `AuthorizationGraph.Connected`
    * `AuthorizationGraph.IsWalk`
    * `AuthorizationGraph.IsShortest`
    * `AuthorizationGraph.Answers`

  Key theorems include:
    * `AuthorizationGraph.isWalk_iff_walk`
    * `AuthorizationGraph.exists_answers`
    * `AuthorizationGraph.shortestPath_correct`
-/

------------------------------------------------------------
-- The Search
------------------------------------------------------------

namespace AccessIQ

namespace Graph

namespace AuthorizationGraph

open Foundations Python

/- The edges at a node, each with the node it leads to. -/
def neighborSteps
    (graph : AuthorizationGraph)
    (current : String) :
    List (GraphEdge × String) :=
  (graph.edgesFor current).map fun edge =>
    (edge,
      if edge.source = current then
        edge.target
      else
        edge.source)

/- The answer when no path is found. -/
def noPath
    (source target : String) :
    GraphPath where
  source := source
  target := target
  nodes := []
  edges := []
  found := false

/- The answer for a route that reached the target. -/
def pathAlong
    (graph : AuthorizationGraph)
    (source target : String)
    (route : Route String GraphEdge) :
    Except (KeyError String) GraphPath := do
  let nodes ← route.nodes.mapM graph.nodes.getItem
  return { source := source
           target := target
           nodes := nodes
           edges := route.edges
           found := true }

/- The answer to what the search comes back with. -/
def pathOf
    (graph : AuthorizationGraph)
    (source target : String) :
    Option (Route String GraphEdge) →
      Except (KeyError String) GraphPath
  | none => .ok (noPath source target)
  | some route => graph.pathAlong source target route

/-
  The shortest path within a number of turns of the loop;
  nothing if the turns do not suffice.
-/
def shortestPath
    (graph : AuthorizationGraph)
    (fuel : Nat)
    (source target : String) :
    Option (Except (KeyError String) GraphPath) :=
  if source ∈ graph.nodes.keys ∧
      target ∈ graph.nodes.keys then
    (breadthFirst graph.neighborSteps target fuel [source]
      [Route.start source]).map
      (graph.pathOf source target)
  else
    some (.ok (noPath source target))

end AuthorizationGraph

end Graph

end AccessIQ

------------------------------------------------------------
-- Walks
------------------------------------------------------------

namespace AccessIQ

namespace Graph

namespace AuthorizationGraph

open Foundations Python

/- Two nodes that edges, read both ways, lead between. -/
def Connected
    (graph : AuthorizationGraph)
    (source target : String) : Prop :=
  Relation.ReflTransGen
    (fun a b => ∃ edge ∈ graph.edges, edge.Joins a b)
    source target

/-
  A walk from a source to a target: its i-th edge joins its
  i-th and its (i+1)-th node.
-/
structure IsWalk
    (graph : AuthorizationGraph)
    (source target : String)
    (nodes : List String)
    (edges : List GraphEdge) :
    Prop where
  first : nodes.head? = some source
  last : nodes.getLast? = some target
  length : nodes.length = edges.length + 1
  joins :
    ∀ (i : Nat) (edge : GraphEdge),
      edges[i]? = some edge →
        edge ∈ graph.edges ∧
          ∃ a b, nodes[i]? = some a ∧
            nodes[i + 1]? = some b ∧ edge.Joins a b

theorem mem_neighborSteps_iff
    {graph : AuthorizationGraph}
    {edge : GraphEdge}
    {a b : String} :
    (edge, b) ∈ graph.neighborSteps a ↔
      edge ∈ graph.edges ∧ edge.Joins a b := by
  unfold neighborSteps GraphEdge.Joins
  rw [List.mem_map]
  constructor
  · rintro ⟨other, hMem, hEq⟩
    rw [mem_edgesFor_iff] at hMem
    rcases hMem with ⟨hEdge, hEnds⟩
    rcases Prod.mk.inj hEq with ⟨rfl, rfl⟩
    refine ⟨hEdge, ?_⟩
    by_cases hSource : other.source = a
    · rw [if_pos hSource]
      exact Or.inl ⟨hSource, rfl⟩
    · rw [if_neg hSource]
      exact Or.inr ⟨rfl, hEnds.resolve_left hSource⟩
  · rintro ⟨hEdge, ⟨hSource, hTarget⟩ | ⟨hSource, hTarget⟩⟩
    · refine ⟨edge, mem_edgesFor_iff.mpr ⟨hEdge, ?_⟩, ?_⟩
      · exact Or.inl hSource
      · rw [if_pos hSource, hTarget]
    · refine ⟨edge, mem_edgesFor_iff.mpr ⟨hEdge, ?_⟩, ?_⟩
      · exact Or.inr hTarget
      -- On a self-loop both readings name the same node.
      · by_cases hLoop : edge.source = a
        · rw [if_pos hLoop, hTarget, ← hLoop, hSource]
        · rw [if_neg hLoop, hSource]

/- The walks of the graph are those of the search. -/
theorem isWalk_iff_walk
    {graph : AuthorizationGraph}
    {source target : String}
    {nodes : List String}
    {edges : List GraphEdge} :
    graph.IsWalk source target nodes edges ↔
      Walk graph.neighborSteps source nodes edges
        target := by
  constructor
  · intro h
    apply Walk.of_getElem?_edges h.first h.last h.length
    intro i edge hEdge
    rcases h.joins i edge hEdge with
      ⟨hMem, a, b, ha, hb, hJoins⟩
    exact ⟨a, b, ha, hb,
      mem_neighborSteps_iff.mpr ⟨hMem, hJoins⟩⟩
  · intro hWalk
    refine
      { first := hWalk.head?_nodes
        last := hWalk.getLast?_nodes
        length := hWalk.length_nodes
        joins := ?_ }
    intro i edge hEdge
    rcases hWalk.getElem?_edges hEdge with
      ⟨a, b, ha, hb, hStep⟩
    rcases mem_neighborSteps_iff.mp hStep with
      ⟨hMem, hJoins⟩
    exact ⟨hMem, a, b, ha, hb, hJoins⟩

theorem connected_iff_exists_walk
    {graph : AuthorizationGraph}
    {source target : String} :
    graph.Connected source target ↔
      ∃ nodes edges,
        Walk graph.neighborSteps source nodes edges
          target := by
  have hSteps :
      (fun a b =>
        ∃ edge, (edge, b) ∈ graph.neighborSteps a) =
      fun a b => ∃ edge ∈ graph.edges, edge.Joins a b := by
    funext a b
    apply propext
    apply exists_congr
    intro edge
    exact mem_neighborSteps_iff
  unfold Connected
  rw [Walk.exists_iff, hSteps]

/- Every node of a walk from a node is a node. -/
theorem mem_keys_of_walk
    {graph : AuthorizationGraph}
    (hEdges : graph.EdgesJoinNodes)
    {source target : String}
    {nodes : List String}
    {edges : List GraphEdge}
    (hSource : source ∈ graph.nodes.keys)
    (hWalk :
      Walk graph.neighborSteps source nodes edges target) :
    ∀ id ∈ nodes, id ∈ graph.nodes.keys := by
  induction hWalk with
  | start =>
      intro id hId
      rw [List.mem_singleton.mp hId]
      exact hSource
  | @step nodes edges u v edge _ hStep ih =>
      intro id hId
      rcases List.mem_append.mp hId with hId | hId
      · exact ih id hId
      · rw [List.mem_singleton.mp hId]
        rcases mem_neighborSteps_iff.mp hStep with
          ⟨hMem, ⟨_, hTarget⟩ | ⟨hOther, _⟩⟩
        · rw [← hTarget]
          exact (hEdges edge hMem).2
        · rw [← hOther]
          exact (hEdges edge hMem).1

/- The nodes stored under ids are found in their order. -/
theorem mapM_getItem_of_mem_keys
    {graph : AuthorizationGraph}
    {ids : List String}
    (hIds : ∀ id ∈ ids, id ∈ graph.nodes.keys) :
    ∃ nodes : List GraphNode,
      ids.mapM graph.nodes.getItem = .ok nodes ∧
        nodes.map GraphNode.id = ids ∧
        ∀ node ∈ nodes,
          graph.nodes.get? node.id = some node := by
  induction ids with
  | nil => exact ⟨[], rfl, rfl, by simp⟩
  | cons id ids ih =>
      have hId := hIds id List.mem_cons_self
      rcases Dict.mem_keys_iff.mp hId with ⟨node, hNode⟩
      rcases ih fun other hOther =>
          hIds other (List.mem_cons_of_mem _ hOther) with
        ⟨nodes, hNodes, hMap, hGet⟩
      have hEq := graph.node_id id node hNode
      refine ⟨node :: nodes, ?_, ?_, ?_⟩
      · rw [List.mapM_cons, Dict.getItem_of_get? hNode, hNodes]
        rfl
      · rw [List.map_cons, hMap, hEq]
      · intro other hOther
        rcases List.mem_cons.mp hOther with rfl | hOther
        · rw [hEq]
          exact hNode
        · exact hGet other hOther

end AuthorizationGraph

end Graph

end AccessIQ

------------------------------------------------------------
-- Correctness
------------------------------------------------------------

namespace AccessIQ

namespace Graph

namespace AuthorizationGraph

open Foundations Python

/-
  A path that is found runs from the source to the target
  over nodes and edges of the graph, repeats no node, and no
  walk between the two nodes is shorter.
-/
structure IsShortest
    (graph : AuthorizationGraph)
    (source target : String)
    (path : GraphPath) :
    Prop where
  stored :
    ∀ node ∈ path.nodes,
      graph.nodes.get? node.id = some node
  walk :
    graph.IsWalk source target
      (path.nodes.map GraphNode.id) path.edges
  nodup : (path.nodes.map GraphNode.id).Nodup
  minimal :
    ∀ nodes edges,
      graph.IsWalk source target nodes edges →
        path.edges.length ≤ edges.length

/- The search from a node has turns enough. -/
theorem breadthFirst_neighborSteps_isSome
    {graph : AuthorizationGraph}
    (hEdges : graph.EdgesJoinNodes)
    {source : String}
    (target : String)
    (hSource : source ∈ graph.nodes.keys)
    {fuel : Nat}
    (hFuel : graph.nodes.keys.length < fuel) :
    (breadthFirst graph.neighborSteps target fuel [source]
      [Route.start source]).isSome = true := by
  apply breadthFirst_isSome graph.nodes.keys
  · intro u _ step hStep
    rcases mem_neighborSteps_iff.mp hStep with
      ⟨hMem, ⟨_, hTarget⟩ | ⟨hOther, _⟩⟩
    · rw [← hTarget]
      exact (hEdges step.1 hMem).2
    · rw [← hOther]
      exact (hEdges step.1 hMem).1
  · exact List.nodup_singleton source
  · intro v hv
    rw [List.mem_singleton.mp hv]
    exact hSource
  · intro route hRoute
    rw [List.mem_singleton.mp hRoute]
    exact hSource
  · simp only [List.length_singleton]
    omega

/- A route that the search found is a shortest path. -/
theorem pathAlong_isShortest
    {graph : AuthorizationGraph}
    (hEdges : graph.EdgesJoinNodes)
    {source target : String}
    (hSource : source ∈ graph.nodes.keys)
    {fuel : Nat}
    {route : Route String GraphEdge}
    (hFound :
      breadthFirst graph.neighborSteps target fuel [source]
        [Route.start source] = some (some route)) :
    ∃ path,
      graph.pathAlong source target route = .ok path ∧
        path.source = source ∧ path.target = target ∧
        path.found = true ∧
        graph.IsShortest source target path := by
  rcases breadthFirst_found
      (searching_start graph.neighborSteps source target)
      hFound with
    ⟨hWalk, hNodup, hMinimal⟩
  rcases mapM_getItem_of_mem_keys
      (mem_keys_of_walk hEdges hSource hWalk) with
    ⟨nodes, hNodes, hMap, hGet⟩
  refine
    ⟨⟨source, target, nodes, route.edges, true⟩, ?_, rfl, rfl,
      rfl, ?_⟩
  · unfold pathAlong
    rw [hNodes]
    rfl
  · refine
      { stored := hGet
        walk := ?_
        nodup := ?_
        minimal := ?_ }
    · rw [hMap]
      exact isWalk_iff_walk.mpr hWalk
    · rw [hMap]
      exact hNodup
    · intro others edges hOther
      exact hMinimal others edges (isWalk_iff_walk.mp hOther)

/- What the search answers. -/
structure Answers
    (graph : AuthorizationGraph)
    (source target : String)
    (path : GraphPath) :
    Prop where
  search :
    ∀ fuel, graph.nodes.keys.length < fuel →
      graph.shortestPath fuel source target =
        some (.ok path)
  source_eq : path.source = source
  target_eq : path.target = target
  found :
    path.found = true ↔
      source ∈ graph.nodes.keys ∧
        target ∈ graph.nodes.keys ∧
        graph.Connected source target
  shortest :
    path.found = true →
      graph.IsShortest source target path

/- Whether the nodes exist and are connected is answered. -/
theorem exists_answers
    (graph : AuthorizationGraph)
    (hEdges : graph.EdgesJoinNodes)
    (source target : String) :
    ∃ path, graph.Answers source target path := by
  by_cases hNodes :
      source ∈ graph.nodes.keys ∧ target ∈ graph.nodes.keys
  · have hEnough := breadthFirst_neighborSteps_isSome
      hEdges target hNodes.1
      (Nat.lt_succ_self graph.nodes.keys.length)
    rcases Option.isSome_iff_exists.mp hEnough with
      ⟨outcome, hOutcome⟩
    -- More turns than there are nodes change nothing.
    have hSearch :
        ∀ fuel, graph.nodes.keys.length < fuel →
          graph.shortestPath fuel source target =
            some (graph.pathOf source target outcome) := by
      intro fuel hFuel
      unfold shortestPath
      rw [if_pos hNodes, breadthFirst_mono hFuel hOutcome]
      rfl
    cases outcome with
    | none =>
        have hNone := breadthFirst_not_found
          (searching_start graph.neighborSteps source target)
          hOutcome
        refine
          ⟨noPath source target, hSearch, rfl, rfl, ?_, ?_⟩
        · constructor
          · intro hFound
            cases hFound
          · rintro ⟨_, _, hConnected⟩
            rcases connected_iff_exists_walk.mp hConnected with
              ⟨nodes, edges, hWalk⟩
            exact absurd hWalk (hNone nodes edges)
        · intro hFound
          cases hFound
    | some route =>
        rcases pathAlong_isShortest hEdges hNodes.1
            hOutcome with
          ⟨path, hPath, hSource, hTarget, hFound, hShortest⟩
        refine ⟨path, ?_, hSource, hTarget, ?_, ?_⟩
        · intro fuel hFuel
          rw [hSearch fuel hFuel, pathOf, hPath]
        · have hConnected :
              graph.Connected source target :=
            connected_iff_exists_walk.mpr
              ⟨_, _, isWalk_iff_walk.mp hShortest.walk⟩
          exact ⟨fun _ => ⟨hNodes.1, hNodes.2, hConnected⟩,
            fun _ => hFound⟩
        · intro _
          exact hShortest
  · refine ⟨noPath source target, ?_, rfl, rfl, ?_, ?_⟩
    · intro fuel _
      unfold shortestPath
      rw [if_neg hNodes]
    · constructor
      · intro hFound
        cases hFound
      · rintro ⟨hSource, hTarget, _⟩
        exact absurd ⟨hSource, hTarget⟩ hNodes
    · intro hFound
      cases hFound

/-
  The search terminates, finds a path exactly if the two
  nodes exist and are connected, and the path it finds is a
  shortest one.
-/
theorem shortestPath_correct
    (graph : AuthorizationGraph)
    (hEdges : graph.EdgesJoinNodes)
    (source target : String) :
    ∃ path : GraphPath,
      (∀ fuel, graph.nodes.keys.length < fuel →
        graph.shortestPath fuel source target =
          some (.ok path)) ∧
      path.source = source ∧ path.target = target ∧
      (path.found = true ↔
        source ∈ graph.nodes.keys ∧
          target ∈ graph.nodes.keys ∧
          graph.Connected source target) ∧
      (path.found = true →
        graph.IsShortest source target path) := by
  rcases graph.exists_answers hEdges source target with
    ⟨path, hAnswers⟩
  exact ⟨path, hAnswers.search, hAnswers.source_eq,
    hAnswers.target_eq, hAnswers.found, hAnswers.shortest⟩

/- A user with an edge to itself and to its manager. -/
def managedUser : AuthorizationGraph :=
  (((empty.addNode
      { id := "User:1"
        type := .user
        label := "Ada"
        reference := "/users/1" }).addNode
      { id := "User:2"
        type := .user
        label := "Grace"
        reference := "/users/2" }).addEdge
      { source := "User:1"
        target := "User:1"
        edgeType := .auditedBy
        label := "User audits itself"
        reference := "/users/1" }).addEdge
      { source := "User:1"
        target := "User:2"
        edgeType := .managedBy
        label := "User is managed by user"
        reference := "/users/1" }

theorem shortestPath_managedUser :
    managedUser.EdgesJoinNodes ∧
      ∃ path : GraphPath,
        (∀ fuel, 2 < fuel →
          managedUser.shortestPath fuel "User:2" "User:1" =
            some (.ok path)) ∧
        path.found = true ∧
        managedUser.IsShortest "User:2" "User:1" path := by
  have hEdges : managedUser.EdgesJoinNodes := by decide
  rcases shortestPath_correct managedUser hEdges "User:2"
      "User:1" with
    ⟨path, hPath, _, _, hFound, hShortest⟩
  have hConnected :
      managedUser.Connected "User:2" "User:1" := by
    apply Relation.ReflTransGen.single
    refine ⟨managedUser.edges[1], List.getElem_mem _, ?_⟩
    exact Or.inr ⟨rfl, rfl⟩
  have hTrue : path.found = true :=
    hFound.mpr ⟨by decide, by decide, hConnected⟩
  exact ⟨hEdges, path, hPath, hTrue, hShortest hTrue⟩

end AuthorizationGraph

end Graph

end AccessIQ
