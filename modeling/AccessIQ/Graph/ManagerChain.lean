import AccessIQ.Foundations.PointerChain
import AccessIQ.Graph.Builder

/-
  The chain of managers above a user.

  The query follows the edges to managers until a user has no
  manager or one comes again, so it ends also where managers
  run in a circle, and no user comes twice.

  Key definitions include:
    * `findManagerChain`
    * `AuthorizationGraph.ManagedBy`
    * `IsManagerChain`

  Key theorems include:
    * `find_manager_chain_complete`
-/

------------------------------------------------------------
-- The Query
------------------------------------------------------------

namespace AccessIQ

namespace Graph

open Foundations Python

/-
  The loop of `find_manager_chain`, from the node it has come
  to on; `none` if it takes more than `fuel` rounds.
-/
def managerChainFrom
    (graph : AuthorizationGraph) :
    Nat → String → List String → Option (List GraphNode)
  | 0, _, _ => none
  | fuel + 1, current, seen =>
      match graph.outgoing current (some .managedBy) with
      | [] => some []
      | edge :: _ =>
          if edge.target ∈ seen then
            some []
          else
            match graph.getNode edge.target with
            | none => some []
            | some node =>
                (managerChainFrom graph fuel edge.target
                    (edge.target :: seen)).map (node :: ·)

/- `find_manager_chain`, with fuel for every node. -/
def findManagerChain
    (graph : AuthorizationGraph)
    (userId : Int) :
    Option (List GraphNode) :=
  managerChainFrom graph (graph.nodes.keys.length + 1)
    (rowNodeId .user userId) [rowNodeId .user userId]

namespace AuthorizationGraph

/- An edge leads from one id to the node of its manager. -/
def ManagedBy
    (graph : AuthorizationGraph)
    (id managerId : String) : Prop :=
  (∃ edge ∈ graph.edges,
      edge.type = .managedBy ∧
        edge.source = id ∧ edge.target = managerId) ∧
    managerId ∈ graph.nodes.keys

/- No user has two edges to a manager. -/
def OneManager
    (graph : AuthorizationGraph) : Prop :=
  ∀ id, (graph.outgoing id (some .managedBy)).length ≤ 1

/- The managers are users. -/
def ManagersAreUsers
    (graph : AuthorizationGraph) : Prop :=
  ∀ edge ∈ graph.edges, edge.type = .managedBy →
    ∀ node, graph.getNode edge.target = some node →
      node.type = .user

end AuthorizationGraph

/-
  The chain has nodes of the graph, none of them the user or
  there twice, each the manager of the one before it.  It
  stops where there is no manager or the manager is the user
  or in the chain, so that without circles it has everyone
  above the user.
-/
structure IsManagerChain
    (graph : AuthorizationGraph)
    (userId : Int)
    (chain : List GraphNode) : Prop where
  stored :
    ∀ node ∈ chain, graph.getNode node.id = some node
  users :
    graph.ManagersAreUsers →
      ∀ node ∈ chain, node.type = .user
  nodup : (chain.map GraphNode.id).Nodup
  fresh : rowNodeId .user userId ∉ chain.map GraphNode.id
  joined :
    List.IsChain graph.ManagedBy
      (rowNodeId .user userId :: chain.map GraphNode.id)
  stopped :
    ∀ last ∈
        (rowNodeId .user userId ::
          chain.map GraphNode.id).getLast?,
      ∀ managerId, graph.ManagedBy last managerId →
        managerId = rowNodeId .user userId ∨
          managerId ∈ chain.map GraphNode.id
  ancestors :
    (∀ id, ¬ Relation.TransGen graph.ManagedBy id id) →
      (∀ id,
        id ∈ chain.map GraphNode.id ↔
          Relation.TransGen graph.ManagedBy
            (rowNodeId .user userId) id) ∧
      ∀ last ∈
          (rowNodeId .user userId ::
            chain.map GraphNode.id).getLast?,
        ∀ managerId, ¬ graph.ManagedBy last managerId

end Graph

end AccessIQ

------------------------------------------------------------
-- Managers
------------------------------------------------------------

namespace AccessIQ

namespace Graph

open Foundations Python

namespace AuthorizationGraph

/- The manager that the first edge at an id leads to. -/
def managerOf
    (graph : AuthorizationGraph)
    (id : String) :
    Option String :=
  match graph.outgoing id (some .managedBy) with
  | [] => none
  | edge :: _ => (graph.getNode edge.target).map GraphNode.id

theorem mem_outgoing_managedBy
    {graph : AuthorizationGraph}
    {id : String}
    {edge : GraphEdge} :
    edge ∈ graph.outgoing id (some .managedBy) ↔
      edge ∈ graph.edges ∧
        edge.type = .managedBy ∧ edge.source = id := by
  unfold outgoing ofType
  rw [mem_sortedById, graph.outgoing_eq]
  simp [and_assoc, and_comm]

theorem managedBy_of_managerOf
    {graph : AuthorizationGraph}
    {id managerId : String}
    (hManager : graph.managerOf id = some managerId) :
    graph.ManagedBy id managerId := by
  unfold managerOf at hManager
  cases hEdges : graph.outgoing id (some .managedBy) with
  | nil =>
      rw [hEdges] at hManager
      cases hManager
  | cons edge rest =>
      rw [hEdges] at hManager
      rcases Option.map_eq_some_iff.mp hManager with
        ⟨node, hNode, rfl⟩
      have hId : node.id = edge.target :=
        graph.node_id _ _ hNode
      have hEdge :
          edge ∈ graph.outgoing id (some .managedBy) := by
        rw [hEdges]
        exact List.mem_cons_self
      rcases mem_outgoing_managedBy.mp hEdge with
        ⟨hMem, hType, hSource⟩
      constructor
      · exact ⟨edge, hMem, hType, hSource, hId.symm⟩
      · rw [hId]
        exact Dict.mem_keys_iff.mpr ⟨node, hNode⟩

/- If no one has two managers, the first edge is the edge. -/
theorem managerOf_eq_some_iff
    {graph : AuthorizationGraph}
    (hOne : graph.OneManager)
    {id managerId : String} :
    graph.managerOf id = some managerId ↔
      graph.ManagedBy id managerId := by
  constructor
  · exact managedBy_of_managerOf
  · rintro ⟨⟨edge, hMem, hType, hSource, rfl⟩, hKey⟩
    have hEdge :=
      mem_outgoing_managedBy.mpr ⟨hMem, hType, hSource⟩
    have hLength := hOne id
    unfold managerOf
    cases hEdges : graph.outgoing id (some .managedBy) with
    | nil =>
        rw [hEdges] at hEdge
        cases hEdge
    | cons first rest =>
        rw [hEdges] at hEdge hLength
        have hRest : rest = [] := by
          rw [List.length_cons] at hLength
          exact List.length_eq_zero_iff.mp (by omega)
        subst hRest
        have hFirst : edge = first :=
          List.mem_singleton.mp hEdge
        subst hFirst
        rcases Dict.mem_keys_iff.mp hKey with ⟨node, hNode⟩
        have hId := graph.node_id _ _ hNode
        change (graph.nodes.get? edge.target).map _ = _
        rw [hNode]
        exact congrArg some hId

end AuthorizationGraph

/- The loop follows the managers, and lists their nodes. -/
theorem managerChainFrom_eq
    {graph : AuthorizationGraph}
    {fuel : Nat}
    {current : String}
    {seen ids : List String}
    (hFollow :
      follow graph.managerOf fuel current seen = some ids) :
    ∃ chain,
      managerChainFrom graph fuel current seen =
          some chain ∧
        chain.map GraphNode.id = ids ∧
          ∀ node ∈ chain,
            graph.getNode node.id = some node := by
  induction fuel generalizing current seen ids with
  | zero => cases hFollow
  | succ fuel ih =>
      unfold follow AuthorizationGraph.managerOf at hFollow
      unfold managerChainFrom
      cases hEdges :
          graph.outgoing current (some .managedBy) with
      | nil =>
          rw [hEdges] at hFollow
          cases hFollow
          exact ⟨[], rfl, rfl, by simp⟩
      | cons edge rest =>
          rw [hEdges] at hFollow
          simp only at hFollow ⊢
          cases hNode : graph.getNode edge.target with
          | none =>
              rw [hNode] at hFollow
              cases hFollow
              by_cases hSeen : edge.target ∈ seen
              · exact ⟨[], if_pos hSeen, rfl, by simp⟩
              · exact ⟨[], if_neg hSeen, rfl, by simp⟩
          | some node =>
              have hId : node.id = edge.target :=
                graph.node_id _ _ hNode
              rw [hNode] at hFollow
              simp only [Option.map_some, hId] at hFollow
              by_cases hSeen : edge.target ∈ seen
              · rw [if_pos hSeen] at hFollow ⊢
                cases hFollow
                exact ⟨[], rfl, rfl, by simp⟩
              · rw [if_neg hSeen] at hFollow ⊢
                rcases Option.map_eq_some_iff.mp hFollow with
                  ⟨rest, hRest, rfl⟩
                rcases ih hRest with
                  ⟨chain, hChain, hIds, hStored⟩
                refine ⟨node :: chain, ?_, ?_, ?_⟩
                · rw [hChain]
                  rfl
                · rw [List.map_cons, hIds, hId]
                · intro other hOther
                  rcases List.mem_cons.mp hOther with
                    rfl | hOther
                  · rw [hId]
                    exact hNode
                  · exact hStored other hOther

/- The managers that are followed make a trail. -/
theorem exists_trail
    (graph : AuthorizationGraph)
    (userId : Int) :
    ∃ ids,
      follow graph.managerOf (graph.nodes.keys.length + 1)
          (rowNodeId .user userId)
          [rowNodeId .user userId] =
        some ids ∧
      IsTrail graph.managerOf (rowNodeId .user userId)
        [rowNodeId .user userId] ids := by
  have hNodes :
      ∀ x y, graph.managerOf x = some y →
        y ∈ rowNodeId .user userId :: graph.nodes.keys := by
    intro x y hManager
    exact List.mem_cons_of_mem _
      (AuthorizationGraph.managedBy_of_managerOf hManager).2
  exact exists_follow hNodes (List.nodup_singleton _)
    (by simp) (by simp)

/-
  In every graph where no user has two edges to a manager,
  the query ends with the chain of managers.
-/
theorem find_manager_chain_complete
    {graph : AuthorizationGraph}
    (hOne : graph.OneManager)
    (userId : Int) :
    ∃ chain,
      findManagerChain graph userId = some chain ∧
        IsManagerChain graph userId chain := by
  have hPoints : Points graph.managerOf = graph.ManagedBy := by
    funext id managerId
    exact propext (AuthorizationGraph.managerOf_eq_some_iff hOne)
  rcases exists_trail graph userId with ⟨ids, hIds, hTrail⟩
  rcases managerChainFrom_eq hIds with
    ⟨chain, hChain, rfl, hStored⟩
  refine ⟨chain, hChain, ?_⟩
  have hJoined := hTrail.linked
  rw [hPoints] at hJoined
  refine
    { stored := hStored
      users := ?_
      nodup := hTrail.nodup
      fresh := fun hMem =>
        hTrail.fresh _ hMem List.mem_cons_self
      joined := hJoined
      stopped := ?_
      ancestors := ?_ }
  · intro hUsers node hNode
    have hReached :=
      transGen_of_isChain hTrail.linked
        (List.mem_map_of_mem hNode)
    rcases Relation.TransGen.tail'_iff.mp hReached with
      ⟨id, -, hStep⟩
    rw [hPoints] at hStep
    rcases hStep with ⟨⟨edge, hEdge, hType, -, hTarget⟩, -⟩
    apply hUsers edge hEdge hType
    rw [hTarget]
    exact hStored node hNode
  · intro last hLast managerId hManager
    have hNext :=
      (AuthorizationGraph.managerOf_eq_some_iff hOne).mpr
        hManager
    rcases hTrail.ended last hLast managerId hNext with
      hSeen | hMem
    · exact Or.inl (List.mem_singleton.mp hSeen)
    · exact Or.inr hMem
  · intro hNoCircle
    have hAcyclic : Acyclic graph.managerOf := by
      unfold Acyclic
      rw [hPoints]
      exact hNoCircle
    constructor
    · intro id
      rw [← hPoints]
      exact hTrail.mem_iff hAcyclic id
    · intro last hLast managerId hManager
      have hNone := hTrail.none_of_last hAcyclic hLast
      have hNext :=
        (AuthorizationGraph.managerOf_eq_some_iff hOne).mpr
          hManager
      cases hNone.symm.trans hNext

end Graph

end AccessIQ

------------------------------------------------------------
-- Managers In A Circle
------------------------------------------------------------

namespace AccessIQ

namespace Graph

/- A user of a graph, known by its number. -/
def numberedUser
    (id : Int) :
    GraphNode where
  id := rowNodeId .user id
  type := .user
  label := "User " ++ toString id
  reference := "/users/" ++ toString id

/- The edge from one user to the manager. -/
def managerEdge
    (id managerId : Int) :
    EdgeArguments where
  source := rowNodeId .user id
  target := rowNodeId .user managerId
  edgeType := .managedBy
  label := "User is managed by user"
  reference := "/scim/v2/Users/" ++ toString id

/- Two users who manage each other. -/
def circleGraph : AuthorizationGraph :=
  (((AuthorizationGraph.empty.addNode
    (numberedUser 1)).addNode
    (numberedUser 2)).addEdge
    (managerEdge 1 2)).addEdge
    (managerEdge 2 1)

theorem circleGraph_oneManager :
    circleGraph.OneManager := by
  intro id
  unfold AuthorizationGraph.outgoing
  unfold AuthorizationGraph.sortedById
  rw [List.length_insertionSort, circleGraph.outgoing_eq]
  by_cases hFirst : id = rowNodeId .user 1
  · subst hFirst
    decide +kernel
  · by_cases hSecond : id = rowNodeId .user 2
    · subst hSecond
      decide +kernel
    · have hNone :
          circleGraph.edges.filter (fun e => e.source == id) =
            [] := by
        apply List.filter_eq_nil_iff.mpr
        intro edge hEdge hSource
        have hEnds :
            ∀ e ∈ circleGraph.edges,
              e.source = rowNodeId .user 1 ∨
                e.source = rowNodeId .user 2 := by
          decide +kernel
        rw [← beq_iff_eq.mp hSource] at hFirst hSecond
        rcases hEnds edge hEdge with hEnd | hEnd
        · exact hFirst hEnd
        · exact hSecond hEnd
      rw [hNone]
      exact Nat.zero_le 1

theorem find_manager_chain_complete_circle :
    ∃ chain,
      findManagerChain circleGraph 1 = some chain ∧
        IsManagerChain circleGraph 1 chain :=
  find_manager_chain_complete circleGraph_oneManager 1

end Graph

end AccessIQ
