import AccessIQ.Graph.ReadModel
import AccessIQ.Graph.ShortestPath

/-
  Paths from users to entitlements.

  A path may lead over any rows that are related, read in
  either direction: a user and an entitlement that a denied
  request names are connected.  What an access assignment
  tells apart is a path of one edge.

  Key definitions include:
    * `findAccessPath`
    * `Assigned`

  Key theorems include:
    * `joins_user_entitlement`
    * `findAccessPath_connects`
-/

------------------------------------------------------------
-- Edges Between Users And Entitlements
------------------------------------------------------------

namespace AccessIQ

namespace Graph

open Foundations Python Delegation Governance Remediation

/- The user has an access assignment for the entitlement. -/
def Assigned
    (s : Store)
    (userId entitlementId : Int) : Prop :=
  ∃ a ∈ s.accessAssignments.rows,
    a.userId = userId ∧ a.entitlementId = entitlementId

/- `find_access_path`, within a number of turns. -/
def findAccessPath
    (graph : AuthorizationGraph)
    (fuel : Nat)
    (userId entitlementId : Int) :
    Option (Except (KeyError String) GraphPath) :=
  graph.shortestPath fuel (rowNodeId .user userId)
    (rowNodeId .entitlement entitlementId)

/- The edge joins a user and an entitlement. -/
def EdgeArguments.JoinsAccess
    (a : EdgeArguments)
    (userId entitlementId : Int) : Prop :=
  (a.source = rowNodeId .user userId ∧
      a.target = rowNodeId .entitlement entitlementId) ∨
    (a.source = rowNodeId .entitlement entitlementId ∧
      a.target = rowNodeId .user userId)

/- One end is neither a user nor an entitlement. -/
def EdgeArguments.EndsElsewhere
    (a : EdgeArguments) : Prop :=
  ∃ t x,
    t ≠ NodeType.user ∧ t ≠ NodeType.entitlement ∧
      (a.source = graphNodeId t x ∨ a.target = graphNodeId t x)

theorem not_joinsAccess_of_endsElsewhere
    {a : EdgeArguments}
    (hElsewhere : a.EndsElsewhere)
    (userId entitlementId : Int) :
    ¬a.JoinsAccess userId entitlementId := by
  rcases hElsewhere with ⟨t, x, hUser, hEntitlement, hEnd⟩
  have hNot :
      ∀ {id : String},
        id = graphNodeId t x →
          (id = rowNodeId .user userId ∨
            id = rowNodeId .entitlement entitlementId) →
          False := by
    intro id hId hRow
    rcases hRow with hRow | hRow
    · exact hUser (graphNodeId_injective (hId.symm.trans hRow)).1
    · exact hEntitlement
        (graphNodeId_injective (hId.symm.trans hRow)).1
  intro hJoins
  rcases hJoins with ⟨hSource, hTarget⟩ | ⟨hSource, hTarget⟩
  · rcases hEnd with hEnd | hEnd
    · exact hNot hEnd (Or.inl hSource)
    · exact hNot hEnd (Or.inr hTarget)
  · rcases hEnd with hEnd | hEnd
    · exact hNot hEnd (Or.inr hSource)
    · exact hNot hEnd (Or.inl hTarget)

variable [Platform]
variable {s : Store}
variable {a : EdgeArguments}

/- The operations relate their own rows. -/
theorem endsElsewhere_operationEdges
    (ha : a ∈ operationEdges s) :
    a.EndsElsewhere := by
  unfold operationEdges at ha
  simp only [List.mem_append, List.mem_flatMap] at ha
  rcases ha with
    (((((⟨row, _, ha⟩ | ⟨row, _, ha⟩) | ⟨row, _, ha⟩) |
      ⟨row, _, ha⟩) | ⟨row, _, ha⟩) | ⟨row, _, ha⟩) |
        ⟨row, _, ha⟩
  · unfold delegationEdges scopeEdges at ha
    refine ⟨.delegation, toString row.id, nofun, nofun, ?_⟩
    rcases List.mem_append.mp ha with ha | ha
    · simp only [List.mem_cons, List.not_mem_nil,
        or_false] at ha
      rcases ha with rfl | rfl <;> exact Or.inr rfl
    · cases hScope :
          delegationScopeNodeId row.scopeType.value
            row.scopeId with
      | none =>
          rw [hScope] at ha
          cases ha
      | some target =>
          rw [hScope] at ha
          rw [List.mem_singleton.mp ha]
          exact Or.inl rfl
  · rcases List.mem_map.mp ha with ⟨_, _, rfl⟩
    exact ⟨.certificationCampaign, _, nofun, nofun,
      Or.inr rfl⟩
  · unfold reviewItemEdges at ha
    refine ⟨.reviewItem, toString row.id, nofun, nofun, ?_⟩
    rcases List.mem_append.mp ha with ha | ha
    · simp only [List.mem_cons, List.not_mem_nil,
        or_false] at ha
      rcases ha with rfl | rfl | rfl | rfl | rfl
      · exact Or.inl rfl
      all_goals exact Or.inr rfl
    · rcases List.mem_map.mp ha with ⟨_, _, rfl⟩
      exact Or.inr rfl
  · unfold provisioningJobEdges at ha
    refine
      ⟨.provisioningJob, toString row.id, nofun, nofun, ?_⟩
    rcases List.mem_cons.mp ha with rfl | ha
    · exact Or.inl rfl
    · rcases List.mem_map.mp ha with ⟨_, _, rfl⟩
      exact Or.inr rfl
  · rw [List.mem_singleton.mp ha]
    exact ⟨.provisioningHistory, _, nofun, nofun, Or.inl rfl⟩
  · unfold remediationEdges at ha
    refine
      ⟨.remediationJob, toString row.id, nofun, nofun, ?_⟩
    rcases List.mem_append.mp ha with ha | ha
    · simp only [List.mem_cons, List.not_mem_nil,
        or_false] at ha
      rcases ha with rfl | rfl | rfl
      · exact Or.inr rfl
      · exact Or.inl rfl
      · exact Or.inr rfl
    · rcases List.mem_map.mp ha with ⟨_, _, rfl⟩
      exact Or.inl rfl
  · rcases List.mem_map.mp ha with ⟨_, _, rfl⟩
    exact ⟨.auditEvent, _, nofun, nofun, Or.inr rfl⟩

/- Only assignments relate a user to an entitlement. -/
theorem joins_user_entitlement
    {userId entitlementId : Int}
    (ha : a ∈ relationshipEdges s)
    (hJoins : a.JoinsAccess userId entitlementId) :
    a.edgeType = .hasEntitlement ∧
      Assigned s userId entitlementId := by
  have hNot :
      ¬a.EndsElsewhere :=
    fun hElsewhere =>
      not_joinsAccess_of_endsElsewhere hElsewhere _ _ hJoins
  unfold relationshipEdges at ha
  simp only [List.mem_append, List.mem_flatMap] at ha
  rcases ha with
    (((⟨row, hRow, ha⟩ | ⟨row, hRow, ha⟩) | ⟨row, hRow, ha⟩) |
      ⟨row, hRow, ha⟩) | ha
  · rw [List.mem_singleton.mp ha] at hNot
    exact absurd
      ⟨.application, _, nofun, nofun, Or.inr rfl⟩ hNot
  · rw [List.mem_singleton.mp ha] at hNot
    exact absurd ⟨.group, _, nofun, nofun, Or.inr rfl⟩ hNot
  · rw [List.mem_singleton.mp ha] at hJoins ⊢
    refine ⟨rfl, row, hRow, ?_⟩
    rcases hJoins with ⟨hSource, hTarget⟩ | ⟨hSource, -⟩
    · exact ⟨rowNodeId_injective hSource,
        rowNodeId_injective hTarget⟩
    · cases (graphNodeId_injective hSource).1
  · rcases List.mem_cons.mp ha with rfl | ha
    · exact absurd
        ⟨.enterpriseProfile, _, nofun, nofun, Or.inr rfl⟩ hNot
    · unfold managerEdges at ha
      cases hManager : row.managerId with
      | none =>
          rw [hManager] at ha
          cases ha
      | some managerId =>
          rw [hManager] at ha
          rw [List.mem_singleton.mp ha] at hJoins
          rcases hJoins with ⟨-, hTarget⟩ | ⟨hSource, -⟩
          · cases (graphNodeId_injective hTarget).1
          · cases (graphNodeId_injective hSource).1
  · exact absurd (endsElsewhere_operationEdges ha) hNot

end Graph

end AccessIQ

------------------------------------------------------------
-- Access Paths
------------------------------------------------------------

namespace AccessIQ

namespace Graph

open Foundations Python

variable [Platform]
variable {s : Store}
variable {registry : List RegisteredConnector}

omit [Platform] in
theorem isWalk_singleton
    {graph : AuthorizationGraph}
    {source target : String}
    {edge : GraphEdge}
    (hEdge : edge ∈ graph.edges)
    (hJoins : edge.Joins source target) :
    graph.IsWalk source target [source, target] [edge] where
  first := rfl
  last := rfl
  length := rfl
  joins := by
    intro i other hOther
    cases i with
    | zero =>
        cases hOther
        exact ⟨hEdge, source, target, rfl, rfl, hJoins⟩
    | succ i => cases hOther

omit [Platform] in
theorem joins_of_isWalk_singleton
    {graph : AuthorizationGraph}
    {source target : String}
    {nodes : List String}
    {edge : GraphEdge}
    (hWalk : graph.IsWalk source target nodes [edge]) :
    edge ∈ graph.edges ∧ edge.Joins source target := by
  rcases hWalk.joins 0 edge rfl with
    ⟨hEdge, a, b, ha, hb, hJoins⟩
  have hFirst := hWalk.first
  have hLast := hWalk.last
  have hLength := hWalk.length
  match nodes, hLength with
  | [x, y], _ =>
      cases hFirst
      cases hLast
      cases ha
      cases hb
      exact ⟨hEdge, hJoins⟩

omit [Platform] in
/- A walk between two nodes has an edge. -/
theorem edges_ne_nil_of_isWalk
    {graph : AuthorizationGraph}
    {source target : String}
    {nodes : List String}
    {edges : List GraphEdge}
    (hNe : source ≠ target)
    (hWalk : graph.IsWalk source target nodes edges) :
    edges ≠ [] := by
  intro hEmpty
  have hFirst := hWalk.first
  have hLast := hWalk.last
  have hLength := hWalk.length
  rw [hEmpty] at hLength
  match nodes, hLength with
  | [x], _ =>
      cases hFirst
      cases hLast
      exact hNe rfl

/- An edge between a user and an entitlement is access. -/
theorem assigned_of_joins
    {userId entitlementId : Int}
    {edge : GraphEdge}
    (hEdge :
      edge ∈ (buildAuthorizationGraph s registry).edges)
    (hJoins :
      edge.Joins (rowNodeId .user userId)
        (rowNodeId .entitlement entitlementId)) :
    edge.type = .hasEntitlement ∧
      Assigned s userId entitlementId := by
  have hAsked :=
    (mem_edges_buildAuthorizationGraph edge.arguments).mp
      ⟨edge, hEdge, rfl⟩
  exact joins_user_entitlement hAsked.1 hJoins

variable
  (hNames : (registry.map RegisteredConnector.name).Nodup)
include hNames

/- An assignment is an edge of the graph. -/
theorem exists_edge_of_assigned
    {userId entitlementId : Int}
    (hUser : s.users.contains userId = true)
    (hEntitlement :
      s.entitlements.contains entitlementId = true)
    (hAssigned : Assigned s userId entitlementId) :
    ∃ edge ∈ (buildAuthorizationGraph s registry).edges,
      edge.Joins (rowNodeId .user userId)
        (rowNodeId .entitlement entitlementId) := by
  rcases hAssigned with ⟨row, hRow, rfl, rfl⟩
  have hAsked :
      ∀ a ∈ accessEdges row, a ∈ relationshipEdges s := by
    intro a ha
    unfold relationshipEdges
    apply List.mem_append_left
    apply List.mem_append_left
    apply List.mem_append_right
    exact List.mem_flatMap.mpr ⟨row, hRow, ha⟩
  have hEnds :=
    And.intro
      (mem_keys_of_contains hNames (t := .user) rfl
        (fun _ => rfl) hUser)
      (mem_keys_of_contains hNames (t := .entitlement) rfl
        (fun _ => rfl) hEntitlement)
  rcases
      (mem_edges_buildAuthorizationGraph _).mpr
        ⟨hAsked _ List.mem_cons_self, hEnds⟩ with
    ⟨edge, hEdge, hArguments⟩
  refine ⟨edge, hEdge, Or.inl ⟨?_, ?_⟩⟩
  · exact congrArg EdgeArguments.source hArguments
  · exact congrArg EdgeArguments.target hArguments

/- A path is found if the rows of its ends are connected. -/
theorem found_iff_connected
    {userId entitlementId : Int}
    (hUser : s.users.contains userId = true)
    (hEntitlement :
      s.entitlements.contains entitlementId = true)
    {path : GraphPath}
    (hAnswers :
      (buildAuthorizationGraph s registry).Answers
        (rowNodeId .user userId)
        (rowNodeId .entitlement entitlementId) path) :
    path.found = true ↔
      (buildAuthorizationGraph s registry).Connected
        (rowNodeId .user userId)
        (rowNodeId .entitlement entitlementId) := by
  have hUserKey :
      rowNodeId .user userId ∈
        (buildAuthorizationGraph s registry).nodes.keys :=
    mem_keys_of_contains hNames (t := .user) rfl
      (fun _ => rfl) hUser
  have hEntitlementKey :
      rowNodeId .entitlement entitlementId ∈
        (buildAuthorizationGraph s registry).nodes.keys :=
    mem_keys_of_contains hNames (t := .entitlement) rfl
      (fun _ => rfl) hEntitlement
  rw [hAnswers.found]
  constructor
  · rintro ⟨-, -, hConnected⟩
    exact hConnected
  · intro hConnected
    exact ⟨hUserKey, hEntitlementKey, hConnected⟩

/-
  A path from a user to an entitlement is found exactly when
  relations between rows of any kind, read in either
  direction, connect them; and the user has an assignment for
  the entitlement exactly when the path found is a single
  edge, of an entitlement the user has.
-/
theorem findAccessPath_connects
    {userId entitlementId : Int}
    (hUser : s.users.contains userId = true)
    (hEntitlement :
      s.entitlements.contains entitlementId = true) :
    ∃ path : GraphPath,
      (∀ fuel,
        (buildAuthorizationGraph s
            registry).nodes.keys.length < fuel →
          findAccessPath (buildAuthorizationGraph s registry)
              fuel userId entitlementId =
            some (.ok path)) ∧
      (path.found = true ↔
        (buildAuthorizationGraph s registry).Connected
          (rowNodeId .user userId)
          (rowNodeId .entitlement entitlementId)) ∧
      (Assigned s userId entitlementId ↔
        path.found = true ∧
          path.edges.map GraphEdge.type =
            [.hasEntitlement]) := by
  rcases
      (buildAuthorizationGraph s registry).exists_answers
        (edgesJoinNodes_buildAuthorizationGraph s registry)
        (rowNodeId .user userId)
        (rowNodeId .entitlement entitlementId) with
    ⟨path, hAnswers⟩
  have hFound :=
    found_iff_connected hNames hUser hEntitlement hAnswers
  refine ⟨path, hAnswers.search, hFound, ?_⟩
  constructor
  · intro hAssigned
    rcases
        exists_edge_of_assigned hNames hUser hEntitlement
          hAssigned with
      ⟨edge, hEdge, hJoins⟩
    have hPath : path.found = true :=
      hFound.mpr
        (Relation.ReflTransGen.single ⟨edge, hEdge, hJoins⟩)
    have hShortest := hAnswers.shortest hPath
    have hMost :=
      hShortest.minimal _ _ (isWalk_singleton hEdge hJoins)
    have hSome :=
      edges_ne_nil_of_isWalk
        (fun hSame => by
          cases (graphNodeId_injective hSame).1)
        hShortest.walk
    have hWalk := hShortest.walk
    match hEdges : path.edges, hMost, hSome with
    | [], _, hNone => exact absurd rfl hNone
    | [first], _, _ =>
        rw [hEdges] at hWalk
        rcases joins_of_isWalk_singleton hWalk with
          ⟨hFirst, hFirstJoins⟩
        have hType := (assigned_of_joins hFirst hFirstJoins).1
        refine ⟨hPath, ?_⟩
        rw [List.map_cons, hType]
        rfl
    | _ :: _ :: _, hLong, _ =>
        simp at hLong
  · rintro ⟨hPath, hTypes⟩
    have hWalk := (hAnswers.shortest hPath).walk
    rcases List.map_eq_singleton_iff.mp hTypes with
      ⟨edge, hEdges, -⟩
    rw [hEdges] at hWalk
    rcases joins_of_isWalk_singleton hWalk with
      ⟨hEdge, hJoins⟩
    exact (assigned_of_joins hEdge hJoins).2

end Graph

end AccessIQ

------------------------------------------------------------
-- A Denied Request
------------------------------------------------------------

namespace AccessIQ

namespace Graph

open Foundations Python

section Example

attribute [local instance] asciiPlatform

/- A user was denied an entitlement, and has no access. -/
def deniedStore : Store :=
  { seededStore .sqlite with
    auditEvents :=
      { rows :=
          [{ id := 1
             requesterId := 2
             targetUserId := 1
             action := .grant
             applicationId := 1
             entitlementId := 2
             result := .denied
             reason := "No policy allows this action"
             correlationId := none
             createdAt := 0 }]
        issued := 1
        sorted := by decide
        bounded := by decide
        unique := by decide } }

theorem findAccessPath_connects_denied :
    ∃ path : GraphPath,
      (∀ fuel,
        (buildAuthorizationGraph deniedStore
            []).nodes.keys.length < fuel →
          findAccessPath
              (buildAuthorizationGraph deniedStore [])
              fuel 1 2 =
            some (.ok path)) ∧
      (path.found = true ↔
        (buildAuthorizationGraph deniedStore []).Connected
          (rowNodeId .user 1) (rowNodeId .entitlement 2)) ∧
      (Assigned deniedStore 1 2 ↔
        path.found = true ∧
          path.edges.map GraphEdge.type =
            [.hasEntitlement]) :=
  findAccessPath_connects (by decide) (by decide) (by decide)

/- The denial connects the user and the entitlement. -/
theorem connected_by_denial :
    (buildAuthorizationGraph deniedStore []).Connected
      (rowNodeId .user 1) (rowNodeId .entitlement 2) := by
  have hAudit :
      rowNodeId .auditEvent 1 ∈
        (buildAuthorizationGraph deniedStore
          []).nodes.keys :=
    mem_keys_of_contains (by decide) (t := .auditEvent) rfl
      (fun _ => rfl) (by decide)
  have hUser :
      rowNodeId .user 1 ∈
        (buildAuthorizationGraph deniedStore
          []).nodes.keys :=
    mem_keys_of_contains (by decide) (t := .user) rfl
      (fun _ => rfl) (by decide)
  have hEntitlement :
      rowNodeId .entitlement 2 ∈
        (buildAuthorizationGraph deniedStore
          []).nodes.keys :=
    mem_keys_of_contains (by decide) (t := .entitlement) rfl
      (fun _ => rfl) (by decide)
  have hEdge :
      ∀ source,
        source ∈
            (buildAuthorizationGraph deniedStore
              []).nodes.keys →
          (∃ a ∈ relationshipEdges deniedStore,
            a.source = source ∧
              a.target = rowNodeId .auditEvent 1) →
            ∃ edge ∈
                (buildAuthorizationGraph deniedStore
                  []).edges,
              edge.source = source ∧
                edge.target = rowNodeId .auditEvent 1 := by
    rintro source hSource ⟨a, ha, rfl, hTarget⟩
    rw [← hTarget] at hAudit
    rcases
        (mem_edges_buildAuthorizationGraph a).mpr
          ⟨ha, hSource, hAudit⟩ with
      ⟨edge, hEdge, rfl⟩
    exact ⟨edge, hEdge, rfl, hTarget⟩
  have hAsked :
      ∀ a ∈ deniedStore.auditEvents.rows.flatMap auditEdges,
        a ∈ relationshipEdges deniedStore := by
    intro a ha
    unfold relationshipEdges operationEdges
    exact List.mem_append_right _ (List.mem_append_right _ ha)
  rcases
      hEdge _ hUser
        ⟨_, hAsked _ (List.mem_of_getElem? (i := 1) rfl), rfl,
          rfl⟩ with
    ⟨first, hFirst, hFirstSource, hFirstTarget⟩
  rcases
      hEdge _ hEntitlement
        ⟨_, hAsked _ (List.mem_of_getElem? (i := 3) rfl), rfl,
          rfl⟩ with
    ⟨last, hLast, hLastSource, hLastTarget⟩
  apply Relation.ReflTransGen.tail
  · apply Relation.ReflTransGen.single
    exact ⟨first, hFirst, Or.inl ⟨hFirstSource, hFirstTarget⟩⟩
  · exact ⟨last, hLast, Or.inr ⟨hLastSource, hLastTarget⟩⟩

/- It is found as a path, and the user has no access. -/
theorem denial_found_as_access :
    (∃ path : GraphPath,
      (∀ fuel,
        (buildAuthorizationGraph deniedStore
            []).nodes.keys.length < fuel →
          findAccessPath
              (buildAuthorizationGraph deniedStore [])
              fuel 1 2 =
            some (.ok path)) ∧
      path.found = true) ∧
      ¬Assigned deniedStore 1 2 := by
  constructor
  · rcases
        (buildAuthorizationGraph deniedStore
            []).exists_answers
          (edgesJoinNodes_buildAuthorizationGraph deniedStore
            [])
          (rowNodeId .user 1) (rowNodeId .entitlement 2) with
      ⟨path, hAnswers⟩
    refine ⟨path, hAnswers.search, ?_⟩
    rw [found_iff_connected (by decide) (by decide)
      (by decide) hAnswers]
    exact connected_by_denial
  · rintro ⟨a, ha, -⟩
    cases ha

end Example

end Graph

end AccessIQ
