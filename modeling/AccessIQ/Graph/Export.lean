import AccessIQ.Foundations.Lines
import AccessIQ.Graph.ReadModel
import AccessIQ.Scim.UserPayloads

/-
  The Mermaid export of a graph.

  The export has a line for each node and each edge.  It can
  be read back when no name has a line feed in it and the
  names of the connectors stay apart once the four characters
  that Mermaid does not allow in an id are replaced.

  Key definitions include:
    * `safeId`
    * `exportMermaid`
    * `readEdge`
    * `ReadsBack`
    * `PlainNames`

  Key theorems include:
    * `readEdgeLine_edgeLine`
    * `readsBack_iff`
    * `export_reads_back_iff`
-/

------------------------------------------------------------
-- The Export
------------------------------------------------------------

namespace AccessIQ

namespace Graph

open Foundations Python

/- `safe_id` -/
def safeId
    (value : String) :
    String :=
  replaceChar
    (replaceChar
      (replaceChar (replaceChar value ':' '_') '-' '_')
      '.' '_')
    '/' '_'

/- `_escape`: backslashes and quotes after a backslash. -/
def escape
    (value : String) :
    String :=
  String.ofList
    (value.toList.flatMap fun c =>
      if c = '\\' ∨ c = '"' then ['\\', c] else [c])

def nodeLine
    (node : GraphNode) :
    String :=
  "    " ++ safeId node.id ++ "[\"" ++ escape node.label ++
    "\"]"

def edgeLine
    (edge : GraphEdge) :
    String :=
  "    " ++ safeId edge.source ++ " -->|" ++
    edge.type.value ++ "| " ++ safeId edge.target

/- `sorted(graph.nodes.values(), key=lambda item: item.id)` -/
def sortedNodes
    (graph : AuthorizationGraph) :
    List GraphNode :=
  graph.nodes.values.insertionSort fun a b => a.id ≤ b.id

def mermaidLines
    (graph : AuthorizationGraph) :
    List String :=
  "flowchart LR" :: (sortedNodes graph).map nodeLine ++
    graph.edges.map edgeLine

/- `export_mermaid` -/
def exportMermaid
    (graph : AuthorizationGraph) :
    String :=
  joinLines (mermaidLines graph)

def dotNodeLine
    (node : GraphNode) :
    String :=
  "  \"" ++ node.id ++ "\" [label=\"" ++ escape node.label ++
    "\"];"

def dotEdgeLine
    (edge : GraphEdge) :
    String :=
  "  \"" ++ edge.source ++ "\" -> \"" ++ edge.target ++
    "\" [label=\"" ++ edge.type.value ++ "\"];"

/- `export_graphviz_dot` -/
def exportGraphvizDot
    (graph : AuthorizationGraph) :
    String :=
  joinLines
    ("digraph AuthorizationGraph \x7b" ::
      (sortedNodes graph).map dotNodeLine ++
      graph.edges.map dotEdgeLine ++ ["\x7d"])

end Graph

end AccessIQ

------------------------------------------------------------
-- Reading Back
------------------------------------------------------------

namespace AccessIQ

namespace Graph

open Foundations Python

def edgeTypes : List EdgeType :=
  [.memberOf, .hasEntitlement, .grantsAccessTo,
    .provisionedBy, .reviewedIn, .remediatedBy, .managedBy,
    .delegatedTo, .connectedTo, .auditedBy]

/- The edge type with a value. -/
def EdgeType.named
    (value : String) :
    Option EdgeType :=
  edgeTypes.find? fun t => t.value == value

/- What follows a text. -/
def after
    (before text : List Char) :
    Option (List Char) :=
  if before.isPrefixOf text then
    some (text.drop before.length)
  else
    none

/- The ids and the type that the line of an edge shows. -/
def readEdgeLine
    (line : String) :
    Option (String × EdgeType × String) := do
  let text ← after "    ".toList line.toList
  let (source, text) := text.span (· ≠ ' ')
  let text ← after " -->|".toList text
  let (value, text) := text.span (· ≠ '|')
  let target ← after "| ".toList text
  let edgeType ← EdgeType.named (String.ofList value)
  return (String.ofList source, edgeType,
    String.ofList target)

/- The node that an id of the export stands for. -/
def nodeNamed
    (graph : AuthorizationGraph)
    (id : String) :
    Option String :=
  graph.nodes.keys.find? fun nodeId => safeId nodeId == id

def readEdge
    (graph : AuthorizationGraph)
    (line : String) :
    Option (String × EdgeType × String) := do
  let (source, edgeType, target) ← readEdgeLine line
  let source ← nodeNamed graph source
  let target ← nodeNamed graph target
  return (source, edgeType, target)

/-
  The export has a line for its head and for each node and
  edge, nodes have distinct ids in it, and its last lines are
  read as the edges in their order.
-/
structure ReadsBack
    (graph : AuthorizationGraph) : Prop where
  length :
    (splitLines (exportMermaid graph)).length =
      1 + graph.nodes.keys.length + graph.edges.length
  ids :
    ∀ id ∈ graph.nodes.keys, ∀ other ∈ graph.nodes.keys,
      safeId id = safeId other → id = other
  edges :
    ((splitLines (exportMermaid graph)).drop
        (1 + graph.nodes.keys.length)).mapM (readEdge graph) =
      some
        (graph.edges.map fun edge =>
          (edge.source, edge.type, edge.target))

/- What `safe_id` does to a character. -/
def safeChar
    (c : Char) :
    Char :=
  if c = ':' ∨ c = '-' ∨ c = '.' ∨ c = '/' then '_' else c

theorem toList_safeId
    (value : String) :
    (safeId value).toList = value.toList.map safeChar := by
  unfold safeId replaceChar
  simp only [String.toList_ofList, List.map_map]
  apply List.map_congr_left
  intro c _
  unfold safeChar
  by_cases hColon : c = ':'
  · simp [hColon]
  · by_cases hMinus : c = '-'
    · simp [hMinus]
    · by_cases hDot : c = '.'
      · simp [hDot]
      · simp [hColon, hMinus, hDot]

theorem mem_safeId_iff
    {c : Char}
    (hPlain : safeChar c = c)
    (hOther : c ≠ '_')
    (value : String) :
    c ∈ (safeId value).toList ↔ c ∈ value.toList := by
  rw [toList_safeId, List.mem_map]
  constructor
  · rintro ⟨d, hd, hSafe⟩
    unfold safeChar at hSafe
    split at hSafe
    · exact absurd hSafe.symm hOther
    · rw [← hSafe]
      exact hd
  · intro hc
    exact ⟨c, hc, hPlain⟩

/- Escaping adds no line feed and removes none. -/
theorem newline_mem_escape_iff
    (value : String) :
    '\n' ∈ (escape value).toList ↔
      '\n' ∈ value.toList := by
  unfold escape
  rw [String.toList_ofList, List.mem_flatMap]
  constructor
  · rintro ⟨c, hc, hMem⟩
    split at hMem
    · rename_i hEscaped
      rcases hEscaped with rfl | rfl <;> simp at hMem
    · rw [List.mem_singleton.mp hMem]
      exact hc
  · intro hMem
    exact ⟨'\n', hMem, by simp⟩

theorem newline_mem_nodeLine_iff
    (node : GraphNode) :
    '\n' ∈ (nodeLine node).toList ↔
      '\n' ∈ node.id.toList ∨ '\n' ∈ node.label.toList := by
  unfold nodeLine
  simp only [String.toList_append, List.mem_append,
    newline_mem_escape_iff,
    mem_safeId_iff (c := '\n') (by decide) (by decide)]
  simp

theorem newline_mem_edgeLine_iff
    (edge : GraphEdge) :
    '\n' ∈ (edgeLine edge).toList ↔
      '\n' ∈ edge.source.toList ∨
        '\n' ∈ edge.target.toList := by
  have hType : '\n' ∉ edge.type.value.toList := by
    cases edge.type <;> decide
  unfold edgeLine
  simp only [String.toList_append, List.mem_append,
    mem_safeId_iff (c := '\n') (by decide) (by decide), hType]
  simp

/- A text that has been put before another is taken off. -/
theorem after_append
    (before text : List Char) :
    after before (before ++ text) = some text := by
  unfold after
  rw [if_pos, List.drop_left]
  rw [List.isPrefixOf_iff_prefix]
  exact List.prefix_append before text

/- What comes before a stop is read up to it. -/
theorem span_append
    {stop : Char}
    {before : List Char}
    (hBefore : stop ∉ before)
    (text : List Char) :
    (before ++ stop :: text).span (· ≠ stop) =
      (before, stop :: text) := by
  induction before with
  | nil => simp [List.span_eq_takeWhile_dropWhile]
  | cons c before ih =>
      rw [List.mem_cons, not_or] at hBefore
      rw [List.span_eq_takeWhile_dropWhile] at ih ⊢
      have hPass : decide (c ≠ stop) = true :=
        decide_eq_true fun hSame => hBefore.1 hSame.symm
      rw [List.cons_append,
        List.takeWhile_cons_of_pos (p := (decide <| · ≠ stop))
          hPass,
        List.dropWhile_cons_of_pos (p := (decide <| · ≠ stop))
          hPass]
      have hRest := Prod.mk.inj (ih hBefore.2)
      rw [hRest.1, hRest.2]

theorem named_value
    (t : EdgeType) :
    EdgeType.named t.value = some t := by
  cases t <;> decide

/- The line of an edge shows the edge. -/
theorem readEdgeLine_edgeLine
    {edge : GraphEdge}
    (hSource : ' ' ∉ edge.source.toList) :
    readEdgeLine (edgeLine edge) =
      some
        (safeId edge.source, edge.type,
          safeId edge.target) := by
  have hSafeSource : ' ' ∉ (safeId edge.source).toList := by
    rw [mem_safeId_iff (by decide) (by decide)]
    exact hSource
  have hType : '|' ∉ edge.type.value.toList := by
    cases edge.type <;> decide
  have hLine :
      (edgeLine edge).toList =
        "    ".toList ++
          ((safeId edge.source).toList ++
            ' ' ::
              ("-->|".toList ++
                (edge.type.value.toList ++
                  '|' ::
                    (" ".toList ++
                      (safeId edge.target).toList)))) := by
    unfold edgeLine
    simp only [String.toList_append, List.append_assoc]
    rfl
  unfold readEdgeLine
  rw [hLine, after_append]
  simp only [Option.bind_eq_bind, Option.bind_some,
    span_append hSafeSource]
  have hArrow :
      ∀ text : List Char,
        ' ' :: ("-->|".toList ++ text) =
          " -->|".toList ++ text :=
    fun _ => rfl
  have hBar :
      ∀ text : List Char,
        '|' :: (" ".toList ++ text) = "| ".toList ++ text :=
    fun _ => rfl
  rw [hArrow, after_append]
  simp only [Option.bind_some, span_append hType]
  rw [hBar, after_append]
  simp only [Option.bind_some, String.ofList_toList,
    named_value]
  rfl

/- An id of the export stands for its node. -/
theorem nodeNamed_safeId
    {graph : AuthorizationGraph}
    (hIds :
      ∀ id ∈ graph.nodes.keys, ∀ other ∈ graph.nodes.keys,
        safeId id = safeId other → id = other)
    {id : String}
    (hId : id ∈ graph.nodes.keys) :
    nodeNamed graph (safeId id) = some id := by
  unfold nodeNamed
  cases hFind :
      graph.nodes.keys.find? fun nodeId =>
        safeId nodeId == safeId id with
  | none =>
      have hNot := List.find?_eq_none.mp hFind id hId
      exact absurd (beq_self_eq_true _) hNot
  | some found =>
      have hSafe := List.find?_some hFind
      have hFound := List.mem_of_find?_eq_some hFind
      rw [beq_iff_eq] at hSafe
      rw [hIds found hFound id hId hSafe]

theorem mapM_readEdge
    {graph : AuthorizationGraph}
    (hIds :
      ∀ id ∈ graph.nodes.keys, ∀ other ∈ graph.nodes.keys,
        safeId id = safeId other → id = other)
    {edges : List GraphEdge}
    (hEnds :
      ∀ edge ∈ edges,
        edge.source ∈ graph.nodes.keys ∧
          edge.target ∈ graph.nodes.keys)
    (hSources :
      ∀ edge ∈ edges, ' ' ∉ edge.source.toList) :
    (edges.map edgeLine).mapM (readEdge graph) =
      some
        (edges.map fun edge =>
          (edge.source, edge.type, edge.target)) := by
  induction edges with
  | nil => rfl
  | cons edge rest ih =>
      have hRest :=
        ih
          (fun other hOther =>
            hEnds other (List.mem_cons_of_mem _ hOther))
          (fun other hOther =>
            hSources other (List.mem_cons_of_mem _ hOther))
      have hEdge := hEnds edge List.mem_cons_self
      have hRead :
          readEdge graph (edgeLine edge) =
            some (edge.source, edge.type, edge.target) := by
        unfold readEdge
        rw [readEdgeLine_edgeLine
          (hSources edge List.mem_cons_self)]
        simp only [Option.bind_eq_bind, Option.bind_some,
          nodeNamed_safeId hIds hEdge.1,
          nodeNamed_safeId hIds hEdge.2]
        rfl
      rw [List.map_cons, List.mapM_cons, hRead, hRest]
      rfl

/-
  A graph is read back exactly when its ids and labels have
  no line feed and its ids stay apart.
-/
theorem readsBack_iff
    {graph : AuthorizationGraph}
    (hEnds : graph.EdgesJoinNodes)
    (hSources :
      ∀ edge ∈ graph.edges, ' ' ∉ edge.source.toList) :
    ReadsBack graph ↔
      (∀ node ∈ graph.nodes.values,
        '\n' ∉ node.id.toList ∧ '\n' ∉ node.label.toList) ∧
      (∀ id ∈ graph.nodes.keys, ∀ other ∈ graph.nodes.keys,
        safeId id = safeId other → id = other) := by
  have hNe : mermaidLines graph ≠ [] := List.cons_ne_nil _ _
  have hSorted :
      ∀ node,
        node ∈ sortedNodes graph ↔
          node ∈ graph.nodes.values :=
    fun _ => List.mem_insertionSort _
  have hCount :
      (sortedNodes graph).length = graph.nodes.keys.length := by
    unfold sortedNodes
    rw [List.length_insertionSort]
    unfold Dict.values Dict.keys
    rw [List.length_map, List.length_map]
  have hLength :
      (mermaidLines graph).length =
        1 + graph.nodes.keys.length + graph.edges.length := by
    unfold mermaidLines
    rw [List.cons_append, List.length_cons, List.length_append,
      List.length_map, List.length_map, hCount]
    omega
  have hLines :=
    length_splitLines_joinLines_iff hNe
  rw [hLength] at hLines
  constructor
  · intro hReads
    have hPlain := hLines.mp hReads.length
    refine ⟨?_, hReads.ids⟩
    intro node hNode
    rw [← not_or, ← newline_mem_nodeLine_iff]
    apply hPlain
    unfold mermaidLines
    apply List.mem_append_left
    apply List.mem_cons_of_mem
    exact List.mem_map_of_mem ((hSorted node).mpr hNode)
  · rintro ⟨hNodes, hIds⟩
    have hKeys :
        ∀ id ∈ graph.nodes.keys, '\n' ∉ id.toList := by
      intro id hId
      rcases Dict.mem_keys_iff.mp hId with ⟨node, hNode⟩
      rw [← graph.node_id id node hNode]
      have hEntry := Dict.get?_eq_some_iff.mp hNode
      exact (hNodes node (List.mem_map_of_mem hEntry)).1
    have hPlain :
        ∀ line ∈ mermaidLines graph, '\n' ∉ line.toList := by
      intro line hLine
      unfold mermaidLines at hLine
      rcases List.mem_append.mp hLine with hLine | hLine
      · rcases List.mem_cons.mp hLine with rfl | hLine
        · decide
        · rcases List.mem_map.mp hLine with ⟨node, hNode, rfl⟩
          rw [newline_mem_nodeLine_iff, not_or]
          exact hNodes node ((hSorted node).mp hNode)
      · rcases List.mem_map.mp hLine with ⟨edge, hEdge, rfl⟩
        rw [newline_mem_edgeLine_iff, not_or]
        exact ⟨hKeys _ (hEnds edge hEdge).1,
          hKeys _ (hEnds edge hEdge).2⟩
    refine ⟨hLines.mpr hPlain, hIds, ?_⟩
    have hDrop :
        (mermaidLines graph).drop
            (1 + graph.nodes.keys.length) =
          graph.edges.map edgeLine := by
      unfold mermaidLines
      apply List.drop_left'
      rw [List.length_cons, List.length_map, hCount]
      omega
    unfold exportMermaid
    rw [splitLines_joinLines hNe hPlain, hDrop]
    exact mapM_readEdge hIds hEnds hSources

end Graph

end AccessIQ

------------------------------------------------------------
-- Ids Of Rows
------------------------------------------------------------

namespace AccessIQ

namespace Graph

open Foundations Python Delegation Governance Remediation

theorem letters_value
    (t : NodeType) :
    ∀ c ∈ t.value.toList,
      c ≠ '_' ∧ c ≠ ' ' ∧ c ≠ '\n' ∧ safeChar c = c := by
  have hAll :
      t.value.toList.all (fun c =>
        decide
          (c ≠ '_' ∧ c ≠ ' ' ∧ c ≠ '\n' ∧
            safeChar c = c)) = true := by
    cases t <;> decide +kernel
  intro c hc
  exact of_decide_eq_true (List.all_eq_true.mp hAll c hc)

/- The id of a node in the export. -/
theorem toList_safeId_graphNodeId
    (t : NodeType)
    (x : String) :
    (safeId (graphNodeId t x)).toList =
      t.value.toList ++ '_' :: (safeId x).toList := by
  have hType :
      t.value.toList.map safeChar = t.value.toList := by
    apply (List.map_congr_left ?_).trans (List.map_id _)
    intro c hc
    exact (letters_value t c hc).2.2.2
  unfold graphNodeId
  rw [toList_safeId, toList_safeId]
  simp only [String.toList_append, List.map_append, hType]
  simp [safeChar]

/- Ids that are not apart are of one type. -/
theorem safeId_graphNodeId
    {t t' : NodeType}
    {x x' : String}
    (hSafe :
      safeId (graphNodeId t x) = safeId (graphNodeId t' x')) :
    t = t' ∧ safeId x = safeId x' := by
  have hList := congrArg String.toList hSafe
  rw [toList_safeId_graphNodeId,
    toList_safeId_graphNodeId] at hList
  rcases
      split_at_first
        (fun h => (letters_value t _ h).1 rfl)
        (fun h => (letters_value t' _ h).1 rfl) hList with
    ⟨hType, hText⟩
  exact
    ⟨NodeType.value_injective (String.toList_inj.mp hType),
      String.toList_inj.mp hText⟩

/- Integers stay apart: only their minus sign is replaced. -/
theorem safeId_toString_injective
    {i j : Int}
    (hSafe : safeId (toString i) = safeId (toString j)) :
    i = j := by
  have hBack :
      ∀ k : Int,
        ((safeId (toString k)).toList.map fun c =>
          if c = '_' then '-' else c) =
          (toString k).toList := by
    intro k
    rw [toList_safeId, List.map_map]
    apply (List.map_congr_left ?_).trans (List.map_id _)
    intro c hc
    rcases mem_toString hc with rfl | hDigit
    · rfl
    · have hPlain : safeChar c = c := by
        unfold safeChar
        apply if_neg
        rintro (rfl | rfl | rfl | rfl) <;>
          exact absurd hDigit (by decide)
      have hOther : c ≠ '_' := by
        rintro rfl
        exact absurd hDigit (by decide)
      simp only [Function.comp, hPlain, if_neg hOther, id]
  apply toString_injective
  apply String.toList_inj.mp
  rw [← hBack i, ← hBack j, hSafe]

/- The id of a row has no blank and no line feed. -/
theorem plain_rowNodeId
    (t : NodeType)
    (i : Int) :
    ' ' ∉ (rowNodeId t i).toList ∧
      '\n' ∉ (rowNodeId t i).toList := by
  have hChar :
      ∀ c ∈ (rowNodeId t i).toList, c ≠ ' ' ∧ c ≠ '\n' := by
    intro c hc
    unfold rowNodeId graphNodeId at hc
    simp only [String.toList_append, List.mem_append] at hc
    rcases hc with (hType | hColon) | hText
    · have hLetter := letters_value t c hType
      exact ⟨hLetter.2.1, hLetter.2.2.1⟩
    · rw [List.mem_singleton.mp hColon]
      decide
    · rcases mem_toString hText with rfl | hDigit
      · decide
      · constructor <;>
          (rintro rfl
           exact absurd hDigit (by decide))
  exact ⟨fun h => (hChar _ h).1 rfl, fun h => (hChar _ h).2 rfl⟩

variable [Platform]
variable {s : Store}
variable {registry : List RegisteredConnector}

/- The nodes of rows have the ids of rows. -/
theorem exists_rowNodeId
    {t : NodeType}
    (hType : t ≠ .connector)
    {node : GraphNode}
    (hNode : node ∈ nodesOf s registry t) :
    ∃ i, node.id = rowNodeId t i := by
  cases t
  case connector => exact absurd rfl hType
  all_goals
    rcases List.mem_map.mp hNode with ⟨row, _, rfl⟩
    exact ⟨_, rfl⟩

/- The target of a job is a user or a group. -/
theorem source_provisioningTarget
    {targetType : String}
    {targetId : Option String}
    {target : String}
    (hTarget :
      target ∈ provisioningTargetNodeId targetType targetId) :
    ∃ t x, t ≠ NodeType.connector ∧
      target = graphNodeId t x := by
  unfold provisioningTargetNodeId at hTarget
  cases targetId with
  | none => cases hTarget
  | some targetId =>
      simp only [Option.bind_eq_bind, Option.bind_some,
        Option.mem_def] at hTarget
      split at hTarget
      · exact ⟨.user, targetId, nofun,
          (Option.some.inj hTarget).symm⟩
      · split at hTarget
        · exact ⟨.group, targetId, nofun,
            (Option.some.inj hTarget).symm⟩
        · split at hTarget
          · exact ⟨.user, targetId, nofun,
              (Option.some.inj hTarget).symm⟩
          · cases hTarget

/- No edge starts at a connector. -/
theorem source_relationshipEdges
    {a : EdgeArguments}
    (ha : a ∈ relationshipEdges s) :
    ∃ t x, t ≠ NodeType.connector ∧
      a.source = graphNodeId t x := by
  unfold relationshipEdges operationEdges at ha
  simp only [List.mem_append, List.mem_flatMap] at ha
  rcases ha with
    (((⟨row, _, ha⟩ | ⟨row, _, ha⟩) | ⟨row, _, ha⟩) |
      ⟨row, _, ha⟩) |
      ((((((⟨row, _, ha⟩ | ⟨row, _, ha⟩) | ⟨row, _, ha⟩) |
        ⟨row, _, ha⟩) | ⟨row, _, ha⟩) | ⟨row, _, ha⟩) |
          ⟨row, _, ha⟩)
  · rw [List.mem_singleton.mp ha]
    exact ⟨.entitlement, _, nofun, rfl⟩
  · rw [List.mem_singleton.mp ha]
    exact ⟨.user, _, nofun, rfl⟩
  · rw [List.mem_singleton.mp ha]
    exact ⟨.user, _, nofun, rfl⟩
  · rcases List.mem_cons.mp ha with rfl | ha
    · exact ⟨.user, _, nofun, rfl⟩
    · unfold managerEdges at ha
      cases hManager : row.managerId with
      | none =>
          rw [hManager] at ha
          cases ha
      | some managerId =>
          rw [hManager] at ha
          rw [List.mem_singleton.mp ha]
          exact ⟨.user, _, nofun, rfl⟩
  · unfold delegationEdges scopeEdges at ha
    rcases List.mem_append.mp ha with ha | ha
    · simp only [List.mem_cons, List.not_mem_nil,
        or_false] at ha
      rcases ha with rfl | rfl <;>
        exact ⟨.user, _, nofun, rfl⟩
    · cases hScope :
          delegationScopeNodeId row.scopeType.value
            row.scopeId with
      | none =>
          rw [hScope] at ha
          cases ha
      | some target =>
          rw [hScope] at ha
          rw [List.mem_singleton.mp ha]
          exact ⟨.delegation, _, nofun, rfl⟩
  · rcases List.mem_map.mp ha with ⟨_, _, rfl⟩
    exact ⟨.user, _, nofun, rfl⟩
  · unfold reviewItemEdges at ha
    rcases List.mem_append.mp ha with ha | ha
    · simp only [List.mem_cons, List.not_mem_nil,
        or_false] at ha
      rcases ha with rfl | rfl | rfl | rfl | rfl
      · exact ⟨.reviewItem, _, nofun, rfl⟩
      · exact ⟨.user, _, nofun, rfl⟩
      · exact ⟨.user, _, nofun, rfl⟩
      · exact ⟨.application, _, nofun, rfl⟩
      · exact ⟨.entitlement, _, nofun, rfl⟩
    · rcases List.mem_map.mp ha with ⟨_, _, rfl⟩
      exact ⟨.group, _, nofun, rfl⟩
  · unfold provisioningJobEdges at ha
    rcases List.mem_cons.mp ha with rfl | ha
    · exact ⟨.provisioningJob, _, nofun, rfl⟩
    · rcases List.mem_map.mp ha with ⟨target, hTarget, rfl⟩
      exact source_provisioningTarget
        (Option.mem_toList.mp hTarget)
  · rw [List.mem_singleton.mp ha]
    exact ⟨.provisioningHistory, _, nofun, rfl⟩
  · unfold remediationEdges at ha
    rcases List.mem_append.mp ha with ha | ha
    · simp only [List.mem_cons, List.not_mem_nil,
        or_false] at ha
      rcases ha with rfl | rfl | rfl
      · exact ⟨.reviewItem, _, nofun, rfl⟩
      · exact ⟨.remediationJob, _, nofun, rfl⟩
      · exact ⟨.user, _, nofun, rfl⟩
    · rcases List.mem_map.mp ha with ⟨_, _, rfl⟩
      exact ⟨.remediationJob, _, nofun, rfl⟩
  · unfold auditEdges at ha
    rcases List.mem_map.mp ha with ⟨⟨source, label⟩, hMem, rfl⟩
    simp only [List.mem_cons, List.not_mem_nil, or_false,
      Prod.mk.injEq] at hMem
    rcases hMem with
      ⟨rfl, -⟩ | ⟨rfl, -⟩ | ⟨rfl, -⟩ | ⟨rfl, -⟩
    · exact ⟨.user, _, nofun, rfl⟩
    · exact ⟨.user, _, nofun, rfl⟩
    · exact ⟨.application, _, nofun, rfl⟩
    · exact ⟨.entitlement, _, nofun, rfl⟩

end Graph

end AccessIQ

------------------------------------------------------------
-- Plain Names
------------------------------------------------------------

namespace AccessIQ

namespace Graph

open Foundations Python Delegation Governance Remediation

/-
  No name that a label shows has a line feed in it, and the
  names of the connectors stay apart in ids.
-/
structure PlainNames
    (s : Store)
    (registry : List RegisteredConnector) : Prop where
  users : ∀ user ∈ s.users.rows, '\n' ∉ user.name.toList
  groups :
    ∀ group ∈ s.groups.rows, '\n' ∉ group.displayName.toList
  applications :
    ∀ application ∈ s.applications.rows,
      '\n' ∉ application.name.toList
  entitlements :
    ∀ entitlement ∈ s.entitlements.rows,
      '\n' ∉ entitlement.name.toList
  campaigns :
    ∀ campaign ∈ s.certificationCampaigns.rows,
      '\n' ∉ campaign.name.toList
  jobs :
    ∀ job ∈ s.provisioningJobs.rows,
      '\n' ∉ job.connector.toList
  connectors :
    ∀ connector ∈ registry,
      '\n' ∉ connector.name.toList ∧
        '\n' ∉ connector.displayName.toList
  apart :
    (registry.map fun connector =>
      safeId connector.name).Nodup

theorem newline_notMem_toString
    (i : Int) :
    '\n' ∉ (toString i).toList := by
  intro hMem
  rcases mem_toString hMem with hMinus | hDigit
  · exact absurd hMinus (by decide)
  · exact absurd hDigit (by decide)

theorem newline_notMem_append
    {a b : String}
    (ha : '\n' ∉ a.toList)
    (hb : '\n' ∉ b.toList) :
    '\n' ∉ (a ++ b).toList := by
  rw [String.toList_append, List.mem_append, not_or]
  exact ⟨ha, hb⟩

variable [Platform]
variable {s : Store}
variable {registry : List RegisteredConnector}

/- The labels of rows with plain names are plain. -/
theorem PlainNames.label
    (hPlain : PlainNames s registry)
    {t : NodeType}
    {node : GraphNode}
    (hNode : node ∈ nodesOf s registry t) :
    '\n' ∉ node.label.toList := by
  cases t with
  | user =>
      rcases List.mem_map.mp hNode with ⟨row, hRow, rfl⟩
      exact hPlain.users row hRow
  | group =>
      rcases List.mem_map.mp hNode with ⟨row, hRow, rfl⟩
      exact hPlain.groups row hRow
  | application =>
      rcases List.mem_map.mp hNode with ⟨row, hRow, rfl⟩
      exact hPlain.applications row hRow
  | entitlement =>
      rcases List.mem_map.mp hNode with ⟨row, hRow, rfl⟩
      exact hPlain.entitlements row hRow
  | certificationCampaign =>
      rcases List.mem_map.mp hNode with ⟨row, hRow, rfl⟩
      exact hPlain.campaigns row hRow
  | connector =>
      rcases List.mem_map.mp hNode with
        ⟨connector, hConnector, rfl⟩
      apply (hPlain.connectors connector _).2
      exact (List.mem_insertionSort _).mp hConnector
  | enterpriseProfile =>
      rcases List.mem_map.mp hNode with ⟨row, hRow, rfl⟩
      exact newline_notMem_append (by decide)
        (newline_notMem_toString row.id)
  | reviewItem =>
      rcases List.mem_map.mp hNode with ⟨row, hRow, rfl⟩
      exact newline_notMem_append (by decide)
        (newline_notMem_toString row.id)
  | remediationJob =>
      rcases List.mem_map.mp hNode with ⟨row, hRow, rfl⟩
      exact newline_notMem_append (by decide)
        (newline_notMem_toString row.id)
  | delegation =>
      rcases List.mem_map.mp hNode with ⟨row, hRow, rfl⟩
      apply newline_notMem_append
      · cases row.delegationRole <;> decide +kernel
      · decide
  | provisioningJob =>
      rcases List.mem_map.mp hNode with ⟨row, hRow, rfl⟩
      apply newline_notMem_append
      · exact newline_notMem_append (hPlain.jobs row hRow)
          (by decide)
      · cases row.operation <;> decide +kernel
  | provisioningHistory =>
      rcases List.mem_map.mp hNode with ⟨row, hRow, rfl⟩
      apply newline_notMem_append
      · apply newline_notMem_append
        · cases row.eventType <;> decide +kernel
        · decide
      · cases row.status <;> decide +kernel
  | auditEvent =>
      rcases List.mem_map.mp hNode with ⟨row, hRow, rfl⟩
      apply newline_notMem_append
      · apply newline_notMem_append
        · cases row.action <;> decide +kernel
        · decide
      · cases row.result <;> decide +kernel

/- So are their ids. -/
theorem PlainNames.nodeId
    (hPlain : PlainNames s registry)
    {t : NodeType}
    {node : GraphNode}
    (hNode : node ∈ nodesOf s registry t) :
    '\n' ∉ node.id.toList := by
  by_cases hType : t = .connector
  · subst hType
    rcases List.mem_map.mp hNode with
      ⟨connector, hConnector, rfl⟩
    have hName :=
      (hPlain.connectors connector
        ((List.mem_insertionSort _).mp hConnector)).1
    exact newline_notMem_append (by decide) hName
  · rcases exists_rowNodeId hType hNode with ⟨i, hId⟩
    rw [hId]
    exact (plain_rowNodeId t i).2

/- And they stay apart. -/
theorem PlainNames.apart_ids
    (hPlain : PlainNames s registry)
    {t t' : NodeType}
    {node other : GraphNode}
    (hNode : node ∈ nodesOf s registry t)
    (hOther : other ∈ nodesOf s registry t')
    (hSafe : safeId node.id = safeId other.id) :
    node.id = other.id := by
  rcases (type_of_mem_nodesOf hNode).2 with ⟨x, hx⟩
  rcases (type_of_mem_nodesOf hOther).2 with ⟨y, hy⟩
  have hParts := hSafe
  rw [hx, hy] at hParts
  rcases safeId_graphNodeId hParts with ⟨rfl, -⟩
  by_cases hType : t = .connector
  · subst hType
    rcases List.mem_map.mp hNode with ⟨a, ha, rfl⟩
    rcases List.mem_map.mp hOther with ⟨b, hb, rfl⟩
    have hSame : a = b :=
      List.inj_on_of_nodup_map hPlain.apart
        ((List.mem_insertionSort _).mp ha)
        ((List.mem_insertionSort _).mp hb)
        (safeId_graphNodeId hSafe).2
    rw [hSame]
  · rcases exists_rowNodeId hType hNode with ⟨i, hi⟩
    rcases exists_rowNodeId hType hOther with ⟨j, hj⟩
    rw [hi, hj] at hSafe ⊢
    rw [safeId_toString_injective (safeId_graphNodeId hSafe).2]

section Built

variable
  (hNames : (registry.map RegisteredConnector.name).Nodup)
include hNames

theorem mem_values_buildAuthorizationGraph
    (node : GraphNode) :
    node ∈
        (buildAuthorizationGraph s registry).nodes.values ↔
      ∃ t, node ∈ nodesOf s registry t := by
  rw [values_buildAuthorizationGraph s hNames,
    List.mem_flatMap]
  constructor
  · rintro ⟨t, -, hNode⟩
    exact ⟨t, hNode⟩
  · rintro ⟨t, hNode⟩
    exact ⟨t, mem_nodeTypes t, hNode⟩

theorem mem_keys_buildAuthorizationGraph
    (id : String) :
    id ∈ (buildAuthorizationGraph s registry).nodes.keys ↔
      ∃ t, ∃ node ∈ nodesOf s registry t, node.id = id := by
  constructor
  · intro hId
    rcases Dict.mem_keys_iff.mp hId with ⟨node, hNode⟩
    have hEntry := Dict.get?_eq_some_iff.mp hNode
    rcases
        (mem_values_buildAuthorizationGraph hNames node).mp
          (List.mem_map_of_mem hEntry) with
      ⟨t, hMem⟩
    refine ⟨t, node, hMem, ?_⟩
    exact AuthorizationGraph.node_id _ id node hNode
  · rintro ⟨t, node, hNode, rfl⟩
    exact Dict.mem_keys_iff.mpr
      ⟨node, get?_buildAuthorizationGraph hNames hNode⟩

/- An edge starts at a row. -/
theorem blank_notMem_source
    {edge : GraphEdge}
    (hEdge :
      edge ∈ (buildAuthorizationGraph s registry).edges) :
    ' ' ∉ edge.source.toList := by
  rcases
      (mem_edges_buildAuthorizationGraph edge.arguments).mp
        ⟨edge, hEdge, rfl⟩ with
    ⟨hAsked, hEnds⟩
  rcases source_relationshipEdges hAsked with
    ⟨t, x, hType, hSource⟩
  rcases
      (mem_keys_buildAuthorizationGraph hNames _).mp
        hEnds.1 with
    ⟨t', node, hNode, hId⟩
  rcases (type_of_mem_nodesOf hNode).2 with ⟨y, hy⟩
  have hSame : t' = t := by
    rw [hy, hSource] at hId
    exact (graphNodeId_injective hId).1
  subst hSame
  rcases exists_rowNodeId hType hNode with ⟨i, hi⟩
  have hRow : edge.source = rowNodeId t' i :=
    hId.symm.trans hi
  rw [hRow]
  exact (plain_rowNodeId t' i).1

/-
  The graph of a database is read back exactly when its names
  are plain.
-/
theorem export_reads_back_iff :
    ReadsBack (buildAuthorizationGraph s registry) ↔
      PlainNames s registry := by
  rw [readsBack_iff
    (edgesJoinNodes_buildAuthorizationGraph s registry)
    (fun _ => blank_notMem_source hNames)]
  constructor
  · rintro ⟨hTexts, hIds⟩
    have hText :
        ∀ t, ∀ node ∈ nodesOf s registry t,
          '\n' ∉ node.id.toList ∧
            '\n' ∉ node.label.toList := by
      intro t node hNode
      exact hTexts node
        ((mem_values_buildAuthorizationGraph hNames node).mpr
          ⟨t, hNode⟩)
    have hConnector :
        ∀ connector ∈ registry,
          connectorNode connector ∈
            nodesOf s registry .connector := by
      intro connector hMem
      apply List.mem_map_of_mem
      exact (List.mem_insertionSort _).mpr hMem
    constructor
    · intro user hUser
      exact (hText .user _ (List.mem_map_of_mem hUser)).2
    · intro group hGroup
      exact (hText .group _ (List.mem_map_of_mem hGroup)).2
    · intro application hApplication
      exact
        (hText .application _
          (List.mem_map_of_mem hApplication)).2
    · intro entitlement hEntitlement
      exact
        (hText .entitlement _
          (List.mem_map_of_mem hEntitlement)).2
    · intro campaign hCampaign
      exact
        (hText .certificationCampaign _
          (List.mem_map_of_mem hCampaign)).2
    · intro job hJob hMem
      have hLabel :=
        (hText .provisioningJob _
          (List.mem_map_of_mem hJob)).2
      apply hLabel
      simp [provisioningJobNode, hMem]
    · intro connector hMem
      have hNode :=
        hText .connector _ (hConnector connector hMem)
      refine ⟨fun hName => hNode.1 ?_, hNode.2⟩
      simp [connectorNode, graphNodeId, hName]
    · have hNodup :
          ((registry.map RegisteredConnector.name).map
            safeId).Nodup := by
        apply List.Nodup.map_on _ hNames
        intro x hx y hy hSafe
        rcases List.mem_map.mp hx with ⟨a, ha, rfl⟩
        rcases List.mem_map.mp hy with ⟨b, hb, rfl⟩
        have hKey :
            ∀ connector ∈ registry,
              graphNodeId .connector connector.name ∈
                (buildAuthorizationGraph s
                  registry).nodes.keys := by
          intro connector hMem
          exact
            (mem_keys_buildAuthorizationGraph hNames _).mpr
              ⟨.connector, _, hConnector connector hMem, rfl⟩
        have hSame :=
          hIds _ (hKey a ha) _ (hKey b hb) (by
            apply String.toList_inj.mp
            rw [toList_safeId_graphNodeId,
              toList_safeId_graphNodeId, hSafe])
        exact (graphNodeId_injective hSame).2
      rw [List.map_map] at hNodup
      exact hNodup
  · intro hPlain
    constructor
    · intro node hNode
      rcases
          (mem_values_buildAuthorizationGraph hNames node).mp
            hNode with
        ⟨t, hMem⟩
      exact ⟨hPlain.nodeId hMem, hPlain.label hMem⟩
    · intro id hId other hOther hSafe
      rcases
          (mem_keys_buildAuthorizationGraph hNames id).mp
            hId with
        ⟨t, node, hNode, rfl⟩
      rcases
          (mem_keys_buildAuthorizationGraph hNames other).mp
            hOther with
        ⟨t', node', hNode', rfl⟩
      exact hPlain.apart_ids hNode hNode' hSafe

end Built

end Graph

end AccessIQ

------------------------------------------------------------
-- A Name Of Two Lines
------------------------------------------------------------

namespace AccessIQ

namespace Graph

open Foundations Python Scim

section Example

attribute [local instance] asciiPlatform

/- A user whose name has a line feed in it. -/
def twoLineStore : Store :=
  { Store.empty .sqlite with
    users :=
      { rows := [{ bob with name := "Bob\nSmith" }]
        issued := 1
        sorted := by decide
        bounded := by decide
        unique := by decide } }

theorem export_reads_back_iff_managed :
    ReadsBack
        (buildAuthorizationGraph managedStore
          [salesforceConnector]) ↔
      PlainNames managedStore [salesforceConnector] :=
  export_reads_back_iff (by decide)

/- A name that the SCIM service takes breaks the export. -/
theorem two_line_name_breaks_export :
    parseDisplayNameValue (.string "Bob\nSmith") =
        .ok "Bob\nSmith" ∧
      ¬ReadsBack
          (buildAuthorizationGraph twoLineStore []) := by
  constructor
  · decide +kernel
  · intro hReads
    have hTexts :=
      (readsBack_iff
        (edgesJoinNodes_buildAuthorizationGraph _ _)
        (fun _ => blank_notMem_source (by decide))).mp hReads
    have hNode :=
      (@mem_values_buildAuthorizationGraph _ twoLineStore []
        (by decide) _).mpr
        ⟨.user, List.mem_cons_self⟩
    have hPlain := (hTexts.1 _ hNode).2
    have hLabel : '\n' ∈ "Bob\nSmith".toList := by
      decide
    exact hPlain hLabel

/- Connectors whose ids in the export are one. -/
example :
    safeId "Connector:zen-desk" =
      safeId "Connector:zen.desk" := by
  decide +kernel

end Example

end Graph

end AccessIQ
