import AccessIQ.Ai.Context
import AccessIQ.Ai.Origins
import AccessIQ.Foundations.Lines
import AccessIQ.Graph.Builder
import AccessIQ.Python.Numbers

/-
  What a citation names.

  The id of evidence shows the digest of some of its parts:
  of a node its type, reference, label and distance, of the
  graph's own evidence its type, reference, title and
  correlation id.  The rest tells items of evidence apart as
  well, so an id names one item unless two nodes, or two
  items of the graph's evidence, have all those parts in
  common.  A node is never taken for an item of the graph's
  evidence, nor either for the result of a lookup.

  Key definitions include:
    * `nodeParts`
    * `itemParts`
    * `CitesEach`
    * `CitedApart`
    * `ShownApart`

  Key theorems include:
    * `ShownApart.citedApart`
    * `citation_ids_exact_iff`
-/

------------------------------------------------------------
-- The Texts Of Ids
------------------------------------------------------------

namespace AccessIQ

namespace Ai

open AccessIQ.Graph Foundations Python

/- What the id of a node shows. -/
def nodeParts
    (node : GraphNode)
    (distance : Int) :
    List String :=
  [node.type.value, node.reference, node.label,
    toString distance]

/- What the id of the graph's evidence shows. -/
def itemParts
    (item : EvidenceItem) :
    List String :=
  [item.type, item.reference, item.title,
    item.correlationId.getD ""]

theorem stableId_injective
    {digest : String → String}
    (hDigest : Function.Injective digest)
    {parts others : List String}
    (hId : stableId digest parts = stableId digest others) :
    idText parts = idText others := by
  unfold stableId at hId
  apply hDigest
  have hList := congrArg String.toList hId
  rw [String.toList_append, String.toList_append] at hList
  exact String.toList_injective
    (List.append_cancel_left hList)

theorem toList_idText_cons
    (part next : String)
    (rest : List String) :
    (idText (part :: next :: rest)).toList =
      part.toList ++ '|' :: (idText (next :: rest)).toList := by
  unfold idText
  rw [String.intercalate_cons_cons, String.toList_append,
    String.toList_append]
  simp

/- A first part without a bar can be told from the rest. -/
theorem idText_cons_inj
    {part other next after : String}
    {rest others : List String}
    (hPart : '|' ∉ part.toList)
    (hOther : '|' ∉ other.toList)
    (hText :
      idText (part :: next :: rest) =
        idText (other :: after :: others)) :
    part = other ∧
      idText (next :: rest) = idText (after :: others) := by
  have hList := congrArg String.toList hText
  rw [toList_idText_cons, toList_idText_cons] at hList
  rcases append_separator_inj hPart hOther hList with
    ⟨hFirst, hRest⟩
  exact
    ⟨String.toList_injective hFirst,
      String.toList_injective hRest⟩

/- Four parts can be told if three of them have no bar. -/
theorem idText_four_inj
    {a b c d a' b' c' d' : String}
    (ha : '|' ∉ a.toList)
    (hb : '|' ∉ b.toList)
    (hc : '|' ∉ c.toList)
    (ha' : '|' ∉ a'.toList)
    (hb' : '|' ∉ b'.toList)
    (hc' : '|' ∉ c'.toList)
    (hText : idText [a, b, c, d] = idText [a', b', c', d']) :
    a = a' ∧ b = b' ∧ c = c' ∧ d = d' := by
  rcases idText_cons_inj ha ha' hText with ⟨hFirst, hText⟩
  rcases idText_cons_inj hb hb' hText with ⟨hSecond, hText⟩
  rcases idText_cons_inj hc hc' hText with ⟨hThird, hText⟩
  unfold idText at hText
  rw [String.intercalate_singleton,
    String.intercalate_singleton] at hText
  exact ⟨hFirst, hSecond, hThird, hText⟩

/- A text of four parts ends with the last one. -/
theorem idText_ends
    (a b c last : String) :
    ∃ front,
      (idText [a, b, c, last]).toList =
        front ++ '|' :: last.toList := by
  have hLast : (idText [last]).toList = last.toList := by
    unfold idText
    rw [String.intercalate_singleton]
  refine
    ⟨a.toList ++ '|' :: (b.toList ++ '|' :: c.toList), ?_⟩
  rw [toList_idText_cons, toList_idText_cons,
    toList_idText_cons, hLast]
  simp

/- A text that ends with a number does not end empty. -/
theorem idText_number_ne
    (a b c a' b' c' : String)
    (i : Int) :
    idText [a, b, c, toString i] ≠ idText [a', b', c', ""] := by
  intro hText
  rcases idText_ends a b c (toString i) with ⟨front, hFront⟩
  rcases idText_ends a' b' c' "" with ⟨before, hBefore⟩
  rw [hText, hBefore] at hFront
  have hLast := congrArg List.getLast? hFront
  rw [List.getLast?_append_cons, List.getLast?_append_cons]
    at hLast
  cases hDigits : (toString i).toList with
  | nil => exact toString_ne_empty i hDigits
  | cons d digits =>
      rw [hDigits, List.getLast?_cons_cons] at hLast
      have hBar : '|' ∈ (toString i).toList := by
        rw [hDigits]
        exact List.mem_of_getLast? hLast.symm
      rcases mem_toString hBar with hMinus | hDigit
      · exact absurd hMinus (by decide)
      · exact absurd hDigit (by decide)

theorem bar_not_mem_nodeType
    (type : NodeType) :
    '|' ∉ type.value.toList := by
  cases type <;> decide

theorem bar_not_mem_edgeType
    (type : EdgeType) :
    '|' ∉ type.value.toList := by
  cases type <;> decide

theorem nodeType_ne_edgeType
    (nodeType : NodeType)
    (edgeType : EdgeType) :
    nodeType.value ≠ edgeType.value := by
  cases nodeType <;> cases edgeType <;> decide

end Ai

end AccessIQ

------------------------------------------------------------
-- Equal Ids
------------------------------------------------------------

namespace AccessIQ

namespace Ai

open AccessIQ.Graph Foundations Python

variable {digest : String → String}

theorem title_inj
    {type label other : String}
    (hTitle : s!"{type}: {label}" = s!"{type}: {other}") :
    label = other := by
  have hList := congrArg String.toList hTitle
  simp only [toString, String.toList_append] at hList
  exact String.toList_injective
    (List.append_cancel_left hList)

theorem nodeDescription_inj
    {node other : GraphNode}
    (hDescription :
      nodeDescription node = nodeDescription other) :
    node.id = other.id := by
  have hList := congrArg String.toList hDescription
  unfold nodeDescription at hList
  simp only [toString, String.toList_append] at hList
  exact String.toList_injective
    (List.append_cancel_left
      (List.append_cancel_right hList))

/- Nodes are told apart by their id, label and reference. -/
theorem nodeSaid_eq_iff
    {node other : GraphNode} :
    nodeSaid node = nodeSaid other ↔
      node.type.value = other.type.value ∧
        node.id = other.id ∧ node.label = other.label ∧
          node.reference = other.reference := by
  unfold nodeSaid
  simp only [Prod.mk.injEq, and_true]
  constructor
  · rintro ⟨hType, hTitles, hDescriptions, hReference⟩
    rw [hType] at hTitles
    exact
      ⟨hType, nodeDescription_inj hDescriptions,
        title_inj hTitles, hReference⟩
  · rintro ⟨hType, hId, hLabel, hReference⟩
    unfold nodeDescription
    rw [hType, hId, hLabel]
    exact ⟨rfl, rfl, rfl, hReference⟩

/- The types of lookups are not those of the graph. -/
theorem lookupType_apart
    {type : String}
    (hType : type = "QUERY_RESULT" ∨ type = "PATH_RESULT") :
    '|' ∉ type.toList ∧
      (∀ edgeType : EdgeType, type ≠ edgeType.value) ∧
        ∀ nodeType : NodeType, type ≠ nodeType.value := by
  rcases hType with rfl | rfl
  · refine ⟨by decide, ?_, ?_⟩
    · intro edgeType
      cases edgeType <;> decide
    · intro nodeType
      cases nodeType <;> decide
  · refine ⟨by decide, ?_, ?_⟩
    · intro edgeType
      cases edgeType <;> decide
    · intro nodeType
      cases nodeType <;> decide

/- The result of a lookup is not taken for anything else. -/
theorem lookup_id_ne
    (hDigest : Function.Injective digest)
    {graph : AuthorizationGraph}
    {lookup item : AIEvidence}
    (hLookup : OfLookup digest lookup)
    (hItem : OfGraph digest graph item) :
    lookup.id ≠ item.id := by
  intro hId
  rcases hLookup with
    ⟨type, title, description, reference, _, hType, rfl⟩
  rcases lookupType_apart hType with ⟨hPlain, hEdge, hNode⟩
  rcases hItem with
    ⟨node, -, _, _, rfl⟩ | ⟨item, _, _, _, _, hSaid, rfl⟩
  · have hText := stableId_injective hDigest hId
    exact hNode node.type
      (idText_cons_inj hPlain (bar_not_mem_nodeType _)
        hText).1
  · have hText := stableId_injective hDigest hId
    rcases typed_of_saidOf hSaid with
      ⟨edgeType, hItemType⟩ | ⟨nodeType, hItemType, -⟩
    · rw [hItemType] at hText
      exact hEdge edgeType
        (idText_cons_inj hPlain (bar_not_mem_edgeType _)
          hText).1
    · rw [hItemType] at hText
      exact hNode nodeType
        (idText_cons_inj hPlain (bar_not_mem_nodeType _)
          hText).1

/- A node is not taken for the graph's evidence. -/
theorem node_id_ne
    (hDigest : Function.Injective digest)
    {graph : AuthorizationGraph}
    {evidence item : AIEvidence}
    (hNode : OfNode digest graph evidence)
    (hItem : OfItem digest graph item) :
    evidence.id ≠ item.id := by
  intro hId
  rcases hNode with ⟨node, -, distance, _, rfl⟩
  rcases hItem with ⟨item, _, _, _, _, hSaid, rfl⟩
  have hText := stableId_injective hDigest hId
  rcases typed_of_saidOf hSaid with
    ⟨edgeType, hItemType⟩ | ⟨nodeType, -, hNone⟩
  · rw [hItemType] at hText
    exact nodeType_ne_edgeType node.type edgeType
      (idText_cons_inj (bar_not_mem_nodeType _)
        (bar_not_mem_edgeType _) hText).1
  · -- one text ends with the distance, the other with a bar
    rw [hNone] at hText
    exact idText_number_ne _ _ _ _ _ _ distance hText

end Ai

end AccessIQ

------------------------------------------------------------
-- What Citations Name
------------------------------------------------------------

namespace AccessIQ

namespace Ai

open AccessIQ.Graph Foundations Python

/-
  Evidence of a context that is told apart has different ids,
  and each citation names one item.
-/
structure CitesEach
    (context : AIContext) : Prop where
  apart :
    ∀ item ∈ context.evidence, ∀ other ∈ context.evidence,
      item.duplicateKey ≠ other.duplicateKey →
        item.id ≠ other.id
  cited :
    ∀ citation ∈ context.citations,
      ∃! item,
        item ∈ context.evidence ∧ item.id = citation.id

variable (digest : String → String)

/-
  Nodes with the same type, reference, label and distance, as
  their ids show them, are the same.
-/
def NodesApart
    (intent : IntentType)
    (included : List AIEvidence) : Prop :=
  ∀ node distance priority other distance' priority',
    ranked intent (fromNode digest node distance priority) ∈
        included →
      ranked intent
          (fromNode digest other distance' priority') ∈
        included →
      idText (nodeParts node distance) =
        idText (nodeParts other distance') →
      node.id = other.id ∧ node.label = other.label ∧
        node.reference = other.reference

/-
  Items of the graph's evidence with the same type,
  reference, title and correlation id, as their ids show
  them, say the same.
-/
def ItemsApart
    (intent : IntentType)
    (included : List AIEvidence) : Prop :=
  ∀ item distance nodeId edgeId priority
      other distance' nodeId' edgeId' priority',
    ranked intent
          (fromGraphEvidence digest item distance nodeId
            edgeId priority) ∈
        included →
      ranked intent
          (fromGraphEvidence digest other distance' nodeId'
            edgeId' priority') ∈
        included →
      idText (itemParts item) = idText (itemParts other) →
      said item = said other

/- The evidence that fits is told apart by what ids show. -/
def CitedApart
    [Platform]
    (graph : AuthorizationGraph)
    (request : AIContextRequest) : Prop :=
  let classification := classifyIntent request
  ∀ collected,
    collectEvidence digest request classification graph =
        .ok collected →
      NodesApart digest classification.intent
          (fittingEvidence request classification.intent
            collected) ∧
        ItemsApart digest classification.intent
          (fittingEvidence request classification.intent
            collected)

end Ai

end AccessIQ

------------------------------------------------------------
-- Graphs That Ids Tell Apart
------------------------------------------------------------

namespace AccessIQ

namespace Ai

open AccessIQ.Graph Foundations Python

/-
  What ids show of nodes and edges has no bars, and those of
  which they show the same have the rest in common too.
-/
structure ShownApart
    (graph : AuthorizationGraph) : Prop where
  plainNodes :
    ∀ node ∈ graph.nodes.values,
      '|' ∉ node.reference.toList ∧ '|' ∉ node.label.toList
  plainEdges :
    ∀ edge ∈ graph.edges,
      '|' ∉ edge.reference.toList ∧ '|' ∉ edge.label.toList
  nodes :
    ∀ node ∈ graph.nodes.values,
      ∀ other ∈ graph.nodes.values,
        node.type.value = other.type.value →
          node.reference = other.reference →
          node.label = other.label →
            node.id = other.id
  edges :
    ∀ edge ∈ graph.edges, ∀ other ∈ graph.edges,
      edge.type.value = other.type.value →
        edge.reference = other.reference →
        edge.label = other.label →
        edge.correlationId.getD "" =
            other.correlationId.getD "" →
          (edgeEvidence graph edge).description =
              (edgeEvidence graph other).description ∧
            edge.correlationId = other.correlationId

variable {digest : String → String}
variable {graph : AuthorizationGraph}
variable {request : AIContextRequest}
variable {intent : IntentType}
variable {collected : List AIEvidence}

/- What fits is said of the graph or is the lookup. -/
theorem said_of_mem_fittingEvidence
    {lookup : Option AIEvidence}
    (hCases :
      ∀ item ∈ collected,
        lookup = some item ∨ OfGraph digest graph item)
    {item : AIEvidence}
    (hFits :
      ranked intent item ∈
        fittingEvidence request intent collected) :
    (∃ result ∈ lookup,
        item.duplicateKey = result.duplicateKey) ∨
      SaidOf graph item.duplicateKey := by
  rcases exists_of_mem_fittingEvidence hFits with
    ⟨found, hFound, hRanked⟩
  have hRankedKey := congrArg AIEvidence.duplicateKey hRanked
  have hKey : item.duplicateKey = found.duplicateKey :=
    hRankedKey
  rcases hCases found hFound with hLookup | hGraph
  · exact Or.inl ⟨found, hLookup, hKey⟩
  · rw [hKey]
    exact Or.inr (saidOf_duplicateKey hGraph)

/- A node that fits has what ids show of one of the graph. -/
theorem exists_node_of_fits
    (hCollected : OneLookup digest graph collected)
    {node : GraphNode}
    {distance priority : Int}
    (hFits :
      ranked intent (fromNode digest node distance priority) ∈
        fittingEvidence request intent collected) :
    ∃ stored ∈ graph.nodes.values,
      nodeSaid node = nodeSaid stored := by
  rcases hCollected with ⟨lookup, hLookup, hCases⟩
  rcases said_of_mem_fittingEvidence hCases hFits with
    ⟨result, hResult, hKey⟩ |
      ⟨edge, -, hEdge⟩ | ⟨stored, hStored, hNode⟩
  · rcases hLookup result hResult with
      ⟨type, _, _, _, _, hType, rfl⟩
    have hSame : type = node.type.value :=
      (congrArg (·.1) hKey).symm
    exact absurd hSame ((lookupType_apart hType).2.2 _)
  · have hSame : node.type.value = edge.type.value :=
      congrArg (·.1) hEdge
    exact absurd hSame (nodeType_ne_edgeType _ _)
  · exact ⟨stored, hStored, hNode⟩

theorem ShownApart.nodesApart
    (hShown : ShownApart graph)
    (hCollected : OneLookup digest graph collected) :
    NodesApart digest intent
      (fittingEvidence request intent collected) := by
  intro node distance priority other distance' priority'
    hNode hOther hText
  rcases exists_node_of_fits hCollected hNode with
    ⟨a, ha, hNodeSaid⟩
  rcases exists_node_of_fits hCollected hOther with
    ⟨b, hb, hOtherSaid⟩
  rcases nodeSaid_eq_iff.mp hNodeSaid with
    ⟨hType, hId, hLabel, hReference⟩
  rcases nodeSaid_eq_iff.mp hOtherSaid with
    ⟨hType', hId', hLabel', hReference'⟩
  unfold nodeParts at hText
  rw [hType, hLabel, hReference, hType', hLabel',
    hReference'] at hText
  rcases idText_four_inj (bar_not_mem_nodeType _)
      (hShown.plainNodes a ha).1 (hShown.plainNodes a ha).2
      (bar_not_mem_nodeType _) (hShown.plainNodes b hb).1
      (hShown.plainNodes b hb).2 hText with
    ⟨hTypes, hReferences, hLabels, -⟩
  have hSame :=
    hShown.nodes a ha b hb hTypes hReferences hLabels
  exact
    ⟨hId.trans (hSame.trans hId'.symm),
      hLabel.trans (hLabels.trans hLabel'.symm),
      hReference.trans (hReferences.trans hReference'.symm)⟩

/- What ids show of an item is among what is said of it. -/
theorem itemParts_of_said
    {item : EvidenceItem}
    {key : String × String × String × String × Option String}
    (hSaid : said item = key) :
    itemParts item =
      [key.1, key.2.2.2.1, key.2.1,
        key.2.2.2.2.getD ""] := by
  rw [← hSaid]
  rfl

theorem bar_not_mem_title
    {type label : String}
    (hType : '|' ∉ type.toList)
    (hLabel : '|' ∉ label.toList) :
    '|' ∉ (s!"{type}: {label}").toList := by
  simp only [toString, String.toList_append, List.mem_append,
    not_or]
  exact ⟨⟨hType, by decide⟩, hLabel⟩

/- Items of the graph that ids show alike say the same. -/
theorem ShownApart.said_eq
    (hShown : ShownApart graph)
    {item other : EvidenceItem}
    (hItem : SaidOf graph (said item))
    (hOther : SaidOf graph (said other))
    (hText :
      idText (itemParts item) = idText (itemParts other)) :
    said item = said other := by
  rcases hItem with ⟨edge, hEdge, hSaid⟩ | ⟨node, hNode, hSaid⟩
  · rcases hOther with
      ⟨edge', hEdge', hSaid'⟩ | ⟨node', -, hSaid'⟩
    · rw [itemParts_of_said hSaid, itemParts_of_said hSaid']
        at hText
      rcases idText_four_inj (bar_not_mem_edgeType _)
          (hShown.plainEdges edge hEdge).1
          (hShown.plainEdges edge hEdge).2
          (bar_not_mem_edgeType _)
          (hShown.plainEdges edge' hEdge').1
          (hShown.plainEdges edge' hEdge').2 hText with
        ⟨hTypes, hReferences, hLabels, hRequests⟩
      rcases hShown.edges edge hEdge edge' hEdge' hTypes
          hReferences hLabels hRequests with
        ⟨hDescription, hRequest⟩
      rw [hSaid, hSaid']
      exact
        Prod.ext hTypes
          (Prod.ext hLabels
            (Prod.ext hDescription
              (Prod.ext hReferences hRequest)))
    · rw [itemParts_of_said hSaid, itemParts_of_said hSaid']
        at hText
      have hType :=
        idText_cons_inj (bar_not_mem_edgeType edge.type)
          (bar_not_mem_nodeType node'.type) hText
      exact absurd hType.1.symm (nodeType_ne_edgeType _ _)
  · rcases hOther with
      ⟨edge', -, hSaid'⟩ | ⟨node', hNode', hSaid'⟩
    · rw [itemParts_of_said hSaid, itemParts_of_said hSaid']
        at hText
      have hType :=
        idText_cons_inj (bar_not_mem_nodeType node.type)
          (bar_not_mem_edgeType edge'.type) hText
      exact absurd hType.1 (nodeType_ne_edgeType _ _)
    · rw [itemParts_of_said hSaid, itemParts_of_said hSaid']
        at hText
      rcases hShown.plainNodes node hNode with
        ⟨hReference, hLabel⟩
      rcases hShown.plainNodes node' hNode' with
        ⟨hReference', hLabel'⟩
      rcases idText_four_inj (bar_not_mem_nodeType _)
          hReference
          (bar_not_mem_title (bar_not_mem_nodeType _) hLabel)
          (bar_not_mem_nodeType _) hReference'
          (bar_not_mem_title (bar_not_mem_nodeType _) hLabel')
          hText with
        ⟨hTypes, hReferences, hTitles, -⟩
      rw [hTypes] at hTitles
      have hLabels := title_inj hTitles
      rw [hSaid, hSaid']
      exact nodeSaid_eq_iff.mpr
        ⟨hTypes,
          hShown.nodes node hNode node' hNode' hTypes
            hReferences hLabels,
          hLabels, hReferences⟩

/- A lookup is not shown like an item of the graph. -/
theorem lookup_text_ne
    {result : AIEvidence}
    (hResult : OfLookup digest result)
    {item other : EvidenceItem}
    (hItem : said item = result.duplicateKey)
    (hOther : SaidOf graph (said other)) :
    idText (itemParts item) ≠ idText (itemParts other) := by
  intro hText
  rcases hResult with ⟨type, _, _, _, _, hType, rfl⟩
  rcases lookupType_apart hType with ⟨hPlain, hEdge, hNode⟩
  have hItemType : item.type = type := congrArg (·.1) hItem
  unfold itemParts at hText
  rw [hItemType] at hText
  rcases typed_of_saidOf hOther with
    ⟨edgeType, hOtherType⟩ | ⟨nodeType, hOtherType, -⟩
  · rw [hOtherType] at hText
    exact hEdge edgeType
      (idText_cons_inj hPlain (bar_not_mem_edgeType _)
        hText).1
  · rw [hOtherType] at hText
    exact hNode nodeType
      (idText_cons_inj hPlain (bar_not_mem_nodeType _)
        hText).1

theorem ShownApart.itemsApart
    (hShown : ShownApart graph)
    (hCollected : OneLookup digest graph collected) :
    ItemsApart digest intent
      (fittingEvidence request intent collected) := by
  intro item distance nodeId edgeId priority other distance'
    nodeId' edgeId' priority' hItem hOther hText
  rcases hCollected with ⟨lookup, hLookup, hCases⟩
  rcases said_of_mem_fittingEvidence hCases hItem with
    ⟨result, hResult, hKey⟩ | hSaid
  · rcases said_of_mem_fittingEvidence hCases hOther with
      ⟨result', hResult', hKey'⟩ | hSaid'
    · -- there is only one lookup
      have hOne : result = result' :=
        Option.some.inj (hResult.symm.trans hResult')
      rw [hOne] at hKey
      exact hKey.trans hKey'.symm
    · exact absurd hText
        (lookup_text_ne (hLookup result hResult) hKey hSaid')
  · rcases said_of_mem_fittingEvidence hCases hOther with
      ⟨result', hResult', hKey'⟩ | hSaid'
    · exact absurd hText.symm
        (lookup_text_ne (hLookup result' hResult') hKey'
          hSaid)
    · exact hShown.said_eq hSaid hSaid' hText

/- Then whatever is asked, what fits is told apart. -/
theorem ShownApart.citedApart
    [Platform]
    (hShown : ShownApart graph)
    (digest : String → String)
    (request : AIContextRequest) :
    CitedApart digest graph request := by
  intro collected hOk
  have hCollected := collect_cases hOk
  exact
    ⟨hShown.nodesApart hCollected,
      hShown.itemsApart hCollected⟩

example : ShownApart circleGraph where
  plainNodes := by decide
  plainEdges := by decide
  nodes := by decide
  edges := by decide

end Ai

end AccessIQ

------------------------------------------------------------
-- When Ids Tell Evidence Apart
------------------------------------------------------------

namespace AccessIQ

namespace Ai

open AccessIQ.Graph Foundations Python

variable {digest : String → String}

/- Equal ids within a kind are of the same evidence. -/
theorem duplicateKey_eq_of_id_eq
    (hDigest : Function.Injective digest)
    {intent : IntentType}
    {graph : AuthorizationGraph}
    {collected included : List AIEvidence}
    (hCollected : OneLookup digest graph collected)
    (hNodes : NodesApart digest intent included)
    (hItems : ItemsApart digest intent included)
    {item other : AIEvidence}
    (hItem : item ∈ collected)
    (hOther : other ∈ collected)
    (hItemIn : ranked intent item ∈ included)
    (hOtherIn : ranked intent other ∈ included)
    (hId : item.id = other.id) :
    item.duplicateKey = other.duplicateKey := by
  rcases hCollected with ⟨lookup, hLookup, hCases⟩
  rcases hCases item hItem with rfl | hItemGraph
  · rcases hCases other hOther with hSame | hOtherGraph
    · cases hSame
      rfl
    · exact absurd hId
        (lookup_id_ne hDigest (hLookup item rfl) hOtherGraph)
  · rcases hCases other hOther with rfl | hOtherGraph
    · exact absurd hId.symm
        (lookup_id_ne hDigest (hLookup other rfl) hItemGraph)
    · rcases hItemGraph with hNode | hFound
      · rcases hOtherGraph with hNode' | hFound'
        · rcases hNode with ⟨node, -, distance, _, rfl⟩
          rcases hNode' with ⟨node', -, distance', _, rfl⟩
          have hText := stableId_injective hDigest hId
          have hType :=
            idText_cons_inj (bar_not_mem_nodeType _)
              (bar_not_mem_nodeType _) hText
          exact nodeSaid_eq_iff.mpr
            ⟨hType.1,
              hNodes _ _ _ _ _ _ hItemIn hOtherIn hText⟩
        · exact absurd hId (node_id_ne hDigest hNode hFound')
      · rcases hOtherGraph with hNode' | hFound'
        · exact absurd hId.symm
            (node_id_ne hDigest hNode' hFound)
        · rcases hFound with ⟨_, _, _, _, _, -, rfl⟩
          rcases hFound' with ⟨_, _, _, _, _, -, rfl⟩
          exact hItems _ _ _ _ _ _ _ _ _ _ hItemIn hOtherIn
            (stableId_injective hDigest hId)

/- What a context includes is ranked and has an estimate. -/
theorem mem_contextOf_iff
    {graph : AuthorizationGraph}
    {request : AIContextRequest}
    {classification : IntentClassification}
    {collected : List AIEvidence}
    {item : AIEvidence} :
    item ∈
        (contextOf graph request classification
          collected).evidence ↔
      ∃ found ∈ collected,
        ranked classification.intent found ∈
            fittingEvidence request classification.intent
              collected ∧
          item =
            (ranked classification.intent
              found).estimated := by
  rw [evidence_contextOf, List.mem_map]
  constructor
  · rintro ⟨fitting, hFitting, rfl⟩
    rcases exists_of_mem_fittingEvidence hFitting with
      ⟨found, hFound, rfl⟩
    exact ⟨found, hFound, hFitting, rfl⟩
  · rintro ⟨found, -, hFitting, rfl⟩
    exact ⟨_, hFitting, rfl⟩

/- No two items of a context are duplicates. -/
theorem eq_of_duplicateKey_eq
    [Platform]
    {graph : AuthorizationGraph}
    {request : AIContextRequest}
    {classification : IntentClassification}
    {collected : List AIEvidence}
    (hCollected :
      collectEvidence digest request classification graph =
        .ok collected)
    {item other : AIEvidence}
    (hItem :
      item ∈
        (contextOf graph request classification
          collected).evidence)
    (hOther :
      other ∈
        (contextOf graph request classification
          collected).evidence)
    (hKey : item.duplicateKey = other.duplicateKey) :
    item = other := by
  rw [mem_contextOf_iff] at hItem hOther
  rcases hItem with ⟨found, hFound, -, rfl⟩
  rcases hOther with ⟨found', hFound', -, rfl⟩
  unfold collectEvidence at hCollected
  rcases map_eq_ok hCollected with ⟨evidence, -, rfl⟩
  rw [kept_copy_unique hFound hFound' hKey]

/- Where citations name one item each, ids tell items apart. -/
theorem apart_of_citesEach
    {graph : AuthorizationGraph}
    {request : AIContextRequest}
    {classification : IntentClassification}
    {collected : List AIEvidence}
    (hCites :
      CitesEach
        (contextOf graph request classification collected)) :
    NodesApart digest classification.intent
        (fittingEvidence request classification.intent
          collected) ∧
      ItemsApart digest classification.intent
        (fittingEvidence request classification.intent
          collected) := by
  have hApart := hCites.apart
  rw [evidence_contextOf] at hApart
  have hKeys :
      ∀ found other : AIEvidence,
        ranked classification.intent found ∈
            fittingEvidence request classification.intent
              collected →
          ranked classification.intent other ∈
              fittingEvidence request classification.intent
                collected →
            found.id = other.id →
              found.duplicateKey = other.duplicateKey := by
    intro found other hFound hOther hId
    by_contra hKey
    exact
      hApart _ (List.mem_map_of_mem hFound) _
        (List.mem_map_of_mem hOther) hKey hId
  constructor
  · intro node distance priority other distance' priority'
      hNode hOther hText
    have hKey :=
      hKeys (fromNode digest node distance priority)
        (fromNode digest other distance' priority') hNode
        hOther
        (congrArg (fun text => "ai-evidence:" ++ digest text)
          hText)
    exact (nodeSaid_eq_iff.mp hKey).2
  · intro item distance nodeId edgeId priority other
      distance' nodeId' edgeId' priority' hItem hOther hText
    exact
      hKeys
        (fromGraphEvidence digest item distance nodeId edgeId
          priority)
        (fromGraphEvidence digest other distance' nodeId'
          edgeId' priority')
        hItem hOther
        (congrArg (fun text => "ai-evidence:" ++ digest text)
          hText)

/- Where ids tell items apart, citations name one item each. -/
theorem citesEach_of_apart
    [Platform]
    (hDigest : Function.Injective digest)
    {graph : AuthorizationGraph}
    {request : AIContextRequest}
    {classification : IntentClassification}
    {collected : List AIEvidence}
    (hCollected :
      collectEvidence digest request classification graph =
        .ok collected)
    (hNodes :
      NodesApart digest classification.intent
        (fittingEvidence request classification.intent
          collected))
    (hItems :
      ItemsApart digest classification.intent
        (fittingEvidence request classification.intent
          collected)) :
    CitesEach
      (contextOf graph request classification collected) := by
  have hKeys :
      ∀ item ∈
          (contextOf graph request classification
            collected).evidence,
        ∀ other ∈
            (contextOf graph request classification
              collected).evidence,
          item.id = other.id →
            item.duplicateKey = other.duplicateKey := by
    intro item hItem other hOther hId
    rw [mem_contextOf_iff] at hItem hOther
    rcases hItem with ⟨found, hFound, hFoundIn, rfl⟩
    rcases hOther with ⟨found', hFound', hFoundIn', rfl⟩
    have hFoundId : found.id = found'.id := hId
    have hKey : found.duplicateKey = found'.duplicateKey :=
      duplicateKey_eq_of_id_eq hDigest
        (collect_cases hCollected) hNodes hItems hFound
        hFound' hFoundIn hFoundIn' hFoundId
    exact hKey
  constructor
  · intro item hItem other hOther hKey hId
    exact hKey (hKeys item hItem other hOther hId)
  · intro citation hCitation
    rcases List.mem_map.mp hCitation with ⟨item, hItem, rfl⟩
    refine ⟨item, ⟨hItem, rfl⟩, ?_⟩
    rintro other ⟨hOther, hId⟩
    exact eq_of_duplicateKey_eq hCollected hOther hItem
      (hKeys other hOther item hItem hId)

/-
  Citations name one item each exactly if the nodes and the
  graph's evidence of the context are told apart by the parts
  that their ids show.
-/
theorem citation_ids_exact_iff
    [Platform]
    (hDigest : Function.Injective digest)
    (graph : AuthorizationGraph)
    (request : AIContextRequest) :
    (∀ context,
        assemble digest graph request = .ok context →
          CitesEach context) ↔
      CitedApart digest graph request := by
  constructor
  · intro hCites
    unfold CitedApart
    simp only
    intro collected hCollected
    apply apart_of_citesEach
    apply hCites
    unfold assemble
    simp only
    rw [hCollected]
    rfl
  · intro hApart context hAssembled
    rcases assemble_cases hAssembled with
      ⟨collected, hCollected, rfl⟩
    rcases hApart collected hCollected with ⟨hNodes, hItems⟩
    exact citesEach_of_apart hDigest hCollected hNodes hItems

section

attribute [local instance] asciiPlatform

theorem citation_ids_exact_iff_circle :
    Function.Injective (id : String → String) ∧
      ((∀ context,
          assemble id circleGraph managerQuestion =
              .ok context →
            CitesEach context) ↔
        CitedApart id circleGraph managerQuestion) :=
  ⟨Function.injective_id,
    @citation_ids_exact_iff id asciiPlatform
      Function.injective_id circleGraph managerQuestion⟩

/- A question about an application with two entitlements. -/
def applicationQuestion : AIContextRequest where
  question := "Salesforce?"
  applicationId := some 1
  question_length := by decide
  maxTokens_range := by decide

/- The first application and its entitlements, as seeded. -/
def salesforceStore : Store :=
  { Store.empty .sqlite with
    applications :=
      { rows := [⟨1, "Salesforce", "salesforce"⟩]
        issued := 1
        sorted := by decide
        bounded := by decide
        unique := by decide }
    entitlements :=
      { rows :=
          [ ⟨1, "Salesforce User", "user", 1⟩,
            ⟨2, "Salesforce Administrator",
              "administrator", 1⟩ ]
        issued := 2
        sorted := by decide
        bounded := by decide
        unique := by decide } }

def salesforceGraph : AuthorizationGraph :=
  buildAuthorizationGraph salesforceStore []

/- Two items share an id, in evidence that fits. -/
def SharesId
    (request : AIContextRequest)
    (collected : List AIEvidence) : Prop :=
  (collected.map estimateEvidenceTokens).sum ≤
      request.maxTokens - reservedTokens request ∧
    ∃ item ∈ collected, ∃ other ∈ collected,
      item.duplicateKey ≠ other.duplicateKey ∧
        item.id = other.id

/- Then some citation names more than one item. -/
theorem not_citesEach_of_sharesId
    {graph : AuthorizationGraph}
    {request : AIContextRequest}
    {classification : IntentClassification}
    {collected : List AIEvidence}
    (hShares : SharesId request collected) :
    ¬ CitesEach
        (contextOf graph request classification
          collected) := by
  intro hCites
  rcases hShares with
    ⟨hSum, item, hItem, other, hOther, hKey, hId⟩
  have hMem :
      ∀ found ∈ collected,
        (ranked classification.intent found).estimated ∈
          (contextOf graph request classification
            collected).evidence := by
    intro found hFound
    rw [mem_contextOf_iff]
    refine ⟨found, hFound, ?_, rfl⟩
    rw [fittingEvidence_eq hSum,
      (rankEvidence_perm _ _).mem_iff]
    exact List.mem_map_of_mem hFound
  exact
    hCites.apart _ (hMem item hItem) _ (hMem other hOther)
      hKey hId

/- What is said of one entitlement of the application. -/
def grantEvidence
    (description : String) :
    AIEvidence where
  id :=
    "ai-evidence:GRANTS_ACCESS_TO|" ++
      "/applications/1/entitlements|" ++
      "Entitlement belongs to application|"
  evidenceType := "GRANTS_ACCESS_TO"
  title := "Entitlement belongs to application"
  description := description
  reference := "/applications/1/entitlements"
  relationshipType := some "GRANTS_ACCESS_TO"
  nodeId := some "Application:1"
  distance := some 1

def userGrant : AIEvidence :=
  grantEvidence
    "Salesforce User --GRANTS_ACCESS_TO-> Salesforce"

def administratorGrant : AIEvidence :=
  grantEvidence
    ("Salesforce Administrator " ++
      "--GRANTS_ACCESS_TO-> Salesforce")

/- What is collected about the application. -/
def salesforceEvidence : List AIEvidence :=
  [ { id :=
        "ai-evidence:Application|/applications/1|" ++
          "Application: Salesforce|"
      evidenceType := "Application"
      title := "Application: Salesforce"
      description :=
        "Graph node Application:1 exists in the " ++
          "authorization graph."
      reference := "/applications/1"
      nodeId := some "Application:1"
      distance := some 1 },
    userGrant,
    administratorGrant ]

theorem collectEvidence_application :
    collectEvidence id applicationQuestion
        (classifyIntent applicationQuestion)
        salesforceGraph =
      .ok (deduplicateEvidence salesforceEvidence) := by
  have hClass :
      classifyIntent applicationQuestion =
        ⟨.general, 55, ["fallback_general"], "salesforce",
          none, some 1, none⟩ := by
    decide +kernel
  have hDetails :
      nodeDetailEvidence id salesforceGraph
          (rowNodeId .application 1) 1 =
        salesforceEvidence := by
    decide +kernel
  rw [hClass]
  unfold collectEvidence intentEvidence namedEvidence
  simp only [hDetails, List.append_nil, List.nil_append]
  rfl

/- The three items fit into the budget. -/
theorem sum_salesforceEvidence_le :
    ((deduplicateEvidence salesforceEvidence).map
        estimateEvidenceTokens).sum ≤
      applicationQuestion.maxTokens -
        reservedTokens applicationQuestion := by
  have hKept :
      ((deduplicateEvidence salesforceEvidence).map
          estimateEvidenceTokens).sum ≤
        (salesforceEvidence.map
          estimateEvidenceTokens).sum := by
    rcases deduplicateEvidence_subperm salesforceEvidence
      with ⟨kept, hPerm, hSublist⟩
    rw [← (hPerm.map estimateEvidenceTokens).sum_eq]
    exact (hSublist.map _).sum_le_sum fun _ _ => Nat.zero_le _
  have hEach :
      ∀ item ∈ salesforceEvidence,
        estimateEvidenceTokens item ≤ 100 := by
    have hLengths :
        salesforceEvidence.all fun item =>
          (item.parts.map String.length).sum ≤ 394 := by
      decide +kernel
    intro item hItem
    have hLength :=
      of_decide_eq_true
        (List.all_eq_true.mp hLengths item hItem)
    have hEstimate := estimateEvidenceTokens_le item
    omega
  have hSum :=
    List.sum_le_card_nsmul
      (salesforceEvidence.map estimateEvidenceTokens) 100
      (by simpa using hEach)
  have hReserved :
      reservedTokens applicationQuestion = 83 := by
    decide +kernel
  have hMax : applicationQuestion.maxTokens = 1200 := rfl
  have hCount :
      (salesforceEvidence.map
        estimateEvidenceTokens).length = 3 :=
    rfl
  rw [hCount, smul_eq_mul] at hSum
  omega

/- A grant that is kept shows the id of the grants. -/
theorem exists_kept_grant
    {grant : AIEvidence}
    (hGrant : grant = userGrant ∨ grant = administratorGrant) :
    ∃ kept ∈ deduplicateEvidence salesforceEvidence,
      kept.duplicateKey = grant.duplicateKey ∧
        kept.id = userGrant.id := by
  have hMem : grant ∈ salesforceEvidence := by
    unfold salesforceEvidence
    rcases hGrant with hUser | hAdministrator
    · simp [hUser]
    · simp [hAdministrator]
  have hType : grant.evidenceType = "GRANTS_ACCESS_TO" := by
    rcases hGrant with hUser | hAdministrator
    · rw [hUser]
      rfl
    · rw [hAdministrator]
      rfl
  rcases exists_kept_copy hMem with
    ⟨kept, hKept, hThere, hKey⟩
  refine ⟨kept, hKept, hKey, ?_⟩
  have hSame : kept.evidenceType = "GRANTS_ACCESS_TO" := by
    rw [← hType]
    exact congrArg Prod.fst hKey
  unfold salesforceEvidence at hThere
  simp only [List.mem_cons, List.not_mem_nil, or_false]
    at hThere
  rcases hThere with rfl | rfl | rfl
  · exact absurd hSame (by decide)
  · rfl
  · rfl

/- Both entitlements are cited by the same id. -/
theorem entitlements_share_citation :
    ∃ context,
      assemble id salesforceGraph applicationQuestion =
          .ok context ∧
        ¬ CitesEach context := by
  rcases exists_kept_grant (Or.inl rfl) with
    ⟨item, hItem, hItemKey, hItemId⟩
  rcases exists_kept_grant (Or.inr rfl) with
    ⟨other, hOther, hOtherKey, hOtherId⟩
  have hApart : item.duplicateKey ≠ other.duplicateKey := by
    rw [hItemKey, hOtherKey]
    intro hKey
    have hDescription :
        userGrant.description =
          administratorGrant.description :=
      congrArg (·.2.2.1) hKey
    exact absurd hDescription (by decide)
  have hShares :
      SharesId applicationQuestion
        (deduplicateEvidence salesforceEvidence) :=
    ⟨sum_salesforceEvidence_le, item, hItem, other, hOther,
      hApart, hItemId.trans hOtherId.symm⟩
  unfold assemble
  simp only
  rw [collectEvidence_application]
  exact ⟨_, rfl, not_citesEach_of_sharesId hShares⟩

end

end Ai

end AccessIQ
