import AccessIQ.Ai.Budget
import AccessIQ.Ai.Collection

/-
  The context of a question.

  The evidence that a question calls for is ranked and cut to
  the budget, of which a part is reserved for the question.

  Key definitions include:
    * `Citation`
    * `AIContext`
    * `reservedTokens`
    * `assemble`
    * `fittingEvidence`
    * `ContextExact`

  Key theorems include:
    * `assemble_cases`
    * `evidence_contextOf`
    * `budget_bookkeeping_exact`
-/

------------------------------------------------------------
-- Assembly
------------------------------------------------------------

namespace AccessIQ

namespace Ai

open AccessIQ.Graph Python

structure Citation where
  id : String
  title : String
  reference : String
  correlationId : Option String := none
  deriving DecidableEq, Repr

/- The citation of an item. -/
def AIEvidence.citation
    (item : AIEvidence) :
    Citation where
  id := item.id
  title := item.title
  reference := item.reference
  correlationId := item.correlationId

/- What a question is about. -/
structure Subject where
  userId : Option Int
  applicationId : Option Int
  entitlementId : Option Int
  sourceType : Option NodeType
  sourceId : Option String
  targetType : Option NodeType
  targetId : Option String
  deriving DecidableEq, Repr

structure GraphSummary where
  source : String
  nodeCount : Nat
  edgeCount : Nat
  deriving DecidableEq, Repr

structure AIContext where
  question : String
  intent : IntentClassification
  subject : Subject
  evidence : List AIEvidence
  citations : List Citation
  tokenBudget : TokenBudget
  graphSummary : GraphSummary
  deriving DecidableEq, Repr

/- The part of the budget for the question. -/
def reservedTokens
    (request : AIContextRequest) :
    Nat :=
  min (request.maxTokens / 3)
    (estimateTokens request.question + 80)

/- The context with the evidence that was collected. -/
def contextOf
    (graph : AuthorizationGraph)
    (request : AIContextRequest)
    (classification : IntentClassification)
    (collected : List AIEvidence) :
    AIContext :=
  let rankedEvidence :=
    rankEvidence collected classification.intent
  let (budgetedEvidence, tokenBudget) :=
    applyTokenBudget rankedEvidence request.maxTokens
      (reservedTokens request)
  { question := request.question
    intent := classification
    subject :=
      { userId := classification.userId
        applicationId := classification.applicationId
        entitlementId := classification.entitlementId
        sourceType := request.sourceType
        sourceId := request.sourceId
        targetType := request.targetType
        targetId := request.targetId }
    evidence := budgetedEvidence
    citations := budgetedEvidence.map AIEvidence.citation
    tokenBudget := tokenBudget
    graphSummary :=
      { source := "authorization_graph"
        nodeCount := graph.nodes.keys.length
        edgeCount := graph.edges.length } }

/- `AIContextAssembler.assemble` -/
def assemble
    [Platform]
    (digest : String → String)
    (graph : AuthorizationGraph)
    (request : AIContextRequest) :
    Except (KeyError String) AIContext :=
  let classification := classifyIntent request
  (collectEvidence digest request classification graph).map
    (contextOf graph request classification)

end Ai

end AccessIQ

------------------------------------------------------------
-- The Budget Of A Context
------------------------------------------------------------

namespace AccessIQ

namespace Ai

open AccessIQ.Graph Foundations Python

/- A context comes from the evidence that was collected. -/
theorem assemble_cases
    [Platform]
    {digest : String → String}
    {graph : AuthorizationGraph}
    {request : AIContextRequest}
    {context : AIContext}
    (hAssembled :
      assemble digest graph request = .ok context) :
    ∃ collected,
      collectEvidence digest request (classifyIntent request)
          graph =
        .ok collected ∧
      context =
        contextOf graph request (classifyIntent request)
          collected := by
  unfold assemble at hAssembled
  simp only at hAssembled
  cases hCollected :
      collectEvidence digest request (classifyIntent request)
        graph with
  | error e =>
      rw [hCollected] at hAssembled
      cases hAssembled
  | ok collected =>
      rw [hCollected] at hAssembled
      cases hAssembled
      exact ⟨collected, rfl, rfl⟩

/- What of the evidence fits, by rank. -/
def fittingEvidence
    (request : AIContextRequest)
    (intent : IntentType)
    (collected : List AIEvidence) :
    List AIEvidence :=
  greedy estimateEvidenceTokens
    (request.maxTokens - reservedTokens request)
    (rankEvidence collected intent)

/- The evidence of a context, by rank, with estimates. -/
theorem evidence_contextOf
    (graph : AuthorizationGraph)
    (request : AIContextRequest)
    (classification : IntentClassification)
    (collected : List AIEvidence) :
    (contextOf graph request classification
        collected).evidence =
      (fittingEvidence request classification.intent
        collected).map AIEvidence.estimated := by
  have hRoom :
      availableTokens request.maxTokens
          (reservedTokens request) =
        request.maxTokens - reservedTokens request := by
    unfold availableTokens
    omega
  unfold contextOf fittingEvidence
  simp only
  rw [applyTokenBudget_eq, hRoom]

/- Evidence that fits is a ranked copy of a collected item. -/
theorem exists_of_mem_fittingEvidence
    {request : AIContextRequest}
    {intent : IntentType}
    {collected : List AIEvidence}
    {item : AIEvidence}
    (hItem : item ∈ fittingEvidence request intent collected) :
    ∃ found ∈ collected, item = ranked intent found := by
  have hRanked : item ∈ rankEvidence collected intent :=
    (greedy_sublist _ _ _).subset hItem
  rw [(rankEvidence_perm collected intent).mem_iff] at hRanked
  rcases List.mem_map.mp hRanked with ⟨found, hFound, rfl⟩
  exact ⟨found, hFound, rfl⟩

/- Evidence that fits as a whole is included as a whole. -/
theorem fittingEvidence_eq
    {request : AIContextRequest}
    {collected : List AIEvidence}
    (hSum :
      (collected.map estimateEvidenceTokens).sum ≤
        request.maxTokens - reservedTokens request)
    (intent : IntentType) :
    fittingEvidence request intent collected =
      rankEvidence collected intent := by
  have hSizes :
      ((collected.map (ranked intent)).map
          estimateEvidenceTokens) =
        collected.map estimateEvidenceTokens := by
    rw [List.map_map]
    apply List.map_congr_left
    intro item _
    rw [Function.comp_apply, estimateEvidenceTokens_ranked]
  have hPerm :=
    (rankEvidence_perm collected intent).map
      estimateEvidenceTokens
  unfold fittingEvidence
  apply greedy_eq_self
  rw [hPerm.sum_eq, hSizes]
  exact hSum

/- Not more than the budget is reserved. -/
theorem reservedTokens_le
    (request : AIContextRequest) :
    reservedTokens request ≤ request.maxTokens := by
  unfold reservedTokens
  have hThird := Nat.div_le_self request.maxTokens 3
  omega

/-
  The bookkeeping of a context: its intent is that of the
  question, its citations are those of its evidence, in order,
  and the budget is exact for the evidence that is collected,
  by rank.
-/
structure ContextExact
    [Platform]
    (digest : String → String)
    (graph : AuthorizationGraph)
    (request : AIContextRequest)
    (context : AIContext) : Prop where
  intent : context.intent = classifyIntent request
  reserved :
    context.tokenBudget.reservedTokens =
      reservedTokens request
  reserved_le :
    context.tokenBudget.reservedTokens ≤ request.maxTokens
  citations :
    context.citations =
      context.evidence.map AIEvidence.citation
  bookkeeping :
    ∃ collected,
      collectEvidence digest request context.intent graph =
        .ok collected ∧
      BudgetExact
        (rankEvidence collected context.intent.intent)
        request.maxTokens (reservedTokens request)
        context.evidence context.tokenBudget

/-
  The bookkeeping of every budget is exact, and so is that of
  every context that is assembled.
-/
theorem budget_bookkeeping_exact
    [Platform] :
    (∀ (evidence : List AIEvidence)
        (maxTokens reserved : Int),
      0 ≤ reserved → reserved ≤ maxTokens →
        BudgetExact evidence maxTokens reserved
          (applyTokenBudget evidence maxTokens reserved).1
          (applyTokenBudget evidence maxTokens
            reserved).2) ∧
      ∀ (digest : String → String)
        (graph : AuthorizationGraph)
        (request : AIContextRequest)
        (context : AIContext),
        assemble digest graph request = .ok context →
          ContextExact digest graph request context := by
  constructor
  · intro evidence maxTokens reserved _ hMax
    exact applyTokenBudget_exact hMax
  · intro digest graph request context hAssembled
    rcases assemble_cases hAssembled with
      ⟨collected, hCollected, rfl⟩
    have hReserved :
        (reservedTokens request : Int) ≤ request.maxTokens :=
      Int.ofNat_le.mpr (reservedTokens_le request)
    exact
      { intent := rfl
        reserved := rfl
        reserved_le := hReserved
        citations := rfl
        bookkeeping :=
          ⟨collected, hCollected,
            applyTokenBudget_exact hReserved⟩ }

end Ai

end AccessIQ

------------------------------------------------------------
-- A Question About A Circle
------------------------------------------------------------

namespace AccessIQ

namespace Ai

open AccessIQ.Graph Python

attribute [local instance] asciiPlatform

/- A question about a user who is managed in a circle. -/
def managerQuestion : AIContextRequest where
  question := "Who is in the manager chain of user 1?"
  maxTokens := 60
  question_length := by decide
  maxTokens_range := by decide

theorem assemble_managerQuestion :
    ∃ context,
      assemble id circleGraph managerQuestion =
        .ok context := by
  have hSome :
      (assemble id circleGraph
        managerQuestion).toOption.isSome = true := by
    decide +kernel
  cases hAssembled :
      assemble id circleGraph managerQuestion with
  | error e =>
      rw [hAssembled] at hSome
      cases hSome
  | ok context => exact ⟨context, rfl⟩

theorem budget_bookkeeping_exact_circle :
    BudgetExact [longEvidence, shortEvidence] 60 50
        (applyTokenBudget [longEvidence, shortEvidence] 60
          50).1
        (applyTokenBudget [longEvidence, shortEvidence] 60
          50).2 ∧
      ∃ context,
        assemble id circleGraph managerQuestion =
            .ok context ∧
          ContextExact id circleGraph managerQuestion
            context := by
  have hExact := @budget_bookkeeping_exact asciiPlatform
  refine ⟨?_, ?_⟩
  · exact hExact.1 _ 60 50 (by decide) (by decide)
  · rcases assemble_managerQuestion with
      ⟨context, hAssembled⟩
    exact ⟨context, hAssembled,
      hExact.2 id circleGraph managerQuestion context
        hAssembled⟩

end Ai

end AccessIQ
