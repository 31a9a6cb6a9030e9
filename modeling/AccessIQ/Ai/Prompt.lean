import AccessIQ.Ai.Context

/-
  The prompt of a context.

  The evidence is laid out in numbered lines under the
  question, after the instructions.  The budget counts what
  the evidence says, not its layout, and reserves less than
  the instructions take, so the prompt goes over the budget
  unless the evidence leaves enough of it.

  Key definitions include:
    * `StructuredPrompt`
    * `buildPrompt`
    * `promptTokens`
    * `layoutTokens`
    * `PromptFits`

  Key theorems include:
    * `promptTokens_buildPrompt`
    * `prompt_within_budget_iff`
    * `lt_promptTokens`
-/

------------------------------------------------------------
-- The Prompt
------------------------------------------------------------

namespace AccessIQ

namespace Ai

def systemInstructions : List String :=
  ["Use only the assembled AccessIQ evidence supplied in " ++
      "this prompt.",
    "Do not make authorization, provisioning, governance, " ++
      "or policy decisions.",
    "Do not invent facts that are not present in the " ++
      "evidence.",
    "Cite evidence by reference when explaining graph " ++
      "relationships."]

/- `CONSTRAINTS` -/
def promptConstraints : List String :=
  ["The authorization graph is deterministic and read-only.",
    "The future LLM provider must not mutate AccessIQ " ++
      "state.",
    "Policy, provisioning, review, and remediation " ++
      "decisions remain outside AI.",
    "If evidence is insufficient, say what evidence is " ++
      "missing."]

inductive PromptRole where
  | system
  | user
  deriving DecidableEq, Repr

structure PromptMessage where
  role : PromptRole
  content : String
  deriving DecidableEq, Repr

structure StructuredPrompt where
  systemInstructions : List String
  userQuestion : String
  assembledEvidence : List AIEvidence
  citations : List Citation
  constraints : List String
  messages : List PromptMessage
  deriving DecidableEq, Repr

/- The line of an item, with its number. -/
def evidenceLine
    (index : Nat)
    (item : AIEvidence) :
    String :=
  s!"[{index}] {item.title} | {item.description} | " ++
    s!"reference={item.reference}"

/- The lines of the evidence, numbered from one. -/
def evidenceLines
    (evidence : List AIEvidence) :
    List String :=
  (evidence.zipIdx 1).map fun (item, index) =>
    evidenceLine index item

def evidenceText
    (evidence : List AIEvidence) :
    String :=
  if evidenceLines evidence = [] then
    "No evidence."
  else
    "\n".intercalate (evidenceLines evidence)

def userContent
    (question : String)
    (intent : IntentType)
    (evidence : List AIEvidence) :
    String :=
  s!"Question: {question}\n" ++
    s!"Intent: {intent.value}\n\n" ++
    s!"Evidence:\n{evidenceText evidence}"

def systemContent : String :=
  "\n".intercalate (systemInstructions ++ promptConstraints)

/- `build_prompt` -/
def buildPrompt
    (context : AIContext) :
    StructuredPrompt where
  systemInstructions := systemInstructions
  userQuestion := context.question
  assembledEvidence := context.evidence
  citations := context.citations
  constraints := promptConstraints
  messages :=
    [{ role := .system, content := systemContent },
      { role := .user
        content :=
          userContent context.question context.intent.intent
            context.evidence }]

/- The tokens of the messages of a prompt. -/
def promptTokens
    (prompt : StructuredPrompt) :
    Nat :=
  (prompt.messages.map fun message =>
    estimateTokens message.content).sum

end Ai

end AccessIQ

------------------------------------------------------------
-- The Length Of A Prompt
------------------------------------------------------------

namespace AccessIQ

namespace Ai

open Foundations Python

/- The blanks at the end of a text. -/
def blanksAtEnd
    (text : String) :
    Nat :=
  (text.toList.reverse.takeWhile isSpace).length

/- The characters of the line of an item. -/
def lineLength
    (index : Nat)
    (item : AIEvidence) :
    Nat :=
  19 + (toString index).length + item.title.length +
    item.description.length + item.reference.length

/- The characters of the evidence from some number on. -/
def linesLength :
    Nat → List AIEvidence → Nat
  | _, [] => 0
  | index, [item] => lineLength index item
  | index, item :: rest =>
      lineLength index item + 1 + linesLength (index + 1) rest

/- The characters of the evidence, or of its absence. -/
def evidenceLength
    (evidence : List AIEvidence) :
    Nat :=
  if evidence = [] then 12 else linesLength 1 evidence

/- The blanks that the last reference ends with. -/
def lastBlanks
    (evidence : List AIEvidence) :
    Nat :=
  match evidence.getLast? with
  | none => 0
  | some item => blanksAtEnd item.reference

/-
  The tokens of the prompt of a question: 127 for the
  instructions, and one for every four characters of the
  message, rounded up.
-/
def layoutTokens
    (question : String)
    (intent : IntentType)
    (evidence : List AIEvidence) :
    Nat :=
  127 +
    (31 + question.length + intent.value.length +
      evidenceLength evidence - lastBlanks evidence + 3) / 4

/- Blanks are cut off up to the last other character. -/
theorem blanksAtEnd_append
    (front : List Char)
    {back : List Char}
    {c : Char}
    (hPlain : isSpace c = false) :
    blanksAtEnd (String.ofList (front ++ c :: back)) =
      blanksAtEnd (String.ofList back) := by
  unfold blanksAtEnd
  rw [String.toList_ofList, String.toList_ofList,
    List.reverse_append, List.reverse_cons,
    List.append_assoc, List.singleton_append,
    List.takeWhile_append]
  by_cases hAll :
      (back.reverse.takeWhile isSpace).length =
        back.reverse.length
  · rw [if_pos hAll,
      List.takeWhile_cons_of_neg (by simp [hPlain]),
      List.append_nil, hAll]
  · rw [if_neg hAll]

/- A text that starts with no blank loses those at its end. -/
theorem length_strip
    {text : List Char}
    {c : Char}
    (hPlain : isSpace c = false) :
    (strip (String.ofList (c :: text))).length =
      (c :: text).length -
        blanksAtEnd (String.ofList (c :: text)) := by
  have hFront :
      (c :: text).dropWhile isSpace = c :: text :=
    List.dropWhile_cons_of_neg (by simp [hPlain])
  unfold strip blanksAtEnd
  rw [String.toList_ofList, hFront, String.length_ofList,
    List.length_reverse]
  have hSplit :=
    congrArg List.length
      (List.takeWhile_append_dropWhile (p := isSpace)
        (l := (c :: text).reverse))
  rw [List.length_append, List.length_reverse] at hSplit
  omega

/- Text with no blank at either end is left as it is. -/
theorem length_strip_of_ends
    {value : String}
    {text front : List Char}
    {first last : Char}
    (hFirst : isSpace first = false)
    (hLast : isSpace last = false)
    (hBegins : value.toList = first :: text)
    (hEnds : value.toList = front ++ [last]) :
    (strip value).length = value.length := by
  have hBlanks : blanksAtEnd value = 0 := by
    have hValue :
        value = String.ofList (front ++ last :: []) := by
      apply String.toList_injective
      rw [String.toList_ofList, hEnds]
    rw [hValue, blanksAtEnd_append front hLast]
    rfl
  have hValue : value = String.ofList (first :: text) := by
    apply String.toList_injective
    rw [String.toList_ofList, hBegins]
  have hStrip := @length_strip text first hFirst
  rw [← hValue, hBlanks, ← hBegins, String.length_toList,
    Nat.sub_zero] at hStrip
  exact hStrip

/- Joined lines end with the last one. -/
theorem intercalate_ends
    {lines : List String}
    {last : String}
    (hLast : lines.getLast? = some last) :
    ∃ front,
      ("\n".intercalate lines).toList =
        front ++ last.toList := by
  induction lines with
  | nil => cases hLast
  | cons line rest ih =>
      cases rest with
      | nil =>
          cases hLast
          exact ⟨[], by simp⟩
      | cons next others =>
          rw [List.getLast?_cons_cons] at hLast
          rcases ih hLast with ⟨front, hFront⟩
          refine
            ⟨line.toList ++ "\n".toList ++ front, ?_⟩
          rw [String.intercalate_cons_cons,
            String.toList_append, String.toList_append,
            hFront, List.append_assoc, List.append_assoc,
            List.append_assoc]

/- The instructions take 127 tokens. -/
theorem estimateTokens_systemContent :
    estimateTokens systemContent = 127 := by
  have hLengths :
      (systemInstructions ++ promptConstraints).map
          String.length =
        [65, 73, 57, 63, 55, 55, 74, 58] := by
    decide +kernel
  have hLength : systemContent.length = 507 := by
    have hLines :
        systemInstructions ++ promptConstraints ≠ [] :=
      List.cons_ne_nil _ _
    have hCount :
        (systemInstructions ++ promptConstraints).length =
          8 :=
      rfl
    have hFeed : "\n".length = 1 := rfl
    have hSum := length_intercalate hFeed hLines
    rw [hLengths, hCount] at hSum
    simp only [List.sum_cons, List.sum_nil] at hSum
    unfold systemContent
    omega
  have hBegins :
      systemContent.toList =
        'U' :: systemContent.toList.tail := by
    unfold systemContent systemInstructions
    rw [List.cons_append, List.cons_append,
      String.intercalate_cons_cons, String.toList_append,
      String.toList_append]
    rfl
  have hLast :
      (systemInstructions ++ promptConstraints).getLast? =
        some
          ("If evidence is insufficient, say what " ++
            "evidence is missing.") :=
    rfl
  rcases intercalate_ends hLast with ⟨front, hEnds⟩
  have hPoint :
      ("If evidence is insufficient, say what " ++
          "evidence is missing.").toList =
        ("If evidence is insufficient, say what " ++
          "evidence is missing").toList ++ ['.'] := by
    decide +kernel
  rw [hPoint, ← List.append_assoc] at hEnds
  have hStrip :=
    length_strip_of_ends (by decide) (by decide) hBegins
      hEnds
  rw [hLength] at hStrip
  have hSome : strip systemContent ≠ "" := by
    intro hNone
    rw [hNone] at hStrip
    cases hStrip
  unfold estimateTokens
  simp only
  rw [if_neg hSome, hStrip]
  omega

/- What a line consists of. -/
theorem length_evidenceLine
    (index : Nat)
    (item : AIEvidence) :
    (evidenceLine index item).length =
      lineLength index item := by
  have hOpen : "[".length = 1 := rfl
  have hClose : "] ".length = 2 := rfl
  have hBar : " | ".length = 3 := rfl
  have hReference : "reference=".length = 10 := rfl
  unfold evidenceLine lineLength
  simp only [toString, String.length_append, hOpen, hClose,
    hBar, hReference]
  omega

/- The lines are as long as their parts, with line feeds. -/
theorem length_intercalate_lines
    (evidence : List AIEvidence)
    (index : Nat) :
    ("\n".intercalate
        ((evidence.zipIdx index).map fun (item, number) =>
          evidenceLine number item)).length =
      linesLength index evidence := by
  induction evidence generalizing index with
  | nil => rfl
  | cons item rest ih =>
      cases rest with
      | nil =>
          simp [linesLength, length_evidenceLine]
      | cons next others =>
          have hRest := ih (index + 1)
          simp only [List.zipIdx_cons, List.map_cons,
            String.intercalate_cons_cons,
            String.length_append, length_evidenceLine,
            linesLength] at hRest ⊢
          rw [hRest]
          rfl

theorem length_evidenceText
    (evidence : List AIEvidence) :
    (evidenceText evidence).length =
      evidenceLength evidence := by
  unfold evidenceText evidenceLength
  by_cases hNone : evidence = []
  · subst hNone
    rfl
  · have hLines : evidenceLines evidence ≠ [] := by
      simpa [evidenceLines] using hNone
    rw [if_neg hLines, if_neg hNone]
    exact length_intercalate_lines evidence 1

/- The evidence ends with the last reference. -/
theorem evidenceText_ends
    {evidence : List AIEvidence}
    {item : AIEvidence}
    (hLast : evidence.getLast? = some item) :
    ∃ front,
      (evidenceText evidence).toList =
        front ++ '=' :: item.reference.toList := by
  have hSome : evidence ≠ [] := by
    intro hNone
    subst hNone
    cases hLast
  have hLines : evidenceLines evidence ≠ [] := by
    simpa [evidenceLines] using hSome
  have hLine :
      (evidenceLines evidence).getLast? =
        some (evidenceLine evidence.length item) := by
    unfold evidenceLines
    rw [List.getLast?_map, List.getLast?_zipIdx, hLast]
    simp [Nat.add_comm]
  rcases intercalate_ends hLine with ⟨front, hFront⟩
  unfold evidenceText
  rw [if_neg hLines, hFront]
  unfold evidenceLine
  refine
    ⟨front ++
      (s!"[{evidence.length}] {item.title} | " ++
        s!"{item.description} | reference").toList,
      ?_⟩
  simp [toString]

/- The message begins with its first word. -/
theorem userContent_begins
    (question : String)
    (intent : IntentType)
    (evidence : List AIEvidence) :
    ∃ text,
      userContent question intent evidence =
        String.ofList ('Q' :: text) := by
  refine
    ⟨(userContent question intent evidence).toList.tail,
      ?_⟩
  apply String.toList_injective
  rw [String.toList_ofList]
  unfold userContent
  simp [toString]

/- The message ends with the evidence. -/
theorem userContent_ends
    (question : String)
    (intent : IntentType)
    (evidence : List AIEvidence) :
    ∃ front,
      userContent question intent evidence =
        front ++ evidenceText evidence := by
  refine
    ⟨s!"Question: {question}\n" ++
      s!"Intent: {intent.value}\n\n" ++ "Evidence:\n", ?_⟩
  unfold userContent
  simp only [toString, String.append_assoc]

/- The blanks at the end are those of its last reference. -/
theorem blanksAtEnd_userContent
    (question : String)
    (intent : IntentType)
    (evidence : List AIEvidence) :
    blanksAtEnd (userContent question intent evidence) =
      lastBlanks evidence := by
  rcases userContent_ends question intent evidence with
    ⟨before, hBefore⟩
  have hEnds :
      ∀ front : List Char,
        ∀ c : Char,
          ∀ back : List Char,
            isSpace c = false →
              (evidenceText evidence).toList =
                front ++ c :: back →
              blanksAtEnd
                  (userContent question intent evidence) =
                blanksAtEnd (String.ofList back) := by
    intro front c back hPlain hText
    rw [← blanksAtEnd_append (before.toList ++ front)
      hPlain]
    congr 1
    apply String.toList_injective
    rw [String.toList_ofList, List.append_assoc, ← hText,
      hBefore, String.toList_append]
  unfold lastBlanks
  cases hLast : evidence.getLast? with
  | none =>
      rw [List.getLast?_eq_none_iff] at hLast
      subst hLast
      have hText :
          (evidenceText []).toList =
            "No evidence".toList ++ ['.'] := by
        decide
      exact hEnds _ '.' [] (by decide) hText
  | some item =>
      rcases evidenceText_ends hLast with ⟨front, hText⟩
      have hEquals : isSpace '=' = false := by decide
      rw [hEnds front '=' _ hEquals hText,
        String.ofList_toList]

theorem length_userContent
    (question : String)
    (intent : IntentType)
    (evidence : List AIEvidence) :
    (userContent question intent evidence).length =
      31 + question.length + intent.value.length +
        evidenceLength evidence := by
  have hQuestion : "Question: ".length = 10 := rfl
  have hIntent : "Intent: ".length = 8 := rfl
  have hEvidence : "Evidence:\n".length = 10 := rfl
  have hFeed : "\n".length = 1 := rfl
  have hFeeds : "\n\n".length = 2 := rfl
  unfold userContent
  simp only [toString, String.length_append, hQuestion,
    hIntent, hEvidence, hFeed, hFeeds, length_evidenceText]
  omega

theorem blanksAtEnd_le
    (text : String) :
    blanksAtEnd text ≤ text.length := by
  unfold blanksAtEnd
  have hWhile :=
    (List.takeWhile_sublist (l := text.toList.reverse)
      isSpace).length_le
  rwa [List.length_reverse, String.length_toList] at hWhile

/- The last line is longer than the last reference. -/
theorem reference_le_linesLength
    {evidence : List AIEvidence}
    {item : AIEvidence}
    (hLast : evidence.getLast? = some item)
    (index : Nat) :
    19 + item.reference.length ≤
      linesLength index evidence := by
  induction evidence generalizing index with
  | nil => cases hLast
  | cons head rest ih =>
      cases rest with
      | nil =>
          have hHead : head = item := by simpa using hLast
          subst hHead
          unfold linesLength lineLength
          omega
      | cons next others =>
          rw [List.getLast?_cons_cons] at hLast
          have hRest := ih hLast (index + 1)
          unfold linesLength
          omega

theorem lastBlanks_le
    (evidence : List AIEvidence) :
    lastBlanks evidence + 12 ≤ evidenceLength evidence := by
  unfold lastBlanks evidenceLength
  cases hLast : evidence.getLast? with
  | none =>
      rw [List.getLast?_eq_none_iff] at hLast
      rw [if_pos hLast]
  | some item =>
      have hSome : evidence ≠ [] := by
        intro hNone
        subst hNone
        cases hLast
      rw [if_neg hSome]
      have hReference := reference_le_linesLength hLast 1
      have hBlanks := blanksAtEnd_le item.reference
      simp only
      omega

/- The tokens of the message. -/
theorem estimateTokens_userContent
    (question : String)
    (intent : IntentType)
    (evidence : List AIEvidence) :
    estimateTokens (userContent question intent evidence) =
      (31 + question.length + intent.value.length +
        evidenceLength evidence - lastBlanks evidence +
        3) / 4 := by
  rcases userContent_begins question intent evidence with
    ⟨text, hBegins⟩
  have hBlanks := lastBlanks_le evidence
  have hLength :
      (strip (userContent question intent evidence)).length =
        31 + question.length + intent.value.length +
          evidenceLength evidence - lastBlanks evidence := by
    rw [← blanksAtEnd_userContent question intent evidence,
      ← length_userContent question intent evidence,
      hBegins, length_strip (by decide),
      String.length_ofList]
  have hSome :
      strip (userContent question intent evidence) ≠ "" := by
    intro hNone
    rw [hNone, String.length_empty] at hLength
    omega
  unfold estimateTokens
  simp only
  rw [if_neg hSome, hLength]
  omega

theorem promptTokens_buildPrompt
    (context : AIContext) :
    promptTokens (buildPrompt context) =
      layoutTokens context.question context.intent.intent
        context.evidence := by
  unfold promptTokens buildPrompt layoutTokens
  simp only [List.map_cons, List.map_nil, List.sum_cons,
    List.sum_nil, Nat.add_zero, estimateTokens_systemContent,
    estimateTokens_userContent]

/- No prompt takes less than 140 tokens. -/
theorem layoutTokens_ge
    {question : String}
    (hQuestion : 1 ≤ question.length)
    (intent : IntentType)
    (evidence : List AIEvidence) :
    140 ≤ layoutTokens question intent evidence := by
  have hBlanks := lastBlanks_le evidence
  have hIntent : 6 ≤ intent.value.length := by
    cases intent <;> decide
  unfold layoutTokens
  omega

end Ai

end AccessIQ

------------------------------------------------------------
-- Prompts And Budgets
------------------------------------------------------------

namespace AccessIQ

namespace Ai

open AccessIQ.Graph Foundations Python

/-
  The instructions, the question and the evidence that fits
  leave room for their layout.
-/
def PromptFits
    [Platform]
    (digest : String → String)
    (graph : AuthorizationGraph)
    (request : AIContextRequest) : Prop :=
  let classification := classifyIntent request
  ∀ collected,
    collectEvidence digest request classification graph =
        .ok collected →
      layoutTokens request.question classification.intent
          (fittingEvidence request classification.intent
            collected) ≤
        request.maxTokens

/- Estimates do not show in the lines. -/
theorem linesLength_estimated
    (index : Nat)
    (evidence : List AIEvidence) :
    linesLength index (evidence.map AIEvidence.estimated) =
      linesLength index evidence := by
  induction evidence generalizing index with
  | nil => rfl
  | cons item rest ih =>
      cases rest with
      | nil => rfl
      | cons next others =>
          have hRest := ih (index + 1)
          simp only [List.map_cons] at hRest ⊢
          unfold linesLength
          rw [hRest]
          rfl

theorem layoutTokens_estimated
    (question : String)
    (intent : IntentType)
    (evidence : List AIEvidence) :
    layoutTokens question intent
        (evidence.map AIEvidence.estimated) =
      layoutTokens question intent evidence := by
  have hBlanks :
      lastBlanks (evidence.map AIEvidence.estimated) =
        lastBlanks evidence := by
    unfold lastBlanks
    rw [List.getLast?_map]
    cases evidence.getLast? with
    | none => rfl
    | some item => rfl
  have hLength :
      evidenceLength (evidence.map AIEvidence.estimated) =
        evidenceLength evidence := by
    unfold evidenceLength
    simp only [List.map_eq_nil_iff, linesLength_estimated]
  unfold layoutTokens
  rw [hBlanks, hLength]

/- The tokens of the prompt of a context. -/
theorem promptTokens_contextOf
    (graph : AuthorizationGraph)
    (request : AIContextRequest)
    (classification : IntentClassification)
    (collected : List AIEvidence) :
    promptTokens
        (buildPrompt
          (contextOf graph request classification
            collected)) =
      layoutTokens request.question classification.intent
        (fittingEvidence request classification.intent
          collected) := by
  rw [promptTokens_buildPrompt]
  rw [evidence_contextOf, layoutTokens_estimated]
  rfl

/- The prompt keeps to the budget exactly if it fits. -/
theorem prompt_within_budget_iff
    [Platform]
    (digest : String → String)
    (graph : AuthorizationGraph)
    (request : AIContextRequest) :
    (∀ context,
        assemble digest graph request = .ok context →
          promptTokens (buildPrompt context) ≤
            request.maxTokens) ↔
      PromptFits digest graph request := by
  constructor
  · intro hWithin
    unfold PromptFits
    simp only
    intro collected hCollected
    rw [← promptTokens_contextOf graph]
    apply hWithin
    unfold assemble
    simp only
    rw [hCollected]
    rfl
  · intro hFits context hAssembled
    rcases assemble_cases hAssembled with
      ⟨collected, hCollected, rfl⟩
    rw [promptTokens_contextOf]
    exact hFits collected hCollected

/- A budget below 140 is never kept to. -/
theorem lt_promptTokens
    [Platform]
    {digest : String → String}
    {graph : AuthorizationGraph}
    {request : AIContextRequest}
    {context : AIContext}
    (hSmall : request.maxTokens < 140)
    (hAssembled :
      assemble digest graph request = .ok context) :
    request.maxTokens <
      promptTokens (buildPrompt context) := by
  rcases assemble_cases hAssembled with
    ⟨collected, -, rfl⟩
  rw [promptTokens_contextOf]
  have hLayout :=
    layoutTokens_ge request.question_length.1
      (classifyIntent request).intent
      (fittingEvidence request
        (classifyIntent request).intent collected)
  omega

section

attribute [local instance] asciiPlatform

/- The instructions alone go over a budget of 60. -/
theorem prompt_over_budget :
    ∃ context,
      assemble id circleGraph managerQuestion =
          .ok context ∧
        ¬ promptTokens (buildPrompt context) ≤
          managerQuestion.maxTokens := by
  rcases assemble_managerQuestion with
    ⟨context, hAssembled⟩
  have hSmall : managerQuestion.maxTokens < 140 := by
    decide
  refine ⟨context, hAssembled, ?_⟩
  exact Nat.not_le.mpr (lt_promptTokens hSmall hAssembled)

end

end Ai

end AccessIQ
