import AccessIQ.Ai.Conversations
import AccessIQ.Foundations.Execution

/-
  Explanations and chats.

  An explanation assembles a context, chooses a provider and
  lets it answer.  A chat stores the question, then explains
  it, and stores the answer.  The question stays if there is
  no answer, so the turns of a chat are atomic exactly as
  long as every question is answered.

  Key definitions include:
    * `AIExplanationService.explain`
    * `AIExplanationService.chat`
    * `ChatCall.Answers`
    * `ChatCall.LeavesStore`

  Key theorems include:
    * `explain_ok_iff`
    * `chat_cases`
    * `chat_turns_atomic_iff`
-/

------------------------------------------------------------
-- Explanations
------------------------------------------------------------

namespace AccessIQ

namespace Ai

open AccessIQ.Graph Python

structure AIExplainRequest extends AIContextRequest where
  provider : Option String := none

structure AIChatRequest extends AIExplainRequest where
  conversationId : Option String := none

structure AIExplanationResponse where
  answer : String
  citations : List Citation
  evidence : List AIEvidence
  provider : LLMProviderMetadata
  intent : IntentClassification
  context : AIContext
  deriving DecidableEq, Repr

structure AIExplanationService where
  digest : String → String
  graph : AuthorizationGraph
  providers : Dict String LLMProvider
  settings : AISettings

/- What is raised for an error of a provider. -/
def AIExplanationError.ofProvider :
    ProviderError → AIExplanationError
  | .configuration text => .providerUnavailable text
  | .unavailable text => .providerUnavailable text
  | .timeout text => .providerTimeout text
  | .rateLimit text => .providerRateLimit text
  | .failure text => .providerFailure text
  | .other text => .uncaught text

namespace AIExplanationService

variable [Platform]

/- What a provider generates for the prompt of a context. -/
def generated
    (service : AIExplanationService)
    (request : AIExplainRequest)
    (context : AIContext)
    (provider : LLMProvider) :
    Except ProviderError LLMGenerationResult :=
  provider.generate (buildPrompt context)
    service.settings.timeoutSeconds
    (min request.maxTokens service.settings.maxTokens)

def explain
    (service : AIExplanationService)
    (request : AIExplainRequest) :
    Except AIExplanationError AIExplanationResponse := do
  let context ←
    (assemble service.digest service.graph
      request.toAIContextRequest).mapError
        AIExplanationError.keyError
  let provider ←
    resolveProvider service.settings service.providers
      request.provider
  let result ←
    (service.generated request context provider).mapError
      AIExplanationError.ofProvider
  return {
    answer := result.answer
    citations :=
      if result.citations = [] then
        context.citations
      else
        result.citations
    evidence := context.evidence
    provider := provider.metadata
    intent := context.intent
    context := context }

end AIExplanationService

end Ai

end AccessIQ

------------------------------------------------------------
-- Chats
------------------------------------------------------------

namespace AccessIQ

namespace Ai

open Python

structure AIChatResponse where
  conversationId : String
  message : ConversationMessage
  explanation : AIExplanationResponse
  conversation : Conversation
  deriving DecidableEq, Repr

/-
  A call of `chat`: the service it is made on, the request,
  the fresh id, and the times at which the conversation is
  looked up, the question asked and the answer given.
-/
structure ChatCall where
  service : AIExplanationService
  request : AIChatRequest
  uuid : String
  startedAt : Timestamp
  askedAt : Timestamp
  answeredAt : Timestamp

/- The conversation as the store holds it by now. -/
def ConversationStore.current
    (store : ConversationStore)
    (conversation : Conversation) :
    Conversation :=
  (store.conversations.get?
    conversation.conversationId).getD conversation

namespace ChatCall

variable [Platform]

def metadata
    (call : ChatCall) :
    Metadata :=
  [("provider",
    .text
      (providerNameOr call.service.settings
        call.request.provider))]

/- The message that asks the question of a call. -/
def question
    (call : ChatCall) :
    ConversationMessage where
  role := .user
  content := call.request.question
  createdAt := call.askedAt
  metadata := [("intent_request", .flag true)]

/- The message that answers it. -/
def answer
    (call : ChatCall)
    (explanation : AIExplanationResponse) :
    ConversationMessage where
  role := .assistant
  content := explanation.answer
  createdAt := call.answeredAt
  metadata :=
    [("provider", .text explanation.provider.name),
      ("citation_count",
        .count explanation.citations.length)]

/- `AIExplanationService.chat`, and the store after it. -/
def chat
    (call : ChatCall)
    (store : ConversationStore) :
    Except AIExplanationError AIChatResponse ×
      ConversationStore :=
  let (conversation, started) :=
    store.getOrCreate call.request.conversationId
      call.metadata call.uuid call.startedAt
  match
    started.appendMessage conversation.conversationId .user
      call.request.question [("intent_request", .flag true)]
      call.askedAt with
  | .error e => (.error (.keyError e), started)
  | .ok (_, asked) =>
      match
        call.service.explain
          call.request.toAIExplainRequest with
      | .error e => (.error e, asked)
      | .ok explanation =>
          match
            asked.appendMessage conversation.conversationId
              .assistant explanation.answer
              [("provider", .text explanation.provider.name),
                ("citation_count",
                  .count explanation.citations.length)]
              call.answeredAt with
          | .error e => (.error (.keyError e), asked)
          | .ok (message, answered) =>
              (.ok
                { conversationId :=
                    conversation.conversationId
                  message := message
                  explanation := explanation
                  conversation :=
                    answered.current conversation },
                answered)

/- The store after a call. -/
def serveChat
    (store : ConversationStore)
    (call : ChatCall) :
    ConversationStore :=
  (call.chat store).2

/- A call that raises leaves the store as it was. -/
def LeavesStore
    (store : ConversationStore)
    (call : ChatCall) : Prop :=
  ∀ e,
    (call.chat store).1 = .error e →
      (call.chat store).2 = store

/-
  The question is answered: the context can be assembled, AI
  is enabled, the provider is registered and available, and
  it answers the prompt.
-/
def Answers
    (call : ChatCall) : Prop :=
  ∃ context provider result,
    assemble call.service.digest call.service.graph
          call.request.toAIContextRequest =
        .ok context ∧
      call.service.settings.enabled = true ∧
      call.service.providers.get?
          (Platform.lower
            (strip
              (providerNameOr call.service.settings
                call.request.provider))) =
        some provider ∧
      provider.metadata.available = true ∧
      call.service.generated call.request.toAIExplainRequest
          context provider =
        .ok result

end ChatCall

end Ai

end AccessIQ

------------------------------------------------------------
-- When A Question Is Answered
------------------------------------------------------------

namespace AccessIQ

namespace Ai

open Foundations Python

variable [Platform]

/- A question is explained exactly if it is answered. -/
theorem explain_ok_iff
    (call : ChatCall) :
    (∃ explanation,
        call.service.explain
            call.request.toAIExplainRequest =
          .ok explanation) ↔
      call.Answers := by
  constructor
  · rintro ⟨explanation, hOk⟩
    unfold AIExplanationService.explain at hOk
    rcases bind_eq_ok hOk with ⟨context, hContext, hOk⟩
    rcases bind_eq_ok hOk with ⟨provider, hProvider, hOk⟩
    rcases bind_eq_ok hOk with ⟨result, hResult, -⟩
    rw [mapError_eq_ok_iff] at hContext hResult
    rcases resolveProvider_ok_iff.mp hProvider with
      ⟨hEnabled, hFound, hAvailable⟩
    exact
      ⟨context, provider, result, hContext, hEnabled, hFound,
        hAvailable, hResult⟩
  · rintro
      ⟨context, provider, result, hContext, hEnabled, hFound,
        hAvailable, hResult⟩
    have hProvider :
        resolveProvider call.service.settings
            call.service.providers call.request.provider =
          .ok provider :=
      resolveProvider_ok_iff.mpr
        ⟨hEnabled, hFound, hAvailable⟩
    unfold AIExplanationService.explain
    rw [mapError_eq_ok_iff.mpr hContext, hProvider]
    exact ⟨_, by
      simp only [bind, Except.bind]
      rw [mapError_eq_ok_iff.mpr hResult]
      rfl⟩

/- A question that is not answered stays in the store. -/
theorem chat_of_error
    {call : ChatCall}
    {store started : ConversationStore}
    {conversation : Conversation}
    {e : AIExplanationError}
    (hStarted :
      store.getOrCreate call.request.conversationId
          call.metadata call.uuid call.startedAt =
        (conversation, started))
    (hGet :
      started.conversations.get?
          conversation.conversationId =
        some conversation)
    (hError :
      call.service.explain
          call.request.toAIExplainRequest =
        .error e) :
    call.chat store =
      (.error e,
        started.put
          (conversation.append call.question)) := by
  unfold ChatCall.chat
  rw [hStarted]
  simp only
  rw [ConversationStore.appendMessage_of_get? hGet, hError]
  rfl

/- An answer is stored after its question. -/
theorem chat_of_ok
    {call : ChatCall}
    {store started : ConversationStore}
    {conversation : Conversation}
    {explanation : AIExplanationResponse}
    (hStarted :
      store.getOrCreate call.request.conversationId
          call.metadata call.uuid call.startedAt =
        (conversation, started))
    (hGet :
      started.conversations.get?
          conversation.conversationId =
        some conversation)
    (hOk :
      call.service.explain
          call.request.toAIExplainRequest =
        .ok explanation) :
    ∃ response,
      call.chat store =
        (.ok response,
          (started.put
              (conversation.append call.question)).put
            ((conversation.append call.question).append
              (call.answer explanation))) := by
  have hAsked :
      (started.put
          (conversation.append
            call.question)).conversations.get?
          (conversation.append
            call.question).conversationId =
        some (conversation.append call.question) :=
    ConversationStore.get?_put_self started _
  have hAnswered :=
    ConversationStore.appendMessage_of_get? hAsked .assistant
      explanation.answer
      [("provider", .text explanation.provider.name),
        ("citation_count",
          .count explanation.citations.length)]
      call.answeredAt
  unfold ChatCall.chat
  rw [hStarted]
  simp only
  rw [ConversationStore.appendMessage_of_get? hGet, hOk]
  simp only
  rw [Conversation.conversationId_append] at hAnswered
  unfold ChatCall.question at hAnswered ⊢
  rw [hAnswered]
  exact ⟨_, rfl⟩

end Ai

end AccessIQ

------------------------------------------------------------
-- Atomic Turns
------------------------------------------------------------

namespace AccessIQ

namespace Ai

open Foundations Python

variable [Platform]

/- A turn that is answered keeps a store alternating. -/
theorem serveChat_alternating
    {call : ChatCall}
    {store : ConversationStore}
    (hAlternating : store.Alternating)
    (hAnswers : call.Answers) :
    (call.chat store).2.Alternating := by
  rcases (explain_ok_iff call).mpr hAnswers with
    ⟨explanation, hOk⟩
  cases hStarted :
      store.getOrCreate call.request.conversationId
        call.metadata call.uuid call.startedAt with
  | mk conversation started =>
      have hOpen :=
        ConversationStore.alternates_or_nil hAlternating
          hStarted
      have hGet :=
        (ConversationStore.get?_getOrCreate hStarted).2
      rcases chat_of_ok hStarted
          (by rw [hGet, if_pos rfl]) hOk with
        ⟨response, hChat⟩
      rw [hChat]
      have hTurn :
          Alternates
            ((conversation.append call.question).append
              (call.answer explanation)).messages :=
        alternates_turn hOpen rfl rfl
      intro id other hOther
      simp only at hOther
      rw [ConversationStore.get?_put] at hOther
      by_cases hId :
          ((conversation.append call.question).append
              (call.answer explanation)).conversationId = id
      · rw [if_pos hId] at hOther
        cases hOther
        exact hTurn
      · rw [if_neg hId, ConversationStore.get?_put] at hOther
        -- all three are one conversation
        simp only [Conversation.conversationId_append] at hId
        rw [if_neg (by exact hId), hGet, if_neg hId] at hOther
        exact hAlternating id other hOther

/- A turn that is not answered ends with its question. -/
theorem not_alternating_of_not_answers
    {call : ChatCall}
    {store : ConversationStore}
    (hAlternating : store.Alternating)
    (hNone : ¬ call.Answers) :
    (∃ e, (call.chat store).1 = .error e) ∧
      ¬ (call.chat store).2.Alternating := by
  cases hExplain :
      call.service.explain
        call.request.toAIExplainRequest with
  | ok explanation =>
      exact absurd
        ((explain_ok_iff call).mp ⟨explanation, hExplain⟩)
        hNone
  | error e =>
      cases hStarted :
          store.getOrCreate call.request.conversationId
            call.metadata call.uuid call.startedAt with
      | mk conversation started =>
          have hOpen :=
            ConversationStore.alternates_or_nil hAlternating
              hStarted
          have hGet :=
            (ConversationStore.get?_getOrCreate hStarted).2
          have hChat :=
            chat_of_error hStarted
              (by rw [hGet, if_pos rfl]) hExplain
          rw [hChat]
          refine ⟨⟨e, rfl⟩, ?_⟩
          intro hAfter
          have hLast :=
            hAfter conversation.conversationId
              (conversation.append call.question)
              (ConversationStore.get?_put_self started _)
          exact not_alternates_of_question hOpen _ hLast

/- An answered turn raises nothing. -/
theorem leavesStore_of_answers
    {call : ChatCall}
    (store : ConversationStore)
    (hAnswers : call.Answers) :
    call.LeavesStore store := by
  intro e hError
  rcases (explain_ok_iff call).mpr hAnswers with
    ⟨explanation, hOk⟩
  cases hStarted :
      store.getOrCreate call.request.conversationId
        call.metadata call.uuid call.startedAt with
  | mk conversation started =>
      have hGet :=
        (ConversationStore.get?_getOrCreate hStarted).2
      rcases chat_of_ok hStarted
          (by rw [hGet, if_pos rfl]) hOk with
        ⟨response, hChat⟩
      rw [hChat] at hError
      cases hError

/-
  If a call that raises leaves an alternating store as it
  was, the call is answered.
-/
theorem answers_of_leavesStore
    {call : ChatCall}
    {store : ConversationStore}
    (hAlternating : store.Alternating)
    (hLeaves : call.LeavesStore store) :
    call.Answers := by
  by_contra hNone
  rcases not_alternating_of_not_answers hAlternating hNone
    with ⟨⟨e, hError⟩, hAfter⟩
  rw [hLeaves e hError] at hAfter
  exact hAfter hAlternating

/-
  Calls that raise leave the store as it was, and so do the
  conversations alternate in every store of a run, exactly if
  every question of the run is answered.
-/
theorem chat_turns_atomic_iff
    (calls : List ChatCall) :
    (EachStep ChatCall.serveChat
          (fun store call => call.LeavesStore store)
          .empty calls ↔
        ∀ call ∈ calls, call.Answers) ∧
      ((∀ before, before <+: calls →
          (serveAll ChatCall.serveChat .empty
            before).Alternating) ↔
        ∀ call ∈ calls, call.Answers) := by
  have hStep :
      ∀ store call,
        ConversationStore.Alternating store →
          ChatCall.Answers call →
            (ChatCall.serveChat store call).Alternating := by
    intro store call hAlternating hAnswers
    exact serveChat_alternating hAlternating hAnswers
  have hAnswered :
      (∀ call ∈ calls, call.Answers) →
        EachStep ChatCall.serveChat
          (fun _ call => call.Answers) .empty calls := by
    intro hAll before call after hEq
    apply hAll
    rw [hEq]
    exact List.mem_append_right _ List.mem_cons_self
  refine ⟨⟨?_, ?_⟩, ⟨?_, ?_⟩⟩
  · intro hLeaves call hCall
    rcases List.append_of_mem hCall with
      ⟨before, after, hEq⟩
    have hPrefix : before <+: calls :=
      ⟨call :: after, hEq.symm⟩
    -- every store before a call alternates
    have hBefore :=
      serveAll_of_eachStep
        (fun store call hAlternating hLeaves =>
          hStep store call hAlternating
            (answers_of_leavesStore hAlternating hLeaves))
        ConversationStore.empty_alternating hLeaves hPrefix
    exact answers_of_leavesStore hBefore
      (hLeaves before call after hEq)
  · intro hAll before call after hEq
    exact leavesStore_of_answers _
      (hAnswered hAll before call after hEq)
  · intro hAlternating call hCall
    rcases List.append_of_mem hCall with
      ⟨before, after, hEq⟩
    have hBefore := hAlternating before
      ⟨call :: after, hEq.symm⟩
    have hAfter := hAlternating (before ++ [call])
      ⟨after, by rw [hEq, List.append_assoc]; rfl⟩
    rw [serveAll_append] at hAfter
    by_contra hNone
    exact
      (not_alternating_of_not_answers hBefore hNone).2 hAfter
  · intro hAll before hPrefix
    exact serveAll_of_eachStep hStep
      ConversationStore.empty_alternating (hAnswered hAll)
      hPrefix

end Ai

end AccessIQ

------------------------------------------------------------
-- A Chat While AI Is Disabled
------------------------------------------------------------

namespace AccessIQ

namespace Ai

open AccessIQ.Graph Foundations Python

attribute [local instance] asciiPlatform

/- A service with the mock provider, disabled. -/
def disabledService : AIExplanationService where
  digest := id
  graph := circleGraph
  providers := Dict.empty.set "mock" MockLLMProvider
  settings :=
    { enabled := false
      provider := "mock"
      timeoutSeconds := 30
      maxTokens := 1200 }

/- A first question, in a new conversation. -/
def disabledChat : ChatCall where
  service := disabledService
  request :=
    { toAIContextRequest := managerQuestion
      provider := none
      conversationId := none }
  uuid := "7d1c4f6a-3a52-4c2e-9b1e-0f5d8a6b2c11"
  startedAt := 0
  askedAt := 1
  answeredAt := 2

/- The question stays, in a conversation of its own. -/
theorem question_without_answer :
    ¬ disabledChat.LeavesStore .empty ∧
      ¬ (serveAll ChatCall.serveChat .empty
          [disabledChat]).Alternating := by
  have hNone : ¬ disabledChat.Answers := by
    rintro ⟨_, _, _, -, hEnabled, -⟩
    cases hEnabled
  constructor
  · intro hLeaves
    exact hNone
      (answers_of_leavesStore
        ConversationStore.empty_alternating hLeaves)
  · exact
      (not_alternating_of_not_answers
        ConversationStore.empty_alternating hNone).2

end Ai

end AccessIQ
