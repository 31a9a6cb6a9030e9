import AccessIQ.Ai.Providers
import AccessIQ.Foundations.Runs

/-
  Conversations, which are kept in memory.

  Every conversation is stored under its own id.  It
  alternates if its messages are turns, each of a question of
  the user and an answer of the assistant.

  Key definitions include:
    * `Conversation`
    * `ConversationStore`
    * `ConversationStore.getOrCreate`
    * `ConversationStore.appendMessage`
    * `Alternates`

  Key theorems include:
    * `ConversationStore.get?_getOrCreate`
    * `ConversationStore.appendMessage_of_get?`
    * `not_alternates_of_question`
-/

------------------------------------------------------------
-- Conversations
------------------------------------------------------------

namespace AccessIQ

namespace Ai

open Python

inductive MessageRole where
  | user
  | assistant
  | system
  deriving DecidableEq, Repr

structure ConversationMessage where
  role : MessageRole
  content : String
  createdAt : Timestamp
  metadata : Metadata := []
  deriving DecidableEq, Repr

structure Conversation where
  conversationId : String
  messages : List ConversationMessage
  metadata : Metadata := []
  createdAt : Timestamp
  updatedAt : Timestamp
  deriving DecidableEq, Repr

/- The conversations, each under its own id. -/
structure ConversationStore where
  conversations : Dict String Conversation
  keyed :
    ∀ id conversation,
      conversations.get? id = some conversation →
        conversation.conversationId = id

namespace ConversationStore

def empty : ConversationStore where
  conversations := Dict.empty
  keyed := by
    intro id conversation hGet
    cases hGet

/- Store a conversation under its id. -/
def put
    (store : ConversationStore)
    (conversation : Conversation) :
    ConversationStore where
  conversations :=
    store.conversations.set conversation.conversationId
      conversation
  keyed := by
    intro id other hGet
    rw [Dict.get?_set] at hGet
    by_cases hId : conversation.conversationId = id
    · rw [if_pos hId] at hGet
      cases hGet
      exact hId
    · rw [if_neg hId] at hGet
      exact store.keyed id other hGet

/-
  The conversation with an id, or a new one; no id and the
  empty one stand for a fresh id.
-/
def getOrCreate
    (store : ConversationStore)
    (conversationId : Option String)
    (metadata : Metadata)
    (uuid : String)
    (now : Timestamp) :
    Conversation × ConversationStore :=
  match conversationId.bind store.conversations.get? with
  | some conversation => (conversation, store)
  | none =>
      let resolvedId :=
        if conversationId.getD "" = "" then
          uuid
        else
          conversationId.getD ""
      let conversation : Conversation :=
        { conversationId := resolvedId
          messages := []
          metadata := metadata
          createdAt := now
          updatedAt := now }
      (conversation, store.put conversation)

end ConversationStore

/- The conversation with a message after its others. -/
def Conversation.append
    (conversation : Conversation)
    (message : ConversationMessage) :
    Conversation :=
  { conversation with
    messages := conversation.messages ++ [message]
    updatedAt := message.createdAt }

@[simp] theorem Conversation.conversationId_append
    (conversation : Conversation)
    (message : ConversationMessage) :
    (conversation.append message).conversationId =
      conversation.conversationId :=
  rfl

@[simp] theorem Conversation.messages_append
    (conversation : Conversation)
    (message : ConversationMessage) :
    (conversation.append message).messages =
      conversation.messages ++ [message] :=
  rfl

def ConversationStore.appendMessage
    (store : ConversationStore)
    (conversationId : String)
    (role : MessageRole)
    (content : String)
    (metadata : Metadata)
    (now : Timestamp) :
    Except (KeyError String)
      (ConversationMessage × ConversationStore) :=
  let message : ConversationMessage :=
    { role := role
      content := content
      createdAt := now
      metadata := metadata }
  match store.conversations.getItem conversationId with
  | .error e => .error e
  | .ok conversation =>
      .ok (message, store.put (conversation.append message))

end Ai

end AccessIQ

------------------------------------------------------------
-- What The Operations Store
------------------------------------------------------------

namespace AccessIQ

namespace Ai

open Python

namespace ConversationStore

theorem get?_put
    (store : ConversationStore)
    (conversation : Conversation)
    (id : String) :
    (store.put conversation).conversations.get? id =
      if conversation.conversationId = id then
        some conversation
      else
        store.conversations.get? id :=
  Dict.get?_set store.conversations _ id conversation

@[simp] theorem get?_put_self
    (store : ConversationStore)
    (conversation : Conversation) :
    (store.put conversation).conversations.get?
        conversation.conversationId =
      some conversation := by
  rw [get?_put, if_pos rfl]

/-
  A conversation that was found is stored as it was, and a
  new one is empty; no other conversation changes.
-/
theorem get?_getOrCreate
    {store started : ConversationStore}
    {conversationId : Option String}
    {metadata : Metadata}
    {uuid : String}
    {now : Timestamp}
    {conversation : Conversation}
    (hStarted :
      store.getOrCreate conversationId metadata uuid now =
        (conversation, started)) :
    (conversation.messages = [] ∨
        store.conversations.get?
            conversation.conversationId =
          some conversation) ∧
      ∀ id,
        started.conversations.get? id =
          if conversation.conversationId = id then
            some conversation
          else
            store.conversations.get? id := by
  unfold getOrCreate at hStarted
  cases hFound :
      conversationId.bind store.conversations.get? with
  | none =>
      rw [hFound] at hStarted
      cases hStarted
      exact ⟨Or.inl rfl, get?_put store _⟩
  | some found =>
      rw [hFound] at hStarted
      cases hStarted
      rcases Option.bind_eq_some_iff.mp hFound with
        ⟨id, -, hGet⟩
      have hId := store.keyed id conversation hGet
      subst hId
      refine ⟨Or.inr hGet, ?_⟩
      intro other
      by_cases hOther : conversation.conversationId = other
      · rw [if_pos hOther, ← hOther, hGet]
      · rw [if_neg hOther]

theorem appendMessage_of_get?
    {store : ConversationStore}
    {conversation : Conversation}
    (hGet :
      store.conversations.get?
          conversation.conversationId =
        some conversation)
    (role : MessageRole)
    (content : String)
    (metadata : Metadata)
    (now : Timestamp) :
    store.appendMessage conversation.conversationId role
        content metadata now =
      .ok
        (⟨role, content, now, metadata⟩,
          store.put
            (conversation.append
              ⟨role, content, now, metadata⟩)) := by
  unfold appendMessage
  rw [Dict.getItem_of_get? hGet]

end ConversationStore

end Ai

end AccessIQ

------------------------------------------------------------
-- Alternating Messages
------------------------------------------------------------

namespace AccessIQ

namespace Ai

/- The roles of some number of turns. -/
def turnRoles
    (turns : Nat) :
    List MessageRole :=
  (List.replicate turns
    [MessageRole.user, MessageRole.assistant]).flatten

/- Turns of a question and its answer, at least one. -/
def Alternates
    (messages : List ConversationMessage) : Prop :=
  ∃ turns,
    0 < turns ∧
      messages.map ConversationMessage.role =
        turnRoles turns

/- Every conversation of a store alternates. -/
def ConversationStore.Alternating
    (store : ConversationStore) : Prop :=
  ∀ id conversation,
    store.conversations.get? id = some conversation →
      Alternates conversation.messages

theorem turnRoles_succ
    (turns : Nat) :
    turnRoles (turns + 1) =
      turnRoles turns ++ [.user, .assistant] := by
  unfold turnRoles
  rw [List.replicate_succ', List.flatten_append]
  rfl

theorem length_turnRoles
    (turns : Nat) :
    (turnRoles turns).length = 2 * turns := by
  induction turns with
  | zero => rfl
  | succ turns ih =>
      rw [turnRoles_succ, List.length_append, ih]
      simp only [List.length_cons, List.length_nil]
      omega

/- Turns so far, maybe none. -/
theorem exists_turns
    {messages : List ConversationMessage}
    (hMessages : messages = [] ∨ Alternates messages) :
    ∃ turns,
      messages.map ConversationMessage.role =
        turnRoles turns := by
  rcases hMessages with hNone | ⟨turns, -, hRoles⟩
  · subst hNone
    exact ⟨0, rfl⟩
  · exact ⟨turns, hRoles⟩

/- One more turn alternates. -/
theorem alternates_turn
    {messages : List ConversationMessage}
    {question answer : ConversationMessage}
    (hMessages : messages = [] ∨ Alternates messages)
    (hQuestion : question.role = .user)
    (hAnswer : answer.role = .assistant) :
    Alternates (messages ++ [question] ++ [answer]) := by
  rcases exists_turns hMessages with ⟨turns, hRoles⟩
  refine ⟨turns + 1, Nat.succ_pos turns, ?_⟩
  rw [turnRoles_succ, List.map_append, List.map_append,
    hRoles, List.append_assoc]
  simp [hQuestion, hAnswer]

/- A question without an answer does not. -/
theorem not_alternates_of_question
    {messages : List ConversationMessage}
    (hMessages : messages = [] ∨ Alternates messages)
    (question : ConversationMessage) :
    ¬ Alternates (messages ++ [question]) := by
  rintro ⟨after, -, hAfter⟩
  rcases exists_turns hMessages with ⟨before, hBefore⟩
  have hLength := congrArg List.length hAfter
  have hEven := congrArg List.length hBefore
  rw [length_turnRoles, List.length_map] at hLength hEven
  rw [List.length_append, List.length_singleton] at hLength
  omega

namespace ConversationStore

theorem empty_alternating :
    empty.Alternating := by
  intro id conversation hGet
  cases hGet

/- What is found or new has no open question. -/
theorem alternates_or_nil
    {store started : ConversationStore}
    {conversationId : Option String}
    {metadata : Metadata}
    {uuid : String}
    {now : Timestamp}
    {conversation : Conversation}
    (hAlternating : store.Alternating)
    (hStarted :
      store.getOrCreate conversationId metadata uuid now =
        (conversation, started)) :
    conversation.messages = [] ∨
      Alternates conversation.messages := by
  rcases (get?_getOrCreate hStarted).1 with
    hNew | hFound
  · exact Or.inl hNew
  · exact Or.inr (hAlternating _ _ hFound)

end ConversationStore

end Ai

end AccessIQ
