import AccessIQ.Ai.Prompt

/-
  Language model providers.

  A provider tells whether it is available and answers a
  prompt, or raises one of several errors.  The mock provider
  answers from the evidence of the prompt alone; it is always
  available.

  Key definitions include:
    * `ProviderError`
    * `LLMProvider`
    * `MockLLMProvider`
    * `AISettings`
    * `resolveProvider`

  Key theorems include:
    * `resolveProvider_ok_iff`
-/

------------------------------------------------------------
-- Providers
------------------------------------------------------------

namespace AccessIQ

namespace Ai

/- The values that metadata hold. -/
inductive MetadataValue where
  | text (value : String)
  | flag (value : Bool)
  | count (value : Int)
  deriving DecidableEq, Repr

/- Metadata, by name. -/
abbrev Metadata := List (String × MetadataValue)

structure LLMProviderMetadata where
  name : String
  displayName : String
  enabled : Bool
  available : Bool
  supportsStreaming : Bool := false
  model : Option String := none
  details : Metadata := []
  deriving DecidableEq, Repr

inductive ProviderStatus where
  | healthy
  | unavailable
  | disabled
  | configurationMissing
  | error
  deriving DecidableEq, Repr

structure LLMProviderHealth where
  provider : String
  status : ProviderStatus
  message : String
  metadata : LLMProviderMetadata
  deriving DecidableEq, Repr

structure LLMGenerationResult where
  answer : String
  provider : String
  model : Option String := none
  citations : List Citation
  metadata : Metadata := []
  deriving DecidableEq, Repr

/- What a provider raises, with the text of the exception. -/
inductive ProviderError where
  | unavailable (text : String)
  | configuration (text : String)
  | timeout (text : String)
  | rateLimit (text : String)
  | failure (text : String)
  | other (text : String)
  deriving DecidableEq, Repr

structure LLMProvider where
  providerName : String
  metadata : LLMProviderMetadata
  health : LLMProviderHealth
  generate :
    StructuredPrompt → Int → Int →
      Except ProviderError LLMGenerationResult

end Ai

end AccessIQ

------------------------------------------------------------
-- The Mock Provider
------------------------------------------------------------

namespace AccessIQ

namespace Ai

def mockMetadata : LLMProviderMetadata where
  name := "mock"
  displayName := "Deterministic Mock Provider"
  enabled := true
  available := true
  supportsStreaming := false
  model := some "mock-grounded-explainer"
  details :=
    [("network", .text "disabled"),
      ("deterministic", .flag true)]

/- The facts of the first five items, numbered from one. -/
def mockFacts
    (evidence : List AIEvidence) :
    String :=
  " ".intercalate
    (((evidence.take 5).zipIdx 1).map fun (item, index) =>
      s!"{index}. {item.title}: {item.description} " ++
        s!"(reference: {item.reference}).")

def mockAnswer
    (prompt : StructuredPrompt) :
    String :=
  if prompt.assembledEvidence = [] then
    "I do not have enough AccessIQ evidence to explain " ++
      "this. No authorization decision was made."
  else
    "Based only on deterministic AccessIQ evidence, here " ++
      "is the grounded explanation for: " ++
      s!"{prompt.userQuestion} " ++
      s!"{mockFacts prompt.assembledEvidence} " ++
      "This explanation is informational only; " ++
      "AccessIQ's policy, provisioning, review, and " ++
      "remediation services remain authoritative."

def MockLLMProvider : LLMProvider where
  providerName := "mock"
  metadata := mockMetadata
  health :=
    { provider := "mock"
      status := .healthy
      message :=
        "Mock provider is available and deterministic."
      metadata := mockMetadata }
  generate := fun prompt _ _ =>
    .ok
      { answer := mockAnswer prompt
        provider := "mock"
        model := mockMetadata.model
        citations :=
          prompt.assembledEvidence.map AIEvidence.citation
        metadata :=
          [("evidence_count",
              .count prompt.assembledEvidence.length),
            ("deterministic", .flag true)] }

end Ai

end AccessIQ

------------------------------------------------------------
-- Choosing A Provider
------------------------------------------------------------

namespace AccessIQ

namespace Ai

open Python

structure AISettings where
  enabled : Bool
  provider : String
  timeoutSeconds : Int
  maxTokens : Int
  deriving DecidableEq, Repr

/- `AIExplanationError`, and what is raised past it. -/
inductive AIExplanationError where
  | providerNotFound (text : String)
  | providerUnavailable (text : String)
  | providerTimeout (text : String)
  | providerRateLimit (text : String)
  | providerFailure (text : String)
  | uncaught (text : String)
  | keyError (e : KeyError String)
  deriving DecidableEq, Repr

/- The name of a provider, the configured one if it is "". -/
def providerNameOr
    (settings : AISettings)
    (providerName : Option String) :
    String :=
  if providerName.getD "" = "" then
    settings.provider
  else
    providerName.getD ""

/- `_resolve_provider` -/
def resolveProvider
    [Platform]
    (settings : AISettings)
    (providers : Dict String LLMProvider)
    (providerName : Option String) :
    Except AIExplanationError LLMProvider :=
  if settings.enabled = false then
    .error
      (.providerUnavailable "AI is disabled by AI_ENABLED")
  else
    let resolvedName :=
      Platform.lower
        (strip (providerNameOr settings providerName))
    match providers.get? resolvedName with
    | none =>
        .error
          (.providerNotFound
            s!"Unknown LLM provider: {resolvedName}")
    | some provider =>
        if provider.metadata.available = false then
          .error (.providerUnavailable provider.health.message)
        else
          .ok provider

/- A provider is chosen if it is enabled and available. -/
theorem resolveProvider_ok_iff
    [Platform]
    {settings : AISettings}
    {providers : Dict String LLMProvider}
    {providerName : Option String}
    {provider : LLMProvider} :
    resolveProvider settings providers providerName =
        .ok provider ↔
      settings.enabled = true ∧
        providers.get?
            (Platform.lower
              (strip (providerNameOr settings providerName))) =
          some provider ∧
        provider.metadata.available = true := by
  unfold resolveProvider
  simp only
  by_cases hEnabled : settings.enabled = false
  · rw [if_pos hEnabled]
    simp [hEnabled]
  · rw [if_neg hEnabled]
    rw [Bool.not_eq_false] at hEnabled
    cases hProvider :
        providers.get?
          (Platform.lower
            (strip
              (providerNameOr settings providerName))) with
    | none => simp
    | some found =>
        simp only
        by_cases hAvailable : found.metadata.available = false
        · rw [if_pos hAvailable]
          constructor
          · intro hError
            cases hError
          · rintro ⟨-, hFound, hFree⟩
            cases hFound
            rw [hAvailable] at hFree
            cases hFree
        · rw [if_neg hAvailable]
          rw [Bool.not_eq_false] at hAvailable
          constructor
          · intro hOk
            cases hOk
            exact ⟨hEnabled, rfl, hAvailable⟩
          · rintro ⟨-, hFound, -⟩
            cases hFound
            rfl

end Ai

end AccessIQ
