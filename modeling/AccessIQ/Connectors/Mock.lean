import AccessIQ.Connectors.Orchestrator
import AccessIQ.Foundations.Lines
import AccessIQ.Python.Dict

/-
  The mock connectors.

  A mock connector fails in the way it is told to, or
  succeeds after a number of failures.  It counts its calls
  under the operation and the correlation id.

  Key definitions include:
    * `MockIdentityConnector`
    * `recordAttempt`
    * `MockIdentityConnector.execute`
    * `MockIdentityConnector.recorded`

  Key theorems include:
    * `attemptKey_operation`
    * `MockIdentityConnector.execute_of_serves`
    * `MockIdentityConnector.attemptCount_recorded`
-/

------------------------------------------------------------
-- Mock Connectors
------------------------------------------------------------

namespace AccessIQ

namespace Connectors

open Foundations Python

inductive ConnectorSimulationMode where
  | success
  | validationFailure
  | timeout
  | rateLimit
  | retryableFailure
  | nonRetryableFailure
  | degraded
  | unavailable
  deriving DecidableEq, Repr

def ConnectorSimulationMode.value :
    ConnectorSimulationMode → String
  | .success => "success"
  | .validationFailure => "validation_failure"
  | .timeout => "timeout"
  | .rateLimit => "rate_limit"
  | .retryableFailure => "retryable_failure"
  | .nonRetryableFailure => "non_retryable_failure"
  | .degraded => "degraded"
  | .unavailable => "unavailable"

/- `MUTATING_CONNECTOR_OPERATIONS`. -/
def mutatingConnectorOperations :
    List ConnectorOperation :=
  [.createUser, .updateUser, .disableUser, .deleteUser,
    .createGroup, .updateGroup, .deleteGroup,
    .addGroupMember, .removeGroupMember,
    .grantEntitlement, .revokeEntitlement]

structure MockIdentityConnector where
  name : String
  displayName : String
  enabled : Bool := true
  simulationMode : ConnectorSimulationMode := .success
  failuresBeforeSuccess : Nat := 0
  supportedOperations : List ConnectorOperation :=
    mutatingConnectorOperations
  deriving DecidableEq, Repr

/- `MockIdentityConnector(...)` with its check. -/
def MockIdentityConnector.ofValues
    (name displayName : String)
    (enabled : Bool)
    (simulationMode : ConnectorSimulationMode)
    (failuresBeforeSuccess : Int)
    (supportedOperations : List ConnectorOperation) :
    Except PyException MockIdentityConnector :=
  if failuresBeforeSuccess < 0 then
    .error
      (.valueError "failures_before_success cannot be negative")
  else
    .ok
      { name := name
        displayName := displayName
        enabled := enabled
        simulationMode := simulationMode
        failuresBeforeSuccess := failuresBeforeSuccess.toNat
        supportedOperations := supportedOperations }

/- The number of attempts under each key. -/
abbrev AttemptCounts := Dict String Nat

/- An empty correlation id counts as none. -/
def attemptKey
    (operation : ConnectorOperation)
    (correlationId : Option String) :
    String :=
  operation.value ++ ":" ++
    match correlationId with
    | none => "default"
    | some text => if text = "" then "default" else text

def attemptCount
    (counts : AttemptCounts)
    (key : String) :
    Nat :=
  (counts.get? key).getD 0

/- `_record_attempt`. -/
def recordAttempt
    (counts : AttemptCounts)
    (operation : ConnectorOperation)
    (correlationId : Option String) :
    Nat × AttemptCounts :=
  let key := attemptKey operation correlationId
  let attempt := attemptCount counts key + 1
  (attempt, counts.set key attempt)

/- An exception that connectors retry. -/
def retryableConnectorError
    (message : String)
    (details : Details := []) :
    ConnectorException where
  className := "RetryableConnectorError"
  baseClasses := ["ConnectorError", "Exception"]
  message := message
  retryable := true
  details := details

namespace MockIdentityConnector

variable (c : MockIdentityConnector)

/- `_raise_for_simulation`. -/
def raiseForSimulation :
    Except ConnectorException Unit :=
  match c.simulationMode with
  | .validationFailure =>
      .error (validationError "Simulated validation failure")
  | .timeout =>
      .error
        { className := "TimeoutError"
          baseClasses :=
            ["RetryableConnectorError", "ConnectorError",
              "Exception"]
          message := "Simulated connector timeout"
          retryable := true
          details := [] }
  | .rateLimit =>
      .error
        { className := "RateLimitError"
          baseClasses :=
            ["RetryableConnectorError", "ConnectorError",
              "Exception"]
          message := "Simulated connector rate limit"
          retryable := true
          details :=
            [("retry_after_ms",
              .json (.number (.int 1000)))] }
  | .retryableFailure =>
      .error
        (retryableConnectorError
          "Simulated retryable failure")
  | .nonRetryableFailure =>
      .error
        { className := "ConnectorError"
          baseClasses := ["Exception"]
          message := "Simulated non-retryable failure"
          retryable := false
          details := [] }
  | .unavailable =>
      .error
        (retryableConnectorError
          "Simulated connector unavailable")
  | .success | .degraded => .ok ()

/- The exception for an operation it does not support. -/
def unsupportedOperation
    (repr : String → String)
    (operation : ConnectorOperation) :
    ConnectorException where
  className := "UnsupportedConnectorOperationError"
  baseClasses := ["ConnectorError", "Exception"]
  message :=
    s!"Connector {repr c.name} does not support " ++
      s!"operation {repr operation.value}"
  retryable := false
  details := []

/- The result of a disabled connector. -/
def skippedResult
    (operation : ConnectorOperation)
    (correlationId : Option String) :
    ConnectorResult where
  connector := c.name
  operation := operation
  status := .skipped
  message := s!"{c.displayName} connector is disabled"
  correlationId := correlationId
  details := [("enabled", .json (.bool false))]

/- The failure of an early attempt. -/
def earlyFailure
    (attempt : Nat) :
    ConnectorException :=
  retryableConnectorError
    "Simulated retryable failure before success"
    [("attempt", .json (.number (.int attempt)))]

/- The result of an attempt that succeeds. -/
def successResult
    (operation : ConnectorOperation)
    (payload : DetailValue)
    (correlationId : Option String)
    (durationMs : Duration)
    (attempt : Nat) :
    ConnectorResult where
  connector := c.name
  operation := operation
  status := .success
  message :=
    s!"{c.displayName} {operation.value} " ++
      "simulated successfully"
  durationMs := durationMs
  correlationId := correlationId
  details :=
    [("payload", payload),
      ("attempt", .json (.number (.int attempt))),
      ("simulation_mode",
        .json (.string c.simulationMode.value))]

/- What an attempt comes to. -/
def replyOf
    (operation : ConnectorOperation)
    (payload : DetailValue)
    (correlationId : Option String)
    (durationMs : Duration)
    (attempt : Nat) :
    ConnectorReply :=
  if attempt ≤ c.failuresBeforeSuccess then
    .error (earlyFailure attempt)
  else
    match c.raiseForSimulation with
    | .error exc => .error exc
    | .ok () =>
        .ok
          (c.successResult operation payload correlationId
            durationMs attempt)

/-
  `_execute`, where `repr` is the built-in of this name and a
  call takes `durationMs`.
-/
def execute
    (repr : String → String)
    (operation : ConnectorOperation)
    (payload : DetailValue)
    (correlationId : Option String)
    (durationMs : Duration)
    (counts : AttemptCounts) :
    ConnectorReply × AttemptCounts :=
  if operation ∉ c.supportedOperations then
    (.error (c.unsupportedOperation repr operation), counts)
  else if !c.enabled then
    (.ok (c.skippedResult operation correlationId), counts)
  else
    let (attempt, counts) :=
      recordAttempt counts operation correlationId
    (c.replyOf operation payload correlationId durationMs
      attempt, counts)

end MockIdentityConnector

end Connectors

end AccessIQ

------------------------------------------------------------
-- Counts
------------------------------------------------------------

namespace AccessIQ

namespace Connectors

open Foundations Python

theorem not_mem_value
    (operation : ConnectorOperation) :
    ':' ∉ operation.value.toList := by
  cases operation <;> decide +kernel

theorem value_injective :
    Function.Injective ConnectorOperation.value := by
  intro a b hEq
  by_contra hNe
  revert hEq hNe
  cases a <;> cases b <;> decide +kernel

/- A key tells which operation is counted under it. -/
theorem attemptKey_operation
    {operation other : ConnectorOperation}
    {correlationId otherId : Option String}
    (hEq :
      attemptKey operation correlationId =
        attemptKey other otherId) :
    operation = other := by
  unfold attemptKey at hEq
  have hLists := congrArg String.toList hEq
  simp only [String.toList_append, List.append_assoc]
    at hLists
  have hSplit :=
    append_separator_inj (not_mem_value operation)
      (not_mem_value other) hLists
  exact value_injective (String.toList_inj.mp hSplit.1)

theorem attemptCount_recordAttempt
    (counts : AttemptCounts)
    (operation : ConnectorOperation)
    (correlationId : Option String)
    (key : String) :
    attemptCount
        (recordAttempt counts operation correlationId).2
        key =
      attemptCount counts key +
        if attemptKey operation correlationId = key then 1
        else 0 := by
  unfold recordAttempt attemptCount
  simp only
  rw [Dict.get?_set]
  by_cases hKey : attemptKey operation correlationId = key
  · subst hKey
    simp
  · rw [if_neg hKey, if_neg hKey, Nat.add_zero]

namespace MockIdentityConnector

variable (c : MockIdentityConnector)

/- The connector counts its calls for the operation. -/
def Serves
    (operation : ConnectorOperation) : Prop :=
  operation ∈ c.supportedOperations ∧ c.enabled = true

instance
    (operation : ConnectorOperation) :
    Decidable (c.Serves operation) :=
  inferInstanceAs (Decidable (_ ∧ _))

/- The counts after a call. -/
def recorded
    (operation : ConnectorOperation)
    (correlationId : Option String)
    (counts : AttemptCounts) :
    AttemptCounts :=
  if c.Serves operation then
    (recordAttempt counts operation correlationId).2
  else
    counts

variable {c}

theorem execute_of_serves
    (repr : String → String)
    {operation : ConnectorOperation}
    (hServes : c.Serves operation)
    (payload : DetailValue)
    (correlationId : Option String)
    (durationMs : Duration)
    (counts : AttemptCounts) :
    c.execute repr operation payload correlationId durationMs
        counts =
      (c.replyOf operation payload correlationId durationMs
        (attemptCount counts
          (attemptKey operation correlationId) + 1),
        (recordAttempt counts operation correlationId).2) := by
  unfold execute
  rw [if_neg (not_not.mpr hServes.1), hServes.2]
  rfl

theorem execute_snd
    (repr : String → String)
    (operation : ConnectorOperation)
    (payload : DetailValue)
    (correlationId : Option String)
    (durationMs : Duration)
    (counts : AttemptCounts) :
    (c.execute repr operation payload correlationId
        durationMs counts).2 =
      c.recorded operation correlationId counts := by
  unfold recorded
  by_cases hServes : c.Serves operation
  · rw [if_pos hServes, execute_of_serves repr hServes]
  · rw [if_neg hServes]
    unfold execute
    by_cases hSupported : operation ∈ c.supportedOperations
    · have hDisabled : c.enabled = false := by
        rw [← Bool.not_eq_true]
        exact fun hEnabled => hServes ⟨hSupported, hEnabled⟩
      rw [if_neg (not_not.mpr hSupported), hDisabled]
      rfl
    · rw [if_pos hSupported]

/- Calls after one another are all counted. -/
theorem attemptCount_recorded
    (operation : ConnectorOperation)
    (correlationId : Option String)
    (counts : AttemptCounts)
    (key : String)
    (calls : Nat) :
    attemptCount
        ((c.recorded operation correlationId)^[calls] counts)
        key =
      attemptCount counts key +
        if c.Serves operation ∧
            attemptKey operation correlationId = key then
          calls
        else
          0 := by
  induction calls with
  | zero => simp
  | succ calls ih =>
      rw [Function.iterate_succ_apply']
      by_cases hServes : c.Serves operation
      · rw [recorded, if_pos hServes,
          attemptCount_recordAttempt, ih]
        by_cases hKey :
            attemptKey operation correlationId = key
        · simp [hServes, hKey]
          omega
        · simp [hKey]
      · rw [recorded, if_neg hServes, ih]
        simp [hServes]

end MockIdentityConnector

end Connectors

end AccessIQ
