import AccessIQ.Connectors.Trace

/-
  The attempts of a run.

  The loop of a run ends at the attempt `lastAttempt` finds.
  What is true of the record before the first attempt, and
  stays true from one attempt to the next, is true before the
  last one.

  Key definitions include:
    * `ProvisioningRun.attempts`

  Key theorems include:
    * `outcomeFrom_eq`
    * `outcome_eq`
-/

------------------------------------------------------------
-- The Loop
------------------------------------------------------------

namespace AccessIQ

namespace Connectors

open Foundations

namespace ProvisioningRun

variable {run : ProvisioningRun}

/- The number of attempts a run makes. -/
def attempts
    (run : ProvisioningRun)
    (reply : Nat → ConnectorReply) :
    Nat :=
  lastAttempt run.policy.isRetryableException reply
    (run.policy.maxAttempts - 1) 1

theorem retriedException_ok
    (result : ConnectorResult)
    (attempt : Nat) :
    run.retriedException (.ok result) attempt = none :=
  rfl

/- While attempts remain, only the class decides. -/
theorem retriedException_error
    {exc : ConnectorException}
    {attempt : Nat}
    (hRemains : attempt < run.policy.maxAttempts) :
    run.retriedException (.error exc) attempt =
      if run.policy.isRetryableException exc then
        some exc
      else
        none := by
  unfold retriedException RetryPolicy.shouldRetry
  simp only [hRemains, decide_true, Bool.and_true]

/- The rule for what holds before each attempt. -/
theorem outcomeFrom_eq
    {I : Nat → Record → Prop}
    {s : Store}
    {reply : Nat → ConnectorReply}
    (hNext :
      ∀ attempt record exc,
        I attempt record →
        reply attempt = .error exc →
          I (attempt + 1)
            (run.retriedRecord s
              (run.invokedRecord s record attempt) attempt
              exc))
    {remaining attempt : Nat}
    {record : Record}
    (hMax : attempt + remaining = run.policy.maxAttempts)
    (hStart : I attempt record) :
    let last :=
      lastAttempt run.policy.isRetryableException reply
        remaining attempt
    ∃ before,
      I last before ∧
        run.outcomeFrom s reply remaining attempt record =
          run.concludedRecord s
            (run.invokedRecord s before last) last
            (reply last) := by
  induction remaining generalizing attempt record with
  | zero => exact ⟨record, hStart, rfl⟩
  | succ remaining ih =>
      have hRemains : attempt < run.policy.maxAttempts := by
        omega
      cases hReply : reply attempt with
      | ok result =>
          rw [lastAttempt_of_ok hReply]
          refine ⟨record, hStart, ?_⟩
          unfold outcomeFrom
          rw [hReply, retriedException_ok]
      | error exc =>
          cases hRetryable :
              run.policy.isRetryableException exc with
          | false =>
              rw [lastAttempt_of_not_retryable hReply
                hRetryable]
              refine ⟨record, hStart, ?_⟩
              unfold outcomeFrom
              rw [hReply, retriedException_error hRemains,
                hRetryable]
              rfl
          | true =>
              rw [lastAttempt_of_retryable hReply
                hRetryable]
              unfold outcomeFrom
              rw [hReply, retriedException_error hRemains,
                hRetryable]
              have hMax' :
                  attempt + 1 + remaining =
                    run.policy.maxAttempts := by
                omega
              exact ih hMax'
                (hNext attempt record exc hStart hReply)

/- The rule for a whole run. -/
theorem outcome_eq
    (I : Nat → Record → Prop)
    {s : Store}
    {jobId : Int}
    {reply : Nat → ConnectorReply}
    (hStart : I 1 (run.createdRecord s jobId))
    (hNext :
      ∀ attempt record exc,
        I attempt record →
        reply attempt = .error exc →
          I (attempt + 1)
            (run.retriedRecord s
              (run.invokedRecord s record attempt) attempt
              exc)) :
    ∃ before,
      I (run.attempts reply) before ∧
        run.outcome s jobId reply =
          run.concludedRecord s
            (run.invokedRecord s before
              (run.attempts reply))
            (run.attempts reply)
            (reply (run.attempts reply)) := by
  have hPositive := run.policy.maxAttempts_pos
  have hMax :
      1 + (run.policy.maxAttempts - 1) =
        run.policy.maxAttempts := by
    omega
  exact outcomeFrom_eq hNext hMax hStart

end ProvisioningRun

end Connectors

end AccessIQ
