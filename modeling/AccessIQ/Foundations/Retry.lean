import Mathlib.Tactic

/-
  Retry loops.

  A retry loop makes attempts, numbered from one, until an
  attempt returns, raises what is not worth a retry, or was
  the last one allowed.  Between attempts it waits for a
  delay that doubles each time up to a limit.

  Key definitions include:
    * `lastAttempt`
    * `cappedBackoff`

  Key theorems include:
    * `lastAttempt_le`
    * `retried_before_lastAttempt`
    * `ended_at_lastAttempt`
    * `lastAttempt_of_threshold`
    * `cappedBackoff_mono`
-/

------------------------------------------------------------
-- Attempts
------------------------------------------------------------

namespace Foundations

variable {ε α : Type}

/-
  The attempt a retry loop ends with, from an attempt on and
  with a number of attempts remaining after it.
-/
def lastAttempt
    (retryable : ε → Bool)
    (outcome : Nat → Except ε α) :
    Nat → Nat → Nat
  | 0, attempt => attempt
  | remaining + 1, attempt =>
      match outcome attempt with
      | .ok _ => attempt
      | .error e =>
          if retryable e then
            lastAttempt retryable outcome remaining
              (attempt + 1)
          else
            attempt

variable {retryable : ε → Bool}
variable {outcome : Nat → Except ε α}

theorem lastAttempt_of_ok
    {remaining attempt : Nat}
    {a : α}
    (hOk : outcome attempt = .ok a) :
    lastAttempt retryable outcome remaining attempt =
      attempt := by
  cases remaining with
  | zero => rfl
  | succ remaining => simp only [lastAttempt, hOk]

theorem lastAttempt_of_not_retryable
    {remaining attempt : Nat}
    {e : ε}
    (hError : outcome attempt = .error e)
    (hNot : retryable e = false) :
    lastAttempt retryable outcome remaining attempt =
      attempt := by
  cases remaining with
  | zero => rfl
  | succ remaining =>
      simp only [lastAttempt, hError, hNot,
        Bool.false_eq_true, if_false]

theorem lastAttempt_of_retryable
    {remaining attempt : Nat}
    {e : ε}
    (hError : outcome attempt = .error e)
    (hRetryable : retryable e = true) :
    lastAttempt retryable outcome (remaining + 1) attempt =
      lastAttempt retryable outcome remaining
        (attempt + 1) := by
  simp only [lastAttempt, hError, hRetryable, if_true]

theorem le_lastAttempt
    (remaining attempt : Nat) :
    attempt ≤
      lastAttempt retryable outcome remaining attempt := by
  induction remaining generalizing attempt with
  | zero => exact le_refl attempt
  | succ remaining ih =>
      unfold lastAttempt
      cases outcome attempt with
      | ok a => exact le_refl attempt
      | error e =>
          simp only
          split
          · have hNext := ih (attempt + 1)
            omega
          · exact le_refl attempt

/- No attempt is made beyond those remaining. -/
theorem lastAttempt_le
    (remaining attempt : Nat) :
    lastAttempt retryable outcome remaining attempt ≤
      attempt + remaining := by
  induction remaining generalizing attempt with
  | zero => exact le_refl attempt
  | succ remaining ih =>
      unfold lastAttempt
      cases outcome attempt with
      | ok a => simp
      | error e =>
          simp only
          split
          · have hNext := ih (attempt + 1)
            omega
          · omega

/- Every attempt before the last raised and was retried. -/
theorem retried_before_lastAttempt
    {remaining attempt k : Nat}
    (hFrom : attempt ≤ k)
    (hBefore :
      k < lastAttempt retryable outcome remaining attempt) :
    ∃ e, outcome k = .error e ∧ retryable e = true := by
  induction remaining generalizing attempt with
  | zero =>
      exact absurd hBefore (not_lt_of_ge hFrom)
  | succ remaining ih =>
      cases hOutcome : outcome attempt with
      | ok a =>
          rw [lastAttempt_of_ok hOutcome] at hBefore
          exact absurd hBefore (not_lt_of_ge hFrom)
      | error e =>
          cases hRetryable : retryable e with
          | false =>
              rw [lastAttempt_of_not_retryable hOutcome
                hRetryable] at hBefore
              exact absurd hBefore (not_lt_of_ge hFrom)
          | true =>
              rw [lastAttempt_of_retryable hOutcome
                hRetryable] at hBefore
              rcases Nat.eq_or_lt_of_le hFrom with
                rfl | hLater
              · exact ⟨e, hOutcome, hRetryable⟩
              · exact ih hLater hBefore

/-
  The last attempt returned, raised what is not retried, or
  was the last one allowed.
-/
theorem ended_at_lastAttempt
    (remaining attempt : Nat) :
    let last :=
      lastAttempt retryable outcome remaining attempt
    (∃ a, outcome last = .ok a) ∨
      (∃ e, outcome last = .error e ∧
        (retryable e = false ∨
          last = attempt + remaining)) := by
  induction remaining generalizing attempt with
  | zero =>
      cases hOutcome : outcome attempt with
      | ok a => exact Or.inl ⟨a, hOutcome⟩
      | error e => exact Or.inr ⟨e, hOutcome, Or.inr rfl⟩
  | succ remaining ih =>
      cases hOutcome : outcome attempt with
      | ok a =>
          rw [lastAttempt_of_ok hOutcome]
          exact Or.inl ⟨a, hOutcome⟩
      | error e =>
          cases hRetryable : retryable e with
          | false =>
              rw [lastAttempt_of_not_retryable hOutcome
                hRetryable]
              exact Or.inr ⟨e, hOutcome, Or.inl hRetryable⟩
          | true =>
              rw [lastAttempt_of_retryable hOutcome
                hRetryable]
              have hNext := ih (attempt + 1)
              rw [Nat.add_assoc, Nat.add_comm 1] at hNext
              exact hNext

/-
  Where the attempts fail and are retried up to a threshold,
  the loop ends at the first one past it that it reaches.
-/
theorem lastAttempt_of_threshold
    {first threshold : Nat}
    (hBelow :
      ∀ attempt, first ≤ attempt → attempt ≤ threshold →
        ∃ e,
          outcome attempt = .error e ∧ retryable e = true)
    (hAbove :
      ∀ attempt, first ≤ attempt → threshold < attempt →
        ∃ a, outcome attempt = .ok a)
    (remaining : Nat)
    {attempt : Nat}
    (hFrom : first ≤ attempt) :
    lastAttempt retryable outcome remaining attempt =
      min (attempt + remaining)
        (max attempt (threshold + 1)) := by
  induction remaining generalizing attempt with
  | zero =>
      change attempt = _
      omega
  | succ remaining ih =>
      by_cases hLe : attempt ≤ threshold
      · rcases hBelow attempt hFrom hLe with
          ⟨e, hError, hRetryable⟩
        rw [lastAttempt_of_retryable hError hRetryable,
          ih (le_trans hFrom (Nat.le_succ attempt))]
        omega
      · rcases hAbove attempt hFrom (not_le.mp hLe) with
          ⟨a, hOk⟩
        rw [lastAttempt_of_ok hOk]
        omega

end Foundations

------------------------------------------------------------
-- Delays
------------------------------------------------------------

namespace Foundations

/- The delay after an attempt. -/
def cappedBackoff
    (base limit attempt : Nat) :
    Nat :=
  min (base * 2 ^ (attempt - 1)) limit

theorem cappedBackoff_le
    (base limit attempt : Nat) :
    cappedBackoff base limit attempt ≤ limit :=
  min_le_right _ _

theorem le_cappedBackoff
    {base limit : Nat}
    (hLimit : base ≤ limit)
    (attempt : Nat) :
    base ≤ cappedBackoff base limit attempt :=
  le_min (Nat.le_mul_of_pos_right base (Nat.two_pow_pos _))
    hLimit

/- Delays never decrease. -/
theorem cappedBackoff_mono
    (base limit : Nat)
    {attempt later : Nat}
    (hLater : attempt ≤ later) :
    cappedBackoff base limit attempt ≤
      cappedBackoff base limit later := by
  refine min_le_min_right limit ?_
  refine Nat.mul_le_mul_left base ?_
  exact Nat.pow_le_pow_right (by decide)
    (Nat.sub_le_sub_right hLater 1)

end Foundations
