import AccessIQ.Foundations.Questions

/-
  An outside world with a memory.

  What the outside world answers may depend on what it was
  asked before, in this run or in an earlier one.  A run that
  is answered so is a run against an oracle, as long as the
  oracle gives each question of the run the answer the memory
  gives when it is asked.

  Key definitions include:
    * `Program.runWith`
    * `remember`
    * `Remembered`

  Key theorems include:
    * `Program.runWith_eq_run`
    * `remembered_append`
-/

------------------------------------------------------------
-- Runs With A Memory
------------------------------------------------------------

namespace Foundations

variable {σ ι : Type} {ρ : ι → Type} {ω ε α κ : Type}

/- How a world with a memory answers a question. -/
abbrev Recollection (κ ι : Type) (ρ : ι → Type) :=
  (question : ι) → κ → ρ question × κ

/-
  Execute a program where `fails` decides which database
  calls fail and the answers have a memory.
-/
def Program.runWith
    (fails : Nat → Bool)
    (answer : Recollection κ ι ρ) :
    Program σ ι ρ ω ε α → Session σ ω → κ →
      (Except ε α × Session σ ω) × κ
  | .done result, s, memory => ((result, s), memory)
  | .viewing k, s, memory =>
      if s.broken then
        runWith fails answer (k (.error .pendingRollback)) s
          memory
      else
        runWith fails answer (k (.ok s.working)) s memory
  | .flushing change k, s, memory =>
      if s.broken then
        runWith fails answer (k (.error .pendingRollback)) s
          memory
      else if fails s.tick then
        runWith fails answer (k (.error .operational))
          { s with broken := true, tick := s.tick + 1 } memory
      else
        match change s.working with
        | .ok (s', n) =>
            runWith fails answer (k (.ok n))
              { s with working := s', tick := s.tick + 1 }
              memory
        | .error e =>
            runWith fails answer (k (.error e))
              { s with broken := true, tick := s.tick + 1 }
              memory
  | .committing k, s, memory =>
      if s.broken then
        runWith fails answer (k (.error .pendingRollback)) s
          memory
      else if fails s.tick then
        runWith fails answer (k (.error .operational))
          { s with broken := true, tick := s.tick + 1 } memory
      else
        runWith fails answer (k (.ok ()))
          { s with
            committed := s.working, tick := s.tick + 1 }
          memory
  | .rollingBack k, s, memory =>
      runWith fails answer k
        { s with working := s.committed, broken := false }
        memory
  | .publishing events k, s, memory =>
      runWith fails answer k
        { s with published := s.published ++ events } memory
  | .asking question k, s, memory =>
      let reply := answer question memory
      runWith fails answer (k reply.1) s reply.2

/- The memory after questions. -/
def remember
    (answer : Recollection κ ι ρ)
    (memory : κ)
    (questions : List ι) :
    κ :=
  questions.foldl
    (fun memory question => (answer question memory).2)
    memory

@[simp] theorem remember_nil
    (answer : Recollection κ ι ρ)
    (memory : κ) :
    remember answer memory [] = memory :=
  rfl

@[simp] theorem remember_cons
    (answer : Recollection κ ι ρ)
    (memory : κ)
    (question : ι)
    (questions : List ι) :
    remember answer memory (question :: questions) =
      remember answer (answer question memory).2 questions :=
  rfl

@[simp] theorem remember_append
    (answer : Recollection κ ι ρ)
    (memory : κ)
    (questions later : List ι) :
    remember answer memory (questions ++ later) =
      remember answer (remember answer memory questions) later :=
  List.foldl_append

/-
  The oracle answers each of the questions as the memory does
  after the questions before it.
-/
def Remembered
    (o : Oracle ι ρ)
    (answer : Recollection κ ι ρ) :
    κ → List ι → Prop
  | _, [] => True
  | memory, question :: questions =>
      o.answer question = (answer question memory).1 ∧
        Remembered o answer (answer question memory).2
          questions

/- A run with a memory is a run against such an oracle. -/
theorem Program.runWith_eq_run
    {o : Oracle ι ρ}
    {answer : Recollection κ ι ρ}
    {t : Program σ ι ρ ω ε α}
    {s : Session σ ω}
    {memory : κ}
    (hRemembered : Remembered o answer memory (t.asked o s)) :
    t.runWith o.fails answer s memory =
      (t.run o s, remember answer memory (t.asked o s)) := by
  induction t generalizing s memory with
  | done result => rfl
  | viewing k ih =>
      simp only [asked, run, runWith] at hRemembered ⊢
      split
      · rename_i hBroken
        rw [if_pos hBroken] at hRemembered
        exact ih _ hRemembered
      · rename_i hBroken
        rw [if_neg hBroken] at hRemembered
        exact ih _ hRemembered
  | flushing change k ih =>
      simp only [asked, run, runWith] at hRemembered ⊢
      split
      · rename_i hBroken
        rw [if_pos hBroken] at hRemembered
        exact ih _ hRemembered
      · rename_i hBroken
        rw [if_neg hBroken] at hRemembered
        split
        · rename_i hFails
          rw [if_pos hFails] at hRemembered
          exact ih _ hRemembered
        · rename_i hFails
          rw [if_neg hFails] at hRemembered
          cases hChange : change s.working with
          | ok pair =>
              rw [hChange] at hRemembered
              exact ih _ hRemembered
          | error e =>
              rw [hChange] at hRemembered
              exact ih _ hRemembered
  | committing k ih =>
      simp only [asked, run, runWith] at hRemembered ⊢
      split
      · rename_i hBroken
        rw [if_pos hBroken] at hRemembered
        exact ih _ hRemembered
      · rename_i hBroken
        rw [if_neg hBroken] at hRemembered
        split
        · rename_i hFails
          rw [if_pos hFails] at hRemembered
          exact ih _ hRemembered
        · rename_i hFails
          rw [if_neg hFails] at hRemembered
          exact ih _ hRemembered
  | rollingBack k ih => exact ih hRemembered
  | publishing events k ih => exact ih hRemembered
  | asking question k ih =>
      rcases hRemembered with ⟨hAnswer, hRest⟩
      simp only [asked, run, runWith, remember_cons]
      rw [← hAnswer]
      exact ih _ hRest

theorem remembered_append
    {o : Oracle ι ρ}
    {answer : Recollection κ ι ρ}
    {memory : κ}
    {questions later : List ι} :
    Remembered o answer memory (questions ++ later) ↔
      Remembered o answer memory questions ∧
        Remembered o answer
          (remember answer memory questions) later := by
  induction questions generalizing memory with
  | nil => exact (iff_of_eq (true_and _)).symm
  | cons question questions ih =>
      rw [List.cons_append, remember_cons]
      simp only [Remembered]
      rw [ih, and_assoc]

end Foundations
