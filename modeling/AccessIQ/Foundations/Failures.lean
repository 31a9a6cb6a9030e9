import AccessIQ.Foundations.Execution

/-
  The first database call of a run that fails.

  A failed call breaks the session.  A careful program does
  nothing after it but raise, so what was published by then
  is all that is published.

  Key definitions include:
    * `Program.publishedAtFailure`
    * `Program.GivesUp`
    * `Program.Careful`

  Key theorems include:
    * `Program.publishedAtFailure_bind`
    * `Program.publishedAtFailure_tryCatch`
    * `Program.publishedAtFailure_of_careful`
-/

------------------------------------------------------------
-- The First Failure
------------------------------------------------------------

namespace Foundations

namespace Program

variable {σ ι : Type} {ρ : ι → Type} {ω ε α β : Type}

/-
  What was published when the first database call of a run
  failed, if one fails.
-/
def publishedAtFailure
    (o : Oracle ι ρ) :
    Program σ ι ρ ω ε α → Session σ ω → Option (List ω)
  | .done _, _ => none
  | .viewing k, s =>
      if s.broken then
        some s.published
      else
        publishedAtFailure o (k (.ok s.working)) s
  | .flushing change k, s =>
      if s.broken then
        some s.published
      else if o.fails s.tick then
        some s.published
      else
        match change s.working with
        | .ok (s', n) =>
            publishedAtFailure o (k (.ok n))
              { s with working := s', tick := s.tick + 1 }
        | .error _ => some s.published
  | .committing k, s =>
      if s.broken then
        some s.published
      else if o.fails s.tick then
        some s.published
      else
        publishedAtFailure o (k (.ok ()))
          { s with
            committed := s.working, tick := s.tick + 1 }
  | .rollingBack k, s =>
      publishedAtFailure o k
        { s with working := s.committed, broken := false }
  | .publishing events k, s =>
      publishedAtFailure o k
        { s with published := s.published ++ events }
  | .asking question k, s =>
      publishedAtFailure o (k (o.answer question)) s

/- The second program runs only if the first one returned. -/
theorem publishedAtFailure_bind
    (o : Oracle ι ρ)
    (t : Program σ ι ρ ω ε α)
    (f : α → Program σ ι ρ ω ε β)
    (s : Session σ ω) :
    (t >>= f).publishedAtFailure o s =
      (t.publishedAtFailure o s).or
        (match t.run o s with
        | (.ok a, s') => (f a).publishedAtFailure o s'
        | (.error _, _) => none) := by
  change (bind t f).publishedAtFailure o s = _
  induction t generalizing s with
  | done result => cases result <;> rfl
  | viewing k ih =>
      simp only [bind, publishedAtFailure, run]
      split
      · rfl
      · exact ih _ _
  | flushing change k ih =>
      simp only [bind, publishedAtFailure, run]
      split
      · rfl
      · split
        · rfl
        · cases change s.working with
          | ok pair => exact ih _ _
          | error e => rfl
  | committing k ih =>
      simp only [bind, publishedAtFailure, run]
      split
      · rfl
      · split
        · rfl
        · exact ih _ _
  | rollingBack k ih => exact ih _
  | publishing events k ih => exact ih _
  | asking question k ih => exact ih _ _

/- The handler runs only if the program raised. -/
theorem publishedAtFailure_tryCatch
    (o : Oracle ι ρ)
    (t : Program σ ι ρ ω ε α)
    (handler : ε → Program σ ι ρ ω ε α)
    (s : Session σ ω) :
    (tryCatch t handler).publishedAtFailure o s =
      (t.publishedAtFailure o s).or
        (match t.run o s with
        | (.ok _, _) => none
        | (.error e, s') =>
            (handler e).publishedAtFailure o s') := by
  change (handle t handler).publishedAtFailure o s = _
  induction t generalizing s with
  | done result => cases result <;> rfl
  | viewing k ih =>
      simp only [handle, publishedAtFailure, run]
      split
      · rfl
      · exact ih _ _
  | flushing change k ih =>
      simp only [handle, publishedAtFailure, run]
      split
      · rfl
      · split
        · rfl
        · cases change s.working with
          | ok pair => exact ih _ _
          | error e => rfl
  | committing k ih =>
      simp only [handle, publishedAtFailure, run]
      split
      · rfl
      · split
        · rfl
        · exact ih _ _
  | rollingBack k ih => exact ih _
  | publishing events k ih => exact ih _
  | asking question k ih => exact ih _ _

end Program

end Foundations

------------------------------------------------------------
-- Careful Programs
------------------------------------------------------------

namespace Foundations

namespace Program

variable {σ ι : Type} {ρ : ι → Type} {ω ε α β : Type}

/- In a broken session the program raises, and no more. -/
def GivesUp
    (t : Program σ ι ρ ω ε α) : Prop :=
  ∀ (o : Oracle ι ρ) (s : Session σ ω),
    s.broken = true → ∃ e, t.run o s = (.error e, s)

theorem givesUp_throw
    (e : ε) :
    (throw e : Program σ ι ρ ω ε α).GivesUp :=
  fun _ _ _ => ⟨e, rfl⟩

theorem givesUp_bind
    {t : Program σ ι ρ ω ε α}
    (hGivesUp : t.GivesUp)
    (f : α → Program σ ι ρ ω ε β) :
    (t >>= f).GivesUp := by
  intro o s hBroken
  rcases hGivesUp o s hBroken with ⟨e, hRun⟩
  refine ⟨e, ?_⟩
  rw [run_bind, hRun]

theorem givesUp_tryCatch
    {t : Program σ ι ρ ω ε α}
    {handler : ε → Program σ ι ρ ω ε α}
    (hGivesUp : t.GivesUp)
    (hHandler : ∀ e, (handler e).GivesUp) :
    (tryCatch t handler).GivesUp := by
  intro o s hBroken
  rcases hGivesUp o s hBroken with ⟨e, hRun⟩
  rcases hHandler e o s hBroken with ⟨e', hRun'⟩
  refine ⟨e', ?_⟩
  rw [run_tryCatch, hRun]
  exact hRun'

/-
  The program does not use the answer of a failed database
  call.
-/
def Careful :
    Program σ ι ρ ω ε α → Prop
  | .done _ => True
  | .viewing k => ∀ s, (k (.ok s)).Careful
  | .flushing _ k =>
      (∀ e, (k (.error e)).GivesUp) ∧
        ∀ n, (k (.ok n)).Careful
  | .committing k =>
      (∀ e, (k (.error e)).GivesUp) ∧
        (k (.ok ())).Careful
  | .rollingBack k => k.Careful
  | .publishing _ k => k.Careful
  | .asking _ k => ∀ r, (k r).Careful

/-
  The session of a careful program tells by the end whether a
  call failed, and nothing is published after that.
-/
theorem publishedAtFailure_of_careful
    {t : Program σ ι ρ ω ε α}
    (hCareful : t.Careful)
    (o : Oracle ι ρ)
    {s : Session σ ω}
    (hUnbroken : s.broken = false) :
    t.publishedAtFailure o s =
      if (t.run o s).2.broken then
        some (t.run o s).2.published
      else
        none := by
  induction t generalizing s with
  | done result =>
      simp only [publishedAtFailure, run, hUnbroken,
        Bool.false_eq_true, if_false]
  | viewing k ih =>
      simp only [publishedAtFailure, run, hUnbroken,
        Bool.false_eq_true, if_false]
      exact ih _ (hCareful _) hUnbroken
  | flushing change k ih =>
      simp only [publishedAtFailure, run, hUnbroken,
        Bool.false_eq_true, if_false]
      have hFailed :
          ∀ e,
            some s.published =
              if ((k (.error e)).run o
                  { s with
                    broken := true
                    tick := s.tick + 1 }).2.broken then
                some ((k (.error e)).run o
                  { s with
                    broken := true
                    tick := s.tick + 1 }).2.published
              else
                none := by
        intro e
        rcases hCareful.1 e o
            { s with broken := true, tick := s.tick + 1 }
            rfl with
          ⟨e', hRun⟩
        rw [hRun]
        rfl
      split
      · exact hFailed _
      · cases change s.working with
        | ok pair => exact ih _ (hCareful.2 _) rfl
        | error e => exact hFailed e
  | committing k ih =>
      simp only [publishedAtFailure, run, hUnbroken,
        Bool.false_eq_true, if_false]
      split
      · rcases hCareful.1 .operational o
            { s with broken := true, tick := s.tick + 1 }
            rfl with
          ⟨e', hRun⟩
        rw [hRun]
        rfl
      · exact ih _ hCareful.2 rfl
  | rollingBack k ih => exact ih hCareful rfl
  | publishing events k ih => exact ih hCareful hUnbroken
  | asking question k ih =>
      exact ih _ (hCareful _) hUnbroken

@[simp] theorem careful_pure
    (a : α) :
    (pure a : Program σ ι ρ ω ε α).Careful :=
  trivial

@[simp] theorem careful_throw
    (e : ε) :
    (throw e : Program σ ι ρ ω ε α).Careful :=
  trivial

theorem careful_bind
    {t : Program σ ι ρ ω ε α}
    {f : α → Program σ ι ρ ω ε β}
    (hFirst : t.Careful)
    (hSecond : ∀ a, (f a).Careful) :
    (t >>= f).Careful := by
  change (bind t f).Careful
  induction t with
  | done result =>
      cases result with
      | ok a => exact hSecond a
      | error e => exact trivial
  | viewing k ih => exact fun s => ih _ (hFirst s)
  | flushing change k ih =>
      exact ⟨fun e => givesUp_bind (hFirst.1 e) f,
        fun n => ih _ (hFirst.2 n)⟩
  | committing k ih =>
      exact ⟨fun e => givesUp_bind (hFirst.1 e) f,
        ih _ hFirst.2⟩
  | rollingBack k ih => exact ih hFirst
  | publishing events k ih => exact ih hFirst
  | asking question k ih => exact fun r => ih r (hFirst r)

/- A handler must give up as well. -/
theorem careful_tryCatch
    {t : Program σ ι ρ ω ε α}
    {handler : ε → Program σ ι ρ ω ε α}
    (hFirst : t.Careful)
    (hHandler : ∀ e, (handler e).Careful)
    (hGivesUp : ∀ e, (handler e).GivesUp) :
    (tryCatch t handler).Careful := by
  change (handle t handler).Careful
  induction t with
  | done result =>
      cases result with
      | ok a => exact trivial
      | error e => exact hHandler e
  | viewing k ih => exact fun s => ih _ (hFirst s)
  | flushing change k ih =>
      exact ⟨fun e =>
          givesUp_tryCatch (hFirst.1 e) hGivesUp,
        fun n => ih _ (hFirst.2 n)⟩
  | committing k ih =>
      exact ⟨fun e =>
          givesUp_tryCatch (hFirst.1 e) hGivesUp,
        ih _ hFirst.2⟩
  | rollingBack k ih => exact ih hFirst
  | publishing events k ih => exact ih hFirst
  | asking question k ih => exact fun r => ih r (hFirst r)

theorem careful_getOrRaise
    (v : Option α)
    (e : ε) :
    (getOrRaise v e : Program σ ι ρ ω ε α).Careful := by
  cases v <;> exact trivial

theorem careful_raiseIf
    (c : Prop)
    [Decidable c]
    (e : ε) :
    (raiseIf c e : Program σ ι ρ ω ε Unit).Careful := by
  unfold raiseIf
  split <;> exact trivial

theorem careful_ask
    (question : ι) :
    (ask question :
      Program σ ι ρ ω ε (ρ question)).Careful :=
  fun _ => trivial

variable [RaisesDatabaseError ε]

theorem careful_view :
    (view : Program σ ι ρ ω ε σ).Careful :=
  fun _ => trivial

theorem givesUp_view :
    (view : Program σ ι ρ ω ε σ).GivesUp := by
  intro o s hBroken
  refine ⟨RaisesDatabaseError.databaseError
    .pendingRollback, ?_⟩
  unfold view
  simp only [run, hBroken, if_true]
  rfl

theorem careful_flush
    (change : σ → Except DatabaseError (σ × Int)) :
    (flush change : Program σ ι ρ ω ε Int).Careful :=
  ⟨fun _ => givesUp_throw _, fun _ => trivial⟩

theorem careful_flush_
    (change : σ → Except DatabaseError σ) :
    (flush_ change : Program σ ι ρ ω ε Unit).Careful :=
  ⟨fun _ => givesUp_throw _, fun _ => trivial⟩

theorem careful_commit :
    (commit : Program σ ι ρ ω ε Unit).Careful :=
  ⟨fun _ => givesUp_throw _, trivial⟩

end Program

end Foundations
