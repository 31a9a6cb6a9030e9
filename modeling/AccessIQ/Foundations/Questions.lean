import AccessIQ.Foundations.Program

/-
  The questions a program asks.

  A program asks the outside world in the order of its run.
  A part of a program that asks nothing contributes nothing,
  whatever becomes of it.

  Key definitions include:
    * `Program.asked`
    * `Program.Quiet`
    * `Program.Returns`

  Key theorems include:
    * `Program.asked_bind`
    * `Program.asked_of_quiet`
    * `Program.good_of_returns`
    * `Program.asked_bind_of_quiet`
-/

------------------------------------------------------------
-- Questions
------------------------------------------------------------

namespace Foundations

namespace Program

variable {σ ι : Type} {ρ : ι → Type} {ω ε α β : Type}

/- The questions asked along a run, in order. -/
def asked
    (o : Oracle ι ρ) :
    Program σ ι ρ ω ε α → Session σ ω → List ι
  | .done _, _ => []
  | .viewing k, s =>
      if s.broken then
        asked o (k (.error .pendingRollback)) s
      else
        asked o (k (.ok s.working)) s
  | .flushing change k, s =>
      if s.broken then
        asked o (k (.error .pendingRollback)) s
      else if o.fails s.tick then
        asked o (k (.error .operational))
          { s with broken := true, tick := s.tick + 1 }
      else
        match change s.working with
        | .ok (s', n) =>
            asked o (k (.ok n))
              { s with working := s', tick := s.tick + 1 }
        | .error e =>
            asked o (k (.error e))
              { s with broken := true, tick := s.tick + 1 }
  | .committing k, s =>
      if s.broken then
        asked o (k (.error .pendingRollback)) s
      else if o.fails s.tick then
        asked o (k (.error .operational))
          { s with broken := true, tick := s.tick + 1 }
      else
        asked o (k (.ok ()))
          { s with
            committed := s.working, tick := s.tick + 1 }
  | .rollingBack k, s =>
      asked o k
        { s with working := s.committed, broken := false }
  | .publishing events k, s =>
      asked o k { s with published := s.published ++ events }
  | .asking question k, s =>
      question :: asked o (k (o.answer question)) s

/- What the second program asks comes after the first. -/
theorem asked_bind
    (o : Oracle ι ρ)
    (t : Program σ ι ρ ω ε α)
    (f : α → Program σ ι ρ ω ε β)
    (s : Session σ ω) :
    (t >>= f).asked o s =
      t.asked o s ++
        match t.run o s with
        | (.ok a, s') => (f a).asked o s'
        | (.error _, _) => [] := by
  change (bind t f).asked o s = _
  induction t generalizing s with
  | done result => cases result <;> rfl
  | viewing k ih =>
      simp only [bind, asked, run]
      split <;> exact ih _ _
  | flushing change k ih =>
      simp only [bind, asked, run]
      split
      · exact ih _ _
      · split
        · exact ih _ _
        · cases change s.working with
          | ok pair => exact ih _ _
          | error e => exact ih _ _
  | committing k ih =>
      simp only [bind, asked, run]
      split
      · exact ih _ _
      · split <;> exact ih _ _
  | rollingBack k ih => exact ih _
  | publishing events k ih => exact ih _
  | asking question k ih =>
      simp only [bind, asked, run, List.cons_append]
      rw [ih]

end Program

end Foundations

------------------------------------------------------------
-- Quiet Programs
------------------------------------------------------------

namespace Foundations

namespace Program

variable {σ ι : Type} {ρ : ι → Type} {ω ε α β : Type}

/- The program asks nothing. -/
def Quiet :
    Program σ ι ρ ω ε α → Prop
  | .done _ => True
  | .viewing k => ∀ r, (k r).Quiet
  | .flushing _ k => ∀ r, (k r).Quiet
  | .committing k => ∀ r, (k r).Quiet
  | .rollingBack k => k.Quiet
  | .publishing _ k => k.Quiet
  | .asking _ _ => False

theorem asked_of_quiet
    {t : Program σ ι ρ ω ε α}
    (hQuiet : t.Quiet)
    (o : Oracle ι ρ)
    (s : Session σ ω) :
    t.asked o s = [] := by
  induction t generalizing s with
  | done result => rfl
  | viewing k ih =>
      simp only [asked]
      split <;> exact ih _ (hQuiet _) _
  | flushing change k ih =>
      simp only [asked]
      split
      · exact ih _ (hQuiet _) _
      · split
        · exact ih _ (hQuiet _) _
        · split <;> exact ih _ (hQuiet _) _
  | committing k ih =>
      simp only [asked]
      split
      · exact ih _ (hQuiet _) _
      · split <;> exact ih _ (hQuiet _) _
  | rollingBack k ih => exact ih hQuiet _
  | publishing events k ih => exact ih hQuiet _
  | asking question k ih => exact hQuiet.elim

@[simp] theorem quiet_pure
    (a : α) :
    (pure a : Program σ ι ρ ω ε α).Quiet :=
  trivial

@[simp] theorem quiet_throw
    (e : ε) :
    (throw e : Program σ ι ρ ω ε α).Quiet :=
  trivial

theorem quiet_bind
    {t : Program σ ι ρ ω ε α}
    {f : α → Program σ ι ρ ω ε β}
    (hFirst : t.Quiet)
    (hSecond : ∀ a, (f a).Quiet) :
    (t >>= f).Quiet := by
  change (bind t f).Quiet
  induction t with
  | done result =>
      cases result with
      | ok a => exact hSecond a
      | error e => exact trivial
  | viewing k ih => exact fun r => ih r (hFirst r)
  | flushing change k ih => exact fun r => ih r (hFirst r)
  | committing k ih => exact fun r => ih r (hFirst r)
  | rollingBack k ih => exact ih hFirst
  | publishing events k ih => exact ih hFirst
  | asking question k ih => exact hFirst.elim

theorem quiet_getOrRaise
    (v : Option α)
    (e : ε) :
    (getOrRaise v e : Program σ ι ρ ω ε α).Quiet := by
  cases v <;> exact trivial

variable [RaisesDatabaseError ε]

theorem quiet_orRaise
    (r : Except DatabaseError α) :
    (orRaise r : Program σ ι ρ ω ε α).Quiet := by
  cases r <;> exact trivial

theorem quiet_view :
    (view : Program σ ι ρ ω ε σ).Quiet :=
  fun r => quiet_orRaise r

theorem quiet_flush
    (change : σ → Except DatabaseError (σ × Int)) :
    (flush change : Program σ ι ρ ω ε Int).Quiet :=
  fun r => quiet_orRaise r

theorem quiet_flush_
    (change : σ → Except DatabaseError σ) :
    (flush_ change : Program σ ι ρ ω ε Unit).Quiet :=
  fun r => quiet_orRaise (r.map fun _ => ())

end Program

end Foundations

------------------------------------------------------------
-- Returned Values
------------------------------------------------------------

namespace Foundations

namespace Program

variable {σ ι : Type} {ρ : ι → Type} {ω ε α β : Type}

/- Whatever happens, a value the program returns is good. -/
def Returns
    (good : α → Prop) :
    Program σ ι ρ ω ε α → Prop
  | .done (.ok a) => good a
  | .done (.error _) => True
  | .viewing k => ∀ r, (k r).Returns good
  | .flushing _ k => ∀ r, (k r).Returns good
  | .committing k => ∀ r, (k r).Returns good
  | .rollingBack k => k.Returns good
  | .publishing _ k => k.Returns good
  | .asking _ k => ∀ r, (k r).Returns good

theorem good_of_returns
    {good : α → Prop}
    {t : Program σ ι ρ ω ε α}
    (hReturns : t.Returns good)
    {o : Oracle ι ρ}
    {s : Session σ ω}
    {a : α}
    (hRun : (t.run o s).1 = .ok a) :
    good a := by
  induction t generalizing s with
  | done result =>
      cases result with
      | ok b =>
          cases hRun
          exact hReturns
      | error e => cases hRun
  | viewing k ih =>
      simp only [run] at hRun
      split at hRun
      · exact ih _ (hReturns _) hRun
      · exact ih _ (hReturns _) hRun
  | flushing change k ih =>
      simp only [run] at hRun
      split at hRun
      · exact ih _ (hReturns _) hRun
      · split at hRun
        · exact ih _ (hReturns _) hRun
        · split at hRun
          · exact ih _ (hReturns _) hRun
          · exact ih _ (hReturns _) hRun
  | committing k ih =>
      simp only [run] at hRun
      split at hRun
      · exact ih _ (hReturns _) hRun
      · split at hRun
        · exact ih _ (hReturns _) hRun
        · exact ih _ (hReturns _) hRun
  | rollingBack k ih => exact ih hReturns hRun
  | publishing events k ih => exact ih hReturns hRun
  | asking question k ih => exact ih _ (hReturns _) hRun

/- The last part of a program decides what it returns. -/
theorem returns_bind
    {good : β → Prop}
    (t : Program σ ι ρ ω ε α)
    {f : α → Program σ ι ρ ω ε β}
    (hLast : ∀ a, (f a).Returns good) :
    (t >>= f).Returns good := by
  change (bind t f).Returns good
  induction t with
  | done result =>
      cases result with
      | ok a => exact hLast a
      | error e => exact trivial
  | viewing k ih => exact fun r => ih r
  | flushing change k ih => exact fun r => ih r
  | committing k ih => exact fun r => ih r
  | rollingBack k ih => exact ih
  | publishing events k ih => exact ih
  | asking question k ih => exact fun r => ih r

/-
  A program that begins with a quiet part fails in it without
  a question, or asks what the rest of it asks.
-/
theorem asked_bind_of_quiet
    {good : α → Prop}
    {t : Program σ ι ρ ω ε α}
    (hQuiet : t.Quiet)
    (hReturns : t.Returns good)
    (f : α → Program σ ι ρ ω ε β)
    (o : Oracle ι ρ)
    (s : Session σ ω) :
    ((t >>= f).asked o s = [] ∧
        ∃ e, ((t >>= f).run o s).1 = .error e) ∨
      ∃ a s',
        good a ∧
          (t >>= f).asked o s = (f a).asked o s' ∧
          (t >>= f).run o s = (f a).run o s' := by
  have hAsked := asked_bind o t f s
  have hRun := run_bind o t f s
  rw [asked_of_quiet hQuiet, List.nil_append] at hAsked
  rcases hFirst : t.run o s with ⟨e | a, s'⟩
  · rw [hFirst] at hAsked hRun
    exact Or.inl ⟨hAsked, e, congrArg Prod.fst hRun⟩
  · rw [hFirst] at hAsked hRun
    have hGood :=
      good_of_returns hReturns (congrArg Prod.fst hFirst)
    exact Or.inr ⟨a, s', hGood, hAsked, hRun⟩

end Program

end Foundations
