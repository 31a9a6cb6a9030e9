import AccessIQ.Foundations.Program

/-
  Programs that only read the store.

  A program that does nothing but read comes to the same
  result under every oracle, and leaves everything as it is,
  so its weakest precondition is the postcondition of that
  result.

  Key definitions include:
    * `Program.reading`

  Key theorems include:
    * `Program.reading_bind`
    * `Program.reading_bind_eq_ok`
    * `Program.wp_of_reading`
-/

------------------------------------------------------------
-- Results Of Readings
------------------------------------------------------------

namespace Foundations

namespace Program

variable {σ ι : Type} {ρ : ι → Type} {ω ε α β : Type}

/-
  What a program comes to at a store; `none` if it does more
  than read.
-/
def reading
    (s : σ) :
    Program σ ι ρ ω ε α → Option (Except ε α)
  | .done result => some result
  | .viewing k => reading s (k (.ok s))
  | .flushing _ _ => none
  | .committing _ => none
  | .rollingBack _ => none
  | .publishing _ _ => none
  | .asking _ _ => none

/- What is left to read after a result. -/
def readOn
    (s : σ)
    (f : α → Program σ ι ρ ω ε β) :
    Except ε α → Option (Except ε β)
  | .ok a => (f a).reading s
  | .error e => some (.error e)

@[simp] theorem reading_pure
    (s : σ)
    (a : α) :
    (pure a : Program σ ι ρ ω ε α).reading s =
      some (.ok a) :=
  rfl

@[simp] theorem reading_throw
    (s : σ)
    (e : ε) :
    (throw e : Program σ ι ρ ω ε α).reading s =
      some (.error e) :=
  rfl

@[simp] theorem readOn_ok
    (s : σ)
    (f : α → Program σ ι ρ ω ε β)
    (a : α) :
    readOn s f (.ok a) = (f a).reading s :=
  rfl

@[simp] theorem readOn_error
    (s : σ)
    (f : α → Program σ ι ρ ω ε β)
    (e : ε) :
    readOn s f (.error e) = some (.error e) :=
  rfl

@[simp] theorem reading_bind
    (s : σ)
    (t : Program σ ι ρ ω ε α)
    (f : α → Program σ ι ρ ω ε β) :
    (t >>= f).reading s =
      (t.reading s).bind (readOn s f) := by
  change (bind t f).reading s = _
  induction t with
  | done result => cases result <;> rfl
  | viewing k ih => exact ih _
  | flushing change k ih => rfl
  | committing k ih => rfl
  | rollingBack k ih => rfl
  | publishing events k ih => rfl
  | asking question k ih => rfl

@[simp] theorem reading_raiseIf
    (s : σ)
    (c : Prop)
    [Decidable c]
    (e : ε) :
    (raiseIf c e : Program σ ι ρ ω ε Unit).reading s =
      some (if c then .error e else .ok ()) := by
  unfold raiseIf
  by_cases hc : c
  · rw [if_pos hc, if_pos hc]
    rfl
  · rw [if_neg hc, if_neg hc]
    rfl

@[simp] theorem reading_getOrRaise_some
    (s : σ)
    (a : α)
    (e : ε) :
    (getOrRaise (some a) e : Program σ ι ρ ω ε α).reading s =
      some (.ok a) :=
  rfl

@[simp] theorem reading_getOrRaise_none
    (s : σ)
    (e : ε) :
    (getOrRaise none e : Program σ ι ρ ω ε α).reading s =
      some (.error e) :=
  rfl

theorem reading_bind_of_ok
    {s : σ}
    {t : Program σ ι ρ ω ε α}
    {a : α}
    (hReading : t.reading s = some (.ok a))
    (f : α → Program σ ι ρ ω ε β) :
    (t >>= f).reading s = (f a).reading s := by
  rw [reading_bind, hReading]
  rfl

theorem reading_bind_of_error
    {s : σ}
    {t : Program σ ι ρ ω ε α}
    {e : ε}
    (hReading : t.reading s = some (.error e))
    (f : α → Program σ ι ρ ω ε β) :
    (t >>= f).reading s = some (.error e) := by
  rw [reading_bind, hReading]
  rfl

/- A sequence that returned has returned from both parts. -/
theorem reading_bind_eq_ok
    {s : σ}
    {t : Program σ ι ρ ω ε α}
    {f : α → Program σ ι ρ ω ε β}
    {b : β}
    (hReading : (t >>= f).reading s = some (.ok b)) :
    ∃ a,
      t.reading s = some (.ok a) ∧
        (f a).reading s = some (.ok b) := by
  rw [reading_bind] at hReading
  cases hFirst : t.reading s with
  | none =>
      rw [hFirst] at hReading
      cases hReading
  | some r =>
      rw [hFirst] at hReading
      cases r with
      | error e => cases hReading
      | ok a => exact ⟨a, rfl, hReading⟩

/- A sequence reads if both of its parts do. -/
theorem reads_bind
    {s : σ}
    {t : Program σ ι ρ ω ε α}
    {f : α → Program σ ι ρ ω ε β}
    (hFirst : ∃ r, t.reading s = some r)
    (hRest : ∀ a, ∃ r, (f a).reading s = some r) :
    ∃ r, (t >>= f).reading s = some r := by
  rcases hFirst with ⟨e | a, hReading⟩
  · exact ⟨.error e, reading_bind_of_error hReading f⟩
  · rw [reading_bind_of_ok hReading f]
    exact hRest a

variable [RaisesDatabaseError ε]

@[simp] theorem reading_view
    (s : σ) :
    (view : Program σ ι ρ ω ε σ).reading s =
      some (.ok s) :=
  rfl

end Program

end Foundations

------------------------------------------------------------
-- Rules
------------------------------------------------------------

namespace Foundations

namespace Program

variable {σ ι : Type} {ρ : ι → Type} {ω ε α : Type}
variable {w : World ι ρ}

/- A reading returns its result and does nothing else. -/
theorem wp_of_reading
    {t : Program σ ι ρ ω ε α}
    {c s : σ}
    {p : List ω}
    {r : Except ε α}
    (hReading : t.reading s = some r)
    {post : Post σ ω ε α} :
    t.wp w post ⟨c, s, false, p⟩ ↔
      post r ⟨c, s, false, p⟩ := by
  induction t with
  | done result =>
      cases hReading
      rfl
  | viewing k ih =>
      simp only [wp, Bool.false_eq_true, if_false]
      exact ih _ hReading
  | flushing change k ih => cases hReading
  | committing k ih => cases hReading
  | rollingBack k ih => cases hReading
  | publishing events k ih => cases hReading
  | asking question k ih => cases hReading

end Program

end Foundations
