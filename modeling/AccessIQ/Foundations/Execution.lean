import AccessIQ.Foundations.Program

/-
  What a program that returned has executed.

  A run that returns a value has returned from each of its
  parts, so it is taken apart step by step.

  Key theorems include:
    * `Program.run_tryCatch`
    * `Program.run_bind_eq_ok`
    * `Program.run_view`
    * `bind_eq_ok`
-/

------------------------------------------------------------
-- Returning Runs
------------------------------------------------------------

namespace Foundations

namespace Program

variable {σ ι : Type} {ρ : ι → Type} {ω ε α β : Type}
variable {o : Oracle ι ρ}
variable {s s' : Session σ ω}

/- A handler runs in the session its program left. -/
theorem run_tryCatch
    (o : Oracle ι ρ)
    (t : Program σ ι ρ ω ε α)
    (handler : ε → Program σ ι ρ ω ε α)
    (s : Session σ ω) :
    (tryCatch t handler).run o s =
      match t.run o s with
      | (.ok a, s') => (.ok a, s')
      | (.error e, s') => (handler e).run o s' := by
  change (handle t handler).run o s = _
  induction t generalizing s with
  | done result => cases result <;> rfl
  | viewing k ih =>
      simp only [handle, run]
      split <;> exact ih _ _
  | flushing change k ih =>
      simp only [handle, run]
      split
      · exact ih _ _
      · split
        · exact ih _ _
        · split <;> exact ih _ _
  | committing k ih =>
      simp only [handle, run]
      split
      · exact ih _ _
      · split <;> exact ih _ _
  | rollingBack k ih => exact ih _
  | publishing events k ih => exact ih _
  | asking question k ih => exact ih _ _

/- A sequence returns when both of its parts do. -/
theorem run_bind_eq_ok
    {t : Program σ ι ρ ω ε α}
    {f : α → Program σ ι ρ ω ε β}
    {b : β}
    (hReturns : (t >>= f).run o s = (.ok b, s')) :
    ∃ a s₁,
      t.run o s = (.ok a, s₁) ∧
        (f a).run o s₁ = (.ok b, s') := by
  rw [run_bind] at hReturns
  cases hFirst : t.run o s with
  | mk r s₁ =>
      rw [hFirst] at hReturns
      cases r with
      | error e => cases hReturns
      | ok a => exact ⟨a, s₁, rfl, hReturns⟩

theorem run_getOrRaise_eq_ok
    {v : Option α}
    {e : ε}
    {a : α}
    (hReturns :
      (getOrRaise v e : Program σ ι ρ ω ε α).run o s =
        (.ok a, s')) :
    v = some a ∧ s' = s := by
  cases v with
  | none => cases hReturns
  | some a =>
      cases hReturns
      exact ⟨rfl, rfl⟩

theorem run_raiseIf_eq_ok
    {c : Prop}
    [Decidable c]
    {e : ε}
    {u : Unit}
    (hReturns :
      (raiseIf c e : Program σ ι ρ ω ε Unit).run o s =
        (.ok u, s')) :
    ¬ c ∧ s' = s := by
  unfold raiseIf at hReturns
  by_cases hRaises : c
  · rw [if_pos hRaises] at hReturns
    cases hReturns
  · rw [if_neg hRaises] at hReturns
    cases hReturns
    exact ⟨hRaises, rfl⟩

variable [RaisesDatabaseError ε]

/- A working session shows the store of its transaction. -/
theorem run_view
    (hUnbroken : s.broken = false) :
    (view : Program σ ι ρ ω ε σ).run o s =
      (.ok s.working, s) := by
  unfold view
  simp only [run, hUnbroken, Bool.false_eq_true, if_false]
  rfl

end Program

end Foundations

------------------------------------------------------------
-- Returning Results
------------------------------------------------------------

namespace Foundations

variable {ε α β : Type}

/- A sequence of results is `ok` when both of them are. -/
theorem bind_eq_ok
    {result : Except ε α}
    {f : α → Except ε β}
    {b : β}
    (hOk : result >>= f = .ok b) :
    ∃ a, result = .ok a ∧ f a = .ok b := by
  cases result with
  | error e => cases hOk
  | ok a => exact ⟨a, rfl, hOk⟩

/- A mapped result is `ok` when the result is. -/
theorem map_eq_ok
    {result : Except ε α}
    {f : α → β}
    {b : β}
    (hOk : result.map f = .ok b) :
    ∃ a, result = .ok a ∧ b = f a := by
  cases result with
  | error e => cases hOk
  | ok a =>
      cases hOk
      exact ⟨a, rfl, rfl⟩

/- A result is `ok` whatever becomes of errors. -/
theorem mapError_eq_ok_iff
    {ε' : Type}
    {f : ε → ε'}
    {result : Except ε α}
    {a : α} :
    result.mapError f = .ok a ↔ result = .ok a := by
  cases result with
  | error e =>
      constructor
      · intro hOk
        cases hOk
      · intro hOk
        cases hOk
  | ok b => simp [Except.mapError]

/- What a list of results returns, its members return. -/
theorem exists_of_mem_mapM
    {f : α → Except ε β}
    {as : List α}
    {bs : List β}
    (hOk : as.mapM f = .ok bs) :
    ∀ b ∈ bs, ∃ a ∈ as, f a = .ok b := by
  induction as generalizing bs with
  | nil =>
      cases hOk
      intro b hNone
      cases hNone
  | cons a as ih =>
      rw [List.mapM_cons] at hOk
      rcases bind_eq_ok hOk with ⟨first, hFirst, hRest⟩
      rcases bind_eq_ok hRest with ⟨rest, hOthers, hBoth⟩
      cases hBoth
      intro b hb
      rcases List.mem_cons.mp hb with rfl | hb
      · exact ⟨a, List.mem_cons_self, hFirst⟩
      · rcases ih hOthers b hb with ⟨other, hMem, hOther⟩
        exact ⟨other, List.mem_cons_of_mem a hMem, hOther⟩

/- A list of results fails where one of them does. -/
theorem mapM_eq_error
    {f : α → Except ε β}
    {as : List α}
    {e : ε}
    (hError : as.mapM f = .error e) :
    ∃ a ∈ as, f a = .error e := by
  induction as with
  | nil => cases hError
  | cons a as ih =>
      rw [List.mapM_cons] at hError
      cases hFirst : f a with
      | error e' =>
          rw [hFirst] at hError
          cases hError
          exact ⟨a, List.mem_cons_self, hFirst⟩
      | ok b =>
          rw [hFirst] at hError
          cases hRest : as.mapM f with
          | error e' =>
              have hSame : e' = e := by
                simpa [hRest, bind, Except.bind] using hError
              subst hSame
              rcases ih hRest with ⟨a', hMem, hFails⟩
              exact ⟨a', List.mem_cons_of_mem _ hMem, hFails⟩
          | ok bs =>
              exfalso
              simp [hRest, bind, Except.bind, pure,
                Except.pure] at hError

end Foundations
