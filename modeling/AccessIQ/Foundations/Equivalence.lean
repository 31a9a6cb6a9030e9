import AccessIQ.Foundations.Execution

/-
  Programs that cannot be told apart.

  Two programs do the same if they run alike under every
  oracle and from every session, a broken one included, so
  that one may stand for the other in any program.

  Key definitions include:
    * `Program.Same`

  Key theorems include:
    * `Program.Same.bind`
    * `Program.Same.tryCatch`
    * `Program.same_view_bind`
    * `Program.Same.serve_eq`
-/

------------------------------------------------------------
-- The Same Runs
------------------------------------------------------------

namespace Foundations

namespace Program

variable {σ ι : Type} {ρ : ι → Type} {ω ε α β : Type}

/- The programs run alike, whatever the database does. -/
def Same
    (t u : Program σ ι ρ ω ε α) : Prop :=
  ∀ (o : Oracle ι ρ) (s : Session σ ω),
    t.run o s = u.run o s

variable {t u : Program σ ι ρ ω ε α}

theorem same_refl
    (t : Program σ ι ρ ω ε α) :
    Same t t :=
  fun _ _ => rfl

theorem Same.trans
    {v : Program σ ι ρ ω ε α}
    (hSame : Same t u)
    (hNext : Same u v) :
    Same t v :=
  fun o s => (hSame o s).trans (hNext o s)

theorem Same.bind
    {f g : α → Program σ ι ρ ω ε β}
    (hSame : Same t u)
    (hRest : ∀ a, Same (f a) (g a)) :
    Same (t >>= f) (u >>= g) := by
  intro o s
  rw [run_bind, run_bind, hSame o s]
  cases u.run o s with
  | mk r s' =>
      cases r with
      | error e => rfl
      | ok a => exact hRest a o s'

theorem Same.tryCatch
    (hSame : Same t u)
    (handler : ε → Program σ ι ρ ω ε α) :
    Same (tryCatch t handler) (tryCatch u handler) := by
  intro o s
  rw [run_tryCatch, run_tryCatch, hSame o s]

theorem Same.serve_eq
    (hSame : Same t u)
    (o : Oracle ι ρ)
    (s : σ) :
    t.serve o s = u.serve o s := by
  unfold serve
  rw [hSame]

theorem same_bind_assoc
    {γ : Type}
    (t : Program σ ι ρ ω ε α)
    (f : α → Program σ ι ρ ω ε β)
    (g : β → Program σ ι ρ ω ε γ) :
    Same (t >>= f >>= g) (t >>= fun a => f a >>= g) := by
  intro o s
  rw [run_bind, run_bind, run_bind]
  cases t.run o s with
  | mk r s' =>
      cases r with
      | error e => rfl
      | ok a => exact (run_bind o (f a) g s').symm

variable [RaisesDatabaseError ε]

/- A program that starts with a reading goes on with it. -/
theorem run_view_bind
    {o : Oracle ι ρ}
    {s : Session σ ω}
    (hUnbroken : s.broken = false)
    (f : σ → Program σ ι ρ ω ε α) :
    (view >>= f).run o s = (f s.working).run o s := by
  rw [run_bind, run_view hUnbroken]

/- Programs that start with a reading, read by read. -/
theorem same_view_bind
    {f g : σ → Program σ ι ρ ω ε α}
    (hSame :
      ∀ (o : Oracle ι ρ) (s : Session σ ω),
        s.broken = false →
          (f s.working).run o s = (g s.working).run o s) :
    Same (view >>= f) (view >>= g) := by
  intro o s
  cases hBroken : s.broken with
  | true =>
      rw [run_bind, run_bind]
      unfold view
      simp only [run, hBroken]
      rfl
  | false =>
      rw [run_view_bind hBroken, run_view_bind hBroken]
      exact hSame o s hBroken

end Program

end Foundations
