import AccessIQ.Foundations.Runs

/-
  Replaying published events.

  A server that publishes the events of each change keeps a
  log.  If replaying the events of every request over the
  view of a state gives the view of the next state, replaying
  the log of a run rebuilds the view of the state it ends in.

  Key definitions include:
    * `replay`
    * `logged`

  Key theorems include:
    * `replay_append`
    * `replay_log`
-/

------------------------------------------------------------
-- Replaying Events
------------------------------------------------------------

namespace Foundations

variable {σ ρ ω ν : Type}

/- A view after events are applied to it in order. -/
def replay
    (apply : ν → ω → ν)
    (view : ν)
    (events : List ω) :
    ν :=
  events.foldl apply view

@[simp] theorem replay_nil
    (apply : ν → ω → ν)
    (view : ν) :
    replay apply view [] = view :=
  rfl

@[simp] theorem replay_cons
    (apply : ν → ω → ν)
    (view : ν)
    (event : ω)
    (events : List ω) :
    replay apply view (event :: events) =
      replay apply (apply view event) events :=
  rfl

@[simp] theorem replay_append
    (apply : ν → ω → ν)
    (view : ν)
    (events later : List ω) :
    replay apply view (events ++ later) =
      replay apply (replay apply view events) later :=
  List.foldl_append

/- A server whose log grows by what each request publishes. -/
def logged
    (serve : σ → ρ → σ × List ω)
    (state : σ × List ω)
    (r : ρ) :
    σ × List ω :=
  ((serve state.1 r).1, state.2 ++ (serve state.1 r).2)

/- Replaying the log of a run rebuilds its last view. -/
theorem replay_log
    {serve : σ → ρ → σ × List ω}
    {apply : ν → ω → ν}
    {view : σ → ν}
    {inv : σ → Prop}
    (hStep : ∀ s r, inv s → inv (serve s r).1)
    (hReplay :
      ∀ s r, inv s →
        replay apply (view s) (serve s r).2 =
          view (serve s r).1)
    {s : σ}
    (hStart : inv s)
    (requests : List ρ) :
    replay apply (view s)
        (serveAll (logged serve) (s, []) requests).2 =
      view (serveAll (logged serve) (s, []) requests).1 := by
  have hInvariant :=
    @serveAll_invariant (σ × List ω) ρ (logged serve)
      (fun state =>
        inv state.1 ∧
          replay apply (view s) state.2 = view state.1)
      (by
        rintro ⟨s', log⟩ r ⟨hInv, hLog⟩
        refine ⟨hStep s' r hInv, ?_⟩
        simp only at hLog
        unfold logged
        rw [replay_append, hLog]
        exact hReplay s' r hInv)
      (s, []) ⟨hStart, rfl⟩ requests
  exact hInvariant.2

end Foundations
