import Mathlib.Tactic

/-
  Runs of requests.

  A service handles requests one after another.  Whatever
  each request preserves holds after every run, and whatever
  relates the states before and after each request relates
  the two ends of every run.

  Key definitions include:
    * `serveAll`
    * `Occurs`
    * `EachStep`

  Key theorems include:
    * `serveAll_append`
    * `serveAll_invariant`
    * `serveAll_related`
    * `serveAll_iff_occurs`
    * `serveAll_of_eachStep`
    * `eachStep_of_serveAll`
-/

------------------------------------------------------------
-- Serving Requests One After Another
------------------------------------------------------------

namespace Foundations

variable {σ ρ : Type}

/- The state after serving requests in order. -/
def serveAll
    (serve : σ → ρ → σ)
    (s : σ)
    (requests : List ρ) :
    σ :=
  requests.foldl serve s

@[simp] theorem serveAll_nil
    (serve : σ → ρ → σ)
    (s : σ) :
    serveAll serve s [] = s :=
  rfl

@[simp] theorem serveAll_cons
    (serve : σ → ρ → σ)
    (s : σ)
    (r : ρ)
    (requests : List ρ) :
    serveAll serve s (r :: requests) =
      serveAll serve (serve s r) requests :=
  rfl

@[simp] theorem serveAll_append
    (serve : σ → ρ → σ)
    (s : σ)
    (before after : List ρ) :
    serveAll serve s (before ++ after) =
      serveAll serve (serveAll serve s before) after :=
  List.foldl_append

/- What every request preserves holds after every run. -/
theorem serveAll_invariant
    {serve : σ → ρ → σ}
    {inv : σ → Prop}
    (hStep : ∀ s r, inv s → inv (serve s r))
    {s : σ}
    (hStart : inv s)
    (requests : List ρ) :
    inv (serveAll serve s requests) := by
  induction requests generalizing s with
  | nil => exact hStart
  | cons r requests ih => exact ih (hStep s r hStart)

/-
  A reflexive and transitive relation that holds across every
  request holds across every run.
-/
theorem serveAll_related
    {serve : σ → ρ → σ}
    {inv : σ → Prop}
    {rel : σ → σ → Prop}
    (hRefl : ∀ s, rel s s)
    (hTrans : ∀ a b c, rel a b → rel b c → rel a c)
    (hStep : ∀ s r, inv s → inv (serve s r))
    (hRel : ∀ s r, inv s → rel s (serve s r))
    {s : σ}
    (hStart : inv s)
    (requests : List ρ) :
    rel s (serveAll serve s requests) := by
  induction requests generalizing s with
  | nil => exact hRefl s
  | cons r requests ih =>
      exact hTrans _ _ _ (hRel s r hStart)
        (ih (hStep s r hStart))

end Foundations

------------------------------------------------------------
-- What Occurs In A Run
------------------------------------------------------------

namespace Foundations

variable {σ ρ : Type}

/-
  Some request of a run does `event`, which relates the
  states before and after it.
-/
def Occurs
    (serve : σ → ρ → σ)
    (event : σ → σ → Prop)
    (s : σ)
    (requests : List ρ) : Prop :=
  ∃ before r after,
    requests = before ++ r :: after ∧
      event (serveAll serve s before)
        (serve (serveAll serve s before) r)

theorem not_occurs_nil
    (serve : σ → ρ → σ)
    (event : σ → σ → Prop)
    (s : σ) :
    ¬ Occurs serve event s [] := by
  rintro ⟨before, r, after, hEq, -⟩
  cases before <;> cases hEq

theorem occurs_cons
    (serve : σ → ρ → σ)
    (event : σ → σ → Prop)
    (s : σ)
    (r : ρ)
    (requests : List ρ) :
    Occurs serve event s (r :: requests) ↔
      event s (serve s r) ∨
        Occurs serve event (serve s r) requests := by
  constructor
  · rintro ⟨before, r', after, hEq, hEvent⟩
    cases before with
    | nil =>
        cases hEq
        exact Or.inl hEvent
    | cons first before =>
        cases hEq
        exact Or.inr ⟨before, r', after, rfl, hEvent⟩
  · rintro (hEvent | ⟨before, r', after, rfl, hEvent⟩)
    · exact ⟨[], r, requests, rfl, hEvent⟩
    · exact ⟨r :: before, r', after, rfl, hEvent⟩

/-
  A property that only an event brings about, and nothing
  takes away, holds exactly if it did or the event occurs.
-/
theorem serveAll_iff_occurs
    {serve : σ → ρ → σ}
    {inv property : σ → Prop}
    {event : σ → σ → Prop}
    (hStep : ∀ s r, inv s → inv (serve s r))
    (hEvent :
      ∀ s r, inv s →
        (property (serve s r) ↔
          property s ∨ event s (serve s r)))
    {s : σ}
    (hStart : inv s)
    (requests : List ρ) :
    property (serveAll serve s requests) ↔
      property s ∨ Occurs serve event s requests := by
  induction requests generalizing s with
  | nil =>
      rw [serveAll_nil]
      exact (or_iff_left
        (not_occurs_nil serve event s)).symm
  | cons r requests ih =>
      rw [serveAll_cons, ih (hStep s r hStart),
        hEvent s r hStart, occurs_cons, or_assoc]

end Foundations

------------------------------------------------------------
-- Runs Whose Requests All Meet A Condition
------------------------------------------------------------

namespace Foundations

variable {σ ρ : Type}

/- Every request meets a condition on the state before it. -/
def EachStep
    (serve : σ → ρ → σ)
    (meets : σ → ρ → Prop)
    (s : σ)
    (requests : List ρ) : Prop :=
  ∀ before r after,
    requests = before ++ r :: after →
      meets (serveAll serve s before) r

/-
  What requests that meet the condition preserve holds in
  every state that a run of such requests comes through.
-/
theorem serveAll_of_eachStep
    {serve : σ → ρ → σ}
    {meets : σ → ρ → Prop}
    {inv : σ → Prop}
    (hStep : ∀ s r, inv s → meets s r → inv (serve s r))
    {s : σ}
    (hStart : inv s)
    {requests : List ρ}
    (hMeets : EachStep serve meets s requests)
    {before : List ρ}
    (hBefore : before <+: requests) :
    inv (serveAll serve s before) := by
  induction before using List.reverseRecOn with
  | nil => exact hStart
  | append_singleton before r ih =>
      rcases hBefore with ⟨after, hEq⟩
      rw [List.append_assoc, List.singleton_append] at hEq
      have hInv := ih ⟨r :: after, hEq⟩
      have hMeet := hMeets before r after hEq.symm
      rw [serveAll_append]
      exact hStep _ r hInv hMeet

/-
  If what comes out of a request shows that the request met
  the condition, a run all of whose states show it is one of
  requests that meet it.
-/
theorem eachStep_of_serveAll
    {serve : σ → ρ → σ}
    {meets : σ → ρ → Prop}
    {inv property : σ → Prop}
    (hStep : ∀ s r, inv s → inv (serve s r))
    {requests : List ρ}
    (hShows :
      ∀ s, ∀ r ∈ requests, inv s → property (serve s r) →
        meets s r)
    {s : σ}
    (hStart : inv s)
    (hProperty :
      ∀ before, before <+: requests →
        property (serveAll serve s before)) :
    EachStep serve meets s requests := by
  intro before r after hEq
  have hNext : before ++ [r] <+: requests :=
    ⟨after, by rw [hEq, List.append_assoc]; rfl⟩
  have hAfter := hProperty (before ++ [r]) hNext
  rw [serveAll_append] at hAfter
  have hMem : r ∈ requests := by
    rw [hEq]
    exact List.mem_append_right _ List.mem_cons_self
  exact hShows _ r hMem
    (serveAll_invariant hStep hStart before) hAfter

end Foundations
