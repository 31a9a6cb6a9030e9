import AccessIQ.Foundations.Runs

/-
  A cached value of a state that changes.

  The cache keeps the value of the state as it was when the
  value was computed.  It is computed anew when it is asked
  for and nothing valid is kept, and when a refresh demands
  it.  Changes of the state do not reach the cache; they show
  after the next refresh or invalidation only.

  So a value that is served may be stale, but not by more than
  a moment after the last refresh or invalidation, and the
  version tells the values apart.

  Key definitions include:
    * `Cache`
    * `Cache.load`
    * `Cached`
    * `Cached.serve`

  Key theorems include:
    * `Cached.load_since`
    * `Cached.load_current`
    * `Cached.version_identifies`
-/

------------------------------------------------------------
-- Caches
------------------------------------------------------------

namespace Foundations

variable {β τ : Type}

structure Cache (β τ : Type) where
  value : Option β := none
  loadedAt : Option τ := none
  valid : Bool := false
  version : Nat := 0

namespace Cache

/- Keep a value that was just computed. -/
def refresh
    (c : Cache β τ)
    (computed : β)
    (now : τ) :
    Cache β τ where
  value := some computed
  loadedAt := some now
  valid := true
  version := c.version + 1

def invalidate
    (c : Cache β τ) :
    Cache β τ :=
  { c with valid := false }

/- The value that is valid, or one computed now. -/
def load
    (c : Cache β τ)
    (computed : β)
    (now : τ) :
    β × Cache β τ :=
  match c.value, c.valid with
  | some kept, true => (kept, c)
  | _, _ => (computed, c.refresh computed now)

theorem load_of_valid
    {c : Cache β τ}
    {kept : β}
    (hValue : c.value = some kept)
    (hValid : c.valid = true)
    (computed : β)
    (now : τ) :
    c.load computed now = (kept, c) := by
  unfold load
  rw [hValue, hValid]

theorem load_of_not_valid
    {c : Cache β τ}
    (hValid : c.valid = false)
    (computed : β)
    (now : τ) :
    c.load computed now =
      (computed, c.refresh computed now) := by
  unfold load
  rw [hValid]
  cases c.value with
  | none => rfl
  | some kept => rfl

end Cache

end Foundations

------------------------------------------------------------
-- Uses
------------------------------------------------------------

namespace Foundations

/- What a request does to the state or to the cache. -/
inductive CacheUse (σ τ : Type) where
  | write (s : σ)
  | load (now : τ)
  | refresh (now : τ)
  | invalidate
  | pass

/- The value kept so far is not served again. -/
def CacheUse.Discards
    {σ τ : Type} :
    CacheUse σ τ → Prop
  | .write _ => False
  | .load _ => False
  | .refresh _ => True
  | .invalidate => True
  | .pass => False

/- A state, and a cache of a value of it. -/
structure Cached (σ β τ : Type) where
  state : σ
  cache : Cache β τ := {}

namespace Cached

variable {σ β τ ρ : Type}

/- One use of the state or of the cache. -/
def step
    (f : σ → β)
    (x : Cached σ β τ) :
    CacheUse σ τ → Cached σ β τ
  | .write s => { x with state := s }
  | .load now =>
      { x with cache := (x.cache.load (f x.state) now).2 }
  | .refresh now =>
      { x with cache := x.cache.refresh (f x.state) now }
  | .invalidate => { x with cache := x.cache.invalidate }
  | .pass => x

/- Serve a request whose use depends on the state. -/
def serve
    (f : σ → β)
    (use : σ → ρ → CacheUse σ τ)
    (x : Cached σ β τ)
    (r : ρ) :
    Cached σ β τ :=
  x.step f (use x.state r)

variable {f : σ → β}
variable {use : σ → ρ → CacheUse σ τ}
variable {x : Cached σ β τ}

/- No request of a run discards what is kept. -/
def Undisturbed
    (f : σ → β)
    (use : σ → ρ → CacheUse σ τ)
    (x : Cached σ β τ)
    (requests : List ρ) : Prop :=
  ∀ before r after, requests = before ++ r :: after →
    ¬ (use (serveAll (serve f use) x before).state
        r).Discards

theorem undisturbed_nil :
    Undisturbed f use x [] := by
  intro before r after hEq
  simp at hEq

theorem Undisturbed.append
    {requests : List ρ}
    {r : ρ}
    (hRun : Undisturbed f use x requests)
    (hLast :
      ¬ (use (serveAll (serve f use) x requests).state
          r).Discards) :
    Undisturbed f use x (requests ++ [r]) := by
  intro before r' after hEq
  rcases List.eq_nil_or_concat after with
    rfl | ⟨after', last, rfl⟩
  · rcases List.append_inj' hEq rfl with ⟨rfl, hSame⟩
    cases hSame
    exact hLast
  · have hSplit :
        requests ++ [r] =
          (before ++ r' :: after') ++ [last] := by
      rw [hEq, List.append_assoc, List.cons_append,
        List.concat_eq_append]
    exact hRun before r' after'
      (List.append_inj' hSplit rfl).1

end Cached

end Foundations

------------------------------------------------------------
-- What Is Served
------------------------------------------------------------

namespace Foundations

namespace Cached

variable {σ β τ ρ : Type}
variable {f : σ → β}
variable {use : σ → ρ → CacheUse σ τ}
variable {x : Cached σ β τ}

/-
  The value of the state at a moment of the run, after which
  nothing was refreshed or invalidated.
-/
def Since
    (f : σ → β)
    (use : σ → ρ → CacheUse σ τ)
    (x : Cached σ β τ)
    (requests : List ρ)
    (served : β) : Prop :=
  ∃ before after,
    requests = before ++ after ∧
      served = f (serveAll (serve f use) x before).state ∧
      Undisturbed f use (serveAll (serve f use) x before)
        after

theorem since_now
    (requests : List ρ) :
    Since f use x requests
      (f (serveAll (serve f use) x requests).state) :=
  ⟨requests, [], by simp, rfl, undisturbed_nil⟩

theorem Since.append
    {requests : List ρ}
    {r : ρ}
    {served : β}
    (hSince : Since f use x requests served)
    (hLast :
      ¬ (use (serveAll (serve f use) x requests).state
          r).Discards) :
    Since f use x (requests ++ [r]) served := by
  rcases hSince with ⟨before, after, rfl, hServed, hRun⟩
  refine ⟨before, after ++ [r], by simp, hServed, ?_⟩
  apply hRun.append
  rw [← serveAll_append]
  exact hLast

/-
  The moment comes after a request that discards what was
  kept.
-/
theorem Since.after
    {before after : List ρ}
    {r : ρ}
    {served : β}
    (hSince : Since f use x (before ++ r :: after) served)
    (hDiscards :
      (use (serveAll (serve f use) x before).state
          r).Discards) :
    ∃ early late,
      after = early ++ late ∧
        served =
          f (serveAll (serve f use) x
            (before ++ r :: early)).state := by
  rcases hSince with ⟨first, rest, hEq, hServed, hRun⟩
  rcases List.append_eq_append_iff.mp hEq with
    ⟨between, rfl, hRest⟩ | ⟨between, rfl, hRest⟩
  · cases between with
    | nil =>
        have hHead : rest = [] ++ r :: after := hRest.symm
        refine absurd ?_ (hRun [] r after hHead)
        rw [List.append_nil]
        exact hDiscards
    | cons r' between =>
        cases hRest
        exact ⟨between, rest, rfl, hServed⟩
  · refine absurd ?_ (hRun between r after hRest)
    rw [← serveAll_append]
    exact hDiscards

/- A valid value is there, and was current since. -/
def Fresh
    (f : σ → β)
    (use : σ → ρ → CacheUse σ τ)
    (x : Cached σ β τ)
    (requests : List ρ)
    (c : Cache β τ) : Prop :=
  c.valid = true →
    ∃ kept, c.value = some kept ∧ Since f use x requests kept

theorem fresh_serveAll
    (hStart : x.cache.valid = false)
    (requests : List ρ) :
    Fresh f use x requests
      (serveAll (serve f use) x requests).cache := by
  induction requests using List.reverseRecOn with
  | nil =>
      intro hValid
      rw [serveAll_nil, hStart] at hValid
      cases hValid
  | append_singleton requests r ih =>
      rw [serveAll_append, serveAll_cons, serveAll_nil]
      have hNow :
          Since f use x (requests ++ [r])
            (f (serveAll (serve f use) x
              (requests ++ [r])).state) :=
        since_now (requests ++ [r])
      rw [serveAll_append, serveAll_cons, serveAll_nil]
        at hNow
      have hKeep :
          ¬ (use (serveAll (serve f use) x requests).state
              r).Discards →
            Fresh f use x (requests ++ [r])
              (serveAll (serve f use) x requests).cache := by
        intro hLast hValid
        rcases ih hValid with ⟨kept, hValue, hSince⟩
        exact ⟨kept, hValue, hSince.append hLast⟩
      generalize serveAll (serve f use) x requests = y
        at ih hNow hKeep ⊢
      unfold serve at hNow ⊢
      cases hUse : use y.state r with
      | write s =>
          apply hKeep
          rw [hUse]
          exact not_false
      | load now =>
          rw [hUse] at hNow hKeep
          cases hValid : y.cache.valid with
          | true =>
              rcases ih hValid with ⟨kept, hValue, -⟩
              simp only [step,
                Cache.load_of_valid hValue hValid]
              exact hKeep not_false
          | false =>
              simp only [step,
                Cache.load_of_not_valid hValid] at hNow ⊢
              exact fun _ => ⟨_, rfl, hNow⟩
      | refresh now =>
          rw [hUse] at hNow
          exact fun _ => ⟨_, rfl, hNow⟩
      | invalidate =>
          intro hValid
          cases hValid
      | pass =>
          apply hKeep
          rw [hUse]
          exact not_false

/- What a run serves next was current since. -/
theorem load_since
    (hStart : x.cache.valid = false)
    (requests : List ρ)
    (now : τ) :
    let y := serveAll (serve f use) x requests
    Since f use x requests
      (y.cache.load (f y.state) now).1 := by
  intro y
  cases hValid : y.cache.valid with
  | true =>
      rcases fresh_serveAll hStart requests hValid with
        ⟨kept, hValue, hSince⟩
      rw [Cache.load_of_valid hValue hValid]
      exact hSince
  | false =>
      rw [Cache.load_of_not_valid hValid]
      exact since_now requests

/-
  It is current if the state did not change after a request
  that discards what was kept.
-/
theorem load_current
    (hStart : x.cache.valid = false)
    (before after : List ρ)
    (r : ρ)
    (hDiscards :
      (use (serveAll (serve f use) x before).state
          r).Discards)
    (hQuiet :
      ∀ early late, after = early ++ late →
        (serveAll (serve f use) x
            (before ++ r :: early)).state =
          (serveAll (serve f use) x
            (before ++ r :: after)).state)
    (now : τ) :
    let y :=
      serveAll (serve f use) x (before ++ r :: after)
    (y.cache.load (f y.state) now).1 = f y.state := by
  intro y
  rcases (load_since hStart (before ++ r :: after)
    now).after hDiscards with ⟨early, late, hAfter, hServed⟩
  rw [hServed, hQuiet early late hAfter]

end Cached

end Foundations

------------------------------------------------------------
-- Versions
------------------------------------------------------------

namespace Foundations

namespace Cached

variable {σ β τ ρ : Type}
variable {f : σ → β}
variable {use : σ → ρ → CacheUse σ τ}

/- Of two caches of one version the values are the same. -/
structure SameByVersion
    (c c' : Cache β τ) : Prop where
  later : c.version ≤ c'.version
  value : c.version = c'.version → c'.value = c.value
  loadedAt : c.version = c'.version → c'.loadedAt = c.loadedAt

theorem sameByVersion_refl
    (c : Cache β τ) :
    SameByVersion c c :=
  ⟨le_refl _, fun _ => rfl, fun _ => rfl⟩

theorem sameByVersion_refresh
    (c : Cache β τ)
    (computed : β)
    (now : τ) :
    SameByVersion c (c.refresh computed now) := by
  have hLess :
      c.version < (c.refresh computed now).version :=
    Nat.lt_succ_self _
  have hNe : c.version ≠ (c.refresh computed now).version :=
    ne_of_lt hLess
  exact ⟨le_of_lt hLess, fun hEq => absurd hEq hNe,
    fun hEq => absurd hEq hNe⟩

theorem sameByVersion_trans
    {a b c : Cache β τ}
    (hFirst : SameByVersion a b)
    (hSecond : SameByVersion b c) :
    SameByVersion a c := by
  have hBetween :
      a.version = c.version →
        a.version = b.version ∧ b.version = c.version := by
    intro hEq
    have hLater := hFirst.later
    have hLatest := hSecond.later
    omega
  refine ⟨le_trans hFirst.later hSecond.later, ?_, ?_⟩
  · intro hEq
    rcases hBetween hEq with ⟨hLeft, hRight⟩
    rw [hSecond.value hRight, hFirst.value hLeft]
  · intro hEq
    rcases hBetween hEq with ⟨hLeft, hRight⟩
    rw [hSecond.loadedAt hRight, hFirst.loadedAt hLeft]

theorem sameByVersion_load
    (c : Cache β τ)
    (computed : β)
    (now : τ) :
    SameByVersion c (c.load computed now).2 := by
  unfold Cache.load
  split
  · exact sameByVersion_refl c
  · exact sameByVersion_refresh c computed now

theorem sameByVersion_serve
    (x : Cached σ β τ)
    (r : ρ) :
    SameByVersion x.cache (serve f use x r).cache := by
  unfold serve
  cases use x.state r with
  | write s => exact sameByVersion_refl _
  | load now => exact sameByVersion_load _ _ now
  | refresh now => exact sameByVersion_refresh _ _ now
  | invalidate =>
      exact ⟨le_refl _, fun _ => rfl, fun _ => rfl⟩
  | pass => exact sameByVersion_refl _

/- Across a run, the version identifies what is kept. -/
theorem version_identifies
    (x : Cached σ β τ)
    (requests : List ρ) :
    SameByVersion x.cache
      (serveAll (serve f use) x requests).cache := by
  induction requests generalizing x with
  | nil => exact sameByVersion_refl x.cache
  | cons r requests ih =>
      exact sameByVersion_trans (sameByVersion_serve x r)
        (ih _)

end Cached

end Foundations
