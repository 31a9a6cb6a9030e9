import Mathlib.Tactic
import Mathlib.Logic.Relation
import Mathlib.Data.List.Nodup

/-
  Chains of pointers.

  Every element points to at most one other.  Chasing the
  pointers from an element, without visiting one twice, finds
  a target exactly if the pointers lead to it, whether or not
  some chain of pointers is cyclic.  Redirecting a pointer
  keeps the chains acyclic if the new one does not lead back.
  Following the pointers from an element until one comes again
  ends, with all they lead to if no chain is cyclic.

  Key definitions include:
    * `Points`
    * `Acyclic`
    * `chase`
    * `IsTrail`
    * `follow`

  Key theorems include:
    * `chase_iff_reaches`
    * `Acyclic.update`
    * `exists_follow`
    * `IsTrail.mem_iff`
-/

------------------------------------------------------------
-- Pointers
------------------------------------------------------------

namespace Foundations

open Relation

variable {α : Type}

/- The pointer of `x` is `y`. -/
def Points
    (next : α → Option α)
    (x y : α) : Prop :=
  next x = some y

/- No chain of pointers comes back to where it began. -/
def Acyclic
    (next : α → Option α) : Prop :=
  ∀ x, ¬ TransGen (Points next) x x

theorem Acyclic.not_points_self
    {next : α → Option α}
    (hAcyclic : Acyclic next)
    (x : α) :
    next x ≠ some x :=
  fun hSelf => hAcyclic x (TransGen.single hSelf)

/- Pointers that stay within a list lead nowhere else. -/
theorem mem_of_reflTransGen
    {next : α → Option α}
    {within : List α}
    (hClosed :
      ∀ x ∈ within, ∃ y ∈ within, next x = some y)
    {x y : α}
    (hX : x ∈ within)
    (hReaches : ReflTransGen (Points next) x y) :
    y ∈ within := by
  induction hReaches with
  | refl => exact hX
  | @tail b c _ hStep ih =>
      rcases hClosed b ih with ⟨z, hZ, hNext⟩
      have hSame : z = c :=
        Option.some.inj (hNext.symm.trans hStep)
      rw [← hSame]
      exact hZ

variable [DecidableEq α]

/-
  Chase the pointers from `x` for at most `fuel` steps, and
  tell whether they lead to the target before they end or
  come to an element of `seen`.
-/
def chase
    (next : α → Option α)
    (target : α) :
    Nat → α → List α → Bool
  | 0, _, _ => false
  | fuel + 1, x, seen =>
      match next x with
      | none => false
      | some y =>
          if y = target then
            true
          else if y ∈ seen then
            false
          else
            chase next target fuel y (y :: seen)

/- What the chase finds, the pointers lead to. -/
theorem reaches_of_chase
    {next : α → Option α}
    {target x : α}
    {fuel : Nat}
    {seen : List α}
    (hChase : chase next target fuel x seen = true) :
    TransGen (Points next) x target := by
  induction fuel generalizing x seen with
  | zero => cases hChase
  | succ fuel ih =>
      unfold chase at hChase
      cases hNext : next x with
      | none =>
          rw [hNext] at hChase
          cases hChase
      | some y =>
          rw [hNext] at hChase
          simp only at hChase
          by_cases hTarget : y = target
          · rw [← hTarget]
            exact TransGen.single hNext
          · rw [if_neg hTarget] at hChase
            by_cases hSeen : y ∈ seen
            · rw [if_pos hSeen] at hChase
              cases hChase
            · rw [if_neg hSeen] at hChase
              exact TransGen.head hNext (ih hChase)

/-
  What the pointers lead to, the chase finds, even if they
  run in a circle.  Every pointer starts in `nodes`, so a
  chase with enough fuel for `nodes` does not stop early.  The
  pointer of an element seen before leads to one seen as well,
  so a pointer back to one of them would close a circle that
  the target is not on.
-/
theorem chase_of_reaches
    {next : α → Option α}
    {nodes : List α}
    (hNodes : ∀ x y, next x = some y → x ∈ nodes)
    {target x : α}
    {fuel : Nat}
    {seen : List α}
    (hNodup : seen.Nodup)
    (hSubset : ∀ y ∈ seen, y ∈ nodes)
    (hFuel : nodes.length < fuel + seen.length)
    (hSeen :
      ∀ y ∈ seen,
        y = target ∨ y = x ∨
          ∃ z ∈ seen, z ≠ target ∧ next y = some z)
    (hReaches : TransGen (Points next) x target) :
    chase next target fuel x seen = true := by
  induction fuel generalizing x seen with
  | zero =>
      have hLength : seen.length ≤ nodes.length :=
        (hNodup.subperm hSubset).length_le
      omega
  | succ fuel ih =>
      rcases TransGen.head'_iff.mp hReaches with
        ⟨y, hNext, hRest⟩
      have hPoints : next x = some y := hNext
      unfold chase
      rw [hPoints]
      simp only
      by_cases hTarget : y = target
      · rw [if_pos hTarget]
      · have hFresh : y ∉ seen := by
          intro hMem
          have hClosed :
              ∀ a ∈ seen.filter (· ≠ target),
                ∃ b ∈ seen.filter (· ≠ target),
                  next a = some b := by
            intro a ha
            rw [List.mem_filter, decide_eq_true_iff] at ha
            rcases hSeen a ha.1 with
              hEq | rfl | ⟨z, hZ, hZNe, hZNext⟩
            · exact absurd hEq ha.2
            · exact ⟨y, by simp [hMem, hTarget], hPoints⟩
            · exact ⟨z, by simp [hZ, hZNe], hZNext⟩
          have hCircle :=
            mem_of_reflTransGen hClosed
              (by simp [hMem, hTarget]) hRest
          simp at hCircle
        rw [if_neg hTarget, if_neg hFresh]
        rcases ReflTransGen.cases_head hRest with
          hEq | ⟨z, hPointsZ, hEnd⟩
        · exact absurd hEq hTarget
        · apply ih
          · exact List.nodup_cons.mpr ⟨hFresh, hNodup⟩
          · intro a ha
            rcases List.mem_cons.mp ha with rfl | ha
            · exact hNodes a z hPointsZ
            · exact hSubset a ha
          · rw [List.length_cons]
            omega
          · intro a ha
            rcases List.mem_cons.mp ha with rfl | ha
            · exact Or.inr (Or.inl rfl)
            · rcases hSeen a ha with
                hEq | rfl | ⟨b, hB, hBNe, hBNext⟩
              · exact Or.inl hEq
              · exact Or.inr (Or.inr
                  ⟨y, List.mem_cons_self, hTarget, hPoints⟩)
              · exact Or.inr (Or.inr
                  ⟨b, List.mem_cons_of_mem _ hB, hBNe,
                    hBNext⟩)
          · exact TransGen.head' hPointsZ hEnd

/- The chase finds exactly what the pointers lead to. -/
theorem chase_iff_reaches
    {next : α → Option α}
    {nodes : List α}
    (hNodes : ∀ x y, next x = some y → x ∈ nodes)
    {target : α}
    (hTarget : target ∈ nodes)
    (x : α) :
    chase next target nodes.length x [target] = true ↔
      TransGen (Points next) x target := by
  constructor
  · exact reaches_of_chase
  · apply chase_of_reaches hNodes
    · exact List.nodup_singleton target
    · intro y hY
      rw [List.mem_singleton.mp hY]
      exact hTarget
    · simp
    · intro y hY
      exact Or.inl (List.mem_singleton.mp hY)

/-
  Redirecting the pointer of `u` to `v`.  A chain that uses
  the new pointer comes to `u` by old pointers, and goes on
  from `v` by old pointers, as those do not lead back to `u`.
-/
theorem Acyclic.update
    {next : α → Option α}
    (hAcyclic : Acyclic next)
    {u : α}
    {v : Option α}
    (hFree :
      ∀ m, v = some m →
        ¬ ReflTransGen (Points next) m u) :
    Acyclic (Function.update next u v) := by
  have hSplit :
      ∀ a b,
        TransGen (Points (Function.update next u v)) a b →
          TransGen (Points next) a b ∨
            ∃ m, v = some m ∧
              ReflTransGen (Points next) a u ∧
                ReflTransGen (Points next) m b := by
    intro a b hChain
    induction hChain with
    | @single b hStep =>
        by_cases hU : a = u
        · subst hU
          have hNew : v = some b := by
            simpa [Points] using hStep
          exact Or.inr
            ⟨b, hNew, ReflTransGen.refl, ReflTransGen.refl⟩
        · have hOld : next a = some b := by
            simpa [Points, hU] using hStep
          exact Or.inl (TransGen.single hOld)
    | @tail b c _ hStep ih =>
        by_cases hU : b = u
        · subst hU
          have hNew : v = some c := by
            simpa [Points] using hStep
          rcases ih with hOld | ⟨m, hM, -, hBack⟩
          · exact Or.inr
              ⟨c, hNew, hOld.to_reflTransGen,
                ReflTransGen.refl⟩
          · exact absurd hBack (hFree m hM)
        · have hOld : next b = some c := by
            simpa [Points, hU] using hStep
          rcases ih with hChain | ⟨m, hM, hTo, hFrom⟩
          · exact Or.inl (hChain.tail hOld)
          · exact Or.inr ⟨m, hM, hTo, hFrom.tail hOld⟩
  intro x hCycle
  rcases hSplit x x hCycle with hOld | ⟨m, hM, hTo, hFrom⟩
  · exact hAcyclic x hOld
  · exact hFree m hM (hFrom.trans hTo)

end Foundations

------------------------------------------------------------
-- Trails
------------------------------------------------------------

namespace Foundations

open Relation

section Trails

variable {α : Type}

/-
  The elements that following the pointers from `x` comes to
  one after the other, none of them twice and none of `seen`,
  up to where no pointer leads on.
-/
structure IsTrail
    (next : α → Option α)
    (x : α)
    (seen trail : List α) : Prop where
  nodup : trail.Nodup
  fresh : ∀ y ∈ trail, y ∉ seen
  linked : List.IsChain (Points next) (x :: trail)
  ended :
    ∀ last ∈ (x :: trail).getLast?, ∀ y,
      next last = some y → y ∈ seen ∨ y ∈ trail

theorem isTrail_nil
    {next : α → Option α}
    {x : α}
    {seen : List α}
    (hEnd : ∀ y, next x = some y → y ∈ seen) :
    IsTrail next x seen [] where
  nodup := List.nodup_nil
  fresh := by simp
  linked := List.isChain_singleton x
  ended := by
    intro last hLast y hNext
    cases hLast
    exact Or.inl (hEnd y hNext)

theorem IsTrail.cons
    {next : α → Option α}
    {x y : α}
    {seen trail : List α}
    (hNext : next x = some y)
    (hFresh : y ∉ seen)
    (hTrail : IsTrail next y (y :: seen) trail) :
    IsTrail next x seen (y :: trail) where
  nodup := by
    apply List.nodup_cons.mpr
    constructor
    · intro hMem
      exact hTrail.fresh y hMem List.mem_cons_self
    · exact hTrail.nodup
  fresh := by
    intro z hz hSeen
    rcases List.mem_cons.mp hz with rfl | hz
    · exact hFresh hSeen
    · exact hTrail.fresh z hz (List.mem_cons_of_mem _ hSeen)
  linked := List.isChain_cons_cons.mpr ⟨hNext, hTrail.linked⟩
  ended := by
    intro last hLast z hz
    rw [List.getLast?_cons_cons] at hLast
    rcases hTrail.ended last hLast z hz with hSeen | hMem
    · rcases List.mem_cons.mp hSeen with rfl | hSeen
      · exact Or.inr List.mem_cons_self
      · exact Or.inl hSeen
    · exact Or.inr (List.mem_cons_of_mem _ hMem)

variable [DecidableEq α]

/-
  Follow the pointers from `x` without visiting an element of
  `seen` or one twice; `none` if that takes more than `fuel`
  turns.
-/
def follow
    (next : α → Option α) :
    Nat → α → List α → Option (List α)
  | 0, _, _ => none
  | fuel + 1, x, seen =>
      match next x with
      | none => some []
      | some y =>
          if y ∈ seen then
            some []
          else
            (follow next fuel y (y :: seen)).map (y :: ·)

/-
  Following the pointers ends with a trail, if there is fuel
  for every element the pointers lead to.
-/
theorem exists_follow
    {next : α → Option α}
    {nodes : List α}
    (hNodes : ∀ x y, next x = some y → y ∈ nodes)
    {x : α}
    {fuel : Nat}
    {seen : List α}
    (hNodup : seen.Nodup)
    (hSubset : ∀ y ∈ seen, y ∈ nodes)
    (hFuel : nodes.length < fuel + seen.length) :
    ∃ trail,
      follow next fuel x seen = some trail ∧
        IsTrail next x seen trail := by
  induction fuel generalizing x seen with
  | zero =>
      have hLength : seen.length ≤ nodes.length :=
        (hNodup.subperm hSubset).length_le
      omega
  | succ fuel ih =>
      unfold follow
      cases hNext : next x with
      | none =>
          refine ⟨[], rfl, isTrail_nil ?_⟩
          intro y hY
          cases hNext.symm.trans hY
      | some y =>
          simp only
          by_cases hSeen : y ∈ seen
          · rw [if_pos hSeen]
            refine ⟨[], rfl, isTrail_nil ?_⟩
            intro z hZ
            cases hNext.symm.trans hZ
            exact hSeen
          · rw [if_neg hSeen]
            have hRest :=
              @ih y (y :: seen)
                (List.nodup_cons.mpr ⟨hSeen, hNodup⟩)
                (by
                  intro z hz
                  rcases List.mem_cons.mp hz with rfl | hz
                  · exact hNodes x z hNext
                  · exact hSubset z hz)
                (by
                  rw [List.length_cons]
                  omega)
            rcases hRest with ⟨trail, hFollow, hTrail⟩
            rw [hFollow]
            exact ⟨y :: trail, rfl,
              hTrail.cons hNext hSeen⟩

end Trails

section Acyclic

variable {α : Type}
variable {next : α → Option α}

/- The pointers lead from the start of a chain to its rest. -/
theorem transGen_of_isChain
    {x y : α}
    {trail : List α}
    (hLinked : List.IsChain (Points next) (x :: trail))
    (hMem : y ∈ trail) :
    TransGen (Points next) x y := by
  induction trail generalizing x with
  | nil => cases hMem
  | cons z trail ih =>
      rcases List.isChain_cons_cons.mp hLinked with
        ⟨hStep, hRest⟩
      rcases List.mem_cons.mp hMem with rfl | hMem
      · exact TransGen.single hStep
      · exact TransGen.head hStep (ih hRest hMem)

/- What an element of a chain points to comes after it. -/
theorem mem_of_isChain
    {x y z : α}
    {trail : List α}
    (hLinked : List.IsChain (Points next) (x :: trail))
    (hMem : y ∈ x :: trail)
    (hNext : next y = some z) :
    z ∈ trail ∨ y ∈ (x :: trail).getLast? := by
  induction trail generalizing x with
  | nil =>
      rw [List.mem_singleton.mp hMem]
      exact Or.inr rfl
  | cons w trail ih =>
      rcases List.isChain_cons_cons.mp hLinked with
        ⟨hStep, hRest⟩
      rw [List.getLast?_cons_cons]
      rcases List.mem_cons.mp hMem with rfl | hMem
      · cases hStep.symm.trans hNext
        exact Or.inl List.mem_cons_self
      · rcases ih hRest hMem with hLater | hLast
        · exact Or.inl (List.mem_cons_of_mem _ hLater)
        · exact Or.inr hLast

/- The pointers lead from each element to the last one. -/
theorem reflTransGen_of_isChain
    {x y last : α}
    {trail : List α}
    (hLinked : List.IsChain (Points next) (x :: trail))
    (hMem : y ∈ x :: trail)
    (hLast : last ∈ (x :: trail).getLast?) :
    ReflTransGen (Points next) y last := by
  induction trail generalizing x y with
  | nil =>
      have hEq : x = last := Option.some.inj hLast
      rw [List.mem_singleton.mp hMem, hEq]
  | cons w trail ih =>
      rcases List.isChain_cons_cons.mp hLinked with
        ⟨hStep, hRest⟩
      rw [List.getLast?_cons_cons] at hLast
      rcases List.mem_cons.mp hMem with rfl | hMem
      · exact ReflTransGen.head hStep
          (ih hRest List.mem_cons_self hLast)
      · exact ih hRest hMem hLast

/-
  Where no chain of pointers is cyclic, the trail from an
  element is all that the pointers lead to from it.
-/
theorem IsTrail.mem_iff
    {x : α}
    {trail : List α}
    (hTrail : IsTrail next x [x] trail)
    (hAcyclic : Acyclic next)
    (y : α) :
    y ∈ trail ↔ TransGen (Points next) x y := by
  have hOnward :
      ∀ a b, a ∈ x :: trail → next a = some b →
        TransGen (Points next) x b → b ∈ trail := by
    intro a b hA hNext hReaches
    rcases mem_of_isChain hTrail.linked hA hNext with
      hLater | hLast
    · exact hLater
    · rcases hTrail.ended a hLast b hNext with hSeen | hMem
      · rw [List.mem_singleton.mp hSeen] at hReaches
        exact absurd hReaches (hAcyclic x)
      · exact hMem
  constructor
  · exact transGen_of_isChain hTrail.linked
  · intro hReaches
    induction hReaches with
    | single hStep =>
        exact hOnward x _ List.mem_cons_self hStep
          (TransGen.single hStep)
    | @tail b c hPath hStep ih =>
        exact hOnward b c (List.mem_cons_of_mem _ ih) hStep
          (hPath.tail hStep)

/- Where no chain is cyclic, nothing leads on from its end. -/
theorem IsTrail.none_of_last
    {x last : α}
    {trail : List α}
    (hTrail : IsTrail next x [x] trail)
    (hAcyclic : Acyclic next)
    (hLast : last ∈ (x :: trail).getLast?) :
    next last = none := by
  cases hNext : next last with
  | none => rfl
  | some y =>
      exfalso
      have hMem : y ∈ x :: trail := by
        rcases hTrail.ended last hLast y hNext with
          hSeen | hMem
        · rw [List.mem_singleton.mp hSeen]
          exact List.mem_cons_self
        · exact List.mem_cons_of_mem _ hMem
      have hBack :=
        reflTransGen_of_isChain hTrail.linked hMem hLast
      exact hAcyclic last (TransGen.head' hNext hBack)

end Acyclic

end Foundations
