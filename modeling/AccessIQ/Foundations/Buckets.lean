import Mathlib.Tactic
import Mathlib.Data.List.Sort
import Mathlib.Data.List.Dedup

/-
  Counting values in buckets.

  A value falls into the first bucket whose limit it does
  not exceed, or beyond all of them.  Where the limits
  increase, the running totals of the buckets say how many
  values do not exceed each limit.

  Key definitions include:
    * `sortedDistinct`
    * `bucketOf`
    * `countIn`
    * `runningTotals`

  Key theorems include:
    * `runningTotals_countIn`
    * `sum_countIn_add_overflow`
-/

------------------------------------------------------------
-- Distinct Values In Order
------------------------------------------------------------

namespace Foundations

variable {α : Type}
variable [LinearOrder α]

/- The distinct values of a list, in increasing order. -/
def sortedDistinct
    (values : List α) :
    List α :=
  values.dedup.insertionSort fun a b => a ≤ b

@[simp] theorem mem_sortedDistinct
    {values : List α}
    {value : α} :
    value ∈ sortedDistinct values ↔ value ∈ values := by
  unfold sortedDistinct
  rw [List.mem_insertionSort, List.mem_dedup]

theorem pairwise_sortedDistinct
    (values : List α) :
    (sortedDistinct values).Pairwise fun a b => a < b := by
  have hSorted :
      (sortedDistinct values).Pairwise fun a b => a ≤ b :=
    List.pairwise_insertionSort _ _
  have hNodup : (sortedDistinct values).Nodup :=
    (List.perm_insertionSort _ _).nodup_iff.mpr
      (List.nodup_dedup values)
  exact (hSorted.and hNodup).imp fun hBoth =>
    lt_of_le_of_ne hBoth.1 hBoth.2

end Foundations

------------------------------------------------------------
-- Buckets
------------------------------------------------------------

namespace Foundations

variable {α : Type}
variable [LinearOrder α]

/- The first limit that a value does not exceed. -/
def bucketOf
    (limits : List α)
    (value : α) :
    Option α :=
  limits.find? fun limit => value ≤ limit

/- How many values fall into a bucket. -/
def countIn
    (limits values : List α)
    (bucket : Option α) :
    Nat :=
  values.countP fun value => bucketOf limits value = bucket

@[simp] theorem countIn_nil
    (limits : List α)
    (bucket : Option α) :
    countIn limits [] bucket = 0 :=
  List.countP_nil

/- One more value counts in its own bucket. -/
theorem countIn_concat
    (limits values : List α)
    (value : α)
    (bucket : Option α) :
    countIn limits (values ++ [value]) bucket =
      countIn limits values bucket +
        if bucketOf limits value = bucket then 1 else 0 := by
  unfold countIn
  rw [List.countP_append, List.countP_singleton]
  simp only [decide_eq_true_eq]

/- The totals of a list so far, at each of its members. -/
def runningTotals
    (count : α → Nat) :
    Nat → List α → List (α × Nat)
  | _, [] => []
  | total, a :: rest =>
      (a, total + count a) ::
        runningTotals count (total + count a) rest

/- A value that exceeds what came before meets its limit. -/
theorem bucketOf_eq_some_iff
    {before after : List α}
    {limit value : α}
    (hBefore : ∀ b ∈ before, b < limit) :
    bucketOf (before ++ limit :: after) value =
        some limit ↔
      value ≤ limit ∧ ∀ b ∈ before, ¬ value ≤ b := by
  unfold bucketOf
  rw [List.find?_append]
  cases hFound :
      before.find? fun limit => decide (value ≤ limit) with
  | some b =>
      have hMem := List.mem_of_find?_eq_some hFound
      have hLe : value ≤ b := by
        simpa using List.find?_some hFound
      rw [Option.some_or, Option.some_inj]
      constructor
      · intro hEq
        exact absurd hEq (ne_of_lt (hBefore b hMem))
      · rintro ⟨-, hNone⟩
        exact absurd hLe (hNone b hMem)
  | none =>
      have hNone : ∀ b ∈ before, ¬ value ≤ b := by
        intro b hb hLe
        exact List.find?_eq_none.mp hFound b hb
          (decide_eq_true hLe)
      rw [Option.none_or]
      by_cases hLe : value ≤ limit
      · rw [List.find?_cons, decide_eq_true hLe]
        exact iff_of_true rfl ⟨hLe, hNone⟩
      · apply iff_of_false
        · intro hLater
          exact hLe (by simpa using List.find?_some hLater)
        · rintro ⟨hLimit, -⟩
          exact hLe hLimit

/- How many values do not exceed one of the limits. -/
def countWithin
    (limits values : List α) :
    Nat :=
  values.countP fun value =>
    limits.any fun limit => value ≤ limit

/- The values of one more bucket. -/
theorem countWithin_add_countIn
    {before : List α}
    {limit : α}
    (after values : List α)
    (hBefore : ∀ b ∈ before, b < limit) :
    countWithin before values +
        countIn (before ++ limit :: after) values
          (some limit) =
      values.countP fun value => value ≤ limit := by
  unfold countWithin countIn
  induction values with
  | nil => rfl
  | cons value values ih =>
      simp only [List.countP_cons, List.any_eq_true,
        decide_eq_true_eq,
        bucketOf_eq_some_iff hBefore] at ih ⊢
      by_cases hWithin : ∃ b ∈ before, value ≤ b
      · have hLe : value ≤ limit := by
          rcases hWithin with ⟨b, hb, hLe⟩
          exact le_of_lt (lt_of_le_of_lt hLe (hBefore b hb))
        have hNot :
            ¬ (value ≤ limit ∧
              ∀ b ∈ before, ¬ value ≤ b) := by
          rintro ⟨-, hNone⟩
          rcases hWithin with ⟨b, hb, hLe⟩
          exact hNone b hb hLe
        rw [if_pos hWithin, if_neg hNot, if_pos hLe]
        omega
      · have hNone : ∀ b ∈ before, ¬ value ≤ b :=
          fun b hb hLe => hWithin ⟨b, hb, hLe⟩
        rw [if_neg hWithin]
        by_cases hLe : value ≤ limit
        · rw [if_pos ⟨hLe, hNone⟩, if_pos hLe]
          omega
        · rw [if_neg fun hBoth => hLe hBoth.1, if_neg hLe]
          omega

/- Limits that increase count within the last of them. -/
theorem countWithin_concat
    {before : List α}
    {limit : α}
    (values : List α)
    (hBefore : ∀ b ∈ before, b < limit) :
    countWithin (before ++ [limit]) values =
      values.countP fun value => value ≤ limit := by
  unfold countWithin
  apply List.countP_congr
  intro value _
  simp only [List.any_eq_true, decide_eq_true_eq]
  constructor
  · rintro ⟨b, hb, hLe⟩
    rcases List.mem_append.mp hb with hOld | hNew
    · exact le_of_lt (lt_of_le_of_lt hLe (hBefore b hOld))
    · rcases List.mem_singleton.mp hNew with rfl
      exact hLe
  · intro hLe
    exact ⟨limit,
      List.mem_append_right _ List.mem_cons_self, hLe⟩

/- From any limit on, the totals count what is below. -/
theorem runningTotals_from
    (before : List α)
    {after : List α}
    (values : List α)
    (hSorted :
      (before ++ after).Pairwise fun a b => a < b) :
    runningTotals
          (fun limit =>
            countIn (before ++ after) values (some limit))
          (countWithin before values) after =
        after.map
          (fun limit =>
            (limit,
              values.countP fun value => value ≤ limit)) ∧
      countWithin before values +
          (after.map fun limit =>
            countIn (before ++ after) values
              (some limit)).sum =
        countWithin (before ++ after) values := by
  induction after generalizing before with
  | nil =>
      refine ⟨rfl, ?_⟩
      rw [List.append_nil]
      rfl
  | cons limit after ih =>
      have hBefore : ∀ b ∈ before, b < limit := by
        intro b hb
        exact (List.pairwise_append.mp hSorted).2.2 b hb
          limit List.mem_cons_self
      have hTotal :=
        countWithin_add_countIn after values hBefore
      rw [List.append_cons] at hSorted hTotal ⊢
      have ih := ih (before ++ [limit]) hSorted
      rw [countWithin_concat values hBefore, ← hTotal] at ih
      refine ⟨?_, ?_⟩
      · unfold runningTotals
        rw [ih.1, List.map_cons, hTotal]
      · rw [List.map_cons, List.sum_cons, ← Nat.add_assoc]
        exact ih.2

/- The running totals say how many are within a limit. -/
theorem runningTotals_countIn
    {limits : List α}
    (values : List α)
    (hSorted : limits.Pairwise fun a b => a < b) :
    runningTotals
        (fun limit => countIn limits values (some limit)) 0
        limits =
      limits.map
        (fun limit =>
          (limit,
            values.countP fun value => value ≤ limit)) := by
  have hZero : countWithin [] values = 0 := by
    unfold countWithin
    simp
  rw [← hZero]
  exact (runningTotals_from [] values hSorted).1

/- Every value is in a bucket or beyond all of them. -/
theorem sum_countIn_add_overflow
    {limits : List α}
    (values : List α)
    (hSorted : limits.Pairwise fun a b => a < b) :
    (limits.map fun limit =>
          countIn limits values (some limit)).sum +
        countIn limits values none =
      values.length := by
  have hWithin :=
    (runningTotals_from [] values hSorted).2
  have hZero : countWithin [] values = 0 := by
    unfold countWithin
    simp
  rw [hZero, Nat.zero_add, List.nil_append] at hWithin
  rw [hWithin]
  unfold countWithin countIn
  rw [List.length_eq_countP_add_countP fun value =>
    limits.any fun limit => decide (value ≤ limit)]
  congr 1
  apply List.countP_congr
  intro value _
  unfold bucketOf
  simp [List.find?_eq_none]

/- More limits hold no fewer values. -/
theorem countP_le_mono
    (values : List α)
    {a b : α}
    (hLe : a ≤ b) :
    values.countP (fun value => value ≤ a) ≤
      values.countP fun value => value ≤ b := by
  apply List.countP_mono_left
  intro value _ hValue
  exact decide_eq_true
    (le_trans (of_decide_eq_true hValue) hLe)

end Foundations
