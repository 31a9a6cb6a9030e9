import Mathlib.Tactic
import Mathlib.Data.List.Infix

/-
  Greedy selection against a capacity.

  The items are gone through in order, and each one that fits
  into what is left of the capacity is taken.  An item that
  does not fit is passed over, so what is taken is a prefix
  of the items exactly if nothing that comes after an item
  that did not fit fits in its place.

  Key definitions include:
    * `greedy`
    * `pick`
    * `NoneFitsLater`

  Key theorems include:
    * `sum_greedy_le`
    * `exists_kept`
    * `greedy_isPrefix_iff`
-/

------------------------------------------------------------
-- Selection
------------------------------------------------------------

namespace Foundations

variable {α : Type}

/- Take each item that fits into the room that is left. -/
def greedy
    (size : α → Nat) :
    Nat → List α → List α
  | _, [] => []
  | room, x :: xs =>
      if room < size x then
        greedy size room xs
      else
        x :: greedy size (room - size x) xs

/- The items that are marked. -/
def pick : List α → List Bool → List α
  | x :: xs, true :: kept => x :: pick xs kept
  | _ :: xs, false :: kept => pick xs kept
  | _, _ => []

theorem greedy_sublist
    (size : α → Nat)
    (room : Nat)
    (xs : List α) :
    (greedy size room xs).Sublist xs := by
  induction xs generalizing room with
  | nil => exact List.Sublist.slnil
  | cons x xs ih =>
      unfold greedy
      by_cases hRoom : room < size x
      · rw [if_pos hRoom]
        exact (ih room).cons x
      · rw [if_neg hRoom]
        exact (ih _).cons_cons x

/- What is taken fits. -/
theorem sum_greedy_le
    (size : α → Nat)
    (room : Nat)
    (xs : List α) :
    ((greedy size room xs).map size).sum ≤ room := by
  induction xs generalizing room with
  | nil => exact Nat.zero_le room
  | cons x xs ih =>
      unfold greedy
      by_cases hRoom : room < size x
      · rw [if_pos hRoom]
        exact ih room
      · rw [if_neg hRoom, List.map_cons, List.sum_cons]
        have hRest := ih (room - size x)
        omega

/- Items that fit all together are all taken. -/
theorem greedy_eq_self
    {size : α → Nat}
    {room : Nat}
    {xs : List α}
    (hSum : (xs.map size).sum ≤ room) :
    greedy size room xs = xs := by
  induction xs generalizing room with
  | nil => rfl
  | cons x xs ih =>
      rw [List.map_cons, List.sum_cons] at hSum
      have hFits : ¬ room < size x := by omega
      unfold greedy
      rw [if_neg hFits, ih (by omega)]

/- Copies of the sizes of the items are taken as the items. -/
theorem greedy_map
    {β : Type}
    {size : β → Nat}
    {copy : α → β}
    {size' : α → Nat}
    (hSize : ∀ x, size (copy x) = size' x)
    (room : Nat)
    (xs : List α) :
    greedy size room (xs.map copy) =
      (greedy size' room xs).map copy := by
  induction xs generalizing room with
  | nil => rfl
  | cons x xs ih =>
      rw [List.map_cons]
      unfold greedy
      rw [hSize]
      by_cases hRoom : room < size' x
      · rw [if_pos hRoom, if_pos hRoom, ih]
      · rw [if_neg hRoom, if_neg hRoom, ih, List.map_cons]

/-
  Of each item it can be said whether it was kept, and one
  that was not would, with those kept before it, have gone
  over the capacity.
-/
theorem exists_kept
    (size : α → Nat)
    (room : Nat)
    (xs : List α) :
    ∃ kept : List Bool,
      kept.length = xs.length ∧
        greedy size room xs = pick xs kept ∧
          ∀ i x,
            xs[i]? = some x → kept[i]? = some false →
              room <
                ((pick (xs.take i) (kept.take i)).map
                  size).sum + size x := by
  induction xs generalizing room with
  | nil => exact ⟨[], rfl, rfl, by simp⟩
  | cons x xs ih =>
      unfold greedy
      by_cases hRoom : room < size x
      · rw [if_pos hRoom]
        rcases ih room with ⟨kept, hLength, hPick, hOver⟩
        refine ⟨false :: kept, by simp [hLength], hPick, ?_⟩
        intro i y hItem hKept
        cases i with
        | zero =>
            cases hItem
            simpa [pick] using hRoom
        | succ i => exact hOver i y hItem hKept
      · rw [if_neg hRoom]
        rcases ih (room - size x) with
          ⟨kept, hLength, hPick, hOver⟩
        refine
          ⟨true :: kept, by simp [hLength],
            congrArg (x :: ·) hPick, ?_⟩
        intro i y hItem hKept
        cases i with
        | zero => cases hKept
        | succ i =>
            have hLater := hOver i y hItem hKept
            rw [List.take_succ_cons, List.take_succ_cons]
            unfold pick
            rw [List.map_cons, List.sum_cons]
            omega

end Foundations

------------------------------------------------------------
-- Prefixes
------------------------------------------------------------

namespace Foundations

/-
  Where an item does not fit after all the items before it,
  no later item fits there either.
-/
def NoneFitsLater
    (room : Nat)
    (sizes : List Nat) : Prop :=
  ∀ before size rest,
    sizes = before ++ size :: rest →
      room < before.sum + size →
        ∀ later ∈ rest, room < before.sum + later

theorem noneFitsLater_cons_of_fits
    {room size : Nat}
    {sizes : List Nat}
    (hRoom : size ≤ room) :
    NoneFitsLater room (size :: sizes) ↔
      NoneFitsLater (room - size) sizes := by
  constructor
  · intro hNone before next rest hEq hOver later hLater
    have hRest :=
      hNone (size :: before) next rest
        (congrArg (size :: ·) hEq)
        (by
          rw [List.sum_cons]
          omega)
        later hLater
    rw [List.sum_cons] at hRest
    omega
  · intro hNone before next rest hEq hOver later hLater
    cases before with
    | nil =>
        cases hEq
        simp only [List.sum_nil] at hOver
        omega
    | cons first before =>
        rw [List.cons_append] at hEq
        cases hEq
        rw [List.sum_cons] at hOver ⊢
        have hRest :=
          hNone before next rest rfl (by omega) later hLater
        omega

theorem noneFitsLater_cons_of_over
    {room size : Nat}
    {sizes : List Nat}
    (hRoom : room < size) :
    NoneFitsLater room (size :: sizes) ↔
      ∀ later ∈ sizes, room < later := by
  constructor
  · intro hNone later hLater
    have hOver :=
      hNone [] size sizes rfl (by simpa using hRoom) later
        hLater
    simpa using hOver
  · intro hAll before next rest hEq _ later hLater
    cases before with
    | nil =>
        cases hEq
        simpa using hAll later hLater
    | cons first before =>
        rw [List.cons_append] at hEq
        cases hEq
        rw [List.sum_cons]
        omega

variable {α : Type}

/- Nothing is taken if nothing fits. -/
theorem greedy_eq_nil_iff
    (size : α → Nat)
    (room : Nat)
    (xs : List α) :
    greedy size room xs = [] ↔
      ∀ x ∈ xs, room < size x := by
  induction xs with
  | nil => simp [greedy]
  | cons x xs ih =>
      unfold greedy
      by_cases hRoom : room < size x
      · rw [if_pos hRoom, ih]
        simp [hRoom]
      · rw [if_neg hRoom]
        simp [hRoom]

/- What is taken first fits into the whole capacity. -/
theorem size_head_greedy
    {size : α → Nat}
    {room : Nat}
    {xs taken : List α}
    {x : α}
    (hTaken : greedy size room xs = x :: taken) :
    size x ≤ room := by
  have hSum := sum_greedy_le size room xs
  rw [hTaken, List.map_cons, List.sum_cons] at hSum
  omega

/-
  What is taken is a prefix of the items exactly if none
  fits after one that did not.
-/
theorem greedy_isPrefix_iff
    (size : α → Nat)
    (room : Nat)
    (xs : List α) :
    greedy size room xs <+: xs ↔
      NoneFitsLater room (xs.map size) := by
  induction xs generalizing room with
  | nil =>
      constructor
      · intro _ before next rest hEq
        simp at hEq
      · exact fun _ => List.prefix_rfl
  | cons x xs ih =>
      unfold greedy
      rw [List.map_cons]
      by_cases hRoom : room < size x
      · rw [if_pos hRoom, noneFitsLater_cons_of_over hRoom]
        constructor
        · intro hPrefix
          have hNil : greedy size room xs = [] := by
            cases hTaken : greedy size room xs with
            | nil => rfl
            | cons y taken =>
                rw [hTaken] at hPrefix
                have hSame : y = x :=
                  (List.cons_prefix_cons.mp hPrefix).1
                have hFits := size_head_greedy hTaken
                rw [hSame] at hFits
                omega
          have hAll := (greedy_eq_nil_iff size room xs).mp hNil
          simpa using hAll
        · intro hAll
          have hNil :=
            (greedy_eq_nil_iff size room xs).mpr
              (by simpa using hAll)
          rw [hNil]
          exact List.nil_prefix
      · rw [if_neg hRoom, List.cons_prefix_cons,
          noneFitsLater_cons_of_fits (by omega), ih]
        exact and_iff_right rfl

end Foundations
