import Mathlib.Data.List.Sort

/-
  Lists that are worked through group by group.

  A list whose members stand in the order of their groups
  is the groups one after the other: what is made of the
  members of each group, for the groups in order, is what
  is made of the list.

  Key theorems include:
    * `flatMap_groups`
    * `mapM_eq_some_of_forall`
    * `insertionSort_eq_of_mem_iff`
-/

------------------------------------------------------------
-- Groups
------------------------------------------------------------

namespace Foundations

variable {α β γ : Type}

/- Members of no other group are passed over. -/
theorem flatMap_group_append
    [DecidableEq β]
    {f : α → β}
    {first rest : List α}
    {n : β}
    (g : α → List γ)
    (hFirst : ∀ a ∈ first, f a = n)
    (hRest : ∀ a ∈ rest, f a ≠ n) :
    ((first ++ rest).flatMap fun a =>
        if f a = n then g a else []) =
      first.flatMap g := by
  have hIn :
      (first.flatMap fun a => if f a = n then g a else []) =
        first.flatMap g := by
    apply List.flatMap_congr
    intro a ha
    rw [if_pos (hFirst a ha)]
  have hOut :
      (rest.flatMap fun a =>
          if f a = n then g a else []) =
        [] := by
    rw [List.flatMap_eq_nil_iff]
    intro a ha
    rw [if_neg (hRest a ha)]
  rw [List.flatMap_append, hIn, hOut, List.append_nil]

/- A sorted list starts with the group of its least member. -/
theorem exists_first_group
    [LinearOrder β]
    {f : α → β}
    {n : β}
    {l : List α}
    (hSorted : l.Pairwise fun a b => f a ≤ f b)
    (hLeast : ∀ a ∈ l, n ≤ f a) :
    ∃ first rest,
      l = first ++ rest ∧
        (∀ a ∈ first, f a = n) ∧
        ∀ a ∈ rest, n < f a := by
  induction l with
  | nil => exact ⟨[], [], rfl, by simp, by simp⟩
  | cons a l ih =>
      have hTail := List.pairwise_cons.mp hSorted
      by_cases hEq : f a = n
      · rcases ih hTail.2
            (fun b hb =>
              hLeast b (List.mem_cons_of_mem a hb)) with
          ⟨first, rest, rfl, hFirst, hRest⟩
        refine ⟨a :: first, rest, rfl, ?_, hRest⟩
        intro b hb
        rcases List.mem_cons.mp hb with hHead | hb
        · rw [hHead]
          exact hEq
        · exact hFirst b hb
      · have hLess : n < f a :=
          lt_of_le_of_ne (hLeast a List.mem_cons_self)
            (Ne.symm hEq)
        refine ⟨[], a :: l, rfl, by simp, ?_⟩
        intro b hb
        rcases List.mem_cons.mp hb with hHead | hb
        · rw [hHead]
          exact hLess
        · exact lt_of_lt_of_le hLess (hTail.1 b hb)

/- The groups in order are the list. -/
theorem flatMap_groups
    [LinearOrder β]
    {f : α → β}
    (g : α → List γ)
    {names : List β}
    {l : List α}
    (hNames : names.Pairwise fun m n => m < n)
    (hSorted : l.Pairwise fun a b => f a ≤ f b)
    (hAll : ∀ a ∈ l, f a ∈ names) :
    (names.flatMap fun n =>
        l.flatMap fun a => if f a = n then g a else []) =
      l.flatMap g := by
  induction names generalizing l with
  | nil =>
      cases l with
      | nil => rfl
      | cons a l => cases hAll a List.mem_cons_self
  | cons n names ih =>
      have hLater := List.pairwise_cons.mp hNames
      have hLeast : ∀ a ∈ l, n ≤ f a := by
        intro a ha
        rcases List.mem_cons.mp (hAll a ha) with hEq | hMem
        · exact ge_of_eq hEq
        · exact le_of_lt (hLater.1 (f a) hMem)
      rcases exists_first_group hSorted hLeast with
        ⟨first, rest, rfl, hFirst, hRest⟩
      have hHead :=
        flatMap_group_append g hFirst
          fun a ha => (hRest a ha).ne'
      have hOthers :
          (names.flatMap fun m =>
              (first ++ rest).flatMap fun a =>
                if f a = m then g a else []) =
            names.flatMap fun m =>
              rest.flatMap fun a =>
                if f a = m then g a else [] := by
        apply List.flatMap_congr
        intro m hm
        have hNone :
            (first.flatMap fun a =>
                if f a = m then g a else []) =
              [] := by
          rw [List.flatMap_eq_nil_iff]
          intro a ha
          rw [hFirst a ha, if_neg (hLater.1 m hm).ne]
        rw [List.flatMap_append, hNone, List.nil_append]
      rw [List.flatMap_cons, hHead, hOthers,
        ih hLater.2 (List.pairwise_append.mp hSorted).2.1,
        List.flatMap_append]
      intro a ha
      rcases List.mem_cons.mp
          (hAll a (List.mem_append_right first ha)) with
        hEq | hMem
      · exact absurd hEq (hRest a ha).ne'
      · exact hMem

/- Members that are read back one by one are read back. -/
theorem mapM_eq_some_of_forall
    {f : α → Option β}
    {g : β → α}
    {l : List β}
    (hEach : ∀ b ∈ l, f (g b) = some b) :
    (l.map g).mapM f = some l := by
  induction l with
  | nil => rfl
  | cons b l ih =>
      have hRest :=
        ih fun c hc => hEach c (List.mem_cons_of_mem b hc)
      rw [List.map_cons, List.mapM_cons,
        hEach b List.mem_cons_self, hRest]
      rfl

/- Lists of the same members are sorted alike. -/
theorem insertionSort_eq_of_mem_iff
    {r : α → α → Prop}
    [DecidableRel r]
    [Std.Total r]
    [IsTrans α r]
    [Std.Antisymm r]
    {l l' : List α}
    (hNodup : l.Nodup)
    (hNodup' : l'.Nodup)
    (hMem : ∀ a, a ∈ l ↔ a ∈ l') :
    l.insertionSort r = l'.insertionSort r := by
  have hPerm : l.Perm l' :=
    (List.perm_ext_iff_of_nodup hNodup hNodup').mpr hMem
  apply List.Perm.eq_of_pairwise'
    (List.pairwise_insertionSort r l)
    (List.pairwise_insertionSort r l')
  exact
    ((List.perm_insertionSort r l).trans hPerm).trans
      (List.perm_insertionSort r l').symm

end Foundations
