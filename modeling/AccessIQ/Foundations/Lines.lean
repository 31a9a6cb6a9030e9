import Mathlib.Algebra.GroupWithZero.Nat
import Mathlib.Data.List.Basic

/-
  Lines of a text.

  Lines that are joined by line feeds are read back if none
  of them contains one; otherwise more lines are read than
  were joined.

  Key definitions include:
    * `splitLast`
    * `joinLines`
    * `splitLines`

  Key theorems include:
    * `append_separator_inj`
    * `cons_intercalate`
    * `splitLast_append`
    * `splitLines_joinLines`
    * `length_splitLines_joinLines_iff`
    * `length_intercalate`
-/

------------------------------------------------------------
-- Splitting
------------------------------------------------------------

namespace Foundations

variable {α : Type}

/- What comes before the first separator, and after it. -/
theorem append_separator_inj
    {x : α}
    {first other rest others : List α}
    (hFirst : x ∉ first)
    (hOther : x ∉ other)
    (hEq : first ++ x :: rest = other ++ x :: others) :
    first = other ∧ rest = others := by
  induction first generalizing other with
  | nil =>
      cases other with
      | nil =>
          cases hEq
          exact ⟨rfl, rfl⟩
      | cons b other =>
          cases hEq
          exact absurd List.mem_cons_self hOther
  | cons a first ih =>
      cases other with
      | nil =>
          cases hEq
          exact absurd List.mem_cons_self hFirst
      | cons b other =>
          injection hEq with hHead hTail
          subst hHead
          rcases ih
              (fun hMem => hFirst (List.mem_cons_of_mem _ hMem))
              (fun hMem => hOther (List.mem_cons_of_mem _ hMem))
              hTail with
            ⟨hRest, hOthers⟩
          exact ⟨congrArg (a :: ·) hRest, hOthers⟩

/- A separator in front of joined parts stands before each. -/
theorem cons_intercalate
    (x : α)
    (part : List α)
    (parts : List (List α)) :
    x :: [x].intercalate (part :: parts) =
      (part :: parts).flatMap (x :: ·) := by
  induction parts generalizing part with
  | nil => simp
  | cons next parts ih =>
      rw [List.intercalate_cons_cons, List.append_assoc,
        List.flatMap_cons, ← ih next]
      rfl

section LastSeparator

variable [DecidableEq α]

/- What comes before the last separator, and after it. -/
def splitLast
    (x : α)
    (l : List α) :
    Option (List α × List α) :=
  match l.reverse.dropWhile (· ≠ x) with
  | [] => none
  | _ :: before =>
      some
        (before.reverse,
          (l.reverse.takeWhile (· ≠ x)).reverse)

theorem splitLast_append
    {x : α}
    (before : List α)
    {after : List α}
    (hAfter : x ∉ after) :
    splitLast x (before ++ x :: after) =
      some (before, after) := by
  have hOther : ∀ a ∈ after.reverse, a ≠ x := by
    intro a ha hEq
    subst hEq
    exact hAfter (List.mem_reverse.mp ha)
  have hText :
      (before ++ x :: after).reverse =
        after.reverse ++ x :: before.reverse := by
    simp
  unfold splitLast
  rw [hText,
    List.dropWhile_append_of_pos (by simpa using hOther),
    List.takeWhile_append_of_pos (by simpa using hOther),
    List.dropWhile_cons_of_neg (by simp),
    List.takeWhile_cons_of_neg (by simp), List.append_nil]
  simp only [List.reverse_reverse]

end LastSeparator

variable [BEq α] [LawfulBEq α]

omit [LawfulBEq α] in
/- A list is split in one more part than it has separators. -/
theorem length_splitOn
    (x : α)
    (l : List α) :
    (l.splitOn x).length = l.count x + 1 := by
  induction l with
  | nil => rfl
  | cons a l ih =>
      rw [List.splitOn_cons_eq_if_modifyHead, List.count_cons]
      split
      · rw [List.length_cons, ih]
      · rw [List.length_modifyHead, ih, Nat.add_zero]

/- The separators between the parts and those within them. -/
theorem count_intercalate
    (x : α)
    {parts : List (List α)}
    (hParts : parts ≠ []) :
    ([x].intercalate parts).count x + 1 =
      parts.length + (parts.map (List.count x)).sum := by
  induction parts with
  | nil => exact absurd rfl hParts
  | cons part rest ih =>
      cases rest with
      | nil => simp; omega
      | cons next rest =>
          have hRest := ih (List.cons_ne_nil _ _)
          rw [List.intercalate_cons_cons, List.count_append,
            List.count_append, List.map_cons, List.sum_cons,
            List.length_cons]
          have hSeparator : [x].count x = 1 :=
            List.count_singleton_self
          omega

/- As many parts are split off as were put together. -/
theorem length_splitOn_intercalate_iff
    (x : α)
    {parts : List (List α)}
    (hParts : parts ≠ []) :
    (([x].intercalate parts).splitOn x).length =
        parts.length ↔
      ∀ part ∈ parts, x ∉ part := by
  rw [length_splitOn, count_intercalate x hParts]
  have hSum :
      (parts.map (List.count x)).sum = 0 ↔
        ∀ part ∈ parts, x ∉ part := by
    rw [List.sum_eq_zero_iff_forall_eq_nat]
    simp only [List.mem_map, forall_exists_index, and_imp,
      forall_apply_eq_imp_iff₂, List.count_eq_zero]
  rw [← hSum]
  omega

end Foundations

------------------------------------------------------------
-- Lines
------------------------------------------------------------

namespace Foundations

/- `"\n".join(lines)` -/
def joinLines
    (lines : List String) :
    String :=
  "\n".intercalate lines

/- `text.split("\n")` -/
def splitLines
    (text : String) :
    List String :=
  (text.toList.splitOn '\n').map String.ofList

theorem toList_joinLines
    (lines : List String) :
    (joinLines lines).toList =
      ['\n'].intercalate (lines.map String.toList) :=
  String.toList_intercalate

/- Lines without line feeds are read back. -/
theorem splitLines_joinLines
    {lines : List String}
    (hLines : lines ≠ [])
    (hPlain : ∀ line ∈ lines, '\n' ∉ line.toList) :
    splitLines (joinLines lines) = lines := by
  unfold splitLines
  rw [toList_joinLines, List.splitOn_intercalate]
  · rw [List.map_map]
    have hSame : String.ofList ∘ String.toList = id := by
      funext line
      exact String.ofList_toList
    rw [hSame, List.map_id]
  · intro l hl
    rcases List.mem_map.mp hl with ⟨line, hLine, rfl⟩
    exact hPlain line hLine
  · simpa using hLines

/- A line feed within a line is read as a line more. -/
theorem length_splitLines_joinLines_iff
    {lines : List String}
    (hLines : lines ≠ []) :
    (splitLines (joinLines lines)).length = lines.length ↔
      ∀ line ∈ lines, '\n' ∉ line.toList := by
  have hParts : lines.map String.toList ≠ [] := by
    simpa using hLines
  have hIff :=
    length_splitOn_intercalate_iff '\n' hParts
  unfold splitLines
  rw [toList_joinLines, List.length_map]
  rw [List.length_map] at hIff
  rw [hIff]
  simp

/- A separator less than there are parts is put in. -/
theorem length_intercalate
    {separator : String}
    (hSeparator : separator.length = 1)
    {parts : List String}
    (hParts : parts ≠ []) :
    (separator.intercalate parts).length + 1 =
      (parts.map String.length).sum + parts.length := by
  induction parts with
  | nil => exact absurd rfl hParts
  | cons part rest ih =>
      cases rest with
      | nil => simp
      | cons next others =>
          have hRest := ih (List.cons_ne_nil _ _)
          rw [String.intercalate_cons_cons,
            String.length_append, String.length_append,
            List.map_cons, List.sum_cons, List.length_cons,
            hSeparator]
          omega

end Foundations
