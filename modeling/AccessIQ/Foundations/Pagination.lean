import Mathlib.Tactic
import Mathlib.Data.List.Sort

/-
  Ordered queries and their pages.

  A query reads the rows in an order of its own and sorts
  them by a key, so it may order rows of equal keys in any
  way, and differently each time.  If different rows have
  different keys, all queries give one list, and the pages
  put together give that list.  In general the pages put
  together give every row once exactly if no page begins
  among rows of equal keys.

  Key definitions include:
    * `SortKey`
    * `RowOrder`
    * `orderBy`
    * `page`
    * `CutsBetweenKeys`

  Key theorems include:
    * `orderBy_eq_of_separates`
    * `head?_orderBy_eq_some_iff`
    * `orderBy_descending`
    * `flatMap_page`
    * `flatMap_pages_perm_iff`
-/

------------------------------------------------------------
-- Sort Keys
------------------------------------------------------------

namespace Foundations

/- A total preorder of rows. -/
structure SortKey (α : Type) where
  le : α → α → Bool
  trans : ∀ a b c, le a b → le b c → le a c
  total : ∀ a b, le a b ∨ le b a

namespace SortKey

variable {α κ : Type}

/- The order of a column. -/
def column
    [LinearOrder κ]
    (f : α → κ) :
    SortKey α where
  le a b := decide (f a ≤ f b)
  trans _ _ _ hab hbc := by
    rw [decide_eq_true_iff] at hab hbc ⊢
    exact le_trans hab hbc
  total _ _ := by
    rw [decide_eq_true_iff, decide_eq_true_iff]
    exact le_total _ _

/- The order of a computed column. -/
def on
    (key : SortKey κ)
    (f : α → κ) :
    SortKey α where
  le a b := key.le (f a) (f b)
  trans _ _ _ hab hbc := key.trans _ _ _ hab hbc
  total _ _ := key.total _ _

/- Values in order, and missing values before or after. -/
def optionLe
    [LinearOrder κ]
    (nullsFirst : Bool) :
    Option κ → Option κ → Bool
  | none, none => true
  | none, some _ => nullsFirst
  | some _, none => !nullsFirst
  | some x, some y => decide (x ≤ y)

theorem optionLe_trans
    [LinearOrder κ]
    (nullsFirst : Bool)
    (x y z : Option κ)
    (hxy : optionLe nullsFirst x y = true)
    (hyz : optionLe nullsFirst y z = true) :
    optionLe nullsFirst x z = true := by
  cases nullsFirst <;> cases x <;> cases y <;> cases z <;>
    simp_all [optionLe]
  all_goals exact le_trans hxy hyz

theorem optionLe_total
    [LinearOrder κ]
    (nullsFirst : Bool)
    (x y : Option κ) :
    optionLe nullsFirst x y = true ∨
      optionLe nullsFirst y x = true := by
  cases nullsFirst <;> cases x <;> cases y <;>
    simp [optionLe, le_total]

/- The order of a column that may have no value. -/
def nullable
    [LinearOrder κ]
    (nullsFirst : Bool)
    (f : α → Option κ) :
    SortKey α where
  le a b := optionLe nullsFirst (f a) (f b)
  trans _ _ _ hab hbc := optionLe_trans _ _ _ _ hab hbc
  total _ _ := optionLe_total _ _ _

/- The opposite order. -/
def descending
    (key : SortKey α) :
    SortKey α where
  le a b := key.le b a
  trans _ _ _ hab hbc := key.trans _ _ _ hbc hab
  total a b := key.total b a

/- The order of one key, and of another among equal rows. -/
def andThen
    (key tieBreaker : SortKey α) :
    SortKey α where
  le a b :=
    !key.le b a || (key.le a b && tieBreaker.le a b)
  trans a b c hab hbc := by
    simp only [Bool.or_eq_true, Bool.not_eq_true',
      Bool.and_eq_true] at hab hbc ⊢
    by_cases hca : key.le c a = true
    · right
      have hba : key.le b a = true := by
        rcases hbc with hcb | ⟨hbc, -⟩
        · rcases key.total b c with h | h
          · exact key.trans _ _ _ h hca
          · rw [hcb] at h
            cases h
        · exact key.trans _ _ _ hbc hca
      have hab' := hab.resolve_left (by rw [hba]; decide)
      have hcb : key.le c b = true :=
        key.trans _ _ _ hca hab'.1
      have hbc' := hbc.resolve_left (by rw [hcb]; decide)
      exact ⟨key.trans _ _ _ hab'.1 hbc'.1,
        tieBreaker.trans _ _ _ hab'.2 hbc'.2⟩
    · left
      exact Bool.eq_false_iff.mpr hca
  total a b := by
    simp only [Bool.or_eq_true, Bool.not_eq_true',
      Bool.and_eq_true]
    by_cases hab : key.le a b = true
    · by_cases hba : key.le b a = true
      · rcases tieBreaker.total a b with h | h
        · exact Or.inl (Or.inr ⟨hab, h⟩)
        · exact Or.inr (Or.inr ⟨hba, h⟩)
      · exact Or.inl (Or.inl (Bool.eq_false_iff.mpr hba))
    · exact Or.inr (Or.inl (Bool.eq_false_iff.mpr hab))

/- Different rows have different keys. -/
def Separates
    (key : SortKey α)
    (rows : List α) : Prop :=
  ∀ a ∈ rows, ∀ b ∈ rows,
    key.le a b = true → key.le b a = true → a = b

theorem Separates.descending
    {key : SortKey α}
    {rows : List α}
    (hSeparates : key.Separates rows) :
    key.descending.Separates rows :=
  fun a ha b hb hab hba => hSeparates a ha b hb hba hab

/- A tie breaker that separates the rows is enough. -/
theorem separates_andThen
    (key : SortKey α)
    {tieBreaker : SortKey α}
    {rows : List α}
    (hSeparates : tieBreaker.Separates rows) :
    (key.andThen tieBreaker).Separates rows := by
  intro a ha b hb hab hba
  simp only [andThen, Bool.or_eq_true, Bool.not_eq_true',
    Bool.and_eq_true] at hab hba
  rcases hab with hLt | ⟨hab, hTie⟩
  · rcases hba with hLt' | ⟨hba, -⟩
    · rcases key.total a b with h | h
      · cases h.symm.trans hLt'
      · cases h.symm.trans hLt
    · cases hba.symm.trans hLt
  · rcases hba with hLt' | ⟨-, hTie'⟩
    · cases hab.symm.trans hLt'
    · exact hSeparates a ha b hb hTie hTie'

/- Sorting by two keys sorts by the first. -/
theorem le_of_andThen
    (key tieBreaker : SortKey α)
    {a b : α}
    (hLe : (key.andThen tieBreaker).le a b = true) :
    key.le a b = true := by
  simp only [andThen, Bool.or_eq_true, Bool.not_eq_true',
    Bool.and_eq_true] at hLe
  rcases hLe with hLt | ⟨hLe, -⟩
  · rcases key.total a b with h | h
    · exact h
    · cases h.symm.trans hLt
  · exact hLe

/- A column whose values tell the rows apart. -/
theorem separates_column
    [LinearOrder κ]
    {f : α → κ}
    {rows : List α}
    (hDistinct :
      ∀ a ∈ rows, ∀ b ∈ rows, f a = f b → a = b) :
    (column f).Separates rows := by
  intro a ha b hb hab hba
  apply hDistinct a ha b hb
  exact le_antisymm (of_decide_eq_true hab)
    (of_decide_eq_true hba)

end SortKey

end Foundations

------------------------------------------------------------
-- Queries
------------------------------------------------------------

namespace Foundations

variable {α : Type}

/- The order in which one query comes upon the rows. -/
structure RowOrder (α : Type) where
  arrange : List α → List α
  perm : ∀ rows, (arrange rows).Perm rows

/- The rows as they are stored. -/
def RowOrder.stored : RowOrder α where
  arrange rows := rows
  perm rows := .refl rows

/- The rows of a query in the order of a key. -/
def orderBy
    (order : RowOrder α)
    (key : SortKey α)
    (rows : List α) :
    List α :=
  (order.arrange rows).insertionSort
    fun a b => key.le a b = true

/- `OFFSET` and `LIMIT`. -/
def page
    (offset limit : Nat)
    (rows : List α) :
    List α :=
  (rows.drop offset).take limit

theorem orderBy_perm
    (order : RowOrder α)
    (key : SortKey α)
    (rows : List α) :
    (orderBy order key rows).Perm rows :=
  (List.perm_insertionSort _ _).trans (order.perm rows)

theorem orderBy_sorted
    (order : RowOrder α)
    (key : SortKey α)
    (rows : List α) :
    (orderBy order key rows).Pairwise
      fun a b => key.le a b = true := by
  have hTotal :
      Std.Total fun a b : α => key.le a b = true :=
    ⟨key.total⟩
  have hTrans :
      IsTrans α fun a b : α => key.le a b = true :=
    ⟨fun a b c => key.trans a b c⟩
  exact List.pairwise_insertionSort _ _

/- Every sorted list of the rows is the result of a query. -/
theorem exists_orderBy_eq
    (key : SortKey α)
    {rows sorted : List α}
    (hPerm : sorted.Perm rows)
    (hSorted :
      sorted.Pairwise fun a b => key.le a b = true) :
    ∃ order : RowOrder α,
      orderBy order key rows = sorted := by
  classical
  refine ⟨
    { arrange := fun l => if l = rows then sorted else l
      perm := ?_ }, ?_⟩
  · intro l
    by_cases hRows : l = rows
    · rw [if_pos hRows, hRows]
      exact hPerm
    · rw [if_neg hRows]
  · unfold orderBy
    simp only [if_pos]
    exact hSorted.insertionSort_eq

/- Queries by a key that separates the rows agree. -/
theorem orderBy_eq_of_separates
    {key : SortKey α}
    {rows : List α}
    (hSeparates : key.Separates rows)
    (order order' : RowOrder α) :
    orderBy order key rows = orderBy order' key rows := by
  apply List.Perm.eq_of_pairwise _
    (orderBy_sorted order key rows)
    (orderBy_sorted order' key rows)
    ((orderBy_perm order key rows).trans
      (orderBy_perm order' key rows).symm)
  intro a b ha hb hab hba
  exact hSeparates a
    ((orderBy_perm order key rows).mem_iff.mp ha) b
    ((orderBy_perm order' key rows).mem_iff.mp hb) hab hba

/- The first row of a query comes before every other. -/
theorem head?_orderBy_eq_some_iff
    {key : SortKey α}
    {rows : List α}
    (hSeparates : key.Separates rows)
    (order : RowOrder α)
    {first : α} :
    (orderBy order key rows).head? = some first ↔
      first ∈ rows ∧
        ∀ b ∈ rows, key.le first b = true := by
  have hPerm := orderBy_perm order key rows
  have hSorted := orderBy_sorted order key rows
  cases hRows : orderBy order key rows with
  | nil =>
      rw [hRows] at hPerm
      constructor
      · intro hFirst
        cases hFirst
      · rintro ⟨hMem, -⟩
        cases hPerm.mem_iff.mpr hMem
  | cons a rest =>
      rw [hRows] at hPerm hSorted
      have hMem : a ∈ rows :=
        hPerm.mem_iff.mp List.mem_cons_self
      have hLeast : ∀ b ∈ rows, key.le a b = true := by
        intro b hb
        rcases List.mem_cons.mp (hPerm.mem_iff.mpr hb) with
          rfl | hRest
        · exact (key.total b b).elim id id
        · exact List.rel_of_pairwise_cons hSorted hRest
      rw [List.head?_cons, Option.some_inj]
      constructor
      · rintro rfl
        exact ⟨hMem, hLeast⟩
      · rintro ⟨hFirst, hBefore⟩
        exact hSeparates a hMem first hFirst
          (hLeast first hFirst) (hBefore a hMem)

/- The opposite order is the list read backwards. -/
theorem orderBy_descending
    {key : SortKey α}
    {rows : List α}
    (hSeparates : key.Separates rows)
    (order order' : RowOrder α) :
    orderBy order key.descending rows =
      (orderBy order' key rows).reverse := by
  have hReversed :
      (orderBy order' key rows).reverse.Pairwise
        fun a b => key.descending.le a b = true :=
    List.pairwise_reverse.mpr (orderBy_sorted order' key rows)
  have hPerm :
      (orderBy order key.descending rows).Perm
        (orderBy order' key rows).reverse :=
    (orderBy_perm order key.descending rows).trans
      ((orderBy_perm order' key rows).symm.trans
        (List.reverse_perm _).symm)
  apply List.Perm.eq_of_pairwise _
    (orderBy_sorted order key.descending rows) hReversed hPerm
  intro a b ha hb hab hba
  have hMem := orderBy_perm order key.descending rows
  have hMem' := orderBy_perm order' key rows
  exact hSeparates.descending a (hMem.mem_iff.mp ha) b
    (hMem'.mem_iff.mp (List.mem_reverse.mp hb)) hab hba

/- The pages of one list put together. -/
theorem flatMap_page
    (limit n : Nat)
    (rows : List α) :
    (List.range n).flatMap
        (fun i => page (i * limit) limit rows) =
      rows.take (n * limit) := by
  induction n with
  | zero => simp
  | succ n ih =>
      rw [List.range_succ, List.flatMap_append, ih,
        List.flatMap_singleton, Nat.succ_mul, List.take_add]
      rfl

end Foundations

------------------------------------------------------------
-- Pages That Partition The Rows
------------------------------------------------------------

namespace Foundations

variable {α : Type}

/- How many rows have a smaller key than a row. -/
def countBelow
    (key : SortKey α)
    (rows : List α)
    (row : α) :
    Nat :=
  rows.countP fun a => !key.le row a

/-
  Every page that is not empty begins with a new key: some
  row has exactly as many rows of smaller keys as the page
  skips.
-/
def CutsBetweenKeys
    (key : SortKey α)
    (limit : Nat)
    (rows : List α) : Prop :=
  ∀ i, i * limit < rows.length →
    ∃ row ∈ rows, countBelow key rows row = i * limit

/- A sorted list has the rows of smaller keys in front. -/
theorem filter_append_filter
    (key : SortKey α)
    (row : α)
    {sorted : List α}
    (hSorted :
      sorted.Pairwise fun a b => key.le a b = true) :
    sorted.filter (fun a => !key.le row a) ++
        sorted.filter (fun a => key.le row a) =
      sorted := by
  induction sorted with
  | nil => rfl
  | cons a rest ih =>
      rw [List.pairwise_cons] at hSorted
      by_cases hLe : key.le row a = true
      · have hRest :
            ∀ b ∈ rest, key.le row b = true :=
          fun b hb => key.trans _ _ _ hLe (hSorted.1 b hb)
        have hNone :
            (a :: rest).filter (fun a => !key.le row a) =
              [] := by
          apply List.filter_eq_nil_iff.mpr
          intro b hb
          rcases List.mem_cons.mp hb with rfl | hb
          · simp [hLe]
          · simp [hRest b hb]
        have hAll :
            (a :: rest).filter (fun a => key.le row a) =
              a :: rest := by
          apply List.filter_eq_self.mpr
          intro b hb
          rcases List.mem_cons.mp hb with rfl | hb
          · exact hLe
          · exact hRest b hb
        rw [hNone, hAll, List.nil_append]
      · rw [List.filter_cons_of_pos (by simpa using hLe),
          List.filter_cons_of_neg hLe, List.cons_append,
          ih hSorted.2]

/-
  Where a page begins with a new key, all queries have the
  same rows before it.
-/
theorem take_perm_of_countBelow
    {key : SortKey α}
    {rows : List α}
    {row : α}
    {m : Nat}
    (hCount : countBelow key rows row = m)
    (order : RowOrder α) :
    ((orderBy order key rows).take m).Perm
      (rows.filter fun a => !key.le row a) := by
  have hPerm := orderBy_perm order key rows
  have hSplit := filter_append_filter key row
    (orderBy_sorted order key rows)
  have hLength :
      ((orderBy order key rows).filter
        fun a => !key.le row a).length = m := by
    rw [← List.countP_eq_length_filter, hPerm.countP_eq]
    exact hCount
  rw [← hSplit, List.take_append_of_le_length hLength.ge,
    ← hLength, List.take_length]
  exact hPerm.filter _

/- Before a clean cut all queries have the same rows. -/
theorem take_perm_take
    {key : SortKey α}
    {limit : Nat}
    {rows : List α}
    (hCuts : CutsBetweenKeys key limit rows)
    (i : Nat)
    (order order' : RowOrder α) :
    ((orderBy order key rows).take (i * limit)).Perm
      ((orderBy order' key rows).take (i * limit)) := by
  have hPerm := orderBy_perm order key rows
  have hPerm' := orderBy_perm order' key rows
  by_cases hInside : i * limit < rows.length
  · rcases hCuts i hInside with ⟨row, -, hCount⟩
    exact (take_perm_of_countBelow hCount order).trans
      (take_perm_of_countBelow hCount order').symm
  · rw [List.take_of_length_le
        (by rw [hPerm.length_eq]; omega),
      List.take_of_length_le
        (by rw [hPerm'.length_eq]; omega)]
    exact hPerm.trans hPerm'.symm

/- Between clean cuts all queries have the same page. -/
theorem page_perm_page
    {key : SortKey α}
    {limit : Nat}
    {rows : List α}
    (hCuts : CutsBetweenKeys key limit rows)
    (i : Nat)
    (order order' : RowOrder α) :
    (page (i * limit) limit (orderBy order key rows)).Perm
      (page (i * limit) limit
        (orderBy order' key rows)) := by
  have hBefore := take_perm_take hCuts i order order'
  have hAfter := take_perm_take hCuts (i + 1) order order'
  rw [Nat.succ_mul, List.take_add, List.take_add] at hAfter
  have hCancel :=
    (List.Perm.append_right
      (page (i * limit) limit (orderBy order key rows))
      hBefore.symm).trans hAfter
  exact (List.perm_append_left_iff _).mp hCancel

/- Pages that begin with new keys give every row once. -/
theorem flatMap_pages_perm
    {key : SortKey α}
    {limit n : Nat}
    {rows : List α}
    (hCuts : CutsBetweenKeys key limit rows)
    (hEnough : rows.length ≤ n * limit)
    (orders : Nat → RowOrder α) :
    ((List.range n).flatMap fun i =>
      page (i * limit) limit
        (orderBy (orders i) key rows)).Perm rows := by
  have hOne :
      ((List.range n).flatMap fun i =>
        page (i * limit) limit
          (orderBy (orders i) key rows)).Perm
        ((List.range n).flatMap fun i =>
          page (i * limit) limit
            (orderBy .stored key rows)) := by
    apply List.Perm.flatMap_left
    intro i _
    exact page_perm_page hCuts i (orders i) .stored
  have hStored := orderBy_perm .stored key rows
  rw [flatMap_page, List.take_of_length_le
    (by rw [hStored.length_eq]; exact hEnough)] at hOne
  exact hOne.trans hStored

/- The row a sorted list has at a place, counted by key. -/
theorem countBelow_of_sorted
    {key : SortKey α}
    {before after : List α}
    {row : α}
    (hSorted :
      (before ++ row :: after).Pairwise
        fun a b => key.le a b = true)
    (hBefore : ∀ a ∈ before, key.le row a = false) :
    countBelow key (before ++ row :: after) row =
      before.length := by
  rw [List.pairwise_append] at hSorted
  have hRefl : key.le row row = true := by
    rcases key.total row row with h | h <;> exact h
  have hAfter :
      (row :: after).countP (fun a => !key.le row a) = 0 := by
    rw [List.countP_eq_zero]
    intro a ha
    rcases List.mem_cons.mp ha with rfl | ha
    · simp [hRefl]
    · have hLe := (List.pairwise_cons.mp hSorted.2.1).1 a ha
      simp [hLe]
  have hAll :
      before.countP (fun a => !key.le row a) =
        before.length := by
    rw [List.countP_eq_length]
    intro a ha
    simp [hBefore a ha]
  unfold countBelow
  rw [List.countP_append, hAfter, hAll, Nat.add_zero]

/-
  At a page that does not begin with a new key, the row
  before it is equal to its first row.
-/
theorem exists_tie
    {key : SortKey α}
    {rows : List α}
    {m : Nat}
    (hInside : m < rows.length)
    (hNone : ∀ row ∈ rows, countBelow key rows row ≠ m)
    {sorted : List α}
    (hPerm : sorted.Perm rows)
    (hSorted :
      sorted.Pairwise fun a b => key.le a b = true) :
    ∃ before x y after,
      sorted = before ++ x :: y :: after ∧
        before.length + 1 = m ∧
        key.le x y = true ∧
        key.le y x = true := by
  have hLength := hPerm.length_eq
  have hCount :
      ∀ row, countBelow key sorted row =
        countBelow key rows row :=
    fun row => hPerm.countP_eq _
  cases m with
  | zero =>
      cases sorted with
      | nil =>
          rw [List.length_nil] at hLength
          omega
      | cons row rest =>
          have hBelow :
              countBelow key ([] ++ row :: rest) row = 0 :=
            countBelow_of_sorted hSorted
              (fun a ha => by cases ha)
          have hMem : row ∈ rows :=
            hPerm.mem_iff.mp List.mem_cons_self
          exact absurd ((hCount row).symm.trans hBelow)
            (hNone row hMem)
  | succ m =>
      have hm : m < sorted.length := by omega
      have hm' : m + 1 < sorted.length := by omega
      have hSplit :
          sorted =
            sorted.take m ++
              sorted[m] :: sorted[m + 1] ::
                sorted.drop (m + 2) := by
        rw [← List.drop_eq_getElem_cons hm',
          ← List.drop_eq_getElem_cons hm,
          List.take_append_drop]
      refine ⟨_, _, _, _, hSplit, ?_, ?_, ?_⟩
      · rw [List.length_take]
        omega
      · exact List.pairwise_iff_getElem.mp hSorted m (m + 1)
          hm hm' (Nat.lt_succ_self m)
      · by_contra hNot
        have hBefore :
            ∀ a ∈ sorted.take (m + 1),
              key.le sorted[m + 1] a = false := by
          intro a ha
          rw [Bool.eq_false_iff]
          intro hLe
          rcases List.mem_take_iff_getElem.mp ha with
            ⟨j, hj, rfl⟩
          apply hNot
          by_cases hjm : j = m
          · subst hjm
            exact hLe
          · have hOrdered :=
              List.pairwise_iff_getElem.mp hSorted j m
                (by omega) hm (by omega)
            exact key.trans _ _ _ hLe hOrdered
        have hSplit' :
            sorted.take (m + 1) ++
                sorted[m + 1] :: sorted.drop (m + 2) =
              sorted := by
          rw [← List.drop_eq_getElem_cons hm',
            List.take_append_drop]
        have hBelow :=
          countBelow_of_sorted
            (by rw [hSplit']; exact hSorted) hBefore
        rw [hSplit', List.length_take,
          Nat.min_eq_left (by omega)] at hBelow
        have hMem : sorted[m + 1] ∈ rows :=
          hPerm.mem_iff.mp (List.getElem_mem hm')
        exact hNone _ hMem ((hCount _).symm.trans hBelow)

/- Equal neighbours may change places. -/
theorem sorted_swap
    {key : SortKey α}
    {before after : List α}
    {x y : α}
    (hSorted :
      (before ++ x :: y :: after).Pairwise
        fun a b => key.le a b = true)
    (hyx : key.le y x = true) :
    (before ++ y :: x :: after).Pairwise
      fun a b => key.le a b = true := by
  rw [List.pairwise_append, List.pairwise_cons,
    List.pairwise_cons] at hSorted ⊢
  rcases hSorted with ⟨hBefore, ⟨hx, hy, hAfter⟩, hBoth⟩
  refine ⟨hBefore, ⟨?_, ?_, hAfter⟩, ?_⟩
  · intro a ha
    rcases List.mem_cons.mp ha with rfl | ha
    · exact hyx
    · exact hy a ha
  · intro a ha
    exact hx a (List.mem_cons_of_mem _ ha)
  · intro a ha b hb
    apply hBoth a ha b
    rcases List.mem_cons.mp hb with rfl | hb
    · exact List.mem_cons_of_mem _ List.mem_cons_self
    · rcases List.mem_cons.mp hb with rfl | hb
      · exact List.mem_cons_self
      · exact List.mem_cons_of_mem _
          (List.mem_cons_of_mem _ hb)

/- A page has the rows at its places. -/
theorem mem_page
    {offset limit j : Nat}
    {rows : List α}
    {row : α}
    (hRow : rows[j]? = some row)
    (hFrom : offset ≤ j)
    (hTo : j < offset + limit) :
    row ∈ page offset limit rows := by
  apply List.mem_of_getElem? (i := j - offset)
  unfold page
  rw [List.getElem?_take_of_lt (by omega), List.getElem?_drop,
    Nat.add_sub_cancel' hFrom]
  exact hRow

/-
  The pages put together give every row once, whatever order
  each query has, exactly if every page begins with a new
  key: otherwise two queries can show the same row on both
  sides of a page boundary.
-/
theorem flatMap_pages_perm_iff
    {key : SortKey α}
    {limit n : Nat}
    {rows : List α}
    (hNodup : rows.Nodup)
    (hEnough : rows.length ≤ n * limit) :
    (∀ orders : Nat → RowOrder α,
      ((List.range n).flatMap fun i =>
        page (i * limit) limit
          (orderBy (orders i) key rows)).Perm rows) ↔
      CutsBetweenKeys key limit rows := by
  constructor
  · intro hAll i hInside
    by_contra hNone
    have hNone' :
        ∀ row ∈ rows,
          countBelow key rows row ≠ i * limit :=
      fun row hRow hCount => hNone ⟨row, hRow, hCount⟩
    have hSorted := orderBy_sorted .stored key rows
    have hPerm := orderBy_perm .stored key rows
    rcases exists_tie hInside hNone' hPerm hSorted with
      ⟨before, x, y, after, hSplit, hLength, hxy, hyx⟩
    rw [hSplit] at hSorted hPerm
    have hSwapped := sorted_swap hSorted hyx
    have hPerm' :
        (before ++ y :: x :: after).Perm rows :=
      (List.Perm.append_left before
        (List.Perm.swap x y after)).trans hPerm
    rcases exists_orderBy_eq key hPerm' hSwapped with
      ⟨order, hOrder⟩
    have hPages := hAll fun j =>
      if j < i then .stored else order
    have hNodup' := hPages.nodup_iff.mpr hNodup
    rw [List.nodup_flatMap] at hNodup'
    have hPositive : 0 < i * limit := by omega
    have hi : 0 < i := Nat.pos_of_mul_pos_right hPositive
    have hLimit : 0 < limit :=
      Nat.pos_of_mul_pos_left hPositive
    have hin : i < n := by
      apply Nat.lt_of_mul_lt_mul_right (a := limit)
      omega
    have hStart : (i - 1) * limit + limit = i * limit := by
      rw [← Nat.succ_mul, Nat.succ_eq_add_one,
        Nat.sub_add_cancel hi]
    have hLeft :
        x ∈ page ((i - 1) * limit) limit
          (orderBy .stored key rows) := by
      rw [hSplit]
      apply mem_page (j := before.length)
      · simp
      · omega
      · omega
    have hRight :
        x ∈ page (i * limit) limit
          (orderBy order key rows) := by
      rw [hOrder]
      apply mem_page (j := before.length + 1)
      · simp
      · omega
      · omega
    have hDisjoint :=
      List.pairwise_iff_getElem.mp hNodup'.2 (i - 1) i
        (by rw [List.length_range]; omega)
        (by rw [List.length_range]; omega) (by omega)
    simp only [List.getElem_range, Function.onFun,
      if_pos (Nat.sub_lt hi Nat.one_pos), lt_irrefl,
      if_false] at hDisjoint
    exact hDisjoint hLeft hRight
  · intro hCuts orders
    exact flatMap_pages_perm hCuts hEnough orders

end Foundations
