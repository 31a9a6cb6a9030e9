import Mathlib.Tactic

/-
  Tables of rows under an integer primary key.

  A table keeps its rows in increasing order of their keys,
  so a primary key is never shared and a query that orders
  by the key reads the rows as they stand.  Two rows of a
  table never conflict on a unique constraint.  A new row
  takes a key above every key in the table.

  Key definitions include:
    * `Row`
    * `KeyPolicy`
    * `Table`
    * `Table.get?`
    * `Table.insert`
    * `Table.modify`
    * `Table.delete`
    * `Table.tryInsert`
    * `Table.tryModify`
    * `Table.put`
    * `Table.Stores`
    * `Table.Appends`
    * `Table.DistinctBy`

  Key theorems include:
    * `Table.get?_eq_some_iff`
    * `Table.eq_of_mem_of_id_eq`
    * `Table.filter_rows_eq`
    * `Table.get?_insert`
    * `Table.get?_modify`
    * `Table.tryInsert_eq_ok_iff`
    * `Table.tryModify_eq_ok_iff`
    * `Table.tryModify_eq_error_iff`
    * `Table.get?_put`
    * `Table.tryModify_eq_put`
    * `Table.Stores.get?`
    * `Table.distinctBy_iff_nodup`
    * `Table.DistinctBy.stores`
    * `Table.findLast?_insert`
    * `Table.rows_of_tryInsertAll`
    * `Table.Appends.map_eq`
-/

------------------------------------------------------------
-- Rows And Tables
------------------------------------------------------------

namespace Foundations

/-
  How a database call can fail: the statement breaks a
  constraint, it addresses a row that is gone, a value is out
  of the range of its type, the database itself fails, or an
  earlier call of the transaction failed and was not rolled
  back.
-/
inductive DatabaseError where
  | integrity
  | staleData
  | dataError
  | operational
  | pendingRollback
  deriving DecidableEq, Repr

/-
  A row type: every row carries its primary key, the key can
  be replaced without touching the other columns, and two
  rows conflict when they share the columns of a unique
  constraint.
-/
class Row (α : Type) where
  id : α → Int
  withId : α → Int → α
  conflicts : α → α → Bool
  id_withId : ∀ r n, id (withId r n) = n
  withId_id : ∀ r, withId r (id r) = r
  conflicts_comm : ∀ a b, conflicts a b = conflicts b a
  conflicts_withId :
    ∀ a b n, conflicts a (withId b n) = conflicts a b

attribute [simp] Row.id_withId Row.withId_id
  Row.conflicts_withId

/-
  How a database picks the key of an inserted row: one above
  the largest key present, or the next value of a sequence,
  which never issues a key twice.
-/
inductive KeyPolicy where
  | maxPlusOne
  | sequence
  deriving DecidableEq, Repr

/-
  A table: rows in increasing key order that respect the
  unique constraints, and the largest key its sequence has
  issued.
-/
structure Table (α : Type) [Row α] where
  rows : List α
  issued : Int
  sorted :
    rows.Pairwise (fun a b => Row.id a < Row.id b)
  bounded : ∀ r ∈ rows, Row.id r ≤ issued
  unique :
    rows.Pairwise (fun a b => Row.conflicts a b = false)

end Foundations

------------------------------------------------------------
-- Lookup
------------------------------------------------------------

namespace Foundations

namespace Table

variable {α : Type} [Row α]

@[ext] theorem ext
    {t u : Table α}
    (hRows : t.rows = u.rows)
    (hIssued : t.issued = u.issued) :
    t = u := by
  cases t
  cases u
  cases hRows
  cases hIssued
  rfl

/- The table without rows. -/
def empty : Table α where
  rows := []
  issued := 0
  sorted := List.Pairwise.nil
  bounded := by simp
  unique := List.Pairwise.nil

@[simp] theorem rows_empty :
    (empty : Table α).rows = [] :=
  rfl

/- The row with a given primary key. -/
def get?
    (t : Table α)
    (i : Int) :
    Option α :=
  t.rows.find? (fun r => Row.id r == i)

/- Whether a primary key is present. -/
def contains
    (t : Table α)
    (i : Int) :
    Bool :=
  (t.get? i).isSome

/- Rows with equal keys are equal. -/
theorem eq_of_mem_of_id_eq
    (t : Table α)
    {r r' : α}
    (hr : r ∈ t.rows)
    (hr' : r' ∈ t.rows)
    (hId : Row.id r = Row.id r') :
    r = r' := by
  rcases List.mem_iff_getElem.mp hr with ⟨m, hm, rfl⟩
  rcases List.mem_iff_getElem.mp hr' with ⟨n, hn, rfl⟩
  have hSorted := List.pairwise_iff_getElem.mp t.sorted
  rcases lt_trichotomy m n with hLt | rfl | hGt
  · exact absurd hId (ne_of_lt (hSorted m n hm hn hLt))
  · rfl
  · exact absurd hId.symm (ne_of_lt (hSorted n m hn hm hGt))

theorem nodup_rows
    (t : Table α) :
    t.rows.Nodup :=
  t.sorted.imp fun hLt hEq => by
    subst hEq
    exact lt_irrefl _ hLt

theorem nodup_ids
    (t : Table α) :
    (t.rows.map Row.id).Nodup := by
  rw [List.Nodup, List.pairwise_map]
  exact t.sorted.imp fun hLt => ne_of_lt hLt

/- Distinct rows respect the unique constraints. -/
theorem conflicts_eq_false_of_ne
    (t : Table α)
    {a b : α}
    (ha : a ∈ t.rows)
    (hb : b ∈ t.rows)
    (hNe : a ≠ b) :
    Row.conflicts a b = false := by
  have : Std.Symm
      (fun a b : α => Row.conflicts a b = false) :=
    ⟨fun a b h => by rwa [Row.conflicts_comm]⟩
  exact t.unique.forall ha hb hNe

/- A lookup returns exactly the row with the key. -/
theorem get?_eq_some_iff
    (t : Table α)
    {i : Int}
    {r : α} :
    t.get? i = some r ↔ r ∈ t.rows ∧ Row.id r = i := by
  constructor
  · intro hGet
    refine ⟨List.mem_of_find?_eq_some hGet, ?_⟩
    simpa using List.find?_some hGet
  · rintro ⟨hMem, hId⟩
    have hSome :
        (t.rows.find? fun r => Row.id r == i).isSome := by
      rw [List.find?_isSome]
      exact ⟨r, hMem, by simpa using hId⟩
    rcases Option.isSome_iff_exists.mp hSome with
      ⟨found, hFound⟩
    have hFoundId : Row.id found = i := by
      simpa using List.find?_some hFound
    have hEq : found = r :=
      t.eq_of_mem_of_id_eq
        (List.mem_of_find?_eq_some hFound) hMem
        (hFoundId.trans hId.symm)
    rw [get?, hFound, hEq]

theorem get?_eq_none_iff
    (t : Table α)
    {i : Int} :
    t.get? i = none ↔ ∀ r ∈ t.rows, Row.id r ≠ i := by
  simp [get?]

theorem get?_of_mem
    (t : Table α)
    {r : α}
    (hr : r ∈ t.rows) :
    t.get? (Row.id r) = some r :=
  t.get?_eq_some_iff.mpr ⟨hr, rfl⟩

theorem mem_of_get?
    {t : Table α}
    {i : Int}
    {r : α}
    (hGet : t.get? i = some r) :
    r ∈ t.rows :=
  (t.get?_eq_some_iff.mp hGet).1

theorem id_of_get?
    {t : Table α}
    {i : Int}
    {r : α}
    (hGet : t.get? i = some r) :
    Row.id r = i :=
  (t.get?_eq_some_iff.mp hGet).2

theorem contains_iff
    (t : Table α)
    {i : Int} :
    t.contains i = true ↔ ∃ r ∈ t.rows, Row.id r = i := by
  simp [contains, get?]

theorem contains_of_get?
    {t : Table α}
    {i : Int}
    {r : α}
    (hGet : t.get? i = some r) :
    t.contains i = true := by
  simp [contains, hGet]

/- The wanted rows of a table are determined by which they are. -/
theorem filter_rows_eq
    {t u : Table α}
    {wanted : α → Bool}
    (hSame :
      ∀ a, wanted a = true → (a ∈ t.rows ↔ a ∈ u.rows)) :
    t.rows.filter wanted = u.rows.filter wanted := by
  have : Std.Irrefl (fun a b : α => Row.id a < Row.id b) :=
    ⟨fun a => lt_irrefl (Row.id a)⟩
  have : Std.Antisymm (fun a b : α => Row.id a < Row.id b) :=
    ⟨fun a b hAB hBA => absurd hAB (lt_asymm hBA)⟩
  refine List.Pairwise.eq_of_mem_iff (t.sorted.filter wanted)
    (u.sorted.filter wanted) fun a => ?_
  rw [List.mem_filter, List.mem_filter]
  exact and_congr_left fun hWanted => hSame a hWanted

end Table

end Foundations

------------------------------------------------------------
-- Insertion
------------------------------------------------------------

namespace Foundations

namespace Table

variable {α : Type} [Row α]

/- The largest key present, zero for a table without rows. -/
def maxId
    (t : Table α) :
    Int :=
  (t.rows.getLast?.map Row.id).getD 0

/- The key the next inserted row receives. -/
def freshId
    (policy : KeyPolicy)
    (t : Table α) :
    Int :=
  match policy with
  | .maxPlusOne => t.maxId + 1
  | .sequence => t.issued + 1

theorem id_le_maxId
    (t : Table α)
    {r : α}
    (hr : r ∈ t.rows) :
    Row.id r ≤ t.maxId := by
  rcases List.eq_nil_or_concat t.rows with
    hNil | ⟨front, last, hConcat⟩
  · simp [hNil] at hr
  · have hSorted := t.sorted
    rw [hConcat, List.concat_eq_append,
      List.pairwise_append] at hSorted
    rw [hConcat, List.concat_eq_append,
      List.mem_append, List.mem_singleton] at hr
    have hMax : t.maxId = Row.id last := by
      simp [maxId, hConcat]
    rw [hMax]
    rcases hr with hFront | rfl
    · exact le_of_lt
        (hSorted.2.2 r hFront last (by simp))
    · exact le_refl _

/- A fresh key lies above every key of the table. -/
theorem id_lt_freshId
    (policy : KeyPolicy)
    (t : Table α)
    {r : α}
    (hr : r ∈ t.rows) :
    Row.id r < t.freshId policy := by
  cases policy with
  | maxPlusOne =>
      have hLe := t.id_le_maxId hr
      simp only [freshId]
      omega
  | sequence =>
      have hLe := t.bounded r hr
      simp only [freshId]
      omega

/- No row of the table conflicts with `r`. -/
def Fits
    (t : Table α)
    (r : α) : Prop :=
  ∀ a ∈ t.rows, Row.conflicts a r = false

instance
    (t : Table α)
    (r : α) :
    Decidable (t.Fits r) :=
  inferInstanceAs
    (Decidable (∀ a ∈ t.rows, Row.conflicts a r = false))

/- Insert a row that fits under a fresh key. -/
def insert
    (policy : KeyPolicy)
    (t : Table α)
    (r : α)
    (hFits : t.Fits r) :
    Table α where
  rows := t.rows ++ [Row.withId r (t.freshId policy)]
  issued := max t.issued (t.freshId policy)
  sorted := by
    rw [List.pairwise_append]
    refine ⟨t.sorted, List.pairwise_singleton _ _, ?_⟩
    intro a ha b hb
    rw [List.mem_singleton] at hb
    subst hb
    simpa using t.id_lt_freshId policy ha
  bounded := by
    intro a ha
    rw [List.mem_append, List.mem_singleton] at ha
    rcases ha with ha | rfl
    · exact le_trans (t.bounded a ha) (le_max_left _ _)
    · simp
  unique := by
    rw [List.pairwise_append]
    refine ⟨t.unique, List.pairwise_singleton _ _, ?_⟩
    intro a ha b hb
    rw [List.mem_singleton] at hb
    subst hb
    simpa using hFits a ha

@[simp] theorem rows_insert
    (policy : KeyPolicy)
    (t : Table α)
    {r : α}
    (hFits : t.Fits r) :
    (t.insert policy r hFits).rows =
      t.rows ++ [Row.withId r (t.freshId policy)] :=
  rfl

theorem mem_insert
    (policy : KeyPolicy)
    (t : Table α)
    {r a : α}
    (hFits : t.Fits r) :
    a ∈ (t.insert policy r hFits).rows ↔
      a ∈ t.rows ∨
        a = Row.withId r (t.freshId policy) := by
  simp

theorem get?_freshId
    (policy : KeyPolicy)
    (t : Table α) :
    t.get? (t.freshId policy) = none := by
  rw [get?_eq_none_iff]
  intro r hr
  exact ne_of_lt (t.id_lt_freshId policy hr)

theorem contains_freshId
    (policy : KeyPolicy)
    (t : Table α) :
    t.contains (t.freshId policy) = false := by
  unfold contains
  rw [t.get?_freshId]
  rfl

/- Insertion adds one key and keeps every other lookup. -/
theorem get?_insert
    (policy : KeyPolicy)
    (t : Table α)
    {r : α}
    (hFits : t.Fits r)
    (i : Int) :
    (t.insert policy r hFits).get? i =
      if i = t.freshId policy then
        some (Row.withId r (t.freshId policy))
      else
        t.get? i := by
  by_cases hi : i = t.freshId policy
  · subst hi
    rw [if_pos rfl, get?_eq_some_iff]
    simp
  · rw [if_neg hi]
    have hNe : t.freshId policy ≠ i := fun h => hi h.symm
    simp [get?, List.find?_append, hNe]

theorem get?_insert_freshId
    (policy : KeyPolicy)
    (t : Table α)
    {r : α}
    (hFits : t.Fits r) :
    (t.insert policy r hFits).get? (t.freshId policy) =
      some (Row.withId r (t.freshId policy)) := by
  rw [get?_insert, if_pos rfl]

/-
  The statement that inserts a row; `refs` tells whether the
  row's foreign keys are satisfied.  It returns the key.
-/
def tryInsert
    (policy : KeyPolicy)
    (t : Table α)
    (r : α)
    (refs : Bool) :
    Except DatabaseError (Table α × Int) :=
  if hFits : refs = true ∧ t.Fits r then
    .ok (t.insert policy r hFits.2, t.freshId policy)
  else
    .error .integrity

theorem tryInsert_eq_ok_iff
    {policy : KeyPolicy}
    {t t' : Table α}
    {r : α}
    {refs : Bool}
    {n : Int} :
    t.tryInsert policy r refs = .ok (t', n) ↔
      refs = true ∧
        ∃ hFits : t.Fits r,
          t' = t.insert policy r hFits ∧
            n = t.freshId policy := by
  unfold tryInsert
  split
  · rename_i h
    simp only [Except.ok.injEq, Prod.mk.injEq]
    constructor
    · rintro ⟨rfl, rfl⟩
      exact ⟨h.1, h.2, rfl, rfl⟩
    · rintro ⟨-, -, rfl, rfl⟩
      exact ⟨rfl, rfl⟩
  · rename_i h
    constructor
    · intro hEq
      cases hEq
    · rintro ⟨hRefs, hFits, -⟩
      exact absurd ⟨hRefs, hFits⟩ h

theorem tryInsert_eq_error_iff
    (policy : KeyPolicy)
    {t : Table α}
    {r : α}
    {refs : Bool}
    {e : DatabaseError} :
    t.tryInsert policy r refs = .error e ↔
      e = .integrity ∧ ¬ (refs = true ∧ t.Fits r) := by
  unfold tryInsert
  split
  · rename_i h
    simp [h]
  · rename_i h
    simp only [Except.error.injEq]
    constructor
    · rintro rfl
      exact ⟨rfl, h⟩
    · rintro ⟨rfl, -⟩
      rfl

end Table

end Foundations

------------------------------------------------------------
-- Update And Deletion
------------------------------------------------------------

namespace Foundations

namespace Table

variable {α : Type} [Row α]

/- One row's update, which cannot change its key. -/
def updateRow
    (i : Int)
    (f : α → α)
    (r : α) :
    α :=
  if Row.id r = i then Row.withId (f r) i else r

@[simp] theorem id_updateRow
    (i : Int)
    (f : α → α)
    (r : α) :
    Row.id (updateRow i f r) = Row.id r := by
  unfold updateRow
  split
  · rename_i hId
    simpa using hId.symm
  · rfl

@[simp] theorem updateRow_of_id
    {i : Int}
    {f : α → α}
    {r : α}
    (hId : Row.id r = i) :
    updateRow i f r = Row.withId (f r) i :=
  if_pos hId

theorem updateRow_of_id_ne
    {i : Int}
    {f : α → α}
    {r : α}
    (hId : Row.id r ≠ i) :
    updateRow i f r = r :=
  if_neg hId

/-
  The update of row `i` conflicts with no other row of the
  table.
-/
def FitsUpdate
    (t : Table α)
    (i : Int)
    (f : α → α) : Prop :=
  ∀ r ∈ t.rows, Row.id r = i →
    ∀ a ∈ t.rows, Row.id a ≠ i →
      Row.conflicts a (f r) = false

instance
    (t : Table α)
    (i : Int)
    (f : α → α) :
    Decidable (t.FitsUpdate i f) :=
  inferInstanceAs
    (Decidable
      (∀ r ∈ t.rows, Row.id r = i →
        ∀ a ∈ t.rows, Row.id a ≠ i →
          Row.conflicts a (f r) = false))

/- Update the row with a given key. -/
def modify
    (t : Table α)
    (i : Int)
    (f : α → α)
    (hFits : t.FitsUpdate i f) :
    Table α where
  rows := t.rows.map (updateRow i f)
  issued := t.issued
  sorted := by
    rw [List.pairwise_map]
    simpa using t.sorted
  bounded := by
    intro a ha
    rcases List.mem_map.mp ha with ⟨r, hr, rfl⟩
    simpa using t.bounded r hr
  unique := by
    rw [List.pairwise_map]
    refine (t.sorted.and t.unique).imp_of_mem ?_
    rintro a b ha hb ⟨hLt, hUnique⟩
    by_cases hA : Row.id a = i
    · have hB : Row.id b ≠ i := by omega
      rw [updateRow_of_id hA, updateRow_of_id_ne hB,
        Row.conflicts_comm, Row.conflicts_withId]
      exact hFits a ha hA b hb hB
    · rw [updateRow_of_id_ne hA]
      by_cases hB : Row.id b = i
      · rw [updateRow_of_id hB, Row.conflicts_withId]
        exact hFits b hb hB a ha hA
      · rw [updateRow_of_id_ne hB]
        exact hUnique

@[simp] theorem rows_modify
    (t : Table α)
    {i : Int}
    {f : α → α}
    (hFits : t.FitsUpdate i f) :
    (t.modify i f hFits).rows =
      t.rows.map (updateRow i f) :=
  rfl

theorem get?_modify
    (t : Table α)
    {i : Int}
    {f : α → α}
    (hFits : t.FitsUpdate i f)
    (j : Int) :
    (t.modify i f hFits).get? j =
      (t.get? j).map (updateRow i f) := by
  simp [get?, List.find?_map]

theorem get?_modify_self
    (t : Table α)
    {i : Int}
    {f : α → α}
    (hFits : t.FitsUpdate i f)
    {r : α}
    (hGet : t.get? i = some r) :
    (t.modify i f hFits).get? i =
      some (Row.withId (f r) i) := by
  rw [get?_modify, hGet, Option.map_some,
    updateRow_of_id (id_of_get? hGet)]

theorem get?_modify_ne
    (t : Table α)
    {i j : Int}
    {f : α → α}
    (hFits : t.FitsUpdate i f)
    (hNe : j ≠ i) :
    (t.modify i f hFits).get? j = t.get? j := by
  rw [get?_modify]
  cases hGet : t.get? j with
  | none => rfl
  | some r =>
      have hId := id_of_get? hGet
      simp [updateRow, hId, hNe]

theorem mem_modify
    (t : Table α)
    {i : Int}
    {f : α → α}
    (hFits : t.FitsUpdate i f)
    {a : α} :
    a ∈ (t.modify i f hFits).rows ↔
      ∃ r ∈ t.rows, updateRow i f r = a :=
  List.mem_map

/-
  The statement that updates the row with a given key; `refs`
  tells whether the foreign keys it writes are satisfied.
-/
def tryModify
    (t : Table α)
    (i : Int)
    (f : α → α)
    (refs : Bool) :
    Except DatabaseError (Table α) :=
  if t.contains i = true then
    if hFits : refs = true ∧ t.FitsUpdate i f then
      .ok (t.modify i f hFits.2)
    else
      .error .integrity
  else
    .error .staleData

theorem tryModify_eq_ok_iff
    {t t' : Table α}
    {i : Int}
    {f : α → α}
    {refs : Bool} :
    t.tryModify i f refs = .ok t' ↔
      t.contains i = true ∧ refs = true ∧
        ∃ hFits : t.FitsUpdate i f,
          t' = t.modify i f hFits := by
  unfold tryModify
  by_cases hContains : t.contains i = true
  · rw [if_pos hContains]
    split
    · rename_i h
      simp [hContains, h, eq_comm]
    · rename_i h
      constructor
      · intro hEq
        cases hEq
      · rintro ⟨-, hRefs, hFits, -⟩
        exact absurd ⟨hRefs, hFits⟩ h
  · simp [hContains]

theorem tryModify_eq_error_iff
    {t : Table α}
    {i : Int}
    {f : α → α}
    {refs : Bool}
    {e : DatabaseError} :
    t.tryModify i f refs = .error e ↔
      (t.contains i = false ∧ e = .staleData) ∨
        (t.contains i = true ∧ e = .integrity ∧
          ¬ (refs = true ∧ t.FitsUpdate i f)) := by
  unfold tryModify
  cases hContains : t.contains i with
  | false => simp [eq_comm]
  | true =>
      rw [if_pos rfl]
      split
      · rename_i h
        simp [h]
      · rename_i h
        simp only [Except.error.injEq]
        constructor
        · rintro rfl
          exact Or.inr ⟨trivial, rfl, h⟩
        · rintro (⟨hFalse, -⟩ | ⟨-, rfl, -⟩)
          · cases hFalse
          · rfl

/- Delete the row with a given key. -/
def delete
    (t : Table α)
    (i : Int) :
    Table α where
  rows := t.rows.filter (fun r => Row.id r != i)
  issued := t.issued
  sorted := t.sorted.filter _
  bounded := by
    intro a ha
    exact t.bounded a (List.mem_of_mem_filter ha)
  unique := t.unique.filter _

theorem mem_delete
    (t : Table α)
    {i : Int}
    {a : α} :
    a ∈ (t.delete i).rows ↔ a ∈ t.rows ∧ Row.id a ≠ i := by
  simp [delete]

/- Delete the rows with the given keys. -/
def deleteAll
    (t : Table α)
    (keys : List Int) :
    Table α :=
  keys.foldl delete t

theorem mem_deleteAll
    (t : Table α)
    {keys : List Int}
    {a : α} :
    a ∈ (t.deleteAll keys).rows ↔
      a ∈ t.rows ∧ Row.id a ∉ keys := by
  unfold deleteAll
  induction keys generalizing t with
  | nil => simp
  | cons key keys ih =>
      rw [List.foldl_cons, ih, mem_delete, List.mem_cons,
        not_or, and_assoc]

end Table

end Foundations

------------------------------------------------------------
-- Replacing A Row
------------------------------------------------------------

namespace Foundations

namespace Table

variable {α : Type} [Row α]

/-
  Replace the row with the key of `r` by `r`, where the
  unique columns allow it.
-/
def put
    (t : Table α)
    (r : α) :
    Table α :=
  if hFits : t.FitsUpdate (Row.id r) (fun _ => r) then
    t.modify (Row.id r) (fun _ => r) hFits
  else
    t

/-
  A row of the table is another version of `r`: it has the
  same key and the same unique columns.
-/
def HasVersion
    (t : Table α)
    (r : α) : Prop :=
  ∃ old ∈ t.rows,
    Row.id old = Row.id r ∧
      ∀ a, Row.conflicts a r = Row.conflicts a old

theorem HasVersion.fitsUpdate
    {t : Table α}
    {r : α}
    (hVersion : t.HasVersion r) :
    t.FitsUpdate (Row.id r) (fun _ => r) := by
  rcases hVersion with ⟨old, hOld, hId, hSame⟩
  intro b hb hIdB a ha hNe
  have hDistinct : a ≠ old := by
    rintro rfl
    exact hNe hId
  rw [hSame]
  exact t.conflicts_eq_false_of_ne ha hOld hDistinct

/- The rows after a replacement. -/
theorem rows_put
    {t : Table α}
    {r : α}
    (hVersion : t.HasVersion r) :
    (t.put r).rows =
      t.rows.map fun a =>
        if Row.id a = Row.id r then r else a := by
  unfold put
  rw [dif_pos hVersion.fitsUpdate, rows_modify]
  refine List.map_congr_left fun a _ => ?_
  unfold updateRow
  rw [Row.withId_id]

theorem mem_put
    {t : Table α}
    {r a : α}
    (hVersion : t.HasVersion r) :
    a ∈ (t.put r).rows ↔
      a = r ∨ (a ∈ t.rows ∧ Row.id a ≠ Row.id r) := by
  rw [rows_put hVersion, List.mem_map]
  constructor
  · rintro ⟨b, hb, rfl⟩
    by_cases hId : Row.id b = Row.id r
    · rw [if_pos hId]
      exact Or.inl rfl
    · rw [if_neg hId]
      exact Or.inr ⟨hb, hId⟩
  · rintro (rfl | ⟨ha, hId⟩)
    · rcases hVersion with ⟨old, hOld, hId, -⟩
      exact ⟨old, hOld, if_pos hId⟩
    · exact ⟨a, ha, if_neg hId⟩

/- Another version is found under the key, and only there. -/
theorem get?_put
    {t : Table α}
    {r : α}
    (hVersion : t.HasVersion r)
    (i : Int) :
    (t.put r).get? i =
      if i = Row.id r then some r else t.get? i := by
  by_cases hi : i = Row.id r
  · rw [if_pos hi, get?_eq_some_iff]
    exact ⟨(mem_put hVersion).mpr (Or.inl rfl), hi.symm⟩
  · rw [if_neg hi]
    cases hGet : t.get? i with
    | none =>
        rw [get?_eq_none_iff] at hGet ⊢
        intro a ha hId
        rcases (mem_put hVersion).mp ha with rfl | ⟨ha, -⟩
        · exact hi hId.symm
        · exact hGet a ha hId
    | some a =>
        rw [get?_eq_some_iff] at hGet ⊢
        refine ⟨(mem_put hVersion).mpr
          (Or.inr ⟨hGet.1, ?_⟩), hGet.2⟩
        rw [hGet.2]
        exact hi

/- Replacing a row by itself changes nothing. -/
theorem put_of_mem
    {t : Table α}
    {r : α}
    (hMem : r ∈ t.rows) :
    t.put r = t := by
  have hVersion : t.HasVersion r :=
    ⟨r, hMem, rfl, fun _ => rfl⟩
  refine Table.ext ?_ ?_
  · rw [rows_put hVersion]
    conv_rhs => rw [← List.map_id t.rows]
    refine List.map_congr_left fun a ha => ?_
    by_cases hId : Row.id a = Row.id r
    · rw [if_pos hId]
      exact (t.eq_of_mem_of_id_eq ha hMem hId).symm
    · exact if_neg hId
  · unfold put
    split
    · rfl
    · rfl

/- A replaced row has the versions it had before. -/
theorem HasVersion.put
    {t : Table α}
    {r r' : α}
    (hVersion : t.HasVersion r)
    (hVersion' : t.HasVersion r') :
    (t.put r).HasVersion r' := by
  rcases hVersion' with ⟨old, hOld, hId, hSame⟩
  by_cases hEq : Row.id old = Row.id r
  · refine ⟨r, (mem_put hVersion).mpr (Or.inl rfl),
      hEq.symm.trans hId, fun a => ?_⟩
    rcases hVersion with ⟨old', hOld', hId', hSame'⟩
    have hSameRow : old' = old :=
      t.eq_of_mem_of_id_eq hOld' hOld (hId'.trans hEq.symm)
    rw [hSame, hSame', hSameRow]
  · exact ⟨old, (mem_put hVersion).mpr
      (Or.inr ⟨hOld, hEq⟩), hId, hSame⟩

/- The last of two versions stays. -/
theorem put_put
    {t : Table α}
    {r r' : α}
    (hVersion : t.HasVersion r)
    (hVersion' : t.HasVersion r')
    (hId : Row.id r = Row.id r') :
    (t.put r).put r' = t.put r' := by
  refine Table.ext ?_ ?_
  · rw [rows_put (hVersion.put hVersion'),
      rows_put hVersion, rows_put hVersion', List.map_map]
    refine List.map_congr_left fun a _ => ?_
    by_cases hA : Row.id a = Row.id r
    · simp [hId, hA]
    · simp [hA]
  · have hIssued :
        ∀ (t : Table α) (r : α),
          (t.put r).issued = t.issued := by
      intro t r
      unfold Table.put
      split
      · rfl
      · rfl
    rw [hIssued, hIssued, hIssued]

/- Replacing the last row. -/
theorem rows_put_last
    {t : Table α}
    {old : List α}
    {last r : α}
    (hRows : t.rows = old ++ [last])
    (hId : Row.id r = Row.id last)
    (hSame :
      ∀ a, Row.conflicts a r = Row.conflicts a last) :
    (t.put r).rows = old ++ [r] := by
  have hLast : last ∈ t.rows := by
    rw [hRows]
    exact List.mem_append_right old List.mem_cons_self
  have hVersion : t.HasVersion r :=
    ⟨last, hLast, hId.symm, hSame⟩
  have hSorted := t.sorted
  rw [hRows, List.pairwise_append] at hSorted
  rw [rows_put hVersion, hRows, List.map_append,
    List.map_singleton, if_pos hId.symm]
  congr 1
  conv_rhs => rw [← List.map_id old]
  refine List.map_congr_left fun a ha => ?_
  have hLt := hSorted.2.2 a ha last List.mem_cons_self
  rw [if_neg]
  · rfl
  · rw [hId]
    exact ne_of_lt hLt

/- What two versions of a row share reads the same. -/
theorem map_filter_rows_put
    {β : Type}
    {t : Table α}
    {r : α}
    (hVersion : t.HasVersion r)
    {wanted : α → Bool}
    {f : α → β}
    (hWanted :
      ∀ a ∈ t.rows, Row.id a = Row.id r →
        wanted r = wanted a)
    (hSame :
      ∀ a ∈ t.rows, Row.id a = Row.id r → f r = f a) :
    ((t.put r).rows.filter wanted).map f =
      (t.rows.filter wanted).map f := by
  rw [rows_put hVersion, List.filter_map, List.map_map]
  have hFilter :
      t.rows.filter
          (wanted ∘ fun a =>
            if Row.id a = Row.id r then r else a) =
        t.rows.filter wanted := by
    refine List.filter_congr fun a ha => ?_
    by_cases hId : Row.id a = Row.id r
    · simp only [Function.comp_apply, if_pos hId]
      exact hWanted a ha hId
    · simp only [Function.comp_apply, if_neg hId]
  rw [hFilter]
  refine List.map_congr_left fun a ha => ?_
  have hMem := List.mem_of_mem_filter ha
  by_cases hId : Row.id a = Row.id r
  · rw [Function.comp_apply, if_pos hId]
    exact hSame a hMem hId
  · rw [Function.comp_apply, if_neg hId]

/-
  An update of a row that stores another version of it is its
  replacement by that version.
-/
theorem tryModify_eq_put
    {t : Table α}
    {f : α → α}
    {r old : α}
    {refs : Bool}
    (hGet : t.get? (Row.id r) = some old)
    (hNew : f old = r)
    (hSame : ∀ a, Row.conflicts a r = Row.conflicts a old)
    (hRefs : refs = true) :
    t.tryModify (Row.id r) f refs = .ok (t.put r) := by
  have hOld := mem_of_get? hGet
  have hId := id_of_get? hGet
  have hVersion : t.HasVersion r := ⟨old, hOld, hId, hSame⟩
  have hOnly : ∀ a ∈ t.rows, Row.id a = Row.id r → a = old :=
    fun a ha hA =>
      t.eq_of_mem_of_id_eq ha hOld (hA.trans hId.symm)
  have hFits : t.FitsUpdate (Row.id r) f := by
    intro b hb hB a ha hNe
    rw [hOnly b hb hB, hNew]
    exact hVersion.fitsUpdate old hOld hId a ha hNe
  refine tryModify_eq_ok_iff.mpr
    ⟨contains_of_get? hGet, hRefs, hFits, ?_⟩
  refine Table.ext ?_ ?_
  · rw [rows_put hVersion, rows_modify]
    refine List.map_congr_left fun a ha => ?_
    unfold updateRow
    by_cases hA : Row.id a = Row.id r
    · rw [if_pos hA, if_pos hA, hOnly a ha hA, hNew,
        Row.withId_id]
    · rw [if_neg hA, if_neg hA]
  · unfold put
    split
    · rfl
    · rfl

end Table

end Foundations

------------------------------------------------------------
-- Storing A Row
------------------------------------------------------------

namespace Foundations

namespace Table

variable {α : Type} [Row α]

/-
  `t'` is `t` with `r` stored under its key, whether it was
  inserted or took the place of another row.
-/
def Stores
    (t t' : Table α)
    (r : α) : Prop :=
  ∀ a,
    a ∈ t'.rows ↔
      a = r ∨ (a ∈ t.rows ∧ Row.id a ≠ Row.id r)

theorem stores_insert
    (policy : KeyPolicy)
    (t : Table α)
    {r : α}
    (hFits : t.Fits r) :
    t.Stores (t.insert policy r hFits)
      (Row.withId r (t.freshId policy)) := by
  intro a
  rw [mem_insert, Row.id_withId]
  constructor
  · rintro (hOld | hNew)
    · exact Or.inr
        ⟨hOld, ne_of_lt (t.id_lt_freshId policy hOld)⟩
    · exact Or.inl hNew
  · rintro (hNew | ⟨hOld, -⟩)
    · exact Or.inr hNew
    · exact Or.inl hOld

/- An update that writes `r` over another row stores it. -/
theorem stores_modify
    {t : Table α}
    {i : Int}
    {f : α → α}
    {old r : α}
    (hFits : t.FitsUpdate i f)
    (hGet : t.get? i = some old)
    (hWrite : f old = r)
    (hId : Row.id r = i) :
    t.Stores (t.modify i f hFits) r := by
  subst hId
  intro a
  rw [mem_modify]
  constructor
  · rintro ⟨b, hb, rfl⟩
    by_cases hKey : Row.id b = Row.id r
    · have hOld : b = old :=
        t.eq_of_mem_of_id_eq hb (mem_of_get? hGet)
          (hKey.trans (id_of_get? hGet).symm)
      rw [updateRow_of_id hKey, hOld, hWrite, Row.withId_id]
      exact Or.inl rfl
    · rw [updateRow_of_id_ne hKey]
      exact Or.inr ⟨hb, hKey⟩
  · rintro (rfl | ⟨ha, hKey⟩)
    · refine ⟨old, mem_of_get? hGet, ?_⟩
      rw [updateRow_of_id (id_of_get? hGet), hWrite,
        Row.withId_id]
    · exact ⟨a, ha, updateRow_of_id_ne hKey⟩

theorem stores_of_mem
    {t : Table α}
    {r : α}
    (hMem : r ∈ t.rows) :
    t.Stores t r := by
  intro a
  constructor
  · intro ha
    by_cases hId : Row.id a = Row.id r
    · exact Or.inl (t.eq_of_mem_of_id_eq ha hMem hId)
    · exact Or.inr ⟨ha, hId⟩
  · rintro (rfl | ⟨ha, -⟩)
    · exact hMem
    · exact ha

theorem Stores.mem
    {t t' : Table α}
    {r : α}
    (hStores : t.Stores t' r) :
    r ∈ t'.rows :=
  (hStores r).mpr (Or.inl rfl)

/- The stored row is found under its key, and only there. -/
theorem Stores.get?
    {t t' : Table α}
    {r : α}
    (hStores : t.Stores t' r)
    (i : Int) :
    t'.get? i =
      if i = Row.id r then some r else t.get? i := by
  by_cases hi : i = Row.id r
  · rw [if_pos hi, get?_eq_some_iff]
    exact ⟨hStores.mem, hi.symm⟩
  · rw [if_neg hi]
    cases hGet : t.get? i with
    | none =>
        rw [get?_eq_none_iff] at hGet ⊢
        intro a ha hId
        rcases (hStores a).mp ha with rfl | ⟨hOld, -⟩
        · exact hi hId.symm
        · exact hGet a hOld hId
    | some a =>
        rw [get?_eq_some_iff] at hGet ⊢
        refine ⟨(hStores a).mpr (Or.inr ⟨hGet.1, ?_⟩),
          hGet.2⟩
        rw [hGet.2]
        exact hi

theorem Stores.contains_iff
    {t t' : Table α}
    {r : α}
    (hStores : t.Stores t' r)
    (i : Int) :
    t'.contains i = true ↔
      i = Row.id r ∨ t.contains i = true := by
  unfold contains
  rw [hStores.get? i]
  by_cases hi : i = Row.id r
  · simp [hi]
  · simp [hi]

/- Of two rows under one key the last one stays. -/
theorem Stores.trans
    {t t' t'' : Table α}
    {r r' : α}
    (hFirst : t.Stores t' r)
    (hSecond : t'.Stores t'' r')
    (hId : Row.id r = Row.id r') :
    t.Stores t'' r' := by
  intro a
  rw [hSecond a, hFirst a, hId]
  constructor
  · rintro (hNew | ⟨rfl | hOld, hNe⟩)
    · exact Or.inl hNew
    · exact absurd hId hNe
    · exact Or.inr hOld
  · rintro (hNew | hOld)
    · exact Or.inl hNew
    · exact Or.inr ⟨Or.inr hOld, hOld.2⟩

end Table

end Foundations

------------------------------------------------------------
-- Distinct Values
------------------------------------------------------------

namespace Foundations

namespace Table

variable {α β : Type} [Row α]

/- No two rows have the same value, unless they have none. -/
def DistinctBy
    (t : Table α)
    (f : α → Option β) : Prop :=
  ∀ a ∈ t.rows, ∀ b ∈ t.rows, ∀ value,
    f a = some value → f b = some value → a = b

variable {t t' : Table α}
variable {f : α → Option β}
variable {r : α}

/- The values of the rows are pairwise distinct. -/
theorem distinctBy_iff_nodup :
    t.DistinctBy f ↔ (t.rows.filterMap f).Nodup := by
  unfold List.Nodup
  rw [List.pairwise_filterMap]
  constructor
  · intro hDistinct
    apply List.Pairwise.imp_of_mem _ t.nodup_rows
    intro a b ha hb hNe value hA other hB hEq
    subst hEq
    exact hNe (hDistinct a ha b hb value hA hB)
  · intro hApart a ha b hb value hA hB
    have : Std.Symm
        (fun a b : α =>
          ∀ v, f a = some v → ∀ v', f b = some v' → v ≠ v') :=
      ⟨fun a b h v hv v' hv' => (h v' hv' v hv).symm⟩
    by_contra hNe
    exact hApart.forall ha hb hNe value hA value hB rfl

/- What a query for a value finds is the only such row. -/
theorem DistinctBy.find?
    [DecidableEq β]
    (hDistinct : t.DistinctBy f)
    {value : β}
    (hMem : r ∈ t.rows)
    (hValue : f r = some value) :
    t.rows.find? (fun a => f a == some value) = some r := by
  cases hFind :
      t.rows.find? (fun a => f a == some value) with
  | none =>
      have hNot := List.find?_eq_none.mp hFind r hMem
      exact absurd (beq_iff_eq.mpr hValue) hNot
  | some found =>
      have hFound := List.find?_some hFind
      rw [hDistinct found (List.mem_of_find?_eq_some hFind) r
        hMem value (beq_iff_eq.mp hFound) hValue]

/-
  A row is stored after a query for its value found no row
  or the one it replaces, or it replaces a row of the same
  value.
-/
theorem DistinctBy.stores
    [DecidableEq β]
    (hDistinct : t.DistinctBy f)
    (hStores : t.Stores t' r)
    (hChecked :
      ∀ value, f r = some value →
        (∀ found,
          t.rows.find? (fun a => f a == some value) =
              some found →
            Row.id found = Row.id r) ∨
          ∃ old,
            t.get? (Row.id r) = some old ∧
              f old = some value) :
    t'.DistinctBy f := by
  have hReplaced :
      ∀ value, f r = some value →
        ∀ a ∈ t.rows, f a = some value →
          Row.id a = Row.id r := by
    intro value hValue a ha hA
    rcases hChecked value hValue with
      hFree | ⟨old, hOld, hSame⟩
    · exact hFree a (hDistinct.find? ha hA)
    · rw [hDistinct a ha old (mem_of_get? hOld) value hA
        hSame]
      exact id_of_get? hOld
  intro a ha b hb value hA hB
  rcases (hStores a).mp ha with rfl | ⟨ha, hNotA⟩
  · rcases (hStores b).mp hb with rfl | ⟨hb, hNotB⟩
    · rfl
    · exact absurd (hReplaced value hA b hb hB) hNotB
  · rcases (hStores b).mp hb with rfl | ⟨hb, hNotB⟩
    · exact absurd (hReplaced value hB a ha hA) hNotA
    · exact hDistinct a ha b hb value hA hB

end Table

end Foundations

------------------------------------------------------------
-- Last Rows
------------------------------------------------------------

namespace Foundations

namespace Table

variable {α : Type} [Row α]

/- The row with the greatest key among those wanted. -/
def findLast?
    (t : Table α)
    (wanted : α → Bool) :
    Option α :=
  t.rows.reverse.find? wanted

theorem findLast?_eq_none
    {t : Table α}
    {wanted : α → Bool}
    (hNone : ∀ r ∈ t.rows, wanted r = false) :
    t.findLast? wanted = none := by
  unfold findLast?
  rw [List.find?_eq_none]
  intro r hr
  rw [hNone r (List.mem_reverse.mp hr)]
  exact Bool.false_ne_true

/- An inserted row comes after every row before it. -/
theorem findLast?_insert
    (policy : KeyPolicy)
    (t : Table α)
    {r : α}
    (hFits : t.Fits r)
    (wanted : α → Bool) :
    (t.insert policy r hFits).findLast? wanted =
      if wanted (Row.withId r (t.freshId policy)) = true then
        some (Row.withId r (t.freshId policy))
      else
        t.findLast? wanted := by
  unfold findLast?
  rw [rows_insert, List.reverse_append]
  cases hWanted :
      wanted (Row.withId r (t.freshId policy)) with
  | true => simp [hWanted]
  | false => simp [hWanted]

end Table

end Foundations

------------------------------------------------------------
-- Bulk Insertion
------------------------------------------------------------

namespace Foundations

namespace Table

variable {α : Type} [Row α]

/-
  Insert rows one after another, until one is refused; `refs`
  tells whether a row's foreign keys are satisfied.
-/
def tryInsertAll
    (policy : KeyPolicy)
    (refs : α → Bool) :
    List α → Table α → Except DatabaseError (Table α)
  | [], t => .ok t
  | r :: rs, t =>
      match t.tryInsert policy r (refs r) with
      | .ok (t', _) => tryInsertAll policy refs rs t'
      | .error e => .error e

/-
  A table has grown by rows, which keep their order and each
  got a key of its own.
-/
def Appends
    (t t' : Table α)
    (rows : List α) : Prop :=
  ∃ added,
    t'.rows = t.rows ++ added ∧
      List.Forall₂ (fun r a => a = Row.withId r (Row.id a))
        rows added

theorem appends_refl
    (t : Table α) :
    t.Appends t [] :=
  ⟨[], (List.append_nil _).symm, .nil⟩

theorem Appends.insert
    {policy : KeyPolicy}
    {t t' : Table α}
    {rows : List α}
    (hAppends : t.Appends t' rows)
    {r : α}
    (hFits : t'.Fits r) :
    t.Appends (t'.insert policy r hFits) (rows ++ [r]) := by
  rcases hAppends with ⟨added, hRows, hAdded⟩
  refine ⟨added ++ [Row.withId r (t'.freshId policy)], ?_,
    ?_⟩
  · rw [rows_insert, hRows, List.append_assoc]
  · refine List.rel_append hAdded (.cons ?_ .nil)
    rw [Row.id_withId]

/- What does not read the key reads the same of the rows. -/
theorem map_of_keyed
    {β : Type}
    {rows added : List α}
    (hAdded :
      List.Forall₂ (fun r a => a = Row.withId r (Row.id a))
        rows added)
    {f : α → β}
    (hKey : ∀ r n, f (Row.withId r n) = f r) :
    added.map f = rows.map f := by
  induction hAdded with
  | nil => rfl
  | cons hRow _ ih =>
      rw [List.map_cons, List.map_cons, ih, hRow, hKey]

theorem Appends.map_eq
    {β : Type}
    {t t' : Table α}
    {rows : List α}
    (hAppends : t.Appends t' rows)
    {f : α → β}
    (hKey : ∀ r n, f (Row.withId r n) = f r) :
    t'.rows.map f = t.rows.map f ++ rows.map f := by
  rcases hAppends with ⟨added, hRows, hAdded⟩
  rw [hRows, List.map_append, map_of_keyed hAdded hKey]

/- The inserted rows come in order, each with its own key. -/
theorem rows_of_tryInsertAll
    {policy : KeyPolicy}
    {refs : α → Bool}
    {rs : List α}
    {t t' : Table α}
    (hOk : t.tryInsertAll policy refs rs = .ok t') :
    t.Appends t' rs := by
  induction rs generalizing t with
  | nil =>
      cases hOk
      exact ⟨[], (List.append_nil _).symm, .nil⟩
  | cons r rs ih =>
      unfold tryInsertAll at hOk
      cases hTry : t.tryInsert policy r (refs r) with
      | error e =>
          rw [hTry] at hOk
          cases hOk
      | ok pair =>
          rcases pair with ⟨t₁, n⟩
          rw [hTry] at hOk
          rcases ih hOk with ⟨added, hRows, hAdded⟩
          rcases tryInsert_eq_ok_iff.mp hTry with
            ⟨-, hFits, rfl, rfl⟩
          refine ⟨Row.withId r (t.freshId policy) :: added,
            ?_, .cons ?_ hAdded⟩
          · rw [hRows, rows_insert, List.append_assoc]
            rfl
          · rw [Row.id_withId]

theorem conflicts_withId_left
    (a b : α)
    (n : Int) :
    Row.conflicts (Row.withId a n) b = Row.conflicts a b := by
  rw [Row.conflicts_comm, Row.conflicts_withId,
    Row.conflicts_comm]

theorem fits_insert_iff
    {policy : KeyPolicy}
    {t : Table α}
    {r a : α}
    (hFits : t.Fits r) :
    (t.insert policy r hFits).Fits a ↔
      t.Fits a ∧ Row.conflicts r a = false := by
  unfold Fits
  constructor
  · intro hAll
    constructor
    · intro b hb
      exact hAll b
        ((mem_insert policy t hFits).mpr (Or.inl hb))
    · have hNew :=
        hAll _ ((mem_insert policy t hFits).mpr (Or.inr rfl))
      rw [conflicts_withId_left] at hNew
      exact hNew
  · rintro ⟨hOld, hNew⟩ b hb
    rcases (mem_insert policy t hFits).mp hb with hb | rfl
    · exact hOld b hb
    · rw [conflicts_withId_left]
      exact hNew

/-
  Rows can be inserted if their foreign keys are satisfied
  and no two of them, nor one of them and a row that is
  there, conflict.
-/
theorem tryInsertAll_isOk_iff
    {policy : KeyPolicy}
    {refs : α → Bool}
    {rs : List α}
    {t : Table α} :
    (∃ t', t.tryInsertAll policy refs rs = .ok t') ↔
      (∀ r ∈ rs, refs r = true ∧ t.Fits r) ∧
        rs.Pairwise fun a b => Row.conflicts a b = false := by
  induction rs generalizing t with
  | nil => simp [tryInsertAll]
  | cons r rs ih =>
      rw [List.forall_mem_cons, List.pairwise_cons]
      unfold tryInsertAll
      cases hTry : t.tryInsert policy r (refs r) with
      | error e =>
          have hBad := (tryInsert_eq_error_iff policy).mp hTry
          simp [hBad.2]
      | ok pair =>
          rcases pair with ⟨t', n⟩
          rcases tryInsert_eq_ok_iff.mp hTry with
            ⟨hRefs, hFits, rfl, -⟩
          simp only [ih, fits_insert_iff]
          constructor
          · rintro ⟨hRest, hApart⟩
            refine ⟨⟨⟨hRefs, hFits⟩, ?_⟩, ?_, hApart⟩
            · intro a ha
              exact ⟨(hRest a ha).1, (hRest a ha).2.1⟩
            · intro a ha
              exact (hRest a ha).2.2
          · rintro ⟨⟨-, hRest⟩, hNew, hApart⟩
            refine ⟨?_, hApart⟩
            intro a ha
            exact ⟨(hRest a ha).1, (hRest a ha).2,
              hNew a ha⟩

/- Insertions are refused for a constraint only. -/
theorem tryInsertAll_error
    {policy : KeyPolicy}
    {refs : α → Bool}
    {rs : List α}
    {t : Table α}
    {e : DatabaseError}
    (hError : t.tryInsertAll policy refs rs = .error e) :
    e = .integrity := by
  induction rs generalizing t with
  | nil => cases hError
  | cons r rs ih =>
      unfold tryInsertAll at hError
      cases hTry : t.tryInsert policy r (refs r) with
      | error e' =>
          rw [hTry] at hError
          cases hError
          exact ((tryInsert_eq_error_iff policy).mp hTry).1
      | ok pair =>
          rw [hTry] at hError
          exact ih hError

end Table

end Foundations

------------------------------------------------------------
-- Column Writes
------------------------------------------------------------

namespace Foundations

/-
  An update of a loaded row writes only the columns that were
  changed since, and leaves the others as they are by then.
-/
def writeColumn
    {β : Type}
    [DecidableEq β]
    (loaded new current : β) :
    β :=
  if new = loaded then current else new

/- Nobody else wrote the column in between. -/
@[simp] theorem writeColumn_loaded
    {β : Type}
    [DecidableEq β]
    (loaded new : β) :
    writeColumn loaded new loaded = new := by
  unfold writeColumn
  split
  · rename_i hEq
    exact hEq.symm
  · rfl

end Foundations
