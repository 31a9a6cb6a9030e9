import AccessIQ.Foundations.Table

/-
  Columns that never change.

  A table extends another one in some of its columns when
  their values are those of the earlier rows, in order, and
  maybe of later ones: no row was removed, and in these
  columns none was changed.

  Key definitions include:
    * `Table.Extends`

  Key theorems include:
    * `Table.extends_trans`
    * `Table.extends_insert`
    * `Table.extends_tryInsertAll`
    * `Table.extends_modify`
-/

------------------------------------------------------------
-- Extension
------------------------------------------------------------

namespace Foundations

namespace Table

variable {α β : Type} [Row α]
variable {f : α → β}

/- The rows are kept in the columns that `f` reads. -/
def Extends
    (f : α → β)
    (t t' : Table α) : Prop :=
  t.rows.map f <+: t'.rows.map f

theorem extends_refl
    (t : Table α) :
    t.Extends f t :=
  List.prefix_rfl

theorem extends_trans
    {a b c : Table α}
    (hFirst : a.Extends f b)
    (hSecond : b.Extends f c) :
    a.Extends f c :=
  hFirst.trans hSecond

theorem extends_insert
    (policy : KeyPolicy)
    (t : Table α)
    {r : α}
    (hFits : t.Fits r) :
    t.Extends f (t.insert policy r hFits) := by
  unfold Extends
  rw [rows_insert, List.map_append]
  exact List.prefix_append _ _

theorem extends_tryInsertAll
    {policy : KeyPolicy}
    {refs : α → Bool}
    {rows : List α}
    {t t' : Table α}
    (hOk : t.tryInsertAll policy refs rows = .ok t') :
    t.Extends f t' := by
  rcases rows_of_tryInsertAll hOk with ⟨added, hRows, -⟩
  unfold Extends
  rw [hRows, List.map_append]
  exact List.prefix_append _ _

/- An update that leaves the columns as they are. -/
theorem extends_modify
    (t : Table α)
    {i : Int}
    {g : α → α}
    (hFits : t.FitsUpdate i g)
    (hSame : ∀ r, f (Row.withId (g r) (Row.id r)) = f r) :
    t.Extends f (t.modify i g hFits) := by
  have hRows :
      (t.modify i g hFits).rows.map f = t.rows.map f := by
    rw [rows_modify, List.map_map]
    apply List.map_congr_left
    intro r hr
    change f (updateRow i g r) = f r
    by_cases hId : Row.id r = i
    · rw [updateRow_of_id hId, ← hId, hSame r]
    · rw [updateRow_of_id_ne hId]
  unfold Extends
  rw [hRows]

end Table

end Foundations
