import AccessIQ.Foundations.Table

/-
  Rows that a table is given unless it has them.

  A natural key names the rows of a table and the entries of
  a list.  Entries whose key the table has not got are added
  to it, and the rows that have the key of an entry are
  brought up to date.  Doing it again changes nothing.

  Key definitions include:
    * `unseen`
    * `refreshed`
    * `Table.tryModifyAll`
    * `Table.upsert`

  Key theorems include:
    * `mem_unseen`
    * `exists_mem_unseen`
    * `unseen_eq_nil_iff`
    * `Table.rows_of_tryModifyAll`
    * `Table.tryModifyAll_isOk`
    * `Table.upsert_eq_ok`
    * `Table.upsert_settled`
-/

------------------------------------------------------------
-- Entries That Are Not There
------------------------------------------------------------

namespace Foundations

variable {β κ : Type}
variable [DecidableEq κ]

/-
  The entries whose key is neither known nor the key of an
  earlier entry.
-/
def unseen
    (key : β → κ) :
    List κ → List β → List β
  | _, [] => []
  | known, b :: bs =>
      if key b ∈ known then
        unseen key known bs
      else
        b :: unseen key (key b :: known) bs

variable {key : β → κ}

theorem mem_unseen
    {known : List κ}
    {bs : List β}
    {b : β}
    (hMem : b ∈ unseen key known bs) :
    b ∈ bs ∧ key b ∉ known := by
  induction bs generalizing known with
  | nil => cases hMem
  | cons a bs ih =>
      unfold unseen at hMem
      by_cases hKnown : key a ∈ known
      · rw [if_pos hKnown] at hMem
        have hRest := ih hMem
        exact ⟨List.mem_cons_of_mem _ hRest.1, hRest.2⟩
      · rw [if_neg hKnown] at hMem
        rcases List.mem_cons.mp hMem with rfl | hLater
        · exact ⟨List.mem_cons_self, hKnown⟩
        · have hRest := ih hLater
          refine ⟨List.mem_cons_of_mem _ hRest.1, ?_⟩
          intro hOld
          exact hRest.2 (List.mem_cons_of_mem _ hOld)

theorem unseen_sublist
    (known : List κ)
    (bs : List β) :
    (unseen key known bs).Sublist bs := by
  induction bs generalizing known with
  | nil => exact .slnil
  | cons a bs ih =>
      unfold unseen
      by_cases hKnown : key a ∈ known
      · rw [if_pos hKnown]
        exact (ih known).cons a
      · rw [if_neg hKnown]
        exact (ih _).cons_cons a

/- Every key that is not known is added. -/
theorem exists_mem_unseen
    {known : List κ}
    {bs : List β}
    {b : β}
    (hMem : b ∈ bs)
    (hUnknown : key b ∉ known) :
    ∃ a ∈ unseen key known bs, key a = key b := by
  induction bs generalizing known with
  | nil => cases hMem
  | cons a bs ih =>
      unfold unseen
      by_cases hKnown : key a ∈ known
      · rw [if_pos hKnown]
        rcases List.mem_cons.mp hMem with rfl | hLater
        · exact absurd hKnown hUnknown
        · exact ih hLater hUnknown
      · rw [if_neg hKnown]
        by_cases hSame : key a = key b
        · exact ⟨a, List.mem_cons_self, hSame⟩
        · rcases List.mem_cons.mp hMem with rfl | hLater
          · exact absurd rfl hSame
          · have hStill : key b ∉ key a :: known := by
              rw [List.mem_cons, not_or]
              exact ⟨Ne.symm hSame, hUnknown⟩
            rcases ih hLater hStill with ⟨c, hc, hKey⟩
            exact ⟨c, List.mem_cons_of_mem _ hc, hKey⟩

/- No key is added twice. -/
theorem pairwise_unseen
    (known : List κ)
    (bs : List β) :
    (unseen key known bs).Pairwise fun a b =>
      key a ≠ key b := by
  induction bs generalizing known with
  | nil => exact .nil
  | cons a bs ih =>
      unfold unseen
      by_cases hKnown : key a ∈ known
      · rw [if_pos hKnown]
        exact ih known
      · rw [if_neg hKnown]
        refine .cons ?_ (ih _)
        intro b hb hSame
        apply (mem_unseen hb).2
        rw [← hSame]
        exact List.mem_cons_self

theorem unseen_eq_nil_iff
    {known : List κ}
    {bs : List β} :
    unseen key known bs = [] ↔
      ∀ b ∈ bs, key b ∈ known := by
  constructor
  · intro hNil b hb
    by_contra hUnknown
    rcases exists_mem_unseen hb hUnknown with ⟨a, ha, -⟩
    rw [hNil] at ha
    cases ha
  · intro hKnown
    rw [List.eq_nil_iff_forall_not_mem]
    intro b hb
    exact (mem_unseen hb).2 (hKnown b (mem_unseen hb).1)

variable {α : Type}

omit [DecidableEq κ] in
/- What every entry gives, if each gives something. -/
theorem exists_mapM_eq_some
    {f : β → Option α}
    {bs : List β}
    (hSome : ∀ b ∈ bs, ∃ a, f b = some a) :
    ∃ as, bs.mapM f = some as := by
  induction bs with
  | nil => exact ⟨[], rfl⟩
  | cons b bs ih =>
      rcases hSome b List.mem_cons_self with ⟨a, hFirst⟩
      rcases ih fun c hc =>
          hSome c (List.mem_cons_of_mem _ hc) with
        ⟨as, hRest⟩
      refine ⟨a :: as, ?_⟩
      rw [List.mapM_cons, hFirst, hRest]
      rfl

omit [DecidableEq κ] in
theorem forall₂_of_mapM_eq_some
    {f : β → Option α}
    {bs : List β}
    {as : List α}
    (hAll : bs.mapM f = some as) :
    List.Forall₂ (fun b a => f b = some a) bs as := by
  induction bs generalizing as with
  | nil =>
      cases hAll
      exact .nil
  | cons b bs ih =>
      rw [List.mapM_cons] at hAll
      cases hFirst : f b with
      | none =>
          rw [hFirst] at hAll
          cases hAll
      | some a =>
          cases hRest : bs.mapM f with
          | none =>
              rw [hFirst, hRest] at hAll
              cases hAll
          | some rest =>
              rw [hFirst, hRest] at hAll
              cases hAll
              exact .cons hFirst (ih hRest)

omit [DecidableEq κ] in
theorem exists_of_forall₂
    {rel : β → α → Prop}
    {bs : List β}
    {rows : List α}
    (hRel : List.Forall₂ rel bs rows)
    {b : β}
    (hMem : b ∈ bs) :
    ∃ r ∈ rows, rel b r := by
  induction hRel with
  | nil => cases hMem
  | @cons c r _ _ hHead _ ih =>
      rcases List.mem_cons.mp hMem with rfl | hLater
      · exact ⟨r, List.mem_cons_self, hHead⟩
      · rcases ih hLater with ⟨q, hq, hRel⟩
        exact ⟨q, List.mem_cons_of_mem _ hq, hRel⟩

end Foundations

------------------------------------------------------------
-- Rows That Are Brought Up To Date
------------------------------------------------------------

namespace Foundations

variable {α β κ : Type}
variable [DecidableEq κ]

/- The entry with the key of a row is written over it. -/
def refreshed
    (key : α → κ)
    (keyOf : β → κ)
    (write : β → α → α)
    (entries : List β)
    (r : α) :
    α :=
  match entries.find? fun b => decide (keyOf b = key r) with
  | some b => write b r
  | none => r

variable {key : α → κ}
variable {keyOf : β → κ}
variable {write : β → α → α}

theorem refreshed_cons_of_eq
    {b : β}
    {r : α}
    (entries : List β)
    (hKey : keyOf b = key r) :
    refreshed key keyOf write (b :: entries) r =
      write b r := by
  unfold refreshed
  rw [List.find?_cons_of_pos (by exact decide_eq_true hKey)]

theorem refreshed_cons_of_ne
    {b : β}
    {r : α}
    (entries : List β)
    (hKey : keyOf b ≠ key r) :
    refreshed key keyOf write (b :: entries) r =
      refreshed key keyOf write entries r := by
  unfold refreshed
  rw [List.find?_cons_of_neg]
  rw [decide_eq_true_eq]
  exact hKey

/- A row whose key no entry has stays. -/
theorem refreshed_of_not_mem
    {entries : List β}
    {r : α}
    (hNone : ∀ b ∈ entries, keyOf b ≠ key r) :
    refreshed key keyOf write entries r = r := by
  have hFind :
      (entries.find? fun b => decide (keyOf b = key r)) =
        none := by
    rw [List.find?_eq_none]
    intro b hb hSame
    exact hNone b hb (of_decide_eq_true hSame)
  unfold refreshed
  rw [hFind]

/- The row that has the key of an entry is written. -/
theorem refreshed_of_mem
    {entries : List β}
    {b : β}
    {r : α}
    (hDistinct : (entries.map keyOf).Nodup)
    (hMem : b ∈ entries)
    (hKey : keyOf b = key r) :
    refreshed key keyOf write entries r = write b r := by
  induction entries with
  | nil => cases hMem
  | cons a entries ih =>
      rw [List.map_cons, List.nodup_cons] at hDistinct
      rcases List.mem_cons.mp hMem with rfl | hLater
      · exact refreshed_cons_of_eq entries hKey
      · rw [refreshed_cons_of_ne, ih hDistinct.2 hLater]
        intro hSame
        apply hDistinct.1
        rw [hSame, ← hKey]
        exact List.mem_map_of_mem hLater

/- A row that agrees with its entry stays. -/
theorem refreshed_of_settled
    {entries : List β}
    {r : α}
    (hSettled :
      ∀ b ∈ entries, keyOf b = key r → write b r = r) :
    refreshed key keyOf write entries r = r := by
  unfold refreshed
  cases hFind :
      entries.find? fun b => decide (keyOf b = key r) with
  | none => rfl
  | some b =>
      have hKey := List.find?_some hFind
      exact hSettled b (List.mem_of_find?_eq_some hFind)
        (of_decide_eq_true hKey)

end Foundations

------------------------------------------------------------
-- Many Updates
------------------------------------------------------------

namespace Foundations

namespace Table

variable {α : Type}
variable [Row α]

/-
  Update rows one after another, until an update is refused;
  no update touches a foreign key.
-/
def tryModifyAll :
    List (Int × (α → α)) →
      Table α → Except DatabaseError (Table α)
  | [], t => .ok t
  | edit :: edits, t =>
      match t.tryModify edit.1 edit.2 true with
      | .ok t' => tryModifyAll edits t'
      | .error e => .error e

/- The rows after all updates. -/
theorem rows_of_tryModifyAll
    {edits : List (Int × (α → α))}
    {t t' : Table α}
    (hOk : tryModifyAll edits t = .ok t') :
    t'.rows =
        t.rows.map
          (fun r =>
            edits.foldl
              (fun r edit => updateRow edit.1 edit.2 r) r) ∧
      t'.issued = t.issued := by
  induction edits generalizing t with
  | nil =>
      cases hOk
      exact ⟨(List.map_id t'.rows).symm, rfl⟩
  | cons edit edits ih =>
      unfold tryModifyAll at hOk
      cases hTry : t.tryModify edit.1 edit.2 true with
      | error e =>
          rw [hTry] at hOk
          cases hOk
      | ok t₁ =>
          rw [hTry] at hOk
          rcases tryModify_eq_ok_iff.mp hTry with
            ⟨-, -, hFits, rfl⟩
          rcases ih hOk with ⟨hRows, hIssued⟩
          refine ⟨?_, hIssued⟩
          rw [hRows, rows_modify, List.map_map]
          rfl

/- Updates that no constraint covers are all made. -/
theorem tryModifyAll_isOk
    {edits : List (Int × (α → α))}
    {t : Table α}
    (hContains :
      ∀ edit ∈ edits, t.contains edit.1 = true)
    (hKeeps :
      ∀ edit ∈ edits, ∀ a b,
        Row.conflicts a (edit.2 b) = Row.conflicts a b) :
    ∃ t', tryModifyAll edits t = .ok t' := by
  induction edits generalizing t with
  | nil => exact ⟨t, rfl⟩
  | cons edit edits ih =>
      have hFits : t.FitsUpdate edit.1 edit.2 := by
        intro r hr hId a ha hOther
        rw [hKeeps edit List.mem_cons_self]
        apply t.conflicts_eq_false_of_ne ha hr
        intro hSame
        exact hOther (hSame ▸ hId)
      have hTry :
          t.tryModify edit.1 edit.2 true =
            .ok (t.modify edit.1 edit.2 hFits) :=
        tryModify_eq_ok_iff.mpr
          ⟨hContains edit List.mem_cons_self, rfl, hFits,
            rfl⟩
      unfold tryModifyAll
      rw [hTry]
      apply ih
      · intro other hOther
        have hOld :=
          hContains other (List.mem_cons_of_mem _ hOther)
        unfold contains at *
        rw [get?_modify, Option.isSome_map]
        exact hOld
      · intro other hOther
        exact hKeeps other (List.mem_cons_of_mem _ hOther)

end Table

end Foundations

------------------------------------------------------------
-- Updating And Inserting
------------------------------------------------------------

namespace Foundations

namespace Table

variable {α β κ : Type}
variable [Row α] [DecidableEq κ]

/- The row with a natural key. -/
def findKey
    (key : α → κ)
    (t : Table α)
    (k : κ) :
    Option α :=
  t.rows.find? fun r => decide (key r = k)

/- The updates of the rows that entries were found for. -/
def updatesOf
    (write : β → α → α)
    (found : List (β × Option α)) :
    List (Int × (α → α)) :=
  found.filterMap fun p =>
    p.2.map fun r => (Row.id r, write p.1)

/- The entries without a row. -/
def missing
    (found : List (β × Option α)) :
    List β :=
  (found.filter fun p => p.2.isNone).map fun p => p.1

/-
  Update the rows found for entries, and insert a row for
  each entry that none was found for.
-/
def upsert
    (policy : KeyPolicy)
    (write : β → α → α)
    (new : β → α)
    (found : List (β × Option α))
    (t : Table α) :
    Except DatabaseError (Table α) :=
  match tryModifyAll (updatesOf write found) t with
  | .ok t' =>
      t'.tryInsertAll policy (fun _ => true)
        ((missing found).map new)
  | .error e => .error e

/- What is found for every entry. -/
def lookUp
    (key : α → κ)
    (keyOf : β → κ)
    (t : Table α)
    (entries : List β) :
    List (β × Option α) :=
  entries.map fun b => (b, t.findKey key (keyOf b))

/-
  The natural key is what the unique constraint covers, and
  an entry is written without touching it.
-/
structure NaturalKey
    (key : α → κ)
    (keyOf : β → κ)
    (write : β → α → α)
    (new : β → α) : Prop where
  conflicts :
    ∀ a b : α, Row.conflicts a b = true ↔ key a = key b
  key_write : ∀ b r, key (write b r) = key r
  id_write : ∀ b r, Row.id (write b r) = Row.id r
  write_write : ∀ b r, write b (write b r) = write b r
  key_new : ∀ b, key (new b) = keyOf b
  write_new :
    ∀ b n,
      write b (Row.withId (new b) n) = Row.withId (new b) n

variable {key : α → κ}
variable {keyOf : β → κ}
variable {write : β → α → α}
variable {new : β → α}
variable {t t' : Table α}

omit [DecidableEq κ] in
theorem NaturalKey.key_withId
    (hKey : NaturalKey key keyOf write new)
    (r : α)
    (n : Int) :
    key (Row.withId r n) = key r := by
  rw [← hKey.conflicts, conflicts_withId_left,
    hKey.conflicts]

omit [DecidableEq κ] in
theorem NaturalKey.eq_of_key_eq
    (hKey : NaturalKey key keyOf write new)
    {a b : α}
    (ha : a ∈ t.rows)
    (hb : b ∈ t.rows)
    (hSame : key a = key b) :
    a = b := by
  by_contra hOther
  have hApart := t.conflicts_eq_false_of_ne ha hb hOther
  rw [(hKey.conflicts a b).mpr hSame] at hApart
  cases hApart

theorem findKey_eq_some
    {k : κ}
    {r : α}
    (hFind : t.findKey key k = some r) :
    r ∈ t.rows ∧ key r = k := by
  unfold findKey at hFind
  have hSame := List.find?_some hFind
  exact ⟨List.mem_of_find?_eq_some hFind,
    of_decide_eq_true hSame⟩

theorem findKey_eq_none
    {k : κ}
    (hFind : t.findKey key k = none)
    {r : α}
    (hMem : r ∈ t.rows) :
    key r ≠ k := by
  intro hSame
  exact List.find?_eq_none.mp hFind r hMem
    (decide_eq_true hSame)

/-
  The updates write over a row the entry with its key: no
  other row is found for that entry.
-/
theorem NaturalKey.foldl_updates
    (hKey : NaturalKey key keyOf write new)
    {entries : List β}
    (hDistinct : (entries.map keyOf).Nodup)
    {r r' : α}
    (hMem : r ∈ t.rows)
    (hId : Row.id r' = Row.id r)
    (hSame : key r' = key r) :
    (updatesOf write (t.lookUp key keyOf entries)).foldl
        (fun r edit => updateRow edit.1 edit.2 r) r' =
      refreshed key keyOf write entries r' := by
  induction entries generalizing r' with
  | nil => rfl
  | cons b entries ih =>
      rw [List.map_cons, List.nodup_cons] at hDistinct
      unfold lookUp
      rw [List.map_cons]
      cases hFind : t.findKey key (keyOf b) with
      | none =>
          have hOther := findKey_eq_none hFind hMem
          rw [refreshed_cons_of_ne]
          · exact ih hDistinct.2 hId hSame
          · rw [hSame]
            exact hOther.symm
      | some q =>
          rcases findKey_eq_some hFind with ⟨hq, hFound⟩
          change
            (updatesOf write (t.lookUp key keyOf entries)).foldl
                (fun r edit => updateRow edit.1 edit.2 r)
                (updateRow (Row.id q) (write b) r') =
              _
          by_cases hOwn : key r = keyOf b
          · -- the row itself was found
            have hEq : q = r :=
              hKey.eq_of_key_eq hq hMem
                (hFound.trans hOwn.symm)
            have hUpdated :
                updateRow (Row.id q) (write b) r' =
                  write b r' := by
              unfold updateRow
              rw [hEq, if_pos hId, ← hId,
                ← hKey.id_write b r', Row.withId_id]
            rw [hUpdated, ih hDistinct.2,
              refreshed_of_not_mem, refreshed_cons_of_eq]
            · exact hOwn.symm.trans hSame.symm
            · intro other hOther hSameKey
              apply hDistinct.1
              rw [hKey.key_write, hSame, hOwn] at hSameKey
              rw [← hSameKey]
              exact List.mem_map_of_mem hOther
            · exact (hKey.id_write b r').trans hId
            · exact (hKey.key_write b r').trans hSame
          · -- another row was found
            have hIds : Row.id q ≠ Row.id r := by
              intro hSameId
              apply hOwn
              rw [← t.eq_of_mem_of_id_eq hq hMem hSameId]
              exact hFound
            rw [updateRow_of_id_ne, ih hDistinct.2 hId hSame,
              refreshed_cons_of_ne]
            · rw [hSame]
              exact Ne.symm hOwn
            · rw [hId]
              exact hIds.symm

/-
  An upsert brings the rows up to date that have the key of
  an entry, and adds a row for every other entry.
-/
structure Upserted
    (key : α → κ)
    (keyOf : β → κ)
    (write : β → α → α)
    (new : β → α)
    (entries : List β)
    (t t' : Table α) : Prop where
  appends :
    ∃ added,
      t'.rows =
          t.rows.map (refreshed key keyOf write entries) ++
            added ∧
        List.Forall₂
          (fun b a => a = Row.withId (new b) (Row.id a))
          (missing (t.lookUp key keyOf entries)) added

theorem missing_lookUp
    (entries : List β) :
    missing (t.lookUp key keyOf entries) =
      entries.filter fun b =>
        (t.findKey key (keyOf b)).isNone := by
  unfold missing lookUp
  rw [List.filter_map, List.map_map]
  exact List.map_id _

theorem mem_missing
    {entries : List β}
    {b : β} :
    b ∈ missing (t.lookUp key keyOf entries) ↔
      b ∈ entries ∧ t.findKey key (keyOf b) = none := by
  rw [missing_lookUp, List.mem_filter,
    Option.isNone_iff_eq_none]

/- An upsert by the natural key is never refused. -/
theorem NaturalKey.upserted
    (hKey : NaturalKey key keyOf write new)
    (policy : KeyPolicy)
    {entries : List β}
    (hDistinct : (entries.map keyOf).Nodup) :
    ∃ t',
      t.upsert policy write new
          (t.lookUp key keyOf entries) = .ok t' ∧
        Upserted key keyOf write new entries t t' := by
  have hContains :
      ∀ edit ∈ updatesOf write (t.lookUp key keyOf entries),
        t.contains edit.1 = true ∧
          ∃ b, edit.2 = write b := by
    intro edit hEdit
    rcases List.mem_filterMap.mp hEdit with
      ⟨p, hp, hSome⟩
    rcases List.mem_map.mp hp with ⟨b, -, rfl⟩
    rcases Option.map_eq_some_iff.mp hSome with
      ⟨r, hFind, rfl⟩
    rcases findKey_eq_some hFind with ⟨hMem, -⟩
    refine ⟨?_, b, rfl⟩
    exact contains_of_get? (t.get?_of_mem hMem)
  have hKeeps :
      ∀ edit ∈ updatesOf write (t.lookUp key keyOf entries),
        ∀ a r,
          Row.conflicts a (edit.2 r) = Row.conflicts a r := by
    intro edit hEdit a r
    rcases (hContains edit hEdit).2 with ⟨b, hWrite⟩
    rw [Bool.eq_iff_iff, hKey.conflicts, hKey.conflicts,
      hWrite, hKey.key_write]
  rcases tryModifyAll_isOk
      (fun edit hEdit => (hContains edit hEdit).1) hKeeps with
    ⟨t₁, hModified⟩
  rcases rows_of_tryModifyAll hModified with ⟨hRows, -⟩
  have hRefreshed :
      t₁.rows =
        t.rows.map (refreshed key keyOf write entries) := by
    rw [hRows]
    apply List.map_congr_left
    intro r hr
    exact hKey.foldl_updates hDistinct hr rfl rfl
  have hKeys :
      ∀ r ∈ t₁.rows, ∃ q ∈ t.rows, key q = key r := by
    intro r hr
    rw [hRefreshed] at hr
    rcases List.mem_map.mp hr with ⟨q, hq, rfl⟩
    refine ⟨q, hq, ?_⟩
    unfold refreshed
    cases entries.find? fun b => decide (keyOf b = key q) with
    | none => rfl
    | some b => exact (hKey.key_write b q).symm
  have hInserted :
      ∃ t',
        t₁.tryInsertAll policy (fun _ => true)
            ((missing (t.lookUp key keyOf entries)).map new) =
          .ok t' := by
    rw [tryInsertAll_isOk_iff]
    constructor
    · intro r hr
      rcases List.mem_map.mp hr with ⟨b, hb, rfl⟩
      refine ⟨rfl, ?_⟩
      intro other hOther
      rw [Bool.eq_false_iff, Ne, hKey.conflicts,
        hKey.key_new]
      rcases hKeys other hOther with ⟨q, hq, hSame⟩
      rw [← hSame]
      exact findKey_eq_none (mem_missing.mp hb).2 hq
    · have hApart :
          ((missing (t.lookUp key keyOf entries)).map
            keyOf).Nodup := by
        rw [missing_lookUp]
        exact (List.filter_sublist.map keyOf).nodup hDistinct
      rw [List.pairwise_map]
      apply (List.pairwise_map.mp hApart).imp
      intro b c hKeys
      rw [Bool.eq_false_iff, Ne, hKey.conflicts,
        hKey.key_new, hKey.key_new]
      exact hKeys
  rcases hInserted with ⟨t', hOk⟩
  refine ⟨t', ?_, ?_⟩
  · unfold upsert
    rw [hModified]
    exact hOk
  · rcases rows_of_tryInsertAll hOk with
      ⟨added, hAll, hAdded⟩
    refine ⟨added, ?_, ?_⟩
    · rw [hAll, hRefreshed]
    · exact List.forall₂_map_left_iff.mp hAdded

theorem NaturalKey.upserted_of_ok
    (hKey : NaturalKey key keyOf write new)
    {policy : KeyPolicy}
    {entries : List β}
    (hDistinct : (entries.map keyOf).Nodup)
    (hOk :
      t.upsert policy write new
          (t.lookUp key keyOf entries) = .ok t') :
    Upserted key keyOf write new entries t t' := by
  rcases hKey.upserted policy (t := t) hDistinct with
    ⟨t₁, hFirst, hUpserted⟩
  have hSame : t₁ = t' :=
    Except.ok.inj (hFirst.symm.trans hOk)
  exact hSame ▸ hUpserted

/- Every row comes from an old one or from an entry. -/
theorem Upserted.mem
    {entries : List β}
    (hUpserted :
      Upserted key keyOf write new entries t t')
    {r : α}
    (hMem : r ∈ t'.rows) :
    (∃ q ∈ t.rows,
        r = refreshed key keyOf write entries q) ∨
      ∃ b ∈ entries,
        t.findKey key (keyOf b) = none ∧
          r = Row.withId (new b) (Row.id r) := by
  rcases hUpserted with ⟨added, hRows, hAdded⟩
  rw [hRows, List.mem_append] at hMem
  rcases hMem with hOld | hNew
  · left
    rcases List.mem_map.mp hOld with ⟨q, hq, rfl⟩
    exact ⟨q, hq, rfl⟩
  · right
    rcases exists_of_forall₂ hAdded.flip hNew with
      ⟨b, hb, hRow⟩
    rcases mem_missing.mp hb with ⟨hEntry, hNone⟩
    exact ⟨b, hEntry, hNone, hRow⟩

/- No row is lost. -/
theorem Upserted.refreshed_mem
    {entries : List β}
    (hUpserted :
      Upserted key keyOf write new entries t t')
    {r : α}
    (hMem : r ∈ t.rows) :
    refreshed key keyOf write entries r ∈ t'.rows := by
  rcases hUpserted with ⟨added, hRows, -⟩
  rw [hRows]
  exact List.mem_append_left _ (List.mem_map_of_mem hMem)

theorem NaturalKey.id_refreshed
    (hKey : NaturalKey key keyOf write new)
    (entries : List β)
    (r : α) :
    Row.id (refreshed key keyOf write entries r) =
      Row.id r := by
  unfold refreshed
  cases entries.find? fun b => decide (keyOf b = key r) with
  | none => rfl
  | some b => exact hKey.id_write b r

theorem NaturalKey.key_refreshed
    (hKey : NaturalKey key keyOf write new)
    (entries : List β)
    (r : α) :
    key (refreshed key keyOf write entries r) = key r := by
  unfold refreshed
  cases entries.find? fun b => decide (keyOf b = key r) with
  | none => rfl
  | some b => exact hKey.key_write b r

theorem NaturalKey.contains
    (hKey : NaturalKey key keyOf write new)
    {entries : List β}
    (hUpserted :
      Upserted key keyOf write new entries t t')
    {i : Int}
    (hContains : t.contains i = true) :
    t'.contains i = true := by
  rcases (contains_iff t).mp hContains with ⟨r, hr, rfl⟩
  rw [contains_iff]
  exact ⟨_, hUpserted.refreshed_mem hr,
    hKey.id_refreshed entries r⟩

/- Every entry has a row, and agrees with it. -/
def Settled
    (key : α → κ)
    (keyOf : β → κ)
    (write : β → α → α)
    (entries : List β)
    (t : Table α) : Prop :=
  ∀ b ∈ entries,
    ∃ r ∈ t.rows, key r = keyOf b ∧ write b r = r

theorem NaturalKey.settled
    (hKey : NaturalKey key keyOf write new)
    {entries : List β}
    (hDistinct : (entries.map keyOf).Nodup)
    (hUpserted :
      Upserted key keyOf write new entries t t') :
    t'.Settled key keyOf write entries := by
  intro b hb
  cases hFind : t.findKey key (keyOf b) with
  | some r =>
      rcases findKey_eq_some hFind with ⟨hr, hOwn⟩
      have hWritten :
          refreshed key keyOf write entries r =
            write b r :=
        refreshed_of_mem hDistinct hb hOwn.symm
      refine ⟨_, hUpserted.refreshed_mem hr, ?_, ?_⟩
      · rw [hKey.key_refreshed, hOwn]
      · rw [hWritten, hKey.write_write]
  | none =>
      rcases hUpserted with ⟨added, hRows, hAdded⟩
      rcases exists_of_forall₂ hAdded
          (mem_missing.mpr ⟨hb, hFind⟩) with ⟨r, hr, hRow⟩
      refine ⟨r, ?_, ?_, ?_⟩
      · rw [hRows]
        exact List.mem_append_right _ hr
      · rw [hRow, hKey.key_withId, hKey.key_new]
      · rw [hRow, hKey.write_new]

/- To upsert what has been upserted changes nothing. -/
theorem NaturalKey.upsert_of_settled
    (hKey : NaturalKey key keyOf write new)
    (policy : KeyPolicy)
    {entries : List β}
    (hDistinct : (entries.map keyOf).Nodup)
    (hSettled : t.Settled key keyOf write entries) :
    t.upsert policy write new
        (t.lookUp key keyOf entries) = .ok t := by
  have hNone :
      missing (t.lookUp key keyOf entries) = [] := by
    rw [List.eq_nil_iff_forall_not_mem]
    intro b hb
    rcases mem_missing.mp hb with ⟨hMem, hFind⟩
    rcases hSettled b hMem with ⟨r, hr, hOwn, -⟩
    exact findKey_eq_none hFind hr hOwn
  have hSame :
      ∀ r ∈ t.rows,
        refreshed key keyOf write entries r = r := by
    intro r hr
    apply refreshed_of_settled
    intro b hb hOwn
    rcases hSettled b hb with ⟨q, hq, hFound, hWritten⟩
    have hEq : q = r :=
      hKey.eq_of_key_eq hq hr (hFound.trans hOwn)
    exact hEq ▸ hWritten
  rcases hKey.upserted policy (t := t) hDistinct with
    ⟨t', hOk, added, hRows, hAdded⟩
  have hNothing : added = [] := by
    rw [hNone] at hAdded
    cases hAdded
    rfl
  rw [hNothing, List.append_nil,
    List.map_congr_left hSame, List.map_id'] at hRows
  have hIssued : t'.issued = t.issued := by
    unfold upsert at hOk
    cases hModified :
        tryModifyAll
          (updatesOf write (t.lookUp key keyOf entries))
          t with
    | error e =>
        rw [hModified] at hOk
        cases hOk
    | ok t₁ =>
        rw [hModified, hNone] at hOk
        cases hOk
        exact (rows_of_tryModifyAll hModified).2
  rw [hOk, Table.ext hRows hIssued]

end Table

end Foundations
