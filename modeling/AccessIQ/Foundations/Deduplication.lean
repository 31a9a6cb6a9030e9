import AccessIQ.Python.Dict
import Mathlib.Data.List.Sort
import Mathlib.Order.Basic

/-
  Keeping one item of each class as items arrive.

  An item that arrives takes the place of the one its class
  keeps when it replaces it, and the kept items are sorted in
  the end.  The result is the same in every order of arrival
  exactly when each class has an item that replaces every
  other and is replaced by none, and no two of these share a
  rank.

  Key definitions include:
    * `keep`
    * `keptOf`
    * `gather`
    * `Best`
    * `Decided`

  Key theorems include:
    * `keptOf_of_best`
    * `best_of_keptOf`
    * `get?_gather`
    * `sorted_gather_perm`
    * `decided_of_perm`
-/

------------------------------------------------------------
-- Keeping One Item
------------------------------------------------------------

namespace Foundations

variable {α : Type}

/- The item kept once another one of its class arrives. -/
def keep
    (replaces : α → α → Bool)
    (kept item : α) :
    α :=
  if replaces item kept = true then item else kept

/- The item kept of those of one class, in order. -/
def keptOf
    (replaces : α → α → Bool) :
    List α → Option α
  | [] => none
  | first :: rest =>
      some (rest.foldl (keep replaces) first)

/- Replaces the other item and is not replaced by it. -/
def Beats
    (replaces : α → α → Bool)
    (item other : α) : Prop :=
  replaces item other = true ∧ replaces other item = false

/- An item that beats every other one. -/
structure Best
    (replaces : α → α → Bool)
    (items : List α)
    (best : α) : Prop where
  mem : best ∈ items
  beats :
    ∀ item ∈ items, item ≠ best → Beats replaces best item

theorem foldl_keep_mem
    (replaces : α → α → Bool)
    (first : α)
    (rest : List α) :
    rest.foldl (keep replaces) first ∈ first :: rest := by
  induction rest generalizing first with
  | nil => exact List.mem_cons_self
  | cons item rest ih =>
      have hMem := ih (keep replaces first item)
      rw [List.foldl_cons]
      rcases List.mem_cons.mp hMem with hKept | hRest
      · rw [hKept]
        unfold keep
        by_cases hReplaces : replaces item first = true
        · rw [if_pos hReplaces]
          simp
        · rw [if_neg hReplaces]
          simp
      · simp [hRest]

theorem keptOf_mem
    {replaces : α → α → Bool}
    {items : List α}
    {kept : α}
    (hKept : keptOf replaces items = some kept) :
    kept ∈ items := by
  cases items with
  | nil => cases hKept
  | cons first rest =>
      cases hKept
      exact foldl_keep_mem replaces first rest

theorem keptOf_isSome
    {replaces : α → α → Bool}
    {items : List α}
    {item : α}
    (hMem : item ∈ items) :
    ∃ kept, keptOf replaces items = some kept := by
  cases items with
  | nil => cases hMem
  | cons first rest => exact ⟨_, rfl⟩

end Foundations

------------------------------------------------------------
-- The Best Item
------------------------------------------------------------

namespace Foundations

variable {α : Type}
variable {replaces : α → α → Bool}

/- The best item takes its place whenever it arrives. -/
theorem foldl_keep_of_best
    {best : α}
    (items : List α)
    (first : α)
    (hBest : Best replaces (first :: items) best) :
    items.foldl (keep replaces) first = best := by
  induction items generalizing first with
  | nil =>
      exact (List.mem_singleton.mp hBest.mem).symm
  | cons item rest ih =>
      rw [List.foldl_cons]
      apply ih
      by_cases hItem : item = best
      · subst hItem
        have hKeep : keep replaces first item = item := by
          unfold keep
          by_cases hFirst : first = item
          · rw [hFirst, ite_self]
          · have hBeats :=
              hBest.beats first List.mem_cons_self hFirst
            rw [if_pos hBeats.1]
        rw [hKeep]
        constructor
        · exact List.mem_cons_self
        · intro other hOther
          exact hBest.beats other
            (List.mem_cons_of_mem _ hOther)
      · have hKept :
            keep replaces first item = first ∨
              keep replaces first item = item := by
          unfold keep
          exact (ite_eq_or_eq _ item first).symm
        by_cases hFirst : first = best
        · have hKeep : keep replaces first item = first := by
            rw [hFirst]
            unfold keep
            have hBeats :=
              hBest.beats item (by simp) hItem
            rw [hBeats.2, if_neg Bool.false_ne_true]
          rw [hKeep]
          constructor
          · rw [hFirst]
            exact List.mem_cons_self
          · intro other hOther
            apply hBest.beats
            rcases List.mem_cons.mp hOther with h | h
            · simp [h]
            · simp [h]
        · have hRest : best ∈ rest := by
            rcases List.mem_cons.mp hBest.mem with h | h
            · exact absurd h.symm hFirst
            · rcases List.mem_cons.mp h with h | h
              · exact absurd h.symm hItem
              · exact h
          constructor
          · exact List.mem_cons_of_mem _ hRest
          · intro other hOther
            apply hBest.beats
            rcases List.mem_cons.mp hOther with h | h
            · rcases hKept with hKept | hKept
              · simp [h, hKept]
              · simp [h, hKept]
            · simp [h]

theorem keptOf_of_best
    {items : List α}
    {best : α}
    (hBest : Best replaces items best) :
    keptOf replaces items = some best := by
  cases items with
  | nil => cases hBest.mem
  | cons first rest =>
      exact congrArg some
        (foldl_keep_of_best rest first hBest)

theorem Best.perm
    {items arrived : List α}
    {best : α}
    (hBest : Best replaces items best)
    (hPerm : arrived.Perm items) :
    Best replaces arrived best where
  mem := hPerm.mem_iff.mpr hBest.mem
  beats item hItem :=
    hBest.beats item (hPerm.mem_iff.mp hItem)

/- Copies of an item that one copy does not replace. -/
theorem foldl_keep_copies
    {best start : α}
    {copies : List α}
    (hCopies : ∀ other ∈ copies, other = best)
    (hStart : keep replaces start best = start) :
    copies.foldl (keep replaces) start = start := by
  induction copies with
  | nil => rfl
  | cons other copies ih =>
      have hOther := hCopies other List.mem_cons_self
      rw [List.foldl_cons, hOther, hStart]
      exact ih fun later hLater =>
        hCopies later (List.mem_cons_of_mem _ hLater)

/-
  An item kept in every order is the best one: arriving
  right after it, another item must not take its place, and
  arriving right before it, must not hold it.
-/
theorem best_of_keptOf
    [DecidableEq α]
    {items : List α}
    {best : α}
    (hKept :
      ∀ arrived : List α, arrived.Perm items →
        keptOf replaces arrived = some best) :
    Best replaces items best := by
  have hMem : best ∈ items :=
    keptOf_mem (hKept items (List.Perm.refl items))
  constructor
  · exact hMem
  · intro item hItem hNe
    let copies := items.filter (· == best)
    let others := (items.filter (· != best)).erase item
    have hOther : item ∈ items.filter (· != best) := by
      simp [hItem, hNe]
    have hOthers :
        (item :: others).Perm (items.filter (· != best)) :=
      (List.perm_cons_erase hOther).symm
    have hSplit :
        (copies ++ item :: others).Perm items :=
      (hOthers.append_left copies).trans
        (List.filter_append_perm (· == best) items)
    have hNone : best ∉ others := by
      intro hBest
      have hFiltered := List.mem_of_mem_erase hBest
      simp at hFiltered
    have hCopies : ∀ other ∈ copies, other = best := by
      intro other hOther
      simpa using (List.mem_filter.mp hOther).2
    have hFixed :
        ∀ start : α,
          start ∈ item :: others →
            ∀ late ⊆ others,
              late.foldl (keep replaces) start ≠ best := by
      intro start hStart late hLate hResult
      have hFound := foldl_keep_mem replaces start late
      rw [hResult] at hFound
      have hBest : best ∈ item :: others := by
        rcases List.mem_cons.mp hFound with h | h
        · rw [h]
          exact hStart
        · exact List.mem_cons_of_mem _ (hLate h)
      rcases List.mem_cons.mp hBest with h | h
      · exact hNe h.symm
      · exact hNone h
    constructor
    · -- The item first: the copies must take its place.
      by_contra hReplaces
      have hStart : keep replaces item best = item := by
        unfold keep
        rw [if_neg hReplaces]
      have hArrived :
          (item :: (copies ++ others)).Perm items :=
        List.perm_middle.symm.trans hSplit
      have hResult := hKept _ hArrived
      have hFold :
          (copies ++ others).foldl (keep replaces) item =
            best := by
        exact Option.some.inj hResult
      rw [List.foldl_append, foldl_keep_copies hCopies hStart]
        at hFold
      exact hFixed item List.mem_cons_self others
        (fun _ h => h) hFold
    · -- The item after the copies: it must not take over.
      by_contra hReplaces
      have hTakes : keep replaces best item = item := by
        unfold keep
        rw [if_pos (by simpa using hReplaces)]
      have hSelf : keep replaces best best = best := by
        unfold keep
        exact ite_self best
      have hCopy : best ∈ copies := by
        simp [copies, hMem]
      rcases hHead : copies with _ | ⟨copy, early⟩
      · rw [hHead] at hCopy
        cases hCopy
      · rw [hHead] at hSplit hCopies
        have hCopyBest := hCopies copy List.mem_cons_self
        have hResult := hKept _ hSplit
        have hFold :
            (early ++ item :: others).foldl (keep replaces)
              copy = best := by
          exact Option.some.inj hResult
        rw [List.foldl_append, hCopyBest,
          foldl_keep_copies
            (fun other h =>
              hCopies other (List.mem_cons_of_mem _ h)) hSelf,
          List.foldl_cons, hTakes] at hFold
        exact hFixed item List.mem_cons_self others
          (fun _ h => h) hFold

end Foundations

------------------------------------------------------------
-- Gathering Classes
------------------------------------------------------------

namespace Foundations

open AccessIQ.Python

variable {α κ : Type}
variable [DecidableEq κ]

/- One item arrives among the kept ones of each class. -/
def gatherItem
    (key : α → κ)
    (replaces : α → α → Bool)
    (kept : Dict κ α)
    (item : α) :
    Dict κ α :=
  match kept.get? (key item) with
  | none => kept.set (key item) item
  | some existing =>
      if replaces item existing = true then
        kept.set (key item) item
      else
        kept

/- The item kept of each class, in order of first arrival. -/
def gather
    (key : α → κ)
    (replaces : α → α → Bool)
    (items : List α) :
    Dict κ α :=
  items.foldl (gatherItem key replaces) .empty

theorem get?_gatherItem
    (key : α → κ)
    (replaces : α → α → Bool)
    (kept : Dict κ α)
    (item : α)
    (k : κ) :
    (gatherItem key replaces kept item).get? k =
      if key item = k then
        some (match kept.get? k with
          | none => item
          | some existing => keep replaces existing item)
      else
        kept.get? k := by
  unfold gatherItem keep
  cases hGet : kept.get? (key item) with
  | none =>
      simp only
      rw [Dict.get?_set]
      by_cases hKey : key item = k
      · subst hKey
        rw [if_pos rfl, if_pos rfl, hGet]
      · rw [if_neg hKey, if_neg hKey]
  | some existing =>
      simp only
      by_cases hKey : key item = k
      · subst hKey
        rw [if_pos rfl, hGet]
        simp only
        by_cases hReplaces : replaces item existing = true
        · rw [if_pos hReplaces, if_pos hReplaces,
            Dict.get?_set, if_pos rfl]
        · rw [if_neg hReplaces, if_neg hReplaces, hGet]
      · rw [if_neg hKey]
        by_cases hReplaces : replaces item existing = true
        · rw [if_pos hReplaces, Dict.get?_set, if_neg hKey]
        · rw [if_neg hReplaces]

theorem keys_gatherItem
    (key : α → κ)
    (replaces : α → α → Bool)
    (kept : Dict κ α)
    (item : α) :
    (gatherItem key replaces kept item).keys =
      if key item ∈ kept.keys then
        kept.keys
      else
        kept.keys ++ [key item] := by
  unfold gatherItem
  cases hGet : kept.get? (key item) with
  | none => exact Dict.keys_set kept (key item) item
  | some existing =>
      have hMem : key item ∈ kept.keys :=
        Dict.mem_keys_iff.mpr ⟨existing, hGet⟩
      simp only
      rw [if_pos hMem]
      by_cases hReplaces : replaces item existing = true
      · rw [if_pos hReplaces, Dict.keys_set, if_pos hMem]
      · rw [if_neg hReplaces]

/- What a class keeps depends on its own items only. -/
theorem get?_foldl_gatherItem
    (key : α → κ)
    (replaces : α → α → Bool)
    (items : List α)
    (kept : Dict κ α)
    (k : κ) :
    (items.foldl (gatherItem key replaces) kept).get? k =
      keptOf replaces
        ((kept.get? k).toList ++
          items.filter fun item => key item = k) := by
  induction items generalizing kept with
  | nil =>
      cases hGet : kept.get? k with
      | none => simpa [keptOf] using hGet
      | some existing => simpa [keptOf] using hGet
  | cons item rest ih =>
      rw [List.foldl_cons, ih, get?_gatherItem]
      by_cases hKey : key item = k
      · rw [if_pos hKey,
          List.filter_cons_of_pos (by simpa using hKey)]
        cases kept.get? k with
        | none => rfl
        | some existing => simp [keptOf]
      · rw [if_neg hKey,
          List.filter_cons_of_neg (by simpa using hKey)]

theorem get?_gather
    (key : α → κ)
    (replaces : α → α → Bool)
    (items : List α)
    (k : κ) :
    (gather key replaces items).get? k =
      keptOf replaces
        (items.filter fun item => key item = k) :=
  get?_foldl_gatherItem key replaces items .empty k

theorem mem_entries_gather_iff
    {key : α → κ}
    {replaces : α → α → Bool}
    {items : List α}
    {k : κ}
    {kept : α} :
    (k, kept) ∈ (gather key replaces items).entries ↔
      keptOf replaces
        (items.filter fun item => key item = k) =
          some kept := by
  rw [← get?_gather]
  exact Dict.get?_eq_some_iff.symm

/- A kept item stands under its own key. -/
theorem mem_values_gather_iff
    {key : α → κ}
    {replaces : α → α → Bool}
    {items : List α}
    {kept : α} :
    kept ∈ (gather key replaces items).values ↔
      keptOf replaces
        (items.filter fun item => key item = key kept) =
          some kept := by
  constructor
  · intro hMem
    rcases List.mem_map.mp hMem with ⟨⟨k, value⟩, hEntry, rfl⟩
    have hKept := mem_entries_gather_iff.mp hEntry
    have hClass := (List.mem_filter.mp (keptOf_mem hKept)).2
    have hKey : key value = k := by simpa using hClass
    rw [hKey]
    exact hKept
  · intro hKept
    exact List.mem_map.mpr
      ⟨(key kept, kept), mem_entries_gather_iff.mpr hKept, rfl⟩

theorem map_key_values_gather
    (key : α → κ)
    (replaces : α → α → Bool)
    (items : List α) :
    (gather key replaces items).values.map key =
      (gather key replaces items).keys := by
  unfold Dict.values Dict.keys
  rw [List.map_map]
  apply List.map_congr_left
  rintro ⟨k, kept⟩ hEntry
  have hKept := mem_entries_gather_iff.mp hEntry
  have hClass := (List.mem_filter.mp (keptOf_mem hKept)).2
  simpa using hClass

theorem nodup_values_gather
    (key : α → κ)
    (replaces : α → α → Bool)
    (items : List α) :
    (gather key replaces items).values.Nodup := by
  apply List.Nodup.of_map key
  rw [map_key_values_gather]
  exact (gather key replaces items).nodup

end Foundations

------------------------------------------------------------
-- Sorted Results
------------------------------------------------------------

namespace Foundations

open AccessIQ.Python

variable {α κ β : Type}
variable [DecidableEq κ]
variable [LinearOrder β]

/- The kept items sorted by rank, in order where ranks tie. -/
def sortedKept
    (key : α → κ)
    (replaces : α → α → Bool)
    (rank : α → β)
    (items : List α) :
    List α :=
  (gather key replaces items).values.insertionSort
    fun a b => rank a ≤ rank b

/- The items of one class, in order. -/
def classOf
    (key : α → κ)
    (items : List α)
    (k : κ) :
    List α :=
  items.filter fun item => key item = k

/-
  Every class has a best item, and no two of them share a
  rank.
-/
structure Decided
    (key : α → κ)
    (replaces : α → α → Bool)
    (rank : α → β)
    (items : List α) : Prop where
  best :
    ∀ item ∈ items,
      ∃ best, Best replaces (classOf key items (key item)) best
  apart :
    ∀ a b,
      Best replaces (classOf key items (key a)) a →
        Best replaces (classOf key items (key b)) b →
          rank a = rank b → key a = key b

variable {key : α → κ}
variable {replaces : α → α → Bool}
variable {rank : α → β}

theorem mem_sortedKept_iff
    {items : List α}
    {kept : α} :
    kept ∈ sortedKept key replaces rank items ↔
      keptOf replaces (classOf key items (key kept)) =
        some kept := by
  unfold sortedKept classOf
  rw [List.mem_insertionSort]
  exact mem_values_gather_iff

theorem nodup_sortedKept
    (key : α → κ)
    (replaces : α → α → Bool)
    (rank : α → β)
    (items : List α) :
    (sortedKept key replaces rank items).Nodup := by
  unfold sortedKept
  rw [(List.perm_insertionSort _ _).nodup_iff]
  exact nodup_values_gather key replaces items

theorem pairwise_sortedKept
    (key : α → κ)
    (replaces : α → α → Bool)
    (rank : α → β)
    (items : List α) :
    (sortedKept key replaces rank items).Pairwise
      fun a b => rank a ≤ rank b := by
  have hTotal :
      Std.Total fun a b : α => rank a ≤ rank b :=
    ⟨fun a b => le_total (rank a) (rank b)⟩
  have hTrans :
      IsTrans α fun a b : α => rank a ≤ rank b :=
    ⟨fun a b c => le_trans⟩
  unfold sortedKept
  exact List.pairwise_insertionSort _ _

/- The items of a class of items in another order. -/
theorem classOf_perm
    {items arrived : List α}
    (hPerm : arrived.Perm items)
    (k : κ) :
    (classOf key arrived k).Perm (classOf key items k) :=
  hPerm.filter _

/- Decided items are kept alike in every order. -/
theorem Decided.sortedKept_eq
    {items arrived : List α}
    (hDecided : Decided key replaces rank items)
    (hPerm : arrived.Perm items) :
    sortedKept key replaces rank arrived =
      sortedKept key replaces rank items := by
  have hKept :
      ∀ (order : List α) (kept : α),
        order.Perm items →
          (kept ∈ sortedKept key replaces rank order ↔
            Best replaces (classOf key items (key kept))
              kept) := by
    intro order kept hOrder
    rw [mem_sortedKept_iff]
    constructor
    · intro hKept
      have hMem := (List.mem_filter.mp (keptOf_mem hKept)).1
      rcases hDecided.best kept (hOrder.mem_iff.mp hMem) with
        ⟨best, hBest⟩
      have hArrived :=
        keptOf_of_best
          (hBest.perm (classOf_perm hOrder (key kept)))
      rw [hKept] at hArrived
      rw [Option.some.inj hArrived]
      rw [Option.some.inj hArrived] at hBest
      exact hBest
    · intro hBest
      exact keptOf_of_best
        (hBest.perm (classOf_perm hOrder (key kept)))
  have hValues :
      (sortedKept key replaces rank arrived).Perm
        (sortedKept key replaces rank items) := by
    rw [List.perm_ext_iff_of_nodup
      (nodup_sortedKept key replaces rank arrived)
      (nodup_sortedKept key replaces rank items)]
    intro kept
    rw [hKept arrived kept hPerm,
      hKept items kept (List.Perm.refl items)]
  apply List.Perm.eq_of_pairwise _
    (pairwise_sortedKept key replaces rank arrived)
    (pairwise_sortedKept key replaces rank items) hValues
  intro a b hA hB hAB hBA
  have hBestA := (hKept arrived a hPerm).mp hA
  have hBestB :=
    (hKept items b (List.Perm.refl items)).mp hB
  have hKeys :=
    hDecided.apart a b hBestA hBestB (le_antisymm hAB hBA)
  rw [hKeys] at hBestA
  have hSame :=
    (keptOf_of_best hBestA).symm.trans
      (keptOf_of_best hBestB)
  exact Option.some.inj hSame

end Foundations

------------------------------------------------------------
-- Undecided Items
------------------------------------------------------------

namespace Foundations

open AccessIQ.Python

variable {α κ β : Type}
variable [DecidableEq κ]
variable {key : α → κ}
variable {replaces : α → α → Bool}

/- Classes keep their place in the order of first arrival. -/
theorem keys_prefix_gather
    (kept : Dict κ α)
    (items : List α) :
    kept.keys <+:
      (items.foldl (gatherItem key replaces) kept).keys := by
  induction items generalizing kept with
  | nil => exact List.prefix_refl _
  | cons item rest ih =>
      apply List.IsPrefix.trans _
        (ih (gatherItem key replaces kept item))
      rw [keys_gatherItem]
      by_cases hMem : key item ∈ kept.keys
      · rw [if_pos hMem]
      · rw [if_neg hMem]
        exact List.prefix_append _ _

/- Two kept items whose classes arrived one after the other. -/
theorem sublist_values_gather
    {a b : α}
    {rest : List α}
    (hKeys : key a ≠ key b)
    (hA :
      a ∈ (gather key replaces (a :: b :: rest)).values)
    (hB :
      b ∈ (gather key replaces (a :: b :: rest)).values) :
    [a, b].Sublist
      (gather key replaces (a :: b :: rest)).values := by
  have hFirst :
      (gatherItem key replaces
        (gatherItem key replaces .empty a) b).keys =
          [key a, key b] := by
    rw [keys_gatherItem, keys_gatherItem]
    simp [hKeys.symm]
  have hPrefix :=
    @keys_prefix_gather α κ _ key replaces
      (gatherItem key replaces
        (gatherItem key replaces .empty a) b) rest
  rw [hFirst] at hPrefix
  have hEntries :=
    map_key_values_gather key replaces (a :: b :: rest)
  have hNodup :=
    (gather key replaces (a :: b :: rest)).nodup
  change (gather key replaces (a :: b :: rest)).keys.Nodup
    at hNodup
  rw [← hEntries] at hNodup
  change [key a, key b] <+:
    (gather key replaces (a :: b :: rest)).keys at hPrefix
  rw [← hEntries] at hPrefix
  have hInjective :=
    List.inj_on_of_nodup_map hNodup
  generalize
    (gather key replaces (a :: b :: rest)).values = values
      at hPrefix hA hB hInjective ⊢
  match values with
  | [] => simp at hPrefix
  | [_] => simp at hPrefix
  | x :: y :: others =>
      simp only [List.map_cons, List.cons_prefix_cons] at hPrefix
      have hX : a = x :=
        hInjective hA List.mem_cons_self hPrefix.1
      have hY : b = y :=
        hInjective hB (by simp) hPrefix.2.1
      rw [hX, hY]
      simp

/- Two items of a list cannot stand in both orders. -/
theorem not_sublist_both_orders
    {a b : α}
    {items : List α}
    (hNodup : items.Nodup)
    (hForth : [a, b].Sublist items)
    (hBack : [b, a].Sublist items) : False := by
  induction items with
  | nil => cases hForth
  | cons item rest ih =>
      rw [List.nodup_cons] at hNodup
      cases hForth with
      | cons _ hForth =>
          cases hBack with
          | cons _ hBack => exact ih hNodup.2 hForth hBack
          | cons_cons _ hBack =>
              exact hNodup.1
                (hForth.subset (by simp))
      | cons_cons _ hForth =>
          cases hBack with
          | cons _ hBack =>
              exact hNodup.1 (hBack.subset (by simp))
          | cons_cons _ hBack =>
              exact hNodup.1 (hBack.subset (by simp))

variable [DecidableEq α]
variable [LinearOrder β]
variable {rank : α → β}

/-
  An item kept in every order is the best of its class: the
  class arrives in some order, and then the rest.
-/
theorem best_of_mem_sortedKept
    {items : List α}
    {kept : α}
    (hMem :
      ∀ arrived : List α, arrived.Perm items →
        kept ∈ sortedKept key replaces rank arrived) :
    Best replaces (classOf key items (key kept)) kept := by
  apply best_of_keptOf
  intro order hOrder
  let others :=
    items.filter fun item => !decide (key item = key kept)
  have hArrived : (order ++ others).Perm items :=
    (hOrder.append_right _).trans
      (List.filter_append_perm _ items)
  have hClass :
      classOf key (order ++ others) (key kept) = order := by
    have hOrderAll :
        ∀ item ∈ order, key item = key kept := by
      intro item hItem
      have hFound :=
        (List.mem_filter.mp (hOrder.mem_iff.mp hItem)).2
      simpa using hFound
    unfold classOf
    rw [List.filter_append, List.filter_filter,
      List.filter_eq_self.mpr (by simpa using hOrderAll)]
    simp
  have hKept := hMem _ hArrived
  rw [mem_sortedKept_iff, hClass] at hKept
  exact hKept

omit [DecidableEq α] in
/- Of two kept items that tie, the first to arrive is first. -/
theorem sublist_sortedKept
    {a b : α}
    {rest : List α}
    (hKeys : key a ≠ key b)
    (hRank : rank a ≤ rank b)
    (hA : a ∈ sortedKept key replaces rank (a :: b :: rest))
    (hB : b ∈ sortedKept key replaces rank (a :: b :: rest)) :
    [a, b].Sublist
      (sortedKept key replaces rank (a :: b :: rest)) := by
  have hTotal :
      Std.Total fun a b : α => rank a ≤ rank b :=
    ⟨fun a b => le_total (rank a) (rank b)⟩
  have hTrans :
      IsTrans α fun a b : α => rank a ≤ rank b :=
    ⟨fun a b c => le_trans⟩
  unfold sortedKept at hA hB ⊢
  rw [List.mem_insertionSort] at hA hB
  exact List.pair_sublist_insertionSort hRank
    (sublist_values_gather hKeys hA hB)

/- Items kept alike in every order are decided. -/
theorem decided_of_perm
    {items : List α}
    (hSame :
      ∀ arrived : List α, arrived.Perm items →
        sortedKept key replaces rank arrived =
          sortedKept key replaces rank items) :
    Decided key replaces rank items := by
  have hBestKept :
      ∀ a, Best replaces (classOf key items (key a)) a →
        ∀ arrived : List α, arrived.Perm items →
          a ∈ sortedKept key replaces rank arrived := by
    intro a hBest arrived hArrived
    rw [hSame arrived hArrived, mem_sortedKept_iff]
    exact keptOf_of_best hBest
  constructor
  · intro item hItem
    have hClass : item ∈ classOf key items (key item) := by
      simp [classOf, hItem]
    rcases @keptOf_isSome α replaces _ _ hClass with
      ⟨kept, hSome⟩
    have hKey : key kept = key item := by
      simpa using (List.mem_filter.mp (keptOf_mem hSome)).2
    have hMem : kept ∈ sortedKept key replaces rank items := by
      rw [mem_sortedKept_iff, hKey]
      exact hSome
    refine ⟨kept, ?_⟩
    rw [← hKey]
    apply @best_of_mem_sortedKept α κ β _ key replaces _ _
      rank
    intro arrived hArrived
    rw [hSame arrived hArrived]
    exact hMem
  · intro a b hBestA hBestB hRank
    by_contra hKeys
    have hNe : a ≠ b := fun h => hKeys (congrArg key h)
    have hMemA := (List.mem_filter.mp hBestA.mem).1
    have hMemB := (List.mem_filter.mp hBestB.mem).1
    have hErased : b ∈ items.erase a :=
      (List.mem_erase_of_ne hNe.symm).mpr hMemB
    have hForth :
        (a :: b :: (items.erase a).erase b).Perm items :=
      (((List.perm_cons_erase hErased).symm).cons a).trans
        (List.perm_cons_erase hMemA).symm
    have hBack :
        (b :: a :: (items.erase a).erase b).Perm items :=
      (List.Perm.swap a b _).trans hForth
    have hAFirst :=
      sublist_sortedKept hKeys hRank.le
        (hBestKept a hBestA _ hForth)
        (hBestKept b hBestB _ hForth)
    have hBFirst :=
      sublist_sortedKept (fun h => hKeys h.symm) hRank.ge
        (hBestKept b hBestB _ hBack)
        (hBestKept a hBestA _ hBack)
    rw [hSame _ hForth] at hAFirst
    rw [hSame _ hBack] at hBFirst
    exact not_sublist_both_orders
      (nodup_sortedKept key replaces rank items)
      hAFirst hBFirst

end Foundations
