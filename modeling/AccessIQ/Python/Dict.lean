import Mathlib.Tactic
import Mathlib.Data.List.Nodup

/-
  Dictionaries that remember the order of insertion.

  Assigning to a key that is present replaces its value in
  place; a new key goes to the end.

  Key definitions include:
    * `Dict`
    * `Dict.get?`
    * `Dict.getItem`
    * `Dict.set`
    * `Dict.setDefault`

  Key theorems include:
    * `Dict.get?_set`
    * `Dict.keys_set`
    * `Dict.mem_keys_iff`
    * `Dict.entries_set_of_not_mem`
-/

------------------------------------------------------------
-- Entries
------------------------------------------------------------

namespace AccessIQ

namespace Python

variable {κ α : Type} [DecidableEq κ]

/- Assign a value to a key among the entries. -/
def assignEntry
    (key : κ)
    (value : α) :
    List (κ × α) → List (κ × α)
  | [] => [(key, value)]
  | entry :: rest =>
      if entry.1 = key then
        (key, value) :: rest
      else
        entry :: assignEntry key value rest

/- The value under a key among the entries. -/
def findEntry
    (key : κ) :
    List (κ × α) → Option α
  | [] => none
  | entry :: rest =>
      if entry.1 = key then
        some entry.2
      else
        findEntry key rest

theorem keys_assignEntry
    (key : κ)
    (value : α)
    (entries : List (κ × α)) :
    (assignEntry key value entries).map Prod.fst =
      if key ∈ entries.map Prod.fst then
        entries.map Prod.fst
      else
        entries.map Prod.fst ++ [key] := by
  induction entries with
  | nil => rfl
  | cons entry rest ih =>
      unfold assignEntry
      by_cases hKey : entry.1 = key
      · subst hKey
        simp
      · have hNe : key ≠ entry.1 := fun h => hKey h.symm
        by_cases hMem : key ∈ rest.map Prod.fst
        · rw [if_pos hMem] at ih
          rw [if_neg hKey, if_pos (by simp [hMem])]
          simp [ih]
        · rw [if_neg hMem] at ih
          rw [if_neg hKey, List.map_cons, ih,
            if_neg (by simp [hNe, hMem])]
          rfl

theorem findEntry_assignEntry
    (key other : κ)
    (value : α)
    (entries : List (κ × α)) :
    findEntry other (assignEntry key value entries) =
      if key = other then
        some value
      else
        findEntry other entries := by
  induction entries with
  | nil => rfl
  | cons entry rest ih =>
      unfold assignEntry
      by_cases hKey : entry.1 = key
      · rw [if_pos hKey]
        unfold findEntry
        by_cases hOther : key = other
        · simp [hOther]
        · simp [hKey, hOther]
      · rw [if_neg hKey]
        unfold findEntry
        rw [ih]
        by_cases hEntry : entry.1 = other
        · have hNe : key ≠ other := by
            rw [← hEntry]
            exact fun h => hKey h.symm
          simp [hEntry, hNe]
        · simp [hEntry]

theorem assignEntry_of_not_mem
    {key : κ}
    {entries : List (κ × α)}
    (hKey : key ∉ entries.map Prod.fst)
    (value : α) :
    assignEntry key value entries =
      entries ++ [(key, value)] := by
  induction entries with
  | nil => rfl
  | cons entry rest ih =>
      rw [List.map_cons, List.mem_cons, not_or] at hKey
      unfold assignEntry
      rw [if_neg (fun h => hKey.1 h.symm), ih hKey.2]
      rfl

theorem findEntry_eq_some_iff
    {key : κ}
    {value : α}
    {entries : List (κ × α)}
    (hNodup : (entries.map Prod.fst).Nodup) :
    findEntry key entries = some value ↔
      (key, value) ∈ entries := by
  induction entries with
  | nil => simp [findEntry]
  | cons entry rest ih =>
      rcases entry with ⟨k, v⟩
      rw [List.map_cons, List.nodup_cons] at hNodup
      unfold findEntry
      by_cases hKey : k = key
      · subst hKey
        have hRest : (k, value) ∉ rest := by
          intro hMem
          exact hNodup.1
            (List.mem_map.mpr ⟨(k, value), hMem, rfl⟩)
        simp [hRest, eq_comm]
      · have hNe : key ≠ k := fun h => hKey h.symm
        simp [hKey, hNe, ih hNodup.2]

end Python

end AccessIQ

------------------------------------------------------------
-- Dictionaries
------------------------------------------------------------

namespace AccessIQ

namespace Python

/- Raised by a subscript whose key is missing. -/
structure KeyError (κ : Type) where
  key : κ
  deriving DecidableEq, Repr

structure Dict (κ α : Type) where
  entries : List (κ × α)
  nodup : (entries.map Prod.fst).Nodup

namespace Dict

variable {κ α : Type}

@[ext] theorem ext
    {d e : Dict κ α}
    (hEntries : d.entries = e.entries) :
    d = e := by
  cases d
  cases e
  cases hEntries
  rfl

/- `{}` -/
def empty : Dict κ α where
  entries := []
  nodup := List.nodup_nil

def keys
    (d : Dict κ α) :
    List κ :=
  d.entries.map Prod.fst

def values
    (d : Dict κ α) :
    List α :=
  d.entries.map Prod.snd

@[simp] theorem keys_empty :
    (empty : Dict κ α).keys = [] :=
  rfl

variable [DecidableEq κ]

/- `d.get(key)` -/
def get?
    (d : Dict κ α)
    (key : κ) :
    Option α :=
  findEntry key d.entries

/- `d[key]` -/
def getItem
    (d : Dict κ α)
    (key : κ) :
    Except (KeyError κ) α :=
  match d.get? key with
  | some value => .ok value
  | none => .error ⟨key⟩

/- `d[key] = value` -/
def set
    (d : Dict κ α)
    (key : κ)
    (value : α) :
    Dict κ α where
  entries := assignEntry key value d.entries
  nodup := by
    rw [keys_assignEntry]
    by_cases hKey : key ∈ d.entries.map Prod.fst
    · rw [if_pos hKey]
      exact d.nodup
    · rw [if_neg hKey, ← List.concat_eq_append]
      exact List.Nodup.concat hKey d.nodup

/- `d.setdefault(key, value)` -/
def setDefault
    (d : Dict κ α)
    (key : κ)
    (value : α) :
    Dict κ α :=
  if key ∈ d.keys then d else d.set key value

@[simp] theorem get?_empty
    (key : κ) :
    (empty : Dict κ α).get? key = none :=
  rfl

theorem getItem_of_get?
    {d : Dict κ α}
    {key : κ}
    {value : α}
    (hGet : d.get? key = some value) :
    d.getItem key = .ok value := by
  unfold getItem
  rw [hGet]

theorem get?_eq_some_iff
    {d : Dict κ α}
    {key : κ}
    {value : α} :
    d.get? key = some value ↔ (key, value) ∈ d.entries :=
  findEntry_eq_some_iff d.nodup

theorem mem_values_of_get?
    {d : Dict κ α}
    {key : κ}
    {value : α}
    (hGet : d.get? key = some value) :
    value ∈ d.values :=
  List.mem_map_of_mem (get?_eq_some_iff.mp hGet)

theorem get?_set
    (d : Dict κ α)
    (key other : κ)
    (value : α) :
    (d.set key value).get? other =
      if key = other then some value else d.get? other :=
  findEntry_assignEntry key other value d.entries

theorem keys_set
    (d : Dict κ α)
    (key : κ)
    (value : α) :
    (d.set key value).keys =
      if key ∈ d.keys then d.keys else d.keys ++ [key] :=
  keys_assignEntry key value d.entries

theorem entries_set_of_not_mem
    {d : Dict κ α}
    {key : κ}
    (hKey : key ∉ d.keys)
    (value : α) :
    (d.set key value).entries =
      d.entries ++ [(key, value)] :=
  assignEntry_of_not_mem hKey value

theorem mem_keys_iff
    {d : Dict κ α}
    {key : κ} :
    key ∈ d.keys ↔ ∃ value, d.get? key = some value := by
  constructor
  · intro hKey
    rcases List.mem_map.mp hKey with ⟨entry, hMem, rfl⟩
    exact ⟨entry.2, get?_eq_some_iff.mpr hMem⟩
  · rintro ⟨value, hGet⟩
    exact List.mem_map.mpr
      ⟨(key, value), get?_eq_some_iff.mp hGet, rfl⟩

theorem get?_eq_none_iff
    {d : Dict κ α}
    {key : κ} :
    d.get? key = none ↔ key ∉ d.keys := by
  rw [mem_keys_iff, Option.eq_none_iff_forall_ne_some]
  exact not_exists.symm

theorem mem_keys_set
    {d : Dict κ α}
    {key other : κ}
    {value : α} :
    other ∈ (d.set key value).keys ↔
      other = key ∨ other ∈ d.keys := by
  rw [keys_set]
  by_cases hKey : key ∈ d.keys
  · rw [if_pos hKey]
    constructor
    · exact Or.inr
    · rintro (rfl | hOther)
      · exact hKey
      · exact hOther
  · rw [if_neg hKey]
    simp [or_comm]

theorem mem_keys_setDefault
    {d : Dict κ α}
    {key other : κ}
    {value : α} :
    other ∈ (d.setDefault key value).keys ↔
      other = key ∨ other ∈ d.keys := by
  unfold setDefault
  by_cases hKey : key ∈ d.keys
  · rw [if_pos hKey]
    constructor
    · exact Or.inr
    · rintro (rfl | hOther)
      · exact hKey
      · exact hOther
  · rw [if_neg hKey]
    exact mem_keys_set

theorem getD_setDefault
    (d : Dict κ α)
    (key other : κ)
    (value : α) :
    ((d.setDefault key value).get? other).getD value =
      (d.get? other).getD value := by
  unfold setDefault
  by_cases hKey : key ∈ d.keys
  · rw [if_pos hKey]
  · rw [if_neg hKey, get?_set]
    by_cases hOther : key = other
    · subst hOther
      rw [if_pos rfl, get?_eq_none_iff.mpr hKey]
      rfl
    · rw [if_neg hOther]

end Dict

end Python

end AccessIQ
