import AccessIQ.Ai.Ranking
import AccessIQ.Foundations.Deduplication

/-
  Removing duplicate evidence.

  Evidence with one type, title, description, reference and
  correlation id is kept once.  A copy takes the place of the
  kept one when its priority is higher or its distance is
  shorter, so that two copies of which each is ahead in one
  of them take each other's place.  The result is the same in
  every order, and the copy kept the one that ranks highest,
  exactly when each class has a copy behind no other one that
  also scores highest, and these copies have different ids.

  Key definitions include:
    * `AIEvidence.duplicateKey`
    * `deduplicateEvidence`
    * `OrderIndependent`
    * `KeepsBest`
    * `Strongest`
    * `Settled`

  Key theorems include:
    * `deduplication_settled_iff`
-/

------------------------------------------------------------
-- Duplicates
------------------------------------------------------------

namespace AccessIQ

namespace Ai

open Foundations

/- What duplicates have in common. -/
def AIEvidence.duplicateKey
    (item : AIEvidence) :
    String × String × String × String × Option String :=
  (item.evidenceType, item.title, item.description,
    item.reference, item.correlationId)

/- The distance that copies are compared by. -/
def AIEvidence.comparedDistance
    (item : AIEvidence) :
    Int :=
  item.distance.getD 9999

/- The item takes the place of the existing copy. -/
def replaces
    (item existing : AIEvidence) :
    Bool :=
  decide (item.priority > existing.priority) ||
    decide (item.comparedDistance < existing.comparedDistance)

/- `deduplicate_evidence` -/
def deduplicateEvidence
    (evidence : List AIEvidence) :
    List AIEvidence :=
  sortedKept AIEvidence.duplicateKey replaces AIEvidence.id
    evidence

/- Each class of duplicates keeps one of its copies. -/
theorem exists_kept_copy
    {evidence : List AIEvidence}
    {item : AIEvidence}
    (hItem : item ∈ evidence) :
    ∃ kept ∈ deduplicateEvidence evidence,
      kept ∈ evidence ∧
        kept.duplicateKey = item.duplicateKey := by
  have hClass :
      item ∈ classOf AIEvidence.duplicateKey evidence
        item.duplicateKey := by
    simp [classOf, hItem]
  rcases @keptOf_isSome _ replaces _ _ hClass with
    ⟨kept, hSome⟩
  have hKept := List.mem_filter.mp (keptOf_mem hSome)
  have hKey : kept.duplicateKey = item.duplicateKey := by
    simpa using hKept.2
  have hMem : kept ∈ deduplicateEvidence evidence := by
    unfold deduplicateEvidence
    rw [mem_sortedKept_iff, hKey]
    exact hSome
  exact ⟨kept, hMem, hKept.1, hKey⟩

/- What is kept was there. -/
theorem mem_of_mem_deduplicateEvidence
    {evidence : List AIEvidence}
    {item : AIEvidence}
    (hItem : item ∈ deduplicateEvidence evidence) :
    item ∈ evidence := by
  unfold deduplicateEvidence at hItem
  rw [mem_sortedKept_iff] at hItem
  exact (List.mem_filter.mp (keptOf_mem hItem)).1

/- Nothing is kept more often than it was there. -/
theorem deduplicateEvidence_subperm
    (evidence : List AIEvidence) :
    (deduplicateEvidence evidence).Subperm evidence := by
  apply List.Nodup.subperm
  · unfold deduplicateEvidence
    exact nodup_sortedKept _ _ _ _
  · intro item hItem
    exact mem_of_mem_deduplicateEvidence hItem

/- No class keeps two copies. -/
theorem kept_copy_unique
    {evidence : List AIEvidence}
    {a b : AIEvidence}
    (hA : a ∈ deduplicateEvidence evidence)
    (hB : b ∈ deduplicateEvidence evidence)
    (hKey : a.duplicateKey = b.duplicateKey) :
    a = b := by
  unfold deduplicateEvidence at hA hB
  rw [mem_sortedKept_iff] at hA hB
  rw [hKey, hB] at hA
  exact (Option.some.inj hA).symm

end Ai

end AccessIQ

------------------------------------------------------------
-- The Strongest Copy
------------------------------------------------------------

namespace AccessIQ

namespace Ai

open Foundations

/- Behind in nothing, and ahead in priority or distance. -/
def Stronger
    (item other : AIEvidence) : Prop :=
  other.priority ≤ item.priority ∧
    item.comparedDistance ≤ other.comparedDistance ∧
      (other.priority < item.priority ∨
        item.comparedDistance < other.comparedDistance)

/- Stronger than every other copy of its class. -/
structure Strongest
    (evidence : List AIEvidence)
    (item : AIEvidence) : Prop where
  mem : item ∈ evidence
  stronger :
    ∀ copy ∈ evidence,
      copy.duplicateKey = item.duplicateKey →
        copy ≠ item → Stronger item copy

theorem beats_iff_stronger
    {item other : AIEvidence} :
    Beats replaces item other ↔ Stronger item other := by
  unfold Beats Stronger replaces
  simp only [Bool.or_eq_true, decide_eq_true_iff,
    Bool.or_eq_false_iff, decide_eq_false_iff_not]
  omega

theorem best_iff_strongest
    {evidence : List AIEvidence}
    {item : AIEvidence} :
    Best replaces
        (classOf AIEvidence.duplicateKey evidence
          item.duplicateKey) item ↔
      Strongest evidence item := by
  constructor
  · intro hBest
    constructor
    · exact (List.mem_filter.mp hBest.mem).1
    · intro copy hCopy hKey hNe
      have hClass :
          copy ∈ classOf AIEvidence.duplicateKey evidence
            item.duplicateKey := by
        simp [classOf, hCopy, hKey]
      exact beats_iff_stronger.mp
        (hBest.beats copy hClass hNe)
  · intro hStrongest
    constructor
    · simp [classOf, hStrongest.mem]
    · intro copy hCopy hNe
      have hClass := List.mem_filter.mp hCopy
      exact beats_iff_stronger.mpr
        (hStrongest.stronger copy hClass.1
          (by simpa using hClass.2) hNe)

/- The kept copy of a class with a strongest one. -/
theorem mem_deduplicateEvidence_of_strongest
    {evidence : List AIEvidence}
    {item : AIEvidence}
    (hStrongest : Strongest evidence item) :
    item ∈ deduplicateEvidence evidence := by
  unfold deduplicateEvidence
  rw [mem_sortedKept_iff]
  exact keptOf_of_best (best_iff_strongest.mpr hStrongest)

end Ai

end AccessIQ

------------------------------------------------------------
-- Order And Rank
------------------------------------------------------------

namespace AccessIQ

namespace Ai

open Foundations

/- The order of arrival does not show in the result. -/
def OrderIndependent
    (evidence : List AIEvidence) : Prop :=
  ∀ arrived : List AIEvidence, arrived.Perm evidence →
    deduplicateEvidence arrived = deduplicateEvidence evidence

/- A kept copy ranks as high as any copy of its class. -/
def KeepsBest
    (intent : IntentType)
    (evidence : List AIEvidence) : Prop :=
  ∀ kept ∈ deduplicateEvidence evidence,
    ∀ copy ∈ evidence,
      copy.duplicateKey = kept.duplicateKey →
        (ranked intent copy).rankScore ≤
          (ranked intent kept).rankScore

/-
  Every class has a strongest copy, which no copy of the
  class outscores, and no two of these share an id.
-/
structure Settled
    (intent : IntentType)
    (evidence : List AIEvidence) : Prop where
  strongest :
    ∀ item ∈ evidence,
      ∃ best, Strongest evidence best ∧
        best.duplicateKey = item.duplicateKey
  outscored :
    ∀ best, Strongest evidence best →
      ∀ copy ∈ evidence,
        copy.duplicateKey = best.duplicateKey →
          scoreFor intent copy ≤ scoreFor intent best
  apart :
    ∀ a b, Strongest evidence a → Strongest evidence b →
      a.id = b.id → a.duplicateKey = b.duplicateKey

theorem decided_iff
    {evidence : List AIEvidence} :
    Decided AIEvidence.duplicateKey replaces AIEvidence.id
        evidence ↔
      (∀ item ∈ evidence,
        ∃ best, Strongest evidence best ∧
          best.duplicateKey = item.duplicateKey) ∧
      ∀ a b, Strongest evidence a → Strongest evidence b →
        a.id = b.id → a.duplicateKey = b.duplicateKey := by
  constructor
  · intro hDecided
    constructor
    · intro item hItem
      rcases hDecided.best item hItem with ⟨best, hBest⟩
      have hKey : best.duplicateKey = item.duplicateKey := by
        simpa using (List.mem_filter.mp hBest.mem).2
      rw [← hKey] at hBest
      exact ⟨best, best_iff_strongest.mp hBest, hKey⟩
    · intro a b hA hB hId
      exact hDecided.apart a b (best_iff_strongest.mpr hA)
        (best_iff_strongest.mpr hB) hId
  · rintro ⟨hStrongest, hApart⟩
    constructor
    · intro item hItem
      rcases hStrongest item hItem with ⟨best, hBest, hKey⟩
      rw [← hKey]
      exact ⟨best, best_iff_strongest.mpr hBest⟩
    · intro a b hA hB hId
      exact hApart a b (best_iff_strongest.mp hA)
        (best_iff_strongest.mp hB) hId

theorem orderIndependent_iff
    {evidence : List AIEvidence} :
    OrderIndependent evidence ↔
      Decided AIEvidence.duplicateKey replaces AIEvidence.id
        evidence :=
  ⟨decided_of_perm,
    fun hDecided _ hPerm => hDecided.sortedKept_eq hPerm⟩

/-
  Deduplication is independent of the order and keeps the
  copy that ranks highest exactly when every class has a
  strongest copy, it scores highest, and the ids of these
  copies differ.
-/
theorem deduplication_settled_iff
    (intent : IntentType)
    (evidence : List AIEvidence) :
    (OrderIndependent evidence ∧ KeepsBest intent evidence) ↔
      Settled intent evidence := by
  constructor
  · rintro ⟨hOrder, hKeeps⟩
    have hDecided :=
      decided_iff.mp (orderIndependent_iff.mp hOrder)
    constructor
    · exact hDecided.1
    · intro best hBest
      exact hKeeps best
        (mem_deduplicateEvidence_of_strongest hBest)
    · exact hDecided.2
  · intro hSettled
    constructor
    · exact orderIndependent_iff.mpr
        (decided_iff.mpr ⟨hSettled.strongest, hSettled.apart⟩)
    · intro kept hKept copy hCopy hKey
      rcases hSettled.strongest copy hCopy with
        ⟨best, hBest, hBestKey⟩
      have hSame : kept = best :=
        kept_copy_unique hKept
          (mem_deduplicateEvidence_of_strongest hBest)
          (hKey.symm.trans hBestKey.symm)
      subst hSame
      exact hSettled.outscored kept hBest copy hCopy hKey

/- Evidence of an assignment, read at the user. -/
def assignmentEvidence : AIEvidence where
  id := "ai-evidence:1"
  evidenceType := "HAS_ENTITLEMENT"
  title := "User has entitlement"
  description := "Access assignment 1"
  reference := "/users/1/access"
  relationshipType := some "HAS_ENTITLEMENT"
  distance := some 0

/- The same edge met one step along a path. -/
def pathEvidence : AIEvidence :=
  { assignmentEvidence with
    edgeId := some "edge:1"
    distance := some 1
    priority := 80 }

/-
  The copy along the path has the higher priority, the copy
  at the user is nearer and, with the priority of its type,
  ranks higher: the last one to arrive is kept.
-/
theorem last_copy_kept :
    ¬OrderIndependent [assignmentEvidence, pathEvidence] ∧
      ¬KeepsBest .explainAccess
        [assignmentEvidence, pathEvidence] := by
  constructor
  · intro hOrder
    have hSwapped :=
      hOrder [pathEvidence, assignmentEvidence]
        (List.Perm.swap _ _ [])
    revert hSwapped
    decide +kernel
  · intro hKeeps
    have hRank :=
      hKeeps pathEvidence (by decide +kernel)
        assignmentEvidence (by simp) (by rfl)
    revert hRank
    decide +kernel

end Ai

end AccessIQ
