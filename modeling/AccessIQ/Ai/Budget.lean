import AccessIQ.Ai.Ranking
import AccessIQ.Foundations.Greedy
import AccessIQ.Foundations.Lines
import AccessIQ.Python.Text

/-
  The token budget of ranked evidence.

  Tokens are estimated from the number of characters.  The
  evidence is gone through by rank, and what fits into the
  budget is included.  Evidence that does not fit is passed
  over, not the end: smaller evidence of a lower rank may
  still be included.

  Key definitions include:
    * `estimateTokens`
    * `applyTokenBudget`
    * `KeepsPrefix`
    * `BudgetExact`

  Key theorems include:
    * `applyTokenBudget_eq`
    * `budget_keeps_prefix_iff`
    * `applyTokenBudget_exact`
-/

------------------------------------------------------------
-- Estimates
------------------------------------------------------------

namespace AccessIQ

namespace Ai

open Python

/- A token for every four characters, rounded up. -/
def estimateTokens
    (value : String) :
    Nat :=
  let stripped := strip value
  if stripped = "" then
    0
  else
    max 1 ((stripped.length + 3) / 4)

/- The parts of evidence that its estimate counts. -/
def AIEvidence.parts
    (item : AIEvidence) :
    List String :=
  [item.title, item.description, item.reference,
    item.correlationId.getD ""]

def estimateEvidenceTokens
    (item : AIEvidence) :
    Nat :=
  estimateTokens
    (" ".intercalate (item.parts.filter (· ≠ "")))

/- The copy of an item with its estimate. -/
def AIEvidence.estimated
    (item : AIEvidence) :
    AIEvidence :=
  { item with tokenEstimate := estimateEvidenceTokens item }

structure TokenBudget where
  maxTokens : Int
  reservedTokens : Int
  evidenceTokens : Int
  totalEstimatedTokens : Int
  includedEvidenceCount : Int
  omittedEvidenceCount : Int
  truncated : Bool
  deriving DecidableEq, Repr

------------------------------------------------------------
-- The Budget
------------------------------------------------------------

/- What the loop of `apply_token_budget` has included. -/
structure Included where
  evidence : List AIEvidence
  tokens : Nat

/- One turn of the loop. -/
def includeItem
    (available : Nat)
    (included : Included)
    (item : AIEvidence) :
    Included :=
  if available < included.tokens + estimateEvidenceTokens item
  then
    included
  else
    { evidence := included.evidence ++ [item.estimated]
      tokens := included.tokens + estimateEvidenceTokens item }

/- `max(0, max_tokens - reserved_tokens)` -/
def availableTokens
    (maxTokens reservedTokens : Int) :
    Nat :=
  (maxTokens - reservedTokens).toNat

def applyTokenBudget
    (evidence : List AIEvidence)
    (maxTokens reservedTokens : Int) :
    List AIEvidence × TokenBudget :=
  let included :=
    evidence.foldl
      (includeItem (availableTokens maxTokens reservedTokens))
      ⟨[], 0⟩
  let omittedCount : Int :=
    evidence.length - included.evidence.length
  (included.evidence,
    { maxTokens := maxTokens
      reservedTokens := reservedTokens
      evidenceTokens := included.tokens
      totalEstimatedTokens := reservedTokens + included.tokens
      includedEvidenceCount := included.evidence.length
      omittedEvidenceCount := omittedCount
      truncated := decide (omittedCount > 0) })

end Ai

end AccessIQ

------------------------------------------------------------
-- Greedy Selection
------------------------------------------------------------

namespace AccessIQ

namespace Ai

open Foundations Python

/- A copy with its estimate is estimated as the item. -/
@[simp] theorem estimateEvidenceTokens_estimated
    (item : AIEvidence) :
    estimateEvidenceTokens item.estimated =
      estimateEvidenceTokens item :=
  rfl

/- A ranked copy is estimated as the item. -/
theorem estimateEvidenceTokens_ranked
    (intent : IntentType)
    (item : AIEvidence) :
    estimateEvidenceTokens (ranked intent item) =
      estimateEvidenceTokens item :=
  rfl

/- Stripping a text makes it no longer. -/
theorem length_strip_le
    (value : String) :
    (strip value).length ≤ value.length := by
  unfold strip
  rw [String.length_ofList, List.length_reverse]
  have hBack :=
    (List.dropWhile_suffix isSpace
      (l := (value.toList.dropWhile isSpace).reverse)).length_le
  have hFront :=
    (List.dropWhile_suffix isSpace
      (l := value.toList)).length_le
  rw [List.length_reverse] at hBack
  rw [String.length_toList] at hFront
  exact hBack.trans hFront

/- An estimate is no more than its parts with blanks give. -/
theorem estimateEvidenceTokens_le
    (item : AIEvidence) :
    estimateEvidenceTokens item ≤
      ((item.parts.map String.length).sum + 6) / 4 := by
  unfold estimateEvidenceTokens estimateTokens
  simp only
  generalize hText :
    " ".intercalate (item.parts.filter (· ≠ "")) = text
  by_cases hEmpty : strip text = ""
  · rw [if_pos hEmpty]
    exact Nat.zero_le _
  · rw [if_neg hEmpty]
    have hKept : item.parts.filter (· ≠ "") ≠ [] := by
      intro hNil
      rw [hNil, String.intercalate_nil] at hText
      exact hEmpty (by rw [← hText]; rfl)
    have hBlank : " ".length = 1 := rfl
    have hLength := length_intercalate hBlank hKept
    have hSum :
        ((item.parts.filter (· ≠ "")).map
            String.length).sum ≤
          (item.parts.map String.length).sum :=
      (List.filter_sublist.map String.length).sum_le_sum
        fun _ _ => Nat.zero_le _
    have hCount :
        (item.parts.filter (· ≠ "")).length ≤ 4 :=
      List.length_filter_le _ item.parts
    have hStrip := length_strip_le text
    have hSome : 0 < (strip text).length := by
      rw [Nat.pos_iff_ne_zero, ne_eq, String.length_eq_zero_iff]
      exact hEmpty
    rw [hText] at hLength
    omega

/- The loop takes what is greedily taken. -/
theorem foldl_includeItem
    (available : Nat)
    (evidence : List AIEvidence)
    {included : Included}
    (hTokens : included.tokens ≤ available) :
    evidence.foldl (includeItem available) included =
      { evidence :=
          included.evidence ++
            (greedy estimateEvidenceTokens
              (available - included.tokens) evidence).map
              AIEvidence.estimated
        tokens :=
          included.tokens +
            ((greedy estimateEvidenceTokens
              (available - included.tokens) evidence).map
              estimateEvidenceTokens).sum } := by
  induction evidence generalizing included with
  | nil => simp [greedy]
  | cons item evidence ih =>
      rw [List.foldl_cons]
      unfold greedy
      by_cases hOver :
          available <
            included.tokens + estimateEvidenceTokens item
      · have hRoom :
            available - included.tokens <
              estimateEvidenceTokens item := by
          omega
        have hSame :
            includeItem available included item = included :=
          if_pos hOver
        rw [hSame, if_pos hRoom, ih hTokens]
      · have hRoom :
            ¬ available - included.tokens <
              estimateEvidenceTokens item := by
          omega
        have hTaken :
            includeItem available included item =
              { evidence :=
                  included.evidence ++ [item.estimated]
                tokens :=
                  included.tokens +
                    estimateEvidenceTokens item } :=
          if_neg hOver
        rw [hTaken, if_neg hRoom, ih (by simp only; omega)]
        simp only [List.map_cons, List.sum_cons,
          List.append_assoc, List.singleton_append,
          Nat.sub_add_eq, Nat.add_assoc]

/- The evidence that is included. -/
theorem applyTokenBudget_eq
    (evidence : List AIEvidence)
    (maxTokens reservedTokens : Int) :
    (applyTokenBudget evidence maxTokens
        reservedTokens).1 =
      (greedy estimateEvidenceTokens
        (availableTokens maxTokens reservedTokens)
        evidence).map AIEvidence.estimated := by
  unfold applyTokenBudget
  simp only
  rw [foldl_includeItem _ _ (Nat.zero_le _)]
  simp

/- The tokens of the evidence that is included. -/
theorem evidenceTokens_eq
    (evidence : List AIEvidence)
    (maxTokens reservedTokens : Int) :
    (applyTokenBudget evidence maxTokens
        reservedTokens).2.evidenceTokens =
      ((greedy estimateEvidenceTokens
        (availableTokens maxTokens reservedTokens)
        evidence).map estimateEvidenceTokens).sum := by
  unfold applyTokenBudget
  simp only
  rw [foldl_includeItem _ _ (Nat.zero_le _)]
  simp

/- The numbers of items that are included and left out. -/
theorem counts_eq
    (evidence : List AIEvidence)
    (maxTokens reservedTokens : Int) :
    let result :=
      applyTokenBudget evidence maxTokens reservedTokens
    result.2.includedEvidenceCount = result.1.length ∧
      result.2.omittedEvidenceCount =
        evidence.length - result.1.length ∧
      result.2.truncated =
        decide (result.2.omittedEvidenceCount > 0) :=
  ⟨rfl, rfl, rfl⟩

/-
  What the budget tells of the included evidence, and why an
  item was left out: with those included before it, it would
  have gone over the budget.
-/
structure BudgetExact
    (evidence : List AIEvidence)
    (maxTokens reservedTokens : Int)
    (included : List AIEvidence)
    (budget : TokenBudget) : Prop where
  subsequence :
    included.Sublist (evidence.map AIEvidence.estimated)
  evidenceTokens :
    budget.evidenceTokens =
      (included.map AIEvidence.tokenEstimate).sum
  within : reservedTokens + budget.evidenceTokens ≤ maxTokens
  includedCount :
    budget.includedEvidenceCount = included.length
  allCounted :
    budget.includedEvidenceCount +
        budget.omittedEvidenceCount =
      evidence.length
  truncated :
    budget.truncated = true ↔
      included ≠ evidence.map AIEvidence.estimated
  omitted :
    ∃ kept : List Bool,
      kept.length = evidence.length ∧
        included =
          pick (evidence.map AIEvidence.estimated) kept ∧
        ∀ i item,
          (evidence.map AIEvidence.estimated)[i]? =
              some item →
            kept[i]? = some false →
              maxTokens <
                reservedTokens +
                  ((pick
                      ((evidence.map
                        AIEvidence.estimated).take i)
                      (kept.take i)).map
                    AIEvidence.tokenEstimate).sum +
                  item.tokenEstimate

/- The estimates of copies are those of their items. -/
theorem sum_tokenEstimate
    (evidence : List AIEvidence) :
    ((evidence.map AIEvidence.estimated).map
        AIEvidence.tokenEstimate).sum =
      ((evidence.map estimateEvidenceTokens).sum : Nat) := by
  induction evidence with
  | nil => rfl
  | cons item evidence ih =>
      rw [List.map_cons, List.map_cons, List.map_cons,
        List.sum_cons, List.sum_cons, Nat.cast_add, ih]
      rfl

/- What is picked of the copies are copies. -/
theorem pick_map
    {α β : Type}
    (copy : α → β)
    (items : List α)
    (kept : List Bool) :
    pick (items.map copy) kept =
      (pick items kept).map copy := by
  induction items generalizing kept with
  | nil => rfl
  | cons item items ih =>
      cases kept with
      | nil => rfl
      | cons b kept =>
          cases b with
          | true => exact congrArg (copy item :: ·) (ih kept)
          | false => exact ih kept

theorem applyTokenBudget_exact
    {evidence : List AIEvidence}
    {maxTokens reservedTokens : Int}
    (hMax : reservedTokens ≤ maxTokens) :
    BudgetExact evidence maxTokens reservedTokens
      (applyTokenBudget evidence maxTokens reservedTokens).1
      (applyTokenBudget evidence maxTokens
        reservedTokens).2 := by
  have hEvidence :=
    applyTokenBudget_eq evidence maxTokens reservedTokens
  have hTokens :=
    evidenceTokens_eq evidence maxTokens reservedTokens
  have hCounts :=
    counts_eq evidence maxTokens reservedTokens
  generalize applyTokenBudget evidence maxTokens
    reservedTokens = result at hEvidence hTokens hCounts ⊢
  rcases result with ⟨included, budget⟩
  simp only at hEvidence hTokens hCounts ⊢
  rcases hCounts with ⟨hIncluded, hOmitted, hTruncated⟩
  have hAvailable :
      (availableTokens maxTokens reservedTokens : Int) =
        maxTokens - reservedTokens :=
    Int.toNat_of_nonneg (by omega)
  have hSublist :
      included.Sublist (evidence.map AIEvidence.estimated) := by
    rw [hEvidence]
    exact (greedy_sublist _ _ _).map _
  have hLength : included.length ≤ evidence.length := by
    simpa using hSublist.length_le
  refine
    { subsequence := hSublist
      evidenceTokens := ?_
      within := ?_
      includedCount := hIncluded
      allCounted := by omega
      truncated := ?_
      omitted := ?_ }
  · rw [hTokens, hEvidence, sum_tokenEstimate]
  · have hSum :=
      sum_greedy_le estimateEvidenceTokens
        (availableTokens maxTokens reservedTokens) evidence
    rw [hTokens]
    omega
  · rw [hTruncated, decide_eq_true_eq, hOmitted]
    constructor
    · intro hLess hEq
      rw [hEq, List.length_map] at hLess
      omega
    · intro hNe
      have hShort :
          included.length ≠
            (evidence.map AIEvidence.estimated).length :=
        fun hSame => hNe (hSublist.eq_of_length hSame)
      rw [List.length_map] at hShort
      omega
  · rcases exists_kept estimateEvidenceTokens
        (availableTokens maxTokens reservedTokens)
        evidence with
      ⟨kept, hKept, hPick, hOver⟩
    refine ⟨kept, hKept, ?_, ?_⟩
    · rw [hEvidence, hPick, pick_map]
    · intro i item hItem hNot
      rw [List.getElem?_map] at hItem
      rcases Option.map_eq_some_iff.mp hItem with
        ⟨original, hOriginal, rfl⟩
      have hGone := hOver i original hOriginal hNot
      rw [← List.map_take, pick_map, sum_tokenEstimate]
      change
        maxTokens <
          reservedTokens + _ +
            (estimateEvidenceTokens original : Int)
      omega

/- The included evidence is the evidence of the top ranks. -/
def KeepsPrefix
    (evidence : List AIEvidence)
    (maxTokens reservedTokens : Int) : Prop :=
  (applyTokenBudget evidence maxTokens reservedTokens).1 <+:
    evidence.map AIEvidence.estimated

/-
  The budget keeps the evidence of the top ranks exactly if
  no evidence fits in the place of an item ranked above it
  that did not fit.
-/
theorem budget_keeps_prefix_iff
    (evidence : List AIEvidence)
    (maxTokens reservedTokens : Int) :
    KeepsPrefix evidence maxTokens reservedTokens ↔
      NoneFitsLater (availableTokens maxTokens reservedTokens)
        (evidence.map estimateEvidenceTokens) := by
  have hCopies :=
    @greedy_map _ _ _ _ _ estimateEvidenceTokens_estimated
      (availableTokens maxTokens reservedTokens) evidence
  have hSizes :
      estimateEvidenceTokens ∘ AIEvidence.estimated =
        estimateEvidenceTokens := by
    funext item
    rw [Function.comp_apply, estimateEvidenceTokens_estimated]
  unfold KeepsPrefix
  rw [applyTokenBudget_eq, ← hCopies, greedy_isPrefix_iff,
    List.map_map, hSizes]

/- Evidence of an entitlement, told at some length. -/
def longEvidence : AIEvidence where
  id := "ai-evidence:1"
  evidenceType := "HAS_ENTITLEMENT"
  title := "User has entitlement"
  description :=
    "Alice Johnson --HAS_ENTITLEMENT-> Salesforce User"
  reference := "/users/1/access"
  relationshipType := some "HAS_ENTITLEMENT"
  distance := some 0

/- Evidence of a lower rank, in few words. -/
def shortEvidence : AIEvidence where
  id := "ai-evidence:2"
  evidenceType := "AUDITED_BY"
  title := "Audit event"
  description := "Logged"
  reference := "/audit"
  distance := some 1

/- The short evidence is included, the long one is not. -/
theorem lower_rank_passes_higher :
    rankEvidence [longEvidence, shortEvidence]
          .explainAccess =
        [ranked .explainAccess longEvidence,
          ranked .explainAccess shortEvidence] ∧
      ¬ KeepsPrefix
          [ranked .explainAccess longEvidence,
            ranked .explainAccess shortEvidence] 60 50 := by
  constructor
  · decide +kernel
  · unfold KeepsPrefix
    decide +kernel

end Ai

end AccessIQ
