import AccessIQ.Graph.Models
import Mathlib.Data.Prod.Lex
import Mathlib.Data.String.Basic

/-
  The evidence an answer rests on, and its ranking.

  A priority of zero stands for the one its type has.

  Key definitions include:
    * `IntentType`
    * `AIEvidence`
    * `priorityFor`
    * `scoreFor`
    * `rankEvidence`

  Key theorems include:
    * `rankEvidence_perm`
-/

------------------------------------------------------------
-- Evidence
------------------------------------------------------------

namespace AccessIQ

namespace Ai

open AccessIQ.Graph

inductive IntentType where
  | explainAccess
  | accessGap
  | provisioning
  | remediation
  | review
  | accessPath
  | managerChain
  | general
  deriving DecidableEq, Repr

structure AIEvidence where
  id : String
  evidenceType : String
  title : String
  description : String
  reference : String
  timestamp : Option Timestamp := none
  correlationId : Option String := none
  relationshipType : Option String := none
  nodeId : Option String := none
  edgeId : Option String := none
  distance : Option Int := none
  priority : Int := 0
  rankScore : Int := 0
  tokenEstimate : Int := 0
  deriving DecidableEq, Repr

------------------------------------------------------------
-- Scores
------------------------------------------------------------

/- `_BASE_PRIORITY` -/
def basePriorities : List (String × Int) :=
  [(EdgeType.hasEntitlement.value, 100),
    (EdgeType.reviewedIn.value, 80),
    (EdgeType.remediatedBy.value, 80),
    (EdgeType.provisionedBy.value, 75),
    (EdgeType.managedBy.value, 70),
    (EdgeType.delegatedTo.value, 65),
    (EdgeType.memberOf.value, 60),
    (EdgeType.grantsAccessTo.value, 55),
    (EdgeType.auditedBy.value, 50),
    (EdgeType.connectedTo.value, 40),
    ("PATH_RESULT", 85),
    ("QUERY_RESULT", 45)]

/- `_INTENT_BOOSTS.get(intent, {})` -/
def intentBoosts : IntentType → List (String × Int)
  | .explainAccess =>
      [(EdgeType.hasEntitlement.value, 25),
        (EdgeType.grantsAccessTo.value, 15),
        (EdgeType.memberOf.value, 10)]
  | .accessGap =>
      [("PATH_RESULT", 30),
        (EdgeType.grantsAccessTo.value, 15),
        (EdgeType.hasEntitlement.value, 15)]
  | .provisioning =>
      [(EdgeType.provisionedBy.value, 35),
        ("ProvisioningJob", 25),
        ("ProvisioningHistory", 25)]
  | .remediation =>
      [(EdgeType.remediatedBy.value, 35),
        ("RemediationJob", 25)]
  | .review =>
      [(EdgeType.reviewedIn.value, 35),
        ("ReviewItem", 25),
        ("CertificationCampaign", 20)]
  | .accessPath =>
      [("PATH_RESULT", 35),
        (EdgeType.hasEntitlement.value, 20),
        (EdgeType.grantsAccessTo.value, 20)]
  | .managerChain =>
      [(EdgeType.managedBy.value, 35), ("User", 10)]
  | .general => []

/- `item.relationship_type or item.evidence_type` -/
def AIEvidence.relation
    (item : AIEvidence) :
    String :=
  match item.relationshipType with
  | none => item.evidenceType
  | some relation =>
      if relation = "" then item.evidenceType else relation

/- `_priority_for` -/
def priorityFor
    (intent : IntentType)
    (item : AIEvidence) :
    Int :=
  let priority :=
    if item.priority = 0 then
      (basePriorities.lookup item.relation).getD 35
    else
      item.priority
  priority +
    ((intentBoosts intent).lookup item.relation).getD 0 +
    ((intentBoosts intent).lookup item.evidenceType).getD 0

/- The score of a distance in the graph. -/
def distanceScore : Option Int → Int
  | none => 0
  | some distance => max 0 (25 - distance * 5)

/- The score of evidence that says when it arose. -/
def timestampScore : Option Timestamp → Int
  | none => 0
  | some _ => 10

/- `_score_for` -/
def scoreFor
    (intent : IntentType)
    (item : AIEvidence) :
    Int :=
  priorityFor intent item + distanceScore item.distance +
    timestampScore item.timestamp

------------------------------------------------------------
-- Ranking
------------------------------------------------------------

/- The copy of an item with its priority and rank score. -/
def ranked
    (intent : IntentType)
    (item : AIEvidence) :
    AIEvidence :=
  { item with
    priority := priorityFor intent item
    rankScore := scoreFor intent item }

/- The newest first; no timestamp comes last. -/
def timestampSortValue :
    Option Timestamp → WithTop Int
  | none => ⊤
  | some timestamp => ((-timestamp : Int) : WithTop Int)

/- The key by which ranked evidence is sorted. -/
def sortKey
    (item : AIEvidence) :
    Int ×ₗ WithTop Int ×ₗ String ×ₗ String ×ₗ String :=
  toLex (-item.rankScore,
    toLex (timestampSortValue item.timestamp,
      toLex (item.reference, toLex (item.title, item.id))))

def rankEvidence
    (evidence : List AIEvidence)
    (intent : IntentType) :
    List AIEvidence :=
  (evidence.map (ranked intent)).insertionSort
    fun a b => sortKey a ≤ sortKey b

theorem rankEvidence_perm
    (evidence : List AIEvidence)
    (intent : IntentType) :
    (rankEvidence evidence intent).Perm
      (evidence.map (ranked intent)) :=
  List.perm_insertionSort _ _

end Ai

end AccessIQ
