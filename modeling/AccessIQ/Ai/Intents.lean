import AccessIQ.Ai.Ranking
import AccessIQ.Python.Text

/-
  What a question asks for.

  A question is normalised to lower case letters, digits and
  single blanks.  Phrases found in it tell the intent, and a
  number after a label an id that the request leaves out.

  Key definitions include:
    * `AIContextRequest`
    * `normalizeQuestion`
    * `extractId`
    * `IntentClassification`
    * `classifyIntent`
-/

------------------------------------------------------------
-- Requests
------------------------------------------------------------

namespace AccessIQ

namespace Ai

open Python AccessIQ.Graph

/- `IntentType.value` -/
def IntentType.value : IntentType → String
  | .explainAccess => "explain_access"
  | .accessGap => "access_gap"
  | .provisioning => "provisioning"
  | .remediation => "remediation"
  | .review => "review"
  | .accessPath => "access_path"
  | .managerChain => "manager_chain"
  | .general => "general"

/- A request as its validation lets it through. -/
structure AIContextRequest where
  question : String
  userId : Option Int := none
  applicationId : Option Int := none
  entitlementId : Option Int := none
  sourceType : Option NodeType := none
  sourceId : Option String := none
  targetType : Option NodeType := none
  targetId : Option String := none
  maxTokens : Nat := 1200
  question_length :
    1 ≤ question.length ∧ question.length ≤ 1000
  maxTokens_range : 50 ≤ maxTokens ∧ maxTokens ≤ 8000

/- What the classifier tells; the confidence in percent. -/
structure IntentClassification where
  intent : IntentType
  confidence : Nat
  matchedRules : List String
  normalizedQuestion : String
  userId : Option Int
  applicationId : Option Int
  entitlementId : Option Int
  deriving DecidableEq, Repr

end Ai

end AccessIQ

------------------------------------------------------------
-- Normalised Questions
------------------------------------------------------------

namespace AccessIQ

namespace Ai

open Python

/- `text.replace("'", "")` -/
def withoutApostrophes
    (text : String) :
    String :=
  String.ofList (text.toList.filter (· ≠ '\''))

/- What `_PUNCTUATION` does not match. -/
def isPlain
    (c : Char) :
    Bool :=
  c.isLower || c.isDigit || isSpace c || c == '#' ||
    c == '_' || c == '-'

/- `_WHITESPACE.sub(" ", ...)`: a blank for each run. -/
def collapseSpaces :
    List Char → List Char
  | [] => []
  | c :: rest =>
      if isSpace c then
        match collapseSpaces rest with
        | ' ' :: others => ' ' :: others
        | others => ' ' :: others
      else
        c :: collapseSpaces rest

def normalizeQuestion
    [Platform]
    (question : String) :
    String :=
  let lowered := Platform.lower (strip question)
  let withoutPunctuation :=
    (withoutApostrophes lowered).toList.map fun c =>
      if isPlain c then c else ' '
  strip (String.ofList (collapseSpaces withoutPunctuation))

/- `needle in value` -/
def containsText
    (value needle : String) :
    Bool :=
  value.toList.tails.any needle.toList.isPrefixOf

/- `_contains_any` -/
def containsAny
    (value : String)
    (needles : List String) :
    Bool :=
  needles.any fun needle =>
    containsText value (withoutApostrophes needle)

end Ai

end AccessIQ

------------------------------------------------------------
-- Ids In Questions
------------------------------------------------------------

namespace AccessIQ

namespace Ai

open Python

/- The characters of `\w` in a normalised question. -/
def isWord
    (c : Char) :
    Bool :=
  c.isAlphanum || c == '_'

/- The value of decimal digits. -/
def digitsValue
    (digits : List Char) :
    Int :=
  digits.foldl
    (fun value c => 10 * value + (c.toNat - '0'.toNat : Nat))
    0

/-
  `\s+#?(\d+)\b` at the beginning of a text: no part of it
  can match in two ways, so nothing is tried again.
-/
def matchNumber
    (text : List Char) :
    Option Int :=
  match text.span isSpace with
  | ([], _) => none
  | (_, rest) =>
      let rest :=
        match rest with
        | '#' :: others => others
        | others => others
      match rest.span Char.isDigit with
      | ([], _) => none
      | (digits, others) =>
          if others.head?.any isWord then
            none
          else
            some (digitsValue digits)

/- `\b{label}\s+#?(\d+)\b` after some other character. -/
def matchLabel
    (label : List Char)
    (before : Option Char)
    (text : List Char) :
    Option Int :=
  if before.any isWord then
    none
  else if label.isPrefixOf text then
    matchNumber (text.drop label.length)
  else
    none

/- The first match from some character on. -/
def searchLabel
    (label : List Char) :
    Option Char → List Char → Option Int
  | before, [] => matchLabel label before []
  | before, c :: rest =>
      match matchLabel label before (c :: rest) with
      | some id => some id
      | none => searchLabel label (some c) rest

/- `_extract_id` -/
def extractId
    (value label : String) :
    Option Int :=
  searchLabel label.toList none value.toList

/- `id or other`: zero is no id. -/
def orId
    (id other : Option Int) :
    Option Int :=
  match id with
  | none => other
  | some id => if id = 0 then other else some id

end Ai

end AccessIQ

------------------------------------------------------------
-- Classification
------------------------------------------------------------

namespace AccessIQ

namespace Ai

open Python

def accessGapPhrases : List String :=
  ["cant access", "can't access", "cannot access",
    "can not access", "why cant", "why can't",
    "access denied", "does not have access",
    "doesnt have access"]

def explainAccessPhrases : List String :=
  ["why does", "why do", "why has", "why have",
    "has access", "have access", "explain access"]

/- The intent, the confidence and the rule that matched. -/
def matchIntent
    (normalized : String) :
    IntentType × Nat × String :=
  if containsAny normalized accessGapPhrases then
    (.accessGap, 95, "access_gap_phrase")
  else if containsAny normalized
      ["access path", "show path", "shortest path"] then
    (.accessPath, 95, "access_path_phrase")
  else if containsAny normalized
      ["manager chain", "management chain"] then
    (.managerChain, 95, "manager_chain_phrase")
  else if containsText normalized "provision" then
    (.provisioning, 90, "provisioning_keyword")
  else if containsText normalized "remediat" then
    (.remediation, 90, "remediation_keyword")
  else if containsAny normalized
      ["review", "certification", "certify"] then
    (.review, 90, "review_keyword")
  else if containsAny normalized explainAccessPhrases then
    (.explainAccess, 85, "explain_access_phrase")
  else
    (.general, 55, "fallback_general")

def classifyIntent
    [Platform]
    (request : AIContextRequest) :
    IntentClassification :=
  let normalized := normalizeQuestion request.question
  let (intent, confidence, rule) := matchIntent normalized
  { intent := intent
    confidence := confidence
    matchedRules := [rule]
    normalizedQuestion := normalized
    userId :=
      orId request.userId (extractId normalized "user")
    applicationId :=
      orId request.applicationId
        (orId (extractId normalized "application")
          (extractId normalized "app"))
    entitlementId :=
      orId request.entitlementId
        (extractId normalized "entitlement") }

end Ai

end AccessIQ

------------------------------------------------------------
-- A Question
------------------------------------------------------------

namespace AccessIQ

namespace Ai

open Python

attribute [local instance] asciiPlatform

example :
    normalizeQuestion "  Why can't User #12 access\tApp 2?" =
      "why cant user #12 access app 2" := by
  decide +kernel

example :
    (classifyIntent
        { question := "Why can't User #12 access App 2?"
          question_length := by decide
          maxTokens_range := by decide }) =
      { intent := .accessGap
        confidence := 95
        matchedRules := ["access_gap_phrase"]
        normalizedQuestion :=
          "why cant user #12 access app 2"
        userId := some 12
        applicationId := some 2
        entitlementId := none } := by
  decide +kernel

end Ai

end AccessIQ
