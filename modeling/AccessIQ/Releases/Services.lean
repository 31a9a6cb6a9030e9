import AccessIQ.Store
import AccessIQ.Exceptions
import AccessIQ.Foundations.Pagination

/-
  The history of deployments.

  A deployment is recorded when the program starts, unless
  the newest record of the release is already one of it.  A
  record can be older than another of the same release, for
  its time may come from the settings; it is then not found
  again.

  What `datetime.fromisoformat` reads is a parameter.

  Key definitions include:
    * `ReleaseSettings`
    * `ReleaseDeployment`
    * `deploymentTime`
    * `findMatchingCurrentDeployment`
    * `recordCurrentDeployment`
    * `RecordsOnce`
    * `Recordable`

  Key theorems include:
    * `findMatching_eq_some_iff`
    * `recordsOnce_iff`
    * `record_current_deployment_once_iff`
-/

------------------------------------------------------------
-- Deployments
------------------------------------------------------------

namespace AccessIQ

namespace Releases

open Foundations Python

structure ReleaseSettings where
  releaseVersion : String
  environment : String
  gitSha : String
  gitTag : Option String := none
  buildTimestamp : Option String := none
  dockerImage : Option String := none
  imageDigest : Option String := none
  helmChartVersion : String := "0.1.0"
  helmRevision : Option String := none
  terraformVersion : Option String := none
  deploymentOperator : String := "unknown"
  deploymentStatus : String := "deployed"
  deployedAt : Option String := none
  deriving DecidableEq, Repr

structure ReleaseDeployment where
  id : Int
  environment : String
  deployedAt : Timestamp
  version : String
  gitSha : String
  gitTag : Option String
  buildTimestamp : Option String
  dockerImage : Option String
  imageDigest : Option String
  helmChartVersion : Option String
  helmRevision : Option String
  terraformVersion : Option String
  operator : String
  status : String
  deriving DecidableEq, Repr

instance : Row ReleaseDeployment where
  id d := d.id
  withId d n := { d with id := n }
  conflicts _ _ := false
  id_withId _ _ := rfl
  withId_id _ := rfl
  conflicts_comm _ _ := rfl
  conflicts_withId _ _ _ := rfl

@[simp] theorem row_id
    (d : ReleaseDeployment) :
    Row.id d = d.id :=
  rfl

end Releases

end AccessIQ

------------------------------------------------------------
-- The Time Of A Deployment
------------------------------------------------------------

namespace AccessIQ

namespace Releases

open Foundations Python

/- The instants from the year 1 to the year 9999. -/
def minInstant : Timestamp := -62135596800000000

def maxInstant : Timestamp := 253402300799999999

/- `parsed.astimezone(UTC)` of an aware datetime. -/
def astimezoneUtc
    (parsed : DateTime) :
    Except PyException DateTime :=
  if minInstant ≤ parsed.instant ∧
      parsed.instant ≤ maxInstant then
    .ok (DateTime.utc parsed.instant)
  else
    .error .overflowError

/- The text with an ending `Z` written as an offset. -/
def normalizeZulu
    (text : String) :
    String :=
  if text.toList.getLast? = some 'Z' then
    String.ofList text.toList.dropLast ++ "+00:00"
  else
    text

variable (fromisoformat : String → Option DateTime)

/- `_parse_datetime`. -/
def parseDatetime
    (value : Option String) :
    Except PyException (Option DateTime) :=
  match value with
  | none => .ok none
  | some value =>
      if strip value = "" then
        .ok none
      else
        match fromisoformat (normalizeZulu (strip value)) with
        | none => .ok none
        | some parsed =>
            match parsed.offset with
            | none => .ok (some (DateTime.utc parsed.wall))
            | some _ => (astimezoneUtc parsed).map some

/- `_deployment_time`. -/
def deploymentTime
    (settings : ReleaseSettings)
    (now : Timestamp) :
    Except PyException DateTime := do
  match ← parseDatetime fromisoformat settings.deployedAt with
  | some parsed => return parsed
  | none =>
      match ←
        parseDatetime fromisoformat
          settings.buildTimestamp with
      | some parsed => return parsed
      | none => return DateTime.utc now

end Releases

end AccessIQ

------------------------------------------------------------
-- Recording A Deployment
------------------------------------------------------------

namespace AccessIQ

namespace Releases

open Foundations Python

/- `_matches_optional`: nothing is the empty text. -/
def matchesOptional
    (left right : Option String) :
    Bool :=
  left.getD "" == right.getD ""

/- The condition of the query for the current deployment. -/
def ofRelease
    (settings : ReleaseSettings)
    (deployment : ReleaseDeployment) :
    Bool :=
  deployment.environment == settings.environment &&
    deployment.version == settings.releaseVersion &&
    deployment.gitSha == settings.gitSha &&
    deployment.status == settings.deploymentStatus &&
    deployment.operator == settings.deploymentOperator

/- `deployed_at DESC, id DESC`. -/
def newestFirst : SortKey ReleaseDeployment :=
  (SortKey.column (·.deployedAt)).descending.andThen
    (SortKey.column (·.id)).descending

/- What is compared once the newest candidate is loaded. -/
def matchesOptionals
    (settings : ReleaseSettings)
    (deployment : ReleaseDeployment) :
    Bool :=
  matchesOptional deployment.helmRevision
      settings.helmRevision &&
    matchesOptional deployment.dockerImage
      settings.dockerImage

/- `_find_matching_current_deployment`. -/
def findMatchingCurrentDeployment
    (settings : ReleaseSettings)
    (deployments : Table ReleaseDeployment) :
    Option ReleaseDeployment :=
  let candidates :=
    page 0 1
      (orderBy .stored newestFirst
        (deployments.rows.filter (ofRelease settings)))
  candidates.find? (matchesOptionals settings)

/- The deployment that the settings describe. -/
def newDeployment
    (dialect : Dialect)
    (settings : ReleaseSettings)
    (time : DateTime) :
    ReleaseDeployment where
  id := 0
  environment := settings.environment
  deployedAt := dialect.bindDateTime time
  version := settings.releaseVersion
  gitSha := settings.gitSha
  gitTag := settings.gitTag
  buildTimestamp := settings.buildTimestamp
  dockerImage := settings.dockerImage
  imageDigest := settings.imageDigest
  helmChartVersion := some settings.helmChartVersion
  helmRevision := settings.helmRevision
  terraformVersion := settings.terraformVersion
  operator := settings.deploymentOperator
  status := settings.deploymentStatus

/- A deployment breaks no unique constraint. -/
theorem fits
    (deployments : Table ReleaseDeployment)
    (deployment : ReleaseDeployment) :
    deployments.Fits deployment :=
  fun _ _ => rfl

/- `record_current_deployment`, at the time of the call. -/
def recordCurrentDeployment
    (fromisoformat : String → Option DateTime)
    (dialect : Dialect)
    (settings : ReleaseSettings)
    (now : Timestamp)
    (deployments : Table ReleaseDeployment) :
    Except PyException
      (ReleaseDeployment × Table ReleaseDeployment) :=
  match
    findMatchingCurrentDeployment settings deployments
  with
  | some existing => .ok (existing, deployments)
  | none =>
      (deploymentTime fromisoformat settings now).map
        fun time =>
          let deployment := newDeployment dialect settings time
          let policy := dialect.keyPolicy
          (Row.withId deployment (deployments.freshId policy),
            deployments.insert policy deployment
              (fits deployments deployment))

end Releases

end AccessIQ

------------------------------------------------------------
-- The Newest Record
------------------------------------------------------------

namespace AccessIQ

namespace Releases

open Foundations Python

variable {settings : ReleaseSettings}
variable {deployments : Table ReleaseDeployment}

/- The newest record of the release. -/
structure IsNewest
    (settings : ReleaseSettings)
    (deployments : Table ReleaseDeployment)
    (deployment : ReleaseDeployment) : Prop where
  stored : deployment ∈ deployments.rows
  release : ofRelease settings deployment = true
  newest :
    ∀ other ∈ deployments.rows,
      ofRelease settings other = true →
        other.deployedAt < deployment.deployedAt ∨
          (other.deployedAt = deployment.deployedAt ∧
            other.id ≤ deployment.id)

theorem le_newestFirst_iff
    (a b : ReleaseDeployment) :
    newestFirst.le a b = true ↔
      b.deployedAt < a.deployedAt ∨
        (b.deployedAt = a.deployedAt ∧ b.id ≤ a.id) := by
  simp only [newestFirst, SortKey.andThen,
    SortKey.descending, SortKey.column, Bool.or_eq_true,
    Bool.and_eq_true, Bool.not_eq_true',
    decide_eq_true_eq, decide_eq_false_iff_not, not_le]
  constructor
  · rintro (hLt | ⟨hLe, hId⟩)
    · exact Or.inl hLt
    · rcases lt_or_eq_of_le hLe with hLt | hEq
      · exact Or.inl hLt
      · exact Or.inr ⟨hEq, hId⟩
  · rintro (hLt | ⟨hEq, hId⟩)
    · exact Or.inl hLt
    · exact Or.inr ⟨le_of_eq hEq, hId⟩

theorem separates_newestFirst :
    newestFirst.Separates
      (deployments.rows.filter (ofRelease settings)) := by
  apply SortKey.separates_andThen
  apply SortKey.Separates.descending
  apply SortKey.separates_column
  intro a ha b hb hId
  exact deployments.eq_of_mem_of_id_eq
    (List.mem_filter.mp ha).1 (List.mem_filter.mp hb).1 hId

theorem candidate_eq_some_iff
    {deployment : ReleaseDeployment} :
    (orderBy .stored newestFirst
          (deployments.rows.filter
            (ofRelease settings))).head? =
        some deployment ↔
      IsNewest settings deployments deployment := by
  rw [head?_orderBy_eq_some_iff separates_newestFirst]
  constructor
  · rintro ⟨hMem, hNewest⟩
    rcases List.mem_filter.mp hMem with ⟨hRow, hRelease⟩
    refine ⟨hRow, hRelease, ?_⟩
    intro other hOther hOtherRelease
    apply (le_newestFirst_iff deployment other).mp
    exact hNewest other
      (List.mem_filter.mpr ⟨hOther, hOtherRelease⟩)
  · intro hNewest
    refine ⟨?_, ?_⟩
    · exact List.mem_filter.mpr
        ⟨hNewest.stored, hNewest.release⟩
    · intro other hOther
      rcases List.mem_filter.mp hOther with
        ⟨hRow, hRelease⟩
      apply (le_newestFirst_iff deployment other).mpr
      exact hNewest.newest other hRow hRelease

/- The search finds the newest record, if it matches. -/
theorem findMatching_eq_some_iff
    {deployment : ReleaseDeployment} :
    findMatchingCurrentDeployment settings deployments =
        some deployment ↔
      IsNewest settings deployments deployment ∧
        matchesOptionals settings deployment = true := by
  rw [← candidate_eq_some_iff]
  unfold findMatchingCurrentDeployment page
  cases orderBy .stored newestFirst
      (deployments.rows.filter (ofRelease settings)) with
  | nil => simp
  | cons first rest =>
      rw [List.drop_zero, List.take_succ_cons, List.take_zero,
        List.find?_singleton, List.head?_cons]
      by_cases hMatches :
          matchesOptionals settings first = true
      · rw [if_pos hMatches, Option.some_inj]
        constructor
        · rintro rfl
          exact ⟨rfl, hMatches⟩
        · exact And.left
      · rw [if_neg hMatches]
        constructor
        · intro hNone
          cases hNone
        · rintro ⟨hFirst, hOther⟩
          cases hFirst
          exact absurd hOther hMatches

theorem IsNewest.unique
    {a b : ReleaseDeployment}
    (ha : IsNewest settings deployments a)
    (hb : IsNewest settings deployments b) :
    a = b := by
  have ha := candidate_eq_some_iff.mpr ha
  rw [candidate_eq_some_iff.mpr hb] at ha
  exact (Option.some_inj.mp ha).symm

end Releases

end AccessIQ

------------------------------------------------------------
-- After A Deployment Is Inserted
------------------------------------------------------------

namespace AccessIQ

namespace Releases

open Foundations Python

variable {settings : ReleaseSettings}
variable {deployments : Table ReleaseDeployment}
variable {dialect : Dialect}
variable {time : DateTime}

/- The record that an insertion stores. -/
abbrev insertedDeployment
    (dialect : Dialect)
    (settings : ReleaseSettings)
    (time : DateTime)
    (deployments : Table ReleaseDeployment) :
    ReleaseDeployment :=
  Row.withId (newDeployment dialect settings time)
    (deployments.freshId dialect.keyPolicy)

/- The records after an insertion. -/
abbrev afterInsertion
    (dialect : Dialect)
    (settings : ReleaseSettings)
    (time : DateTime)
    (deployments : Table ReleaseDeployment) :
    Table ReleaseDeployment :=
  deployments.insert dialect.keyPolicy
    (newDeployment dialect settings time)
    (fits deployments _)

theorem ofRelease_inserted :
    ofRelease settings
        (insertedDeployment dialect settings time
          deployments) =
      true := by
  simp [ofRelease, insertedDeployment, newDeployment,
    Row.withId]

theorem matchesOptionals_inserted :
    matchesOptionals settings
        (insertedDeployment dialect settings time
          deployments) =
      true := by
  simp [matchesOptionals, matchesOptional,
    insertedDeployment, newDeployment, Row.withId]

/- No record of the release is newer than a time. -/
def NoneNewer
    (settings : ReleaseSettings)
    (deployments : Table ReleaseDeployment)
    (limit : Timestamp) : Prop :=
  ∀ deployment ∈ deployments.rows,
    ofRelease settings deployment = true →
      deployment.deployedAt ≤ limit

/- The new record is the newest, if none is newer. -/
theorem isNewest_inserted_iff :
    IsNewest settings
        (afterInsertion dialect settings time deployments)
        (insertedDeployment dialect settings time
          deployments) ↔
      NoneNewer settings deployments
        (dialect.bindDateTime time) := by
  constructor
  · intro hNewest deployment hMem hRelease
    have hOld :
        deployment ∈
          (afterInsertion dialect settings time
            deployments).rows :=
      (Table.mem_insert _ _ _).mpr (Or.inl hMem)
    rcases hNewest.newest deployment hOld hRelease with
      hLt | ⟨hEq, -⟩
    · exact le_of_lt hLt
    · exact le_of_eq hEq
  · intro hNone
    refine ⟨?_, ofRelease_inserted, ?_⟩
    · exact (Table.mem_insert _ _ _).mpr (Or.inr rfl)
    · intro other hOther hRelease
      rcases (Table.mem_insert _ _ _).mp hOther with
        hOld | rfl
      · have hLe := hNone other hOld hRelease
        have hId :=
          deployments.id_lt_freshId dialect.keyPolicy hOld
        rcases lt_or_eq_of_le hLe with hLt | hEq
        · exact Or.inl hLt
        · exact Or.inr ⟨hEq, le_of_lt hId⟩
      · exact Or.inr ⟨rfl, le_rfl⟩

end Releases

end AccessIQ

------------------------------------------------------------
-- Recording A Deployment Twice
------------------------------------------------------------

namespace AccessIQ

namespace Releases

open Foundations Python

variable {fromisoformat : String → Option DateTime}
variable {dialect : Dialect}
variable {settings : ReleaseSettings}
variable {now later : Timestamp}
variable {deployments : Table ReleaseDeployment}

theorem record_of_found
    {existing : ReleaseDeployment}
    (hFound :
      findMatchingCurrentDeployment settings deployments =
        some existing) :
    recordCurrentDeployment fromisoformat dialect settings
        now deployments =
      .ok (existing, deployments) := by
  unfold recordCurrentDeployment
  rw [hFound]

/- A call that finds nothing inserts, unless it overflows. -/
theorem record_eq_ok_iff_of_none
    (hNone :
      findMatchingCurrentDeployment settings deployments =
        none)
    {deployment : ReleaseDeployment}
    {after : Table ReleaseDeployment} :
    recordCurrentDeployment fromisoformat dialect settings
        now deployments =
        .ok (deployment, after) ↔
      ∃ time,
        deploymentTime fromisoformat settings now =
            .ok time ∧
          deployment =
            insertedDeployment dialect settings time
              deployments ∧
          after =
            afterInsertion dialect settings time
              deployments := by
  unfold recordCurrentDeployment
  rw [hNone]
  cases hTime :
      deploymentTime fromisoformat settings now with
  | error e =>
      constructor
      · intro hOk
        cases hOk
      · rintro ⟨time, hTime, -⟩
        cases hTime
  | ok time =>
      constructor
      · intro hOk
        cases hOk
        exact ⟨time, rfl, rfl, rfl⟩
      · rintro ⟨time', hTime', rfl, rfl⟩
        cases hTime'
        rfl

/-
  A record agrees with the settings, where `same` compares
  what either may leave out.
-/
structure AgreesWith
    (same : Option String → Option String → Prop)
    (settings : ReleaseSettings)
    (deployment : ReleaseDeployment) : Prop where
  environment : deployment.environment = settings.environment
  version : deployment.version = settings.releaseVersion
  gitSha : deployment.gitSha = settings.gitSha
  status : deployment.status = settings.deploymentStatus
  operator :
    deployment.operator = settings.deploymentOperator
  helmRevision :
    same deployment.helmRevision settings.helmRevision
  dockerImage :
    same deployment.dockerImage settings.dockerImage

/- Two calls return one record, and add it at most. -/
def RecordsOnce
    (same : Option String → Option String → Prop)
    (fromisoformat : String → Option DateTime)
    (dialect : Dialect)
    (settings : ReleaseSettings)
    (now later : Timestamp)
    (deployments : Table ReleaseDeployment) : Prop :=
  ∃ deployment after again,
    recordCurrentDeployment fromisoformat dialect settings
        now deployments =
      .ok (deployment, after) ∧
    recordCurrentDeployment fromisoformat dialect settings
        later after =
      .ok (deployment, again) ∧
    again.rows.length ≤ deployments.rows.length + 1 ∧
    AgreesWith same settings deployment

/-
  The newest record of the release matches, or none is newer
  than the deployment now recorded.
-/
def Recordable
    (fromisoformat : String → Option DateTime)
    (dialect : Dialect)
    (settings : ReleaseSettings)
    (now : Timestamp)
    (deployments : Table ReleaseDeployment) : Prop :=
  (∃ newest,
      IsNewest settings deployments newest ∧
        matchesOptionals settings newest = true) ∨
    ∃ time,
      deploymentTime fromisoformat settings now = .ok time ∧
        NoneNewer settings deployments
          (dialect.bindDateTime time)

/- The newest record, if it matches, is the same throughout. -/
def MatchesAre
    (same : Option String → Option String → Prop)
    (settings : ReleaseSettings)
    (deployments : Table ReleaseDeployment) : Prop :=
  ∀ newest,
    IsNewest settings deployments newest →
    matchesOptionals settings newest = true →
      same newest.helmRevision settings.helmRevision ∧
        same newest.dockerImage settings.dockerImage

variable {same : Option String → Option String → Prop}

theorem agreesWith_iff
    {deployment : ReleaseDeployment}
    (hRelease : ofRelease settings deployment = true) :
    AgreesWith same settings deployment ↔
      same deployment.helmRevision settings.helmRevision ∧
        same deployment.dockerImage settings.dockerImage := by
  simp only [ofRelease, Bool.and_eq_true, beq_iff_eq]
    at hRelease
  rcases hRelease with
    ⟨⟨⟨⟨hEnvironment, hVersion⟩, hSha⟩, hStatus⟩, hOperator⟩
  constructor
  · intro hAgrees
    exact ⟨hAgrees.helmRevision, hAgrees.dockerImage⟩
  · rintro ⟨hHelm, hDocker⟩
    exact
      ⟨hEnvironment, hVersion, hSha, hStatus, hOperator,
        hHelm, hDocker⟩

/- A record that is found is found again. -/
theorem recordsOnce_iff_of_found
    {existing : ReleaseDeployment}
    (hFound :
      findMatchingCurrentDeployment settings deployments =
        some existing) :
    RecordsOnce same fromisoformat dialect settings now
        later deployments ↔
      AgreesWith same settings existing := by
  constructor
  · rintro ⟨deployment, after, again, hFirst, -, -, hAgrees⟩
    rw [record_of_found hFound] at hFirst
    cases hFirst
    exact hAgrees
  · intro hAgrees
    exact
      ⟨existing, deployments, deployments,
        record_of_found hFound, record_of_found hFound,
        Nat.le_succ _, hAgrees⟩

/- A new record is found again, if none is newer. -/
theorem recordsOnce_of_noneNewer
    (hSame : ∀ value, same value value)
    (hNone :
      findMatchingCurrentDeployment settings deployments =
        none)
    {time : DateTime}
    (hTime :
      deploymentTime fromisoformat settings now = .ok time)
    (hNewer :
      NoneNewer settings deployments
        (dialect.bindDateTime time)) :
    RecordsOnce same fromisoformat dialect settings now
      later deployments := by
  have hFound :
      findMatchingCurrentDeployment settings
          (afterInsertion dialect settings time
            deployments) =
        some
          (insertedDeployment dialect settings time
            deployments) :=
    findMatching_eq_some_iff.mpr
      ⟨isNewest_inserted_iff.mpr hNewer,
        matchesOptionals_inserted⟩
  refine
    ⟨insertedDeployment dialect settings time deployments,
      afterInsertion dialect settings time deployments,
      afterInsertion dialect settings time deployments,
      ?_, record_of_found hFound, ?_, ?_⟩
  · exact (record_eq_ok_iff_of_none hNone).mpr
      ⟨time, hTime, rfl, rfl⟩
  · simp [afterInsertion, Table.insert]
  · exact (agreesWith_iff ofRelease_inserted).mpr
      ⟨hSame _, hSame _⟩

/- A new record is found again only if none is newer. -/
theorem noneNewer_of_recordsOnce
    (hNone :
      findMatchingCurrentDeployment settings deployments =
        none)
    (hOnce :
      RecordsOnce same fromisoformat dialect settings now
        later deployments) :
    ∃ time,
      deploymentTime fromisoformat settings now = .ok time ∧
        NoneNewer settings deployments
          (dialect.bindDateTime time) := by
  rcases hOnce with
    ⟨deployment, after, again, hFirst, hSecond, -, -⟩
  rcases (record_eq_ok_iff_of_none hNone).mp hFirst with
    ⟨time, hTime, rfl, rfl⟩
  refine ⟨time, hTime, ?_⟩
  cases hFound :
      findMatchingCurrentDeployment settings
        (afterInsertion dialect settings time
          deployments) with
  | some existing =>
      rw [record_of_found hFound] at hSecond
      cases hSecond
      exact isNewest_inserted_iff.mp
        (findMatching_eq_some_iff.mp hFound).1
  | none =>
      -- a second insertion takes a key of its own
      rcases (record_eq_ok_iff_of_none hFound).mp hSecond
        with ⟨time', -, hSame, -⟩
      have hStored :
          insertedDeployment dialect settings time
              deployments ∈
            (afterInsertion dialect settings time
              deployments).rows :=
        (Table.mem_insert _ _ _).mpr (Or.inr rfl)
      have hLt :=
        Table.id_lt_freshId dialect.keyPolicy _ hStored
      rw [hSame] at hLt
      exact absurd hLt (lt_irrefl _)

/- When two calls record the deployment once. -/
theorem recordsOnce_iff
    (hSame : ∀ value, same value value) :
    RecordsOnce same fromisoformat dialect settings now
        later deployments ↔
      Recordable fromisoformat dialect settings now
          deployments ∧
        MatchesAre same settings deployments := by
  cases hFound :
      findMatchingCurrentDeployment settings
        deployments with
  | some existing =>
      rcases findMatching_eq_some_iff.mp hFound with
        ⟨hNewest, hMatches⟩
      rw [recordsOnce_iff_of_found hFound,
        agreesWith_iff hNewest.release]
      constructor
      · intro hAgrees
        refine ⟨Or.inl ⟨existing, hNewest, hMatches⟩, ?_⟩
        intro newest hOther _
        rw [hOther.unique hNewest]
        exact hAgrees
      · rintro ⟨-, hAre⟩
        exact hAre existing hNewest hMatches
  | none =>
      have hNoMatch :
          ∀ newest,
            IsNewest settings deployments newest →
              matchesOptionals settings newest ≠ true := by
        intro newest hNewest hMatches
        have hSome :=
          findMatching_eq_some_iff.mpr ⟨hNewest, hMatches⟩
        rw [hFound] at hSome
        cases hSome
      constructor
      · intro hOnce
        refine ⟨Or.inr ?_, ?_⟩
        · exact noneNewer_of_recordsOnce hFound hOnce
        · intro newest hNewest hMatches
          exact absurd hMatches (hNoMatch newest hNewest)
      · rintro ⟨hRecordable, -⟩
        rcases hRecordable with
          ⟨newest, hNewest, hMatches⟩ | ⟨time, hTime, hNewer⟩
        · exact absurd hMatches (hNoMatch newest hNewest)
        · exact recordsOnce_of_noneNewer hSame hFound hTime
            hNewer

/-
  Two calls record the deployment once exactly when the
  newest record of the release matches the settings or none
  is newer than the deployment.  If nothing and the empty
  text are told apart, the newest record, where it matches,
  must have the revision and the image of the settings.
-/
theorem record_current_deployment_once_iff
    (fromisoformat : String → Option DateTime)
    (dialect : Dialect)
    (settings : ReleaseSettings)
    (now later : Timestamp)
    (deployments : Table ReleaseDeployment) :
    (RecordsOnce
          (fun left right =>
            matchesOptional left right = true)
          fromisoformat dialect settings now later
          deployments ↔
        Recordable fromisoformat dialect settings now
          deployments) ∧
      (RecordsOnce (fun left right => left = right)
          fromisoformat dialect settings now later
          deployments ↔
        Recordable fromisoformat dialect settings now
            deployments ∧
          MatchesAre (fun left right => left = right)
            settings deployments) := by
  refine ⟨?_, recordsOnce_iff fun _ => rfl⟩
  have hMatches :
      MatchesAre
        (fun left right =>
          matchesOptional left right = true)
        settings deployments := by
    intro newest _ hMatches
    simpa only [matchesOptionals, Bool.and_eq_true]
      using hMatches
  rw [recordsOnce_iff fun _ => by simp [matchesOptional]]
  exact and_iff_left hMatches

end Releases

end AccessIQ

------------------------------------------------------------
-- A Redeployed Revision
------------------------------------------------------------

namespace AccessIQ

namespace Releases

open Foundations Python

/- What `fromisoformat` reads of two texts. -/
def julyDates : String → Option DateTime
  | "2026-07-16T12:01:00+00:00" =>
      some ⟨1784203260000000, some 0⟩
  | "2026-07-16T12:05:00+00:00" =>
      some ⟨1784203500000000, some 0⟩
  | _ => none

/- The settings of one revision of a release. -/
def revisionSettings
    (helmRevision deployedAt : String) :
    ReleaseSettings where
  releaseVersion := "1.4.0"
  environment := "production"
  gitSha := "abc123def456"
  helmRevision := some helmRevision
  deployedAt := some deployedAt

/- The history after a deployment is recorded, or before. -/
def recorded
    (settings : ReleaseSettings)
    (deployments : Table ReleaseDeployment) :
    Table ReleaseDeployment :=
  match
    recordCurrentDeployment julyDates .postgresql settings 0
      deployments
  with
  | .error _ => deployments
  | .ok (_, after) => after

theorem recorded_of_ok
    {settings : ReleaseSettings}
    {deployments after : Table ReleaseDeployment}
    {deployment : ReleaseDeployment}
    (hOk :
      recordCurrentDeployment julyDates .postgresql settings
          0 deployments =
        .ok (deployment, after)) :
    recorded settings deployments = after := by
  unfold recorded
  rw [hOk]

/- The second revision was deployed four minutes later. -/
def secondRevision : Table ReleaseDeployment :=
  recorded
    (revisionSettings "2" "2026-07-16T12:05:00Z")
    .empty

/-
  The first revision, deployed before the second, is recorded
  again with every restart.
-/
theorem earlier_revision_recorded_again :
    let settings :=
      revisionSettings "1" "2026-07-16T12:01:00Z"
    let once := recorded settings secondRevision
    let twice := recorded settings once
    secondRevision.rows.map (·.helmRevision) = [some "2"] ∧
      once.rows.map (·.helmRevision) =
        [some "2", some "1"] ∧
      twice.rows.map (·.helmRevision) =
        [some "2", some "1", some "1"] ∧
      ¬ RecordsOnce
        (fun left right => matchesOptional left right = true)
        julyDates .postgresql settings 0 0 secondRevision := by
  intro settings once twice
  have hTwice : twice.rows.length = 3 := by
    decide +kernel
  have hRows : secondRevision.rows.length = 1 := by
    decide +kernel
  refine ⟨by decide +kernel, by decide +kernel,
    by decide +kernel, ?_⟩
  rintro ⟨deployment, after, again, hFirst, hSecond,
    hLength, -⟩
  have hOnce : once = after := recorded_of_ok hFirst
  rw [← hOnce] at hSecond
  have hAgain : twice = again := recorded_of_ok hSecond
  rw [← hAgain] at hLength
  omega

end Releases

end AccessIQ
