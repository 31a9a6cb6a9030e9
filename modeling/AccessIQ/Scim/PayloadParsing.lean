import AccessIQ.Scim.UserPayloads

/-
  What the parsers of the SCIM user payloads return.

  A payload is turned into a mutation of plain strings, or
  refused with status 400, as long as its manager value is
  read for what it is: `int` truncates a fraction, takes a
  boolean for a number, and raises an `OverflowError` on an
  infinite number, which nothing catches.

  Key definitions include:
    * `Parses`
    * `ManagerDenotes`
    * `MisreadManager`
    * `InfiniteManager`

  Key theorems include:
    * `parseManagerValue_read`
    * `parseEnterpriseProfile_cases`
    * `parseUserPayload_parses_iff`
-/

------------------------------------------------------------
-- Strings
------------------------------------------------------------

namespace AccessIQ

namespace Scim

open Python

/- Text that is not empty and has no whitespace around it. -/
def Trimmed
    (s : String) : Prop :=
  s ≠ "" ∧ strip s = s

/- Trimmed text of at most 100 characters. -/
def PlainText
    (s : String) : Prop :=
  Trimmed s ∧ s.length ≤ 100

/- An answer with status 400. -/
def BadRequest
    (e : PyException) : Prop :=
  ∃ detail scimType, e = .scim ⟨400, detail, scimType⟩

theorem badRequest_invalidPayload
    (detail : String) :
    BadRequest (invalidPayload detail) :=
  ⟨detail, some "invalidValue", rfl⟩

theorem badRequest_invalidPath
    (detail : String) :
    BadRequest (invalidPath detail) :=
  ⟨detail, some "invalidPath", rfl⟩

theorem not_badRequest_overflowError :
    ¬ BadRequest .overflowError := by
  intro hBad
  rcases hBad with ⟨detail, scimType, hEq⟩
  cases hEq

/- A parser returns something good, or answers with 400. -/
inductive Parses
    {α : Type}
    (good : α → Prop) :
    Except PyException α → Prop
  | ok
      (a : α)
      (hGood : good a) :
      Parses good (.ok a)
  | refused
      (e : PyException)
      (hBad : BadRequest e) :
      Parses good (.error e)

theorem Parses.cases
    {α : Type}
    {good : α → Prop}
    {parsed : Except PyException α}
    (hParses : Parses good parsed) :
    (∃ a, parsed = .ok a ∧ good a) ∨
      ∃ e, parsed = .error e ∧ BadRequest e := by
  cases hParses with
  | ok a hGood => exact Or.inl ⟨a, rfl, hGood⟩
  | refused e hBad => exact Or.inr ⟨e, rfl, hBad⟩

theorem parseDisplayNameValue_parses
    (value : Json) :
    Parses PlainText (parseDisplayNameValue value) := by
  unfold parseDisplayNameValue
  split
  · rename_i s
    by_cases hEmpty : strip s = ""
    · rw [if_pos hEmpty]
      exact .refused _ (badRequest_invalidPayload _)
    · rw [if_neg hEmpty]
      by_cases hLong : 100 < (strip s).length
      · rw [if_pos hLong]
        exact .refused _ (badRequest_invalidPayload _)
      · rw [if_neg hLong]
        apply Parses.ok
        exact ⟨⟨hEmpty, strip_strip s⟩, by omega⟩
  · exact .refused _ (badRequest_invalidPayload _)

theorem parseDisplayName_parses
    (payload : JsonObject) :
    Parses PlainText (parseDisplayName payload) := by
  unfold parseDisplayName
  split
  · split
    · split
      · exact .refused _ (badRequest_invalidPayload _)
      · exact parseDisplayNameValue_parses _
    · exact .refused _ (badRequest_invalidPayload _)
  · exact parseDisplayNameValue_parses _

theorem parseActive_parses
    (value : Json) :
    Parses (fun _ => True) (parseActive value) := by
  unfold parseActive
  split
  · exact .ok _ trivial
  · exact .refused _ (badRequest_invalidPayload _)

theorem parseEnterpriseString_parses
    (key : String)
    (value : Json) :
    Parses (fun parsed => ∀ s, parsed = some s → PlainText s)
      (parseEnterpriseString key value) := by
  unfold parseEnterpriseString
  split
  · apply Parses.ok
    intro s hEq
    cases hEq
  · rename_i s
    by_cases hEmpty : strip s = ""
    · rw [if_pos hEmpty]
      exact .refused _ (badRequest_invalidPayload _)
    · rw [if_neg hEmpty]
      by_cases hLong : 100 < (strip s).length
      · rw [if_pos hLong]
        exact .refused _ (badRequest_invalidPayload _)
      · rw [if_neg hLong]
        apply Parses.ok
        intro t hEq
        cases hEq
        exact ⟨⟨hEmpty, strip_strip s⟩, by omega⟩
  · exact .refused _ (badRequest_invalidPayload _)

variable [Platform]

/- A validated address has text and no whitespace. -/
def EmailsHaveNoSpace : Prop :=
  ∀ s email,
    Platform.validateEmail s = some email →
      email ≠ "" ∧ ∀ c ∈ email.toList, isSpace c = false

/- Lowering leaves no text empty and adds no whitespace. -/
def LowerAddsNoSpace : Prop :=
  ∀ s,
    (s ≠ "" → Platform.lower s ≠ "") ∧
      ((∀ c ∈ s.toList, isSpace c = false) →
        ∀ c ∈ (Platform.lower s).toList, isSpace c = false)

theorem parseUserName_parses
    (hEmails : EmailsHaveNoSpace)
    (hLower : LowerAddsNoSpace)
    (value : Json) :
    Parses Trimmed (parseUserName value) := by
  unfold parseUserName
  split
  · rename_i s
    by_cases hEmpty : strip s = ""
    · rw [if_pos hEmpty]
      exact .refused _ (badRequest_invalidPayload _)
    · rw [if_neg hEmpty]
      split
      · rename_i email hEmail
        have hText := hEmails _ _ hEmail
        have hLowered := hLower email
        apply Parses.ok
        constructor
        · exact hLowered.1 hText.1
        · apply strip_of_not_isSpace
          exact hLowered.2 hText.2
      · exact .refused _ (badRequest_invalidPayload _)
  · exact .refused _ (badRequest_invalidPayload _)

end Scim

end AccessIQ

------------------------------------------------------------
-- Managers
------------------------------------------------------------

namespace AccessIQ

namespace Scim

open Python

/- A manager is an id, or an object with the id in `value`. -/
def managerIdOf : Json → Option Json
  | .object manager => JsonObject.get? manager "value"
  | value => some value

/-
  An integer, as a number or as one of its decimal strings.
  What counts as a decimal string is left open.
-/
inductive Denotes
    (decimal : String → Int → Prop) :
    Json → Int → Prop
  | int
      (n : Int) :
      Denotes decimal (.number (.int n)) n
  | float
      (q : Rat)
      (n : Int)
      (hWhole : q = n) :
      Denotes decimal (.number (.float q)) n
  | text
      (s : String)
      (n : Int)
      (hDecimal : decimal s n) :
      Denotes decimal (.string s) n

/- A manager value that denotes a user id exactly. -/
def ManagerDenotes
    (decimal : String → Int → Prop)
    (value : Json)
    (n : Int) : Prop :=
  ∃ id, managerIdOf value = some id ∧ Denotes decimal id n

/- An infinite number in place of a user id. -/
def InfiniteManager
    (value : Json) : Prop :=
  ∃ negative,
    managerIdOf value = some (.number (.infinity negative))

variable [Platform]

/-
  What `int` takes for a positive id that it does not denote:
  `true`, a fraction above one, and text that is read as an
  id without being a decimal string of it.
-/
inductive Misread
    (decimal : String → Int → Prop) :
    Json → Prop
  | true :
      Misread decimal (.bool true)
  | fraction
      (q : Rat)
      (hOne : 1 ≤ q)
      (hFraction : ∀ n : Int, q ≠ n) :
      Misread decimal (.number (.float q))
  | text
      (s : String)
      (n : Int)
      (hRead : parseInt s = some n)
      (hPositive : 1 ≤ n)
      (hNot : ¬ decimal s n) :
      Misread decimal (.string s)

def MisreadManager
    (decimal : String → Int → Prop)
    (value : Json) : Prop :=
  ∃ id, managerIdOf value = some id ∧ Misread decimal id

/- What comes of a manager value. -/
inductive ManagerRead
    (decimal : String → Int → Prop)
    (value : Json) :
    Except PyException (Option Int) → Prop
  | cleared
      (hFinite : ¬ InfiniteManager value)
      (hNot : ¬ MisreadManager decimal value) :
      ManagerRead decimal value (.ok none)
  | denoted
      (n : Int)
      (hPositive : 1 ≤ n)
      (hDenotes : ManagerDenotes decimal value n)
      (hFinite : ¬ InfiniteManager value)
      (hNot : ¬ MisreadManager decimal value) :
      ManagerRead decimal value (.ok (some n))
  | misread
      (n : Int)
      (hPositive : 1 ≤ n)
      (hNot : ¬ ManagerDenotes decimal value n)
      (hFinite : ¬ InfiniteManager value)
      (hMisread : MisreadManager decimal value) :
      ManagerRead decimal value (.ok (some n))
  | infinite
      (hInfinite : InfiniteManager value) :
      ManagerRead decimal value (.error .overflowError)
  | refused
      (e : PyException)
      (hBad : BadRequest e)
      (hFinite : ¬ InfiniteManager value)
      (hNot : ¬ MisreadManager decimal value) :
      ManagerRead decimal value (.error e)

omit [Platform] in
/- Above zero, `int` of a float is its floor. -/
theorem tdiv_eq_floor
    {q : Rat}
    (hNonneg : 0 ≤ q) :
    q.num.tdiv q.den = ⌊q⌋ := by
  have hNum : 0 ≤ q.num := Rat.num_nonneg.mpr hNonneg
  rw [Int.tdiv_eq_ediv_of_nonneg hNum, Rat.floor_def']

omit [Platform] in
/- `int` makes a positive id of the floats from one on. -/
theorem one_le_tdiv_iff
    (q : Rat) :
    1 ≤ q.num.tdiv q.den ↔ 1 ≤ q := by
  by_cases hNonneg : 0 ≤ q
  · rw [tdiv_eq_floor hNonneg, Int.le_floor, Int.cast_one]
  · have hNum : q.num ≤ 0 := by
      have hNegative := Rat.num_neg.mpr (not_le.mp hNonneg)
      omega
    have hDen : (0 : Int) < q.den := by
      exact_mod_cast q.den_pos
    have hLe := Int.tdiv_le_tdiv hDen hNum
    rw [Int.zero_tdiv] at hLe
    constructor
    · intro hOne
      omega
    · intro hOne
      exact absurd (le_trans zero_le_one hOne) hNonneg

/- What is misread is read as an id it does not denote. -/
theorem Misread.toInt_eq_ok
    {decimal : String → Int → Prop}
    {id : Json}
    (hMisread : Misread decimal id) :
    ∃ n,
      toInt id = .ok n ∧ 1 ≤ n ∧ ¬ Denotes decimal id n := by
  cases hMisread with
  | true =>
      refine ⟨1, rfl, le_refl 1, ?_⟩
      intro hDenotes
      cases hDenotes
  | fraction q hOne hFraction =>
      refine ⟨_, rfl, (one_le_tdiv_iff q).mpr hOne, ?_⟩
      intro hDenotes
      cases hDenotes with
      | float _ _ hWhole => exact hFraction _ hWhole
  | text s n hRead hPositive hNot =>
      refine ⟨n, ?_, hPositive, ?_⟩
      · simp only [toInt, hRead]
      · intro hDenotes
        cases hDenotes with
        | text _ _ hDecimal => exact hNot hDecimal

/- A positive id is denoted, or misread. -/
theorem denotes_or_misread
    (decimal : String → Int → Prop)
    {id : Json}
    {n : Int}
    (hInt : toInt id = .ok n)
    (hPositive : 1 ≤ n) :
    Denotes decimal id n ∨ Misread decimal id := by
  cases id with
  | null => cases hInt
  | bool b =>
      cases b with
      | false =>
          cases hInt
          exact absurd hPositive (by decide)
      | true => exact Or.inr .true
  | number number =>
      cases number with
      | int m =>
          cases hInt
          exact Or.inl (.int n)
      | float q =>
          cases hInt
          have hOne := (one_le_tdiv_iff q).mp hPositive
          have hFloor := tdiv_eq_floor
            (le_trans zero_le_one hOne)
          by_cases hWhole : ∃ m : Int, q = m
          · left
            rcases hWhole with ⟨m, hWhole⟩
            apply Denotes.float
            rw [hFloor, hWhole, Int.floor_intCast]
          · right
            apply Misread.fraction q hOne
            intro m hEq
            exact hWhole ⟨m, hEq⟩
      | infinity negative => cases hInt
      | nan => cases hInt
  | string s =>
      cases hRead : parseInt s with
      | none =>
          simp only [toInt, hRead] at hInt
          cases hInt
      | some m =>
          simp only [toInt, hRead] at hInt
          cases hInt
          by_cases hDecimal : decimal s n
          · exact Or.inl (.text s n hDecimal)
          · exact Or.inr (.text s n hRead hPositive hDecimal)
  | array elements => cases hInt
  | object members => cases hInt

/- Only an infinite number overflows. -/
theorem toInt_eq_overflowError_iff
    (id : Json) :
    toInt id = .error .overflowError ↔
      ∃ negative, id = .number (.infinity negative) := by
  constructor
  · intro hInt
    cases id with
    | null => cases hInt
    | bool b => cases hInt
    | number number =>
        cases number with
        | int m => cases hInt
        | float q => cases hInt
        | infinity negative => exact ⟨negative, rfl⟩
        | nan => cases hInt
    | string s =>
        cases hRead : parseInt s with
        | none =>
            simp only [toInt, hRead] at hInt
            cases hInt
        | some m =>
            simp only [toInt, hRead] at hInt
            cases hInt
    | array elements => cases hInt
    | object members => cases hInt
  · rintro ⟨negative, rfl⟩
    rfl

theorem misreadManager_iff
    (decimal : String → Int → Prop)
    {value id : Json}
    (hId : managerIdOf value = some id) :
    MisreadManager decimal value ↔ Misread decimal id := by
  unfold MisreadManager
  rw [hId]
  simp

omit [Platform] in
theorem managerDenotes_iff
    (decimal : String → Int → Prop)
    {value id : Json}
    (hId : managerIdOf value = some id)
    (n : Int) :
    ManagerDenotes decimal value n ↔
      Denotes decimal id n := by
  unfold ManagerDenotes
  rw [hId]
  simp

omit [Platform] in
theorem infiniteManager_iff
    {value id : Json}
    (hId : managerIdOf value = some id) :
    InfiniteManager value ↔
      ∃ negative, id = .number (.infinity negative) := by
  unfold InfiniteManager
  rw [hId]
  simp

theorem parseManagerId_read
    (decimal : String → Int → Prop)
    {value id : Json}
    (hId : managerIdOf value = some id) :
    ManagerRead decimal value (parseManagerId id) := by
  have hMisread := misreadManager_iff decimal hId
  have hDenotes := managerDenotes_iff decimal hId
  have hInfinite := infiniteManager_iff hId
  rw [← toInt_eq_overflowError_iff] at hInfinite
  have hBad : BadRequest invalidManager :=
    badRequest_invalidPayload _
  unfold parseManagerId
  cases hInt : toInt id with
  | ok n =>
      have hFinite : ¬ InfiniteManager value := by
        rw [hInfinite, hInt]
        intro hEq
        cases hEq
      by_cases hPositive : n < 1
      · simp only [if_pos hPositive]
        apply ManagerRead.refused _ hBad hFinite
        rw [hMisread]
        intro hWrong
        rcases hWrong.toInt_eq_ok with ⟨m, hm, hOne, -⟩
        cases hInt.symm.trans hm
        omega
      · simp only [if_neg hPositive]
        have hOne : 1 ≤ n := by omega
        by_cases hWrong : Misread decimal id
        · apply ManagerRead.misread n hOne
          · rw [hDenotes]
            rcases hWrong.toInt_eq_ok with ⟨m, hm, -, hNot⟩
            cases hInt.symm.trans hm
            exact hNot
          · exact hFinite
          · exact hMisread.mpr hWrong
        · apply ManagerRead.denoted n hOne
          · rw [hDenotes]
            have hOr := denotes_or_misread decimal hInt hOne
            exact hOr.resolve_right hWrong
          · exact hFinite
          · rw [hMisread]
            exact hWrong
  | error e =>
      have hNot : ¬ MisreadManager decimal value := by
        rw [hMisread]
        intro hWrong
        rcases hWrong.toInt_eq_ok with ⟨m, hm, -⟩
        cases hInt.symm.trans hm
      cases e with
      | overflowError => exact .infinite (hInfinite.mpr hInt)
      | typeError =>
          apply ManagerRead.refused _ hBad _ hNot
          rw [hInfinite, hInt]
          intro hEq
          cases hEq
      | valueError =>
          apply ManagerRead.refused _ hBad _ hNot
          rw [hInfinite, hInt]
          intro hEq
          cases hEq

/- A manager value is read, or it is misread or infinite. -/
theorem parseManagerValue_read
    (decimal : String → Int → Prop)
    (value : Json) :
    ManagerRead decimal value (parseManagerValue value) := by
  unfold parseManagerValue
  split
  · apply ManagerRead.cleared
    · rintro ⟨negative, hId⟩
      cases hId
    · rintro ⟨id, hId, hMisread⟩
      cases hId
      cases hMisread
  · rename_i manager
    cases hGet : JsonObject.get? manager "value" with
    | none =>
        apply ManagerRead.refused _
          (badRequest_invalidPayload _)
        · rintro ⟨negative, hId⟩
          cases hGet.symm.trans hId
        · rintro ⟨id, hId, -⟩
          cases hGet.symm.trans hId
    | some id => exact parseManagerId_read decimal hGet
  · rename_i hNotObject
    apply parseManagerId_read decimal
    unfold managerIdOf
    split
    · exact absurd rfl (hNotObject _)
    · rfl

end Scim

end AccessIQ

------------------------------------------------------------
-- The Extension
------------------------------------------------------------

namespace AccessIQ

namespace Scim

open Python

/- The string attributes of the extension. -/
def enterpriseStrings : List String :=
  ["employeeNumber", "department", "division",
    "organization", "costCenter"]

/- The extension has no such string, or one that is taken. -/
def StringAccepted
    (extension : JsonObject)
    (key : String) : Prop :=
  ∀ value,
    JsonObject.get? extension key = some value →
      ∃ parsed, parseEnterpriseString key value = .ok parsed

def StringsAccepted
    (extension : JsonObject) : Prop :=
  ∀ key ∈ enterpriseStrings, StringAccepted extension key

/- The strings that a mutation of a profile sets. -/
def EnterpriseProfileMutation.strings
    (mutation : EnterpriseProfileMutation) :
    List (Option (Option String)) :=
  [mutation.employeeNumber, mutation.department,
    mutation.division, mutation.organization,
    mutation.costCenter]

def PlainProfile
    (mutation : EnterpriseProfileMutation) : Prop :=
  ∀ s, some (some s) ∈ mutation.strings → PlainText s

theorem parseAttribute_string
    (extension : JsonObject)
    (key : String) :
    (StringAccepted extension key ∧
      ∃ parsed,
        (∀ s, parsed = some (some s) → PlainText s) ∧
        parseAttribute extension key
          (parseEnterpriseString key) = .ok parsed) ∨
      (¬ StringAccepted extension key ∧
        ∃ e,
          BadRequest e ∧
          parseAttribute extension key
            (parseEnterpriseString key) = .error e) := by
  unfold parseAttribute StringAccepted
  cases hGet : JsonObject.get? extension key with
  | none =>
      left
      constructor
      · intro value hValue
        cases hValue
      · refine ⟨none, ?_, rfl⟩
        intro s hEq
        cases hEq
  | some value =>
      have hParses := parseEnterpriseString_parses key value
      cases hParsed : parseEnterpriseString key value with
      | ok parsed =>
          rw [hParsed] at hParses
          left
          constructor
          · intro value' hValue
            cases hValue
            exact ⟨parsed, hParsed⟩
          · refine ⟨some parsed, ?_, ?_⟩
            · intro s hEq
              cases hParses with
              | ok _ hGood =>
                  exact hGood s (Option.some.inj hEq)
            · simp only [hParsed]
              rfl
      | error e =>
          rw [hParsed] at hParses
          right
          constructor
          · intro hAccepted
            rcases hAccepted value rfl with ⟨parsed, hOk⟩
            cases hParsed.symm.trans hOk
          · refine ⟨e, ?_, ?_⟩
            · cases hParses with
              | refused _ hBad => exact hBad
            · simp only [hParsed]
              rfl

variable [Platform]

/-
  The strings of an extension come first: one of them is
  refused, or the manager is read.
-/
theorem parseEnterpriseProfile_cases
    (extension : JsonObject) :
    (StringsAccepted extension ∧
      ∃ mutation,
        PlainProfile mutation ∧
        parseEnterpriseProfile extension =
          (parseAttribute extension "manager"
            parseManagerValue).map
              fun managerId =>
                { mutation with managerId := managerId }) ∨
      (¬ StringsAccepted extension ∧
        ∃ e,
          BadRequest e ∧
          parseEnterpriseProfile extension = .error e) := by
  unfold parseEnterpriseProfile
  have hRefused :
      ∀ key ∈ enterpriseStrings,
        ¬ StringAccepted extension key →
          ¬ StringsAccepted extension :=
    fun key hKey hNot hAll => hNot (hAll key hKey)
  rcases parseAttribute_string extension "employeeNumber" with
    ⟨hNumber, employeeNumber, hNumberText, hEq⟩ |
      ⟨hNot, e, hBad, hEq⟩
  swap
  · exact Or.inr ⟨hRefused _ (by decide) hNot, e, hBad,
      by rw [hEq]; rfl⟩
  rw [hEq]
  rcases parseAttribute_string extension "department" with
    ⟨hDepartment, department, hDepartmentText, hEq⟩ |
      ⟨hNot, e, hBad, hEq⟩
  swap
  · exact Or.inr ⟨hRefused _ (by decide) hNot, e, hBad,
      by rw [hEq]; rfl⟩
  rw [hEq]
  rcases parseAttribute_string extension "division" with
    ⟨hDivision, division, hDivisionText, hEq⟩ |
      ⟨hNot, e, hBad, hEq⟩
  swap
  · exact Or.inr ⟨hRefused _ (by decide) hNot, e, hBad,
      by rw [hEq]; rfl⟩
  rw [hEq]
  rcases parseAttribute_string extension "organization" with
    ⟨hOrganization, organization, hOrganizationText, hEq⟩ |
      ⟨hNot, e, hBad, hEq⟩
  swap
  · exact Or.inr ⟨hRefused _ (by decide) hNot, e, hBad,
      by rw [hEq]; rfl⟩
  rw [hEq]
  rcases parseAttribute_string extension "costCenter" with
    ⟨hCenter, costCenter, hCenterText, hEq⟩ |
      ⟨hNot, e, hBad, hEq⟩
  swap
  · exact Or.inr ⟨hRefused _ (by decide) hNot, e, hBad,
      by rw [hEq]; rfl⟩
  rw [hEq]
  left
  constructor
  · intro key hKey
    simp only [enterpriseStrings, List.mem_cons,
      List.not_mem_nil, or_false] at hKey
    rcases hKey with rfl | rfl | rfl | rfl | rfl
    · exact hNumber
    · exact hDepartment
    · exact hDivision
    · exact hOrganization
    · exact hCenter
  · refine ⟨
      { employeeNumber := employeeNumber
        department := department
        division := division
        organization := organization
        costCenter := costCenter }, ?_, ?_⟩
    · intro s hMem
      simp only [EnterpriseProfileMutation.strings,
        List.mem_cons, List.not_mem_nil, or_false] at hMem
      rcases hMem with hMem | hMem | hMem | hMem | hMem
      · exact hNumberText s hMem.symm
      · exact hDepartmentText s hMem.symm
      · exact hDivisionText s hMem.symm
      · exact hOrganizationText s hMem.symm
      · exact hCenterText s hMem.symm
    · cases parseAttribute extension "manager"
        parseManagerValue with
      | ok managerId => rfl
      | error e => rfl

end Scim

end AccessIQ

------------------------------------------------------------
-- Create And Replace
------------------------------------------------------------

namespace AccessIQ

namespace Scim

open Python

/- A manager id that the manager value denotes. -/
def DenotesManager
    (decimal : String → Int → Prop)
    (manager : Option Json)
    (managerId : Option (Option Int)) : Prop :=
  ∀ n,
    managerId = some (some n) →
      1 ≤ n ∧
        ∃ value,
          manager = some value ∧
            ManagerDenotes decimal value n

/- The manager value of a payload. -/
def payloadManager : Json → Option Json
  | .object payload =>
      match JsonObject.get? payload scimSchemaEnterpriseUser
      with
      | some (.object extension) =>
          JsonObject.get? extension "manager"
      | _ => none
  | _ => none

/-
  A mutation of plain strings whose manager id the payload
  denotes.
-/
structure FaithfulPayload
    (decimal : String → Int → Prop)
    (payload : Json)
    (mutation : ScimUserPayload) : Prop where
  userName : Trimmed mutation.userName
  displayName : PlainText mutation.displayName
  profile :
    ∀ profile,
      mutation.enterpriseProfile = some profile →
        PlainProfile profile ∧
          DenotesManager decimal (payloadManager payload)
            profile.managerId

variable [Platform]

/-
  The parser comes to the manager value: all the attributes
  before it are there and accepted.
-/
inductive ComesToManager
    (activeDefault : Bool) :
    Json → Json → Prop
  | intro
      (payload extension : JsonObject)
      (value : Json)
      (hUserName :
        ∃ userName,
          parseUserName (getOrNull payload "userName") =
            .ok userName)
      (hDisplayName :
        ∃ displayName,
          parseDisplayName payload = .ok displayName)
      (hActive :
        ∃ active,
          parseActive
              ((JsonObject.get? payload "active").getD
                (.bool activeDefault)) =
            .ok active)
      (hExtension :
        JsonObject.get? payload scimSchemaEnterpriseUser =
          some (.object extension))
      (hStrings : StringsAccepted extension)
      (hManager :
        JsonObject.get? extension "manager" = some value) :
      ComesToManager activeDefault (.object payload) value

theorem ComesToManager.payloadManager_eq
    {activeDefault : Bool}
    {payload value : Json}
    (hComes : ComesToManager activeDefault payload value) :
    payloadManager payload = some value := by
  cases hComes with
  | intro payload extension _ _ _ _ hExtension _ hManager =>
      simp only [payloadManager, hExtension, hManager]

/-
  The parser of an object never comes to a manager value, or
  it does with all the rest accepted.
-/
inductive PayloadRead
    (decimal : String → Int → Prop)
    (activeDefault : Bool)
    (payload : JsonObject) : Prop
  | ended
      (hNever :
        ∀ value,
          ¬ ComesToManager activeDefault (.object payload)
            value)
      (hParses :
        Parses (FaithfulPayload decimal (.object payload))
          (parseUserPayload (.object payload) activeDefault))
  | manager
      (value : Json)
      (userName displayName : String)
      (active : Bool)
      (profile : EnterpriseProfileMutation)
      (hComes :
        ComesToManager activeDefault (.object payload) value)
      (hTrimmed : Trimmed userName)
      (hPlain : PlainText displayName)
      (hProfile : PlainProfile profile)
      (hEq :
        parseUserPayload (.object payload) activeDefault =
          (parseManagerValue value).map fun managerId =>
            { userName := userName
              displayName := displayName
              active := active
              enterpriseProfile :=
                some
                  { profile with
                    managerId := some managerId } })

/- The attributes before the extension are accepted. -/
structure AttributesRead
    (activeDefault : Bool)
    (payload : JsonObject)
    (userName displayName : String)
    (active : Bool) : Prop where
  trimmed : Trimmed userName
  plain : PlainText displayName
  userName :
    parseUserName (getOrNull payload "userName") =
      .ok userName
  displayName : parseDisplayName payload = .ok displayName
  active :
    parseActive
        ((JsonObject.get? payload "active").getD
          (.bool activeDefault)) =
      .ok active

section Reading

variable {decimal : String → Int → Prop}
variable {activeDefault : Bool}
variable {payload : JsonObject}

theorem payloadRead_of_refused
    {e : PyException}
    (hNever :
      ∀ value,
        ¬ ComesToManager activeDefault (.object payload)
          value)
    (hBad : BadRequest e)
    (hEq :
      parseUserPayload (.object payload) activeDefault =
        .error e) :
    PayloadRead decimal activeDefault payload := by
  apply PayloadRead.ended hNever
  rw [hEq]
  exact .refused e hBad

variable {userName displayName : String}
variable {active : Bool}
variable
  (hRead :
    AttributesRead activeDefault payload userName displayName
      active)

include hRead

/- What is left to parse is the extension. -/
theorem parseUserPayload_of_read :
    parseUserPayload (.object payload) activeDefault =
      (parseEnterpriseProfilePayload
          (JsonObject.get? payload
            scimSchemaEnterpriseUser)).map
        fun profile =>
          { userName := userName
            displayName := displayName
            active := active
            enterpriseProfile := profile } := by
  unfold parseUserPayload
  simp only [hRead.userName, hRead.displayName, hRead.active]
  cases parseEnterpriseProfilePayload
      (JsonObject.get? payload scimSchemaEnterpriseUser) with
  | ok profile => rfl
  | error e => rfl

/- An extension is refused, or its manager is all that is left. -/
theorem payloadRead_of_extension
    {extension : JsonObject}
    (hGet :
      JsonObject.get? payload scimSchemaEnterpriseUser =
        some (.object extension)) :
    PayloadRead decimal activeDefault payload := by
  have hParsed := parseUserPayload_of_read hRead
  rw [hGet] at hParsed
  rcases parseEnterpriseProfile_cases extension with
    ⟨hStrings, profile, hProfile, hEq⟩ | ⟨hNot, e, hBad, hEq⟩
  · simp only [parseEnterpriseProfilePayload, hEq,
      parseAttribute] at hParsed
    cases hManager :
        JsonObject.get? extension "manager" with
    | none =>
        apply PayloadRead.ended
        · intro value hComes
          cases hComes with
          | intro _ _ _ _ _ _ hExtension _ hValue =>
              cases hGet.symm.trans hExtension
              cases hManager.symm.trans hValue
        · rw [hParsed, hManager]
          apply Parses.ok
          refine ⟨hRead.trimmed, hRead.plain, ?_⟩
          intro profile' hEq'
          cases hEq'
          refine ⟨hProfile, ?_⟩
          intro n hId
          cases hId
    | some value =>
        simp only [hManager] at hParsed
        have hComes :=
          ComesToManager.intro payload extension value
            ⟨userName, hRead.userName⟩
            ⟨displayName, hRead.displayName⟩
            ⟨active, hRead.active⟩ hGet hStrings hManager
        apply PayloadRead.manager value userName displayName
          active profile hComes hRead.trimmed hRead.plain
          hProfile
        rw [hParsed]
        cases parseManagerValue value with
        | ok managerId => rfl
        | error e => rfl
  · apply payloadRead_of_refused _ hBad
    · rw [hParsed]
      simp only [parseEnterpriseProfilePayload, hEq]
      rfl
    · intro value hComes
      cases hComes with
      | intro _ _ _ _ _ _ hExtension hAccepted =>
          cases hGet.symm.trans hExtension
          exact hNot hAccepted

/- There is no extension, or it is an object, or refused. -/
theorem payloadRead_of_read :
    PayloadRead decimal activeDefault payload := by
  have hParsed := parseUserPayload_of_read hRead
  cases hGet : JsonObject.get? payload scimSchemaEnterpriseUser
    with
  | none =>
      rw [hGet] at hParsed
      apply PayloadRead.ended
      · intro value hComes
        cases hComes with
        | intro _ _ _ _ _ _ hExtension =>
            cases hGet.symm.trans hExtension
      · rw [hParsed]
        apply Parses.ok
        refine ⟨hRead.trimmed, hRead.plain, ?_⟩
        intro profile hProfile
        cases hProfile
  | some value =>
      rw [hGet] at hParsed
      cases value with
      | object extension =>
          exact payloadRead_of_extension hRead hGet
      | _ =>
          apply payloadRead_of_refused _
            (badRequest_invalidPayload _) hParsed
          intro value hComes
          cases hComes with
          | intro _ _ _ _ _ _ hExtension =>
              cases hGet.symm.trans hExtension

end Reading

/- A case for each attribute that may be refused first. -/
theorem parseUserPayload_cases
    (hEmails : EmailsHaveNoSpace)
    (hLower : LowerAddsNoSpace)
    (decimal : String → Int → Prop)
    (payload : JsonObject)
    (activeDefault : Bool) :
    PayloadRead decimal activeDefault payload := by
  rcases (parseUserName_parses hEmails hLower
      (getOrNull payload "userName")).cases with
    ⟨userName, hName, hTrimmed⟩ | ⟨e, hName, hBad⟩
  swap
  · apply payloadRead_of_refused _ hBad
    · unfold parseUserPayload
      simp only [hName]
      rfl
    · intro value hComes
      cases hComes with
      | intro _ _ _ hUserName =>
          rcases hUserName with ⟨userName, hOk⟩
          cases hName.symm.trans hOk
  rcases (parseDisplayName_parses payload).cases with
    ⟨displayName, hDisplay, hPlain⟩ | ⟨e, hDisplay, hBad⟩
  swap
  · apply payloadRead_of_refused _ hBad
    · unfold parseUserPayload
      simp only [hName, hDisplay]
      rfl
    · intro value hComes
      cases hComes with
      | intro _ _ _ _ hDisplayName =>
          rcases hDisplayName with ⟨displayName, hOk⟩
          cases hDisplay.symm.trans hOk
  rcases (parseActive_parses
      ((JsonObject.get? payload "active").getD
        (.bool activeDefault))).cases with
    ⟨active, hFlag, -⟩ | ⟨e, hFlag, hBad⟩
  swap
  · apply payloadRead_of_refused _ hBad
    · unfold parseUserPayload
      simp only [hName, hDisplay, hFlag]
      rfl
    · intro value hComes
      cases hComes with
      | intro _ _ _ _ _ hActive =>
          rcases hActive with ⟨active, hOk⟩
          cases hFlag.symm.trans hOk
  exact
    payloadRead_of_read
      ⟨hTrimmed, hPlain, hName, hDisplay, hFlag⟩

/-
  A create or replace payload is parsed faithfully or refused
  exactly if no manager value that the parser comes to is
  infinite or misread.
-/
theorem parseUserPayload_parses_iff
    (hEmails : EmailsHaveNoSpace)
    (hLower : LowerAddsNoSpace)
    (decimal : String → Int → Prop)
    (payload : Json)
    (activeDefault : Bool) :
    Parses (FaithfulPayload decimal payload)
        (parseUserPayload payload activeDefault) ↔
      ∀ value,
        ComesToManager activeDefault payload value →
          ¬ InfiniteManager value ∧
            ¬ MisreadManager decimal value := by
  cases payload with
  | object payload =>
      rcases parseUserPayload_cases hEmails hLower decimal
          payload activeDefault with
        ⟨hNever, hParses⟩ |
          ⟨value, userName, displayName, active, profile,
            hComes, hTrimmed, hPlain, hProfile, hEq⟩
      · constructor
        · intro _ value hComes
          exact absurd hComes (hNever value)
        · intro _
          exact hParses
      · have hManager := hComes.payloadManager_eq
        have hOnly :
            ∀ value',
              ComesToManager activeDefault (.object payload)
                  value' →
                value' = value := by
          intro value' hComes'
          have hManager' := hComes'.payloadManager_eq
          exact Option.some.inj
            (hManager'.symm.trans hManager)
        have hRead := parseManagerValue_read decimal value
        rw [hEq]
        generalize parseManagerValue value = parsed at hRead ⊢
        cases hRead with
        | cleared hFinite hNot =>
            constructor
            · intro _ value' hComes'
              cases hOnly value' hComes'
              exact ⟨hFinite, hNot⟩
            · intro _
              apply Parses.ok
              refine ⟨hTrimmed, hPlain, ?_⟩
              intro profile' hEq'
              cases hEq'
              refine ⟨hProfile, ?_⟩
              intro n hId
              cases hId
        | denoted n hPositive hDenotes hFinite hNot =>
            constructor
            · intro _ value' hComes'
              cases hOnly value' hComes'
              exact ⟨hFinite, hNot⟩
            · intro _
              apply Parses.ok
              refine ⟨hTrimmed, hPlain, ?_⟩
              intro profile' hEq'
              cases hEq'
              refine ⟨hProfile, ?_⟩
              intro m hId
              cases hId
              exact ⟨hPositive, value, hManager, hDenotes⟩
        | misread n hPositive hNot hFinite hMisread =>
            constructor
            · intro hParses
              rcases hParses.cases with
                ⟨mutation, hOk, hFaithful⟩ | ⟨e, hError, -⟩
              · cases hOk
                have hDenoted :=
                  (hFaithful.profile _ rfl).2 n rfl
                rcases hDenoted with
                  ⟨-, value', hManager', hDenotes⟩
                cases hManager.symm.trans hManager'
                exact absurd hDenotes hNot
              · cases hError
            · intro hFine
              exact absurd hMisread (hFine value hComes).2
        | infinite hInfinite =>
            constructor
            · intro hParses
              rcases hParses.cases with
                ⟨mutation, hOk, -⟩ | ⟨e, hError, hBad⟩
              · cases hOk
              · cases hError
                exact absurd hBad not_badRequest_overflowError
            · intro hFine
              exact absurd hInfinite (hFine value hComes).1
        | refused e hBad hFinite hNot =>
            constructor
            · intro _ value' hComes'
              cases hOnly value' hComes'
              exact ⟨hFinite, hNot⟩
            · intro _
              exact .refused e hBad
  | _ =>
      constructor
      · intro _ value hComes
        cases hComes
      · intro _
        exact .refused _ (badRequest_invalidPayload _)

end Scim

end AccessIQ
