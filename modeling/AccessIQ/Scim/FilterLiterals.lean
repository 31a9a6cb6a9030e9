import AccessIQ.Scim.QuotedStrings

/-
  Filters take their values literally.

  A filter text is read into its attribute, its operator and
  the text its JSON string stands for, with any whitespace
  around them, and the `LIKE` pattern made of a text matches
  what contains that text.  The database folds characters one
  by one, which is proved of SQLite and assumed of another.

  Key definitions include:
    * `IsBlank`
    * `FoldsCharacters`

  Key theorems include:
    * `matchFilterPattern_of_parts`
    * `isLike_contains_iff`
    * `ilike_escaped_iff`
    * `filter_values_literal`
-/

------------------------------------------------------------
-- Parts Of A Filter
------------------------------------------------------------

namespace AccessIQ

namespace Scim

open Python

/- Nothing but whitespace. -/
def IsBlank
    (cs : List Char) : Prop :=
  ∀ c ∈ cs, isSpace c = true

instance
    (cs : List Char) :
    Decidable (IsBlank cs) :=
  List.decidableBAll (fun c => isSpace c = true) cs

/- Some whitespace, and nothing else. -/
structure Separates
    (cs : List Char) : Prop where
  blank : IsBlank cs
  nonempty : cs ≠ []

theorem not_isAttributeChar_of_isSpace
    {c : Char}
    (hSpace : isSpace c = true) :
    isAttributeChar c = false := by
  have hVal : c.val.toNat = c.toNat := rfl
  by_contra hAttribute
  rw [Bool.not_eq_false] at hAttribute
  unfold isSpace at hSpace
  unfold isAttributeChar at hAttribute
  simp only [Bool.or_eq_true, Bool.and_eq_true,
    decide_eq_true_iff, beq_iff_eq] at hSpace hAttribute
  rcases hAttribute with (((hAlphanum | rfl) | rfl) | rfl) | rfl
  · unfold Char.isAlphanum Char.isAlpha Char.isUpper
      Char.isLower Char.isDigit at hAlphanum
    simp only [Bool.or_eq_true, Bool.and_eq_true,
      decide_eq_true_iff, UInt32.le_iff_toNat_le, ge_iff_le,
      hVal] at hAlphanum
    simp at hAlphanum
    omega
  · revert hSpace
    decide
  · revert hSpace
    decide
  · revert hSpace
    decide
  · revert hSpace
    decide

theorem not_isAlpha_of_isSpace
    {c : Char}
    (hSpace : isSpace c = true) :
    c.isAlpha = false := by
  have hNot := not_isAttributeChar_of_isSpace hSpace
  unfold isAttributeChar Char.isAlphanum at hNot
  simp only [Bool.or_eq_false_iff] at hNot
  exact hNot.1.1.1.1.1

/- A token ends at the whitespace that follows it. -/
theorem token_append
    {p : Char → Bool}
    {token rest : List Char}
    (hToken : ∀ c ∈ token, p c = true)
    (hSpace : ∀ c, isSpace c = true → p c = false)
    (hRest : ∀ c ∈ rest.head?, isSpace c = true) :
    (token ++ rest).takeWhile p = token ∧
      (token ++ rest).dropWhile p = rest := by
  rw [List.takeWhile_append_of_pos hToken,
    List.dropWhile_append_of_pos hToken]
  cases rest with
  | nil => simp
  | cons c cs =>
      have hStop := hSpace c (hRest c rfl)
      simp [hStop]

theorem dropWhile_blank
    {blank rest : List Char}
    (hBlank : IsBlank blank)
    (hRest : ∀ c ∈ rest.head?, isSpace c = false) :
    (blank ++ rest).dropWhile isSpace = rest := by
  rw [List.dropWhile_append_of_pos hBlank]
  cases rest with
  | nil => rfl
  | cons c cs => simp [hRest c rfl]

theorem head?_append_separates
    {separator rest : List Char}
    (hSeparator : Separates separator) :
    ∀ c ∈ (separator ++ rest).head?, isSpace c = true := by
  intro c hc
  cases separator with
  | nil => exact absurd rfl hSeparator.nonempty
  | cons d ds =>
      cases hc
      exact hSeparator.blank c List.mem_cons_self

theorem afterToken_separates
    {separator rest : List Char}
    (hSeparator : Separates separator) :
    afterToken (separator ++ rest) =
      some (separator ++ rest) := by
  have hHead := @head?_append_separates _ rest hSeparator
  cases hCs : separator ++ rest with
  | nil =>
      exact absurd (List.append_eq_nil_iff.mp hCs).1
        hSeparator.nonempty
  | cons c cs =>
      rw [hCs] at hHead
      unfold afterToken
      simp only
      rw [if_pos (hHead c rfl)]

/-
  A value on one line, that begins and ends with something
  other than whitespace.
-/
structure IsValue
    (cs : List Char) : Prop where
  first : ∃ c, cs.head? = some c ∧ isSpace c = false
  last : ∃ c, cs.getLast? = some c ∧ isSpace c = false
  line : '\n' ∉ cs

theorem rdropWhile_blank
    {value blank : List Char}
    (hValue : IsValue value)
    (hBlank : IsBlank blank) :
    (value ++ blank).rdropWhile isSpace = value := by
  unfold List.rdropWhile
  rw [List.reverse_append]
  have hReversed : IsBlank blank.reverse := by
    intro c hc
    exact hBlank c (List.mem_reverse.mp hc)
  rw [dropWhile_blank hReversed, List.reverse_reverse]
  intro c hc
  rcases hValue.last with ⟨d, hLast, hSpace⟩
  rw [List.head?_reverse, hLast] at hc
  cases hc
  exact hSpace

theorem matchFilterValue_of_value
    {separator value blank : List Char}
    (hSeparator : Separates separator)
    (hValue : IsValue value)
    (hBlank : IsBlank blank) :
    matchFilterValue (separator ++ (value ++ blank)) =
      some (String.ofList value) := by
  rcases hValue.first with ⟨c, hFirst, hSpace⟩
  have hHead :
      ∀ d ∈ (value ++ blank).head?, isSpace d = false := by
    intro d hd
    rw [List.head?_append, hFirst] at hd
    cases hd
    exact hSpace
  have hNonempty : (value ++ blank).isEmpty = false := by
    cases value with
    | nil => cases hFirst
    | cons d ds => rfl
  unfold matchFilterValue
  simp only
  rw [dropWhile_blank hSeparator.blank hHead, hNonempty,
    if_neg Bool.false_ne_true, rdropWhile_blank hValue hBlank,
    if_neg (by simpa using hValue.line)]

/- The attribute, operator and value of a filter text. -/
theorem matchFilterPattern_of_parts
    {before attributeName first operator second value
      after : List Char}
    (hBefore : IsBlank before)
    (hAttribute :
      ∃ c cs, attributeName = c :: cs ∧ c.isAlpha = true)
    (hAttributeChars :
      ∀ c ∈ attributeName, isAttributeChar c = true)
    (hFirst : Separates first)
    (hOperator : ∀ c ∈ operator, c.isAlpha = true)
    (hOperatorNonempty : operator ≠ [])
    (hSecond : Separates second)
    (hValue : IsValue value)
    (hAfter : IsBlank after) :
    matchFilterPattern
        (String.ofList
          (before ++ (attributeName ++ (first ++ (operator ++
            (second ++ (value ++ after))))))) =
      some
        (String.ofList attributeName, String.ofList operator,
          String.ofList value) := by
  have hFromAttribute :
      ∀ c ∈
        (attributeName ++ (first ++ (operator ++
          (second ++ (value ++ after))))).head?,
        isSpace c = false := by
    rcases hAttribute with ⟨d, ds, rfl, hAlpha⟩
    intro c hc
    cases hc
    by_contra hSpace
    rw [Bool.not_eq_false] at hSpace
    rw [not_isAlpha_of_isSpace hSpace] at hAlpha
    cases hAlpha
  have hFromOperator :
      ∀ c ∈
        (operator ++ (second ++ (value ++ after))).head?,
        isSpace c = false := by
    intro c hc
    have hMem : c ∈ operator := by
      cases operator with
      | nil => exact absurd rfl hOperatorNonempty
      | cons d ds =>
          cases hc
          exact List.mem_cons_self
    by_contra hSpace
    rw [Bool.not_eq_false] at hSpace
    have hAlpha := hOperator c hMem
    rw [not_isAlpha_of_isSpace hSpace] at hAlpha
    cases hAlpha
  have hAttributeToken :=
    token_append hAttributeChars
      (fun c => not_isAttributeChar_of_isSpace)
      (@head?_append_separates _
        (operator ++ (second ++ (value ++ after))) hFirst)
  have hOperatorToken :=
    token_append hOperator
      (fun c => not_isAlpha_of_isSpace)
      (@head?_append_separates _ (value ++ after) hSecond)
  have hOperatorFull : operator.isEmpty = false := by
    cases operator with
    | nil => exact absurd rfl hOperatorNonempty
    | cons d ds => rfl
  unfold matchFilterPattern
  simp only
  rw [String.toList_ofList,
    dropWhile_blank hBefore hFromAttribute, hAttributeToken.1,
    hAttributeToken.2, afterToken_separates hFirst]
  rcases hAttribute with ⟨d, ds, rfl, hAlpha⟩
  simp only [List.head?_cons, Option.bind_eq_bind,
    Option.bind_some, hAlpha, Bool.not_true,
    Bool.false_eq_true, if_false]
  rw [dropWhile_blank hFirst.blank hFromOperator,
    hOperatorToken.1, hOperatorToken.2, hOperatorFull,
    afterToken_separates hSecond]
  simp only [Bool.false_eq_true, if_false, Option.bind_some]
  rw [matchFilterValue_of_value hSecond hValue hAfter]
  rfl

end Scim

end AccessIQ

------------------------------------------------------------
-- Patterns
------------------------------------------------------------

namespace AccessIQ

namespace Scim

open Python

/- The characters that mean something in a pattern. -/
def wildcards : List Char :=
  ['\\', '%', '_']

/- A text with a backslash before every wildcard. -/
def escapeChars
    (cs : List Char) :
    List Char :=
  cs.flatMap fun c =>
    if c = '\\' ∨ c = '%' ∨ c = '_' then ['\\', c] else [c]

/- An escaped text is read as its characters. -/
theorem likeTokens_escapeChars
    (cs rest : List Char) :
    likeTokens (escapeChars cs ++ rest) =
      cs.map .char ++ likeTokens rest := by
  induction cs with
  | nil => rfl
  | cons c cs ih =>
      have hEscape :
          escapeChars (c :: cs) =
            (if c = '\\' ∨ c = '%' ∨ c = '_' then
                ['\\', c]
              else
                [c]) ++ escapeChars cs := rfl
      rw [hEscape, List.append_assoc, List.map_cons,
        List.cons_append, ← ih]
      by_cases hWild : c = '\\' ∨ c = '%' ∨ c = '_'
      · rw [if_pos hWild]
        rfl
      · rw [if_neg hWild]
        push Not at hWild
        rw [List.singleton_append, likeTokens]
        · intro _ _ h _
          exact hWild.1 h
        · exact hWild.2.1
        · exact hWild.2.2

theorem isLike_anyText
    (text : List Char) :
    isLike [.anyText] text = true := by
  unfold isLike
  rw [List.any_eq_true]
  exact ⟨[], by simp, rfl⟩

theorem isLike_chars_iff
    {cs text : List Char} :
    isLike (cs.map .char ++ [.anyText]) text = true ↔
      cs <+: text := by
  induction cs generalizing text with
  | nil =>
      constructor
      · intro _
        exact List.nil_prefix
      · intro _
        exact isLike_anyText text
  | cons c cs ih =>
      cases text with
      | nil =>
          constructor
          · intro hLike
            cases hLike
          · intro hPrefix
            simp at hPrefix
      | cons x text =>
          rw [List.map_cons, List.cons_append, isLike,
            Bool.and_eq_true, beq_iff_eq, ih,
            List.cons_prefix_cons]
          constructor
          · rintro ⟨rfl, hPrefix⟩
            exact ⟨rfl, hPrefix⟩
          · rintro ⟨rfl, hPrefix⟩
            exact ⟨rfl, hPrefix⟩

/- Characters between wildcards are looked for anywhere. -/
theorem isLike_contains_iff
    {cs text : List Char} :
    isLike (.anyText :: (cs.map .char ++ [.anyText])) text =
        true ↔
      cs <:+: text := by
  rw [isLike, List.any_eq_true]
  constructor
  · rintro ⟨rest, hRest, hLike⟩
    exact (isLike_chars_iff.mp hLike).isInfix.trans
      ((List.mem_tails _ _).mp hRest).isInfix
  · rintro ⟨before, after, hText⟩
    refine ⟨cs ++ after, ?_, ?_⟩
    · rw [List.mem_tails]
      exact ⟨before, by rw [← hText, List.append_assoc]⟩
    · exact isLike_chars_iff.mpr (List.prefix_append cs after)

variable [Platform]

/-
  A database lowers text character by character, and the
  wildcards are lower case and lower case of nothing else.
-/
def FoldsCharacters
    (dialect : Dialect) : Prop :=
  ∃ fold : Char → List Char,
    (∀ text,
      (dialect.lower text).toList =
        text.toList.flatMap fold) ∧
      (∀ c ∈ wildcards, fold c = [c]) ∧
      ∀ c, c ∉ wildcards → ∀ x ∈ fold c, x ∉ wildcards

omit [Platform] in
/- A letter that is lowered becomes a letter. -/
theorem not_wildcard_toLower
    {c : Char}
    (hPlain : c ∉ wildcards) :
    c.toLower ∉ wildcards := by
  unfold Char.toLower
  split
  · rename_i hUpper
    have hLow := UInt32.le_iff_toNat_le.mp hUpper.1
    have hHigh := UInt32.le_iff_toNat_le.mp hUpper.2
    intro hWild
    have hCode :
        ∀ w ∈ wildcards, w.val.toNat < 97 := by
      simp [wildcards]
    have hSmall := hCode _ hWild
    simp at hLow hHigh hSmall
    omega
  · exact hPlain

theorem foldsCharacters_sqlite :
    FoldsCharacters .sqlite := by
  refine ⟨fun c => [c.toLower], ?_, ?_, ?_⟩
  · intro text
    change (asciiLower text).toList = _
    unfold asciiLower
    rw [String.toList_ofList]
    exact List.map_eq_flatMap
  · simp [wildcards]
  · intro c hPlain x hx
    rw [List.mem_singleton.mp hx]
    exact not_wildcard_toLower hPlain

omit [Platform] in
/- Lowering commutes with escaping. -/
theorem escapeChars_flatMap
    {fold : Char → List Char}
    (hWild : ∀ c ∈ wildcards, fold c = [c])
    (hPlain :
      ∀ c, c ∉ wildcards → ∀ x ∈ fold c, x ∉ wildcards)
    (cs : List Char) :
    (escapeChars cs).flatMap fold =
      escapeChars (cs.flatMap fold) := by
  have hUnescaped :
      ∀ xs : List Char, (∀ x ∈ xs, x ∉ wildcards) →
        escapeChars xs = xs := by
    intro xs hXs
    induction xs with
    | nil => rfl
    | cons x xs ih =>
        have hX := hXs x List.mem_cons_self
        simp only [wildcards, List.mem_cons, List.not_mem_nil,
          or_false] at hX
        unfold escapeChars at ih ⊢
        rw [List.flatMap_cons, if_neg hX,
          ih fun y hy => hXs y (List.mem_cons_of_mem _ hy)]
        rfl
  induction cs with
  | nil => rfl
  | cons c cs ih =>
      unfold escapeChars at ih ⊢
      rw [List.flatMap_cons, List.flatMap_append, ih,
        List.flatMap_cons, List.flatMap_append]
      congr 1
      by_cases hC : c ∈ wildcards
      · have hFold := hWild c hC
        have hBackslash := hWild '\\' (by decide)
        simp only [wildcards, List.mem_cons, List.not_mem_nil,
          or_false] at hC
        rw [if_pos hC, hFold]
        simp [hFold, hBackslash, hC]
      · have hFolded := hUnescaped (fold c) (hPlain c hC)
        unfold escapeChars at hFolded
        rw [hFolded]
        simp only [wildcards, List.mem_cons, List.not_mem_nil,
          or_false] at hC
        rw [if_neg hC]
        simp

/-
  A text is like an escaped one between wildcards when it
  contains that, up to the case folding of the database.
-/
theorem ilike_escaped_iff
    {dialect : Dialect}
    (hFolds : FoldsCharacters dialect)
    (text value : String) :
    ilike dialect text
        ("%" ++ escapeLikePattern value ++ "%") = true ↔
      (dialect.lower value).toList <:+:
        (dialect.lower text).toList := by
  rcases hFolds with ⟨fold, hLower, hWild, hPlain⟩
  have hPercent := hWild '%' (by decide)
  have hPattern :
      (dialect.lower
          ("%" ++ escapeLikePattern value ++ "%")).toList =
        '%' ::
          (escapeChars (dialect.lower value).toList ++
            ['%']) := by
    rw [hLower, String.toList_append, String.toList_append,
      hLower, ← escapeChars_flatMap hWild hPlain]
    unfold escapeLikePattern
    rw [String.toList_ofList]
    simp [hPercent, escapeChars]
  unfold ilike
  rw [hPattern, likeTokens, likeTokens_escapeChars]
  exact isLike_contains_iff

end Scim

end AccessIQ

------------------------------------------------------------
-- Literal Values
------------------------------------------------------------

namespace AccessIQ

namespace Scim

open Python

/- No character of a JSON string ends its line. -/
theorem encodesChar_no_newline
    {c : Char}
    {code : List Char}
    (hChar : EncodesChar c code) :
    '\n' ∉ code := by
  have hUnitDigits :
      ∀ a b c d : Char, ∀ n : Nat,
        hexUnit a b c d = some n →
          a ≠ '\n' ∧ b ≠ '\n' ∧ c ≠ '\n' ∧ d ≠ '\n' := by
    intro a b c d n hUnit
    have hNone : hexDigit '\n' = none := by decide
    unfold hexUnit at hUnit
    refine ⟨?_, ?_, ?_, ?_⟩
    · rintro rfl
      simp [hNone] at hUnit
    · rintro rfl
      simp [hNone] at hUnit
    · rintro rfl
      simp [hNone] at hUnit
    · rintro rfl
      simp [hNone] at hUnit
  cases hChar with
  | plain hControl hQuote hBackslash =>
      intro hMem
      rw [← List.mem_singleton.mp hMem] at hControl
      revert hControl
      decide
  | short e hEscape =>
      intro hMem
      simp only [List.mem_cons, List.not_mem_nil,
        or_false] at hMem
      rcases hMem with hMem | hMem
      · revert hMem
        decide
      · rw [← hMem] at hEscape
        cases hEscape
  | unit x₁ x₂ x₃ x₄ hUnit =>
      have hDigits := hUnitDigits _ _ _ _ _ hUnit
      simp [hDigits.1.symm, hDigits.2.1.symm,
        hDigits.2.2.1.symm, hDigits.2.2.2.symm]
  | pair x₁ x₂ x₃ x₄ y₁ y₂ y₃ y₄ hLarge hHigh hLow =>
      have hFirst := hUnitDigits _ _ _ _ _ hHigh
      have hSecond := hUnitDigits _ _ _ _ _ hLow
      simp [hFirst.1.symm, hFirst.2.1.symm,
        hFirst.2.2.1.symm, hFirst.2.2.2.symm, hSecond.1.symm,
        hSecond.2.1.symm, hSecond.2.2.1.symm,
        hSecond.2.2.2.symm]

theorem encodesText_no_newline
    {cs body : List Char}
    (hText : EncodesText cs body) :
    '\n' ∉ body := by
  induction hText with
  | nil => exact List.not_mem_nil
  | cons hChar hText ih =>
      rw [List.mem_append, not_or]
      exact ⟨encodesChar_no_newline hChar, ih⟩

/- A JSON string can be the value of a filter. -/
theorem isValue_of_encodes
    {value encoded : String}
    (hEncodes : JsonEncodes value encoded) :
    IsValue encoded.toList := by
  rcases hEncodes with ⟨body, hText, hEncoded⟩
  rw [hEncoded]
  constructor
  · exact ⟨'"', rfl, by decide⟩
  · refine ⟨'"', ?_, by decide⟩
    rw [← List.cons_append, List.getLast?_concat]
  · have hBody := encodesText_no_newline hText
    simp [hBody]

/- An operator in any case has the letters of the operator. -/
theorem isAlpha_of_lower
    {operator : String}
    (hLower :
      ∀ c ∈ (asciiLower operator).toList,
        c.isAlpha = true) :
    ∀ c ∈ operator.toList, c.isAlpha = true := by
  intro c hc
  have hFold : c.toLower.isAlpha = true := by
    apply hLower
    unfold asciiLower
    rw [String.toList_ofList]
    exact List.mem_map_of_mem hc
  unfold Char.toLower at hFold
  split at hFold
  · rename_i hUpper
    have hIsUpper : c.isUpper = true := by
      unfold Char.isUpper
      exact decide_eq_true hUpper
    unfold Char.isAlpha
    rw [hIsUpper]
    rfl
  · exact hFold

theorem isAscii_of_isAlpha
    {text : String}
    (hAlpha : ∀ c ∈ text.toList, c.isAlpha = true) :
    isAscii text = true := by
  unfold isAscii
  rw [List.all_eq_true]
  intro c hc
  have hVal : c.val.toNat = c.toNat := rfl
  have hLetter := hAlpha c hc
  unfold Char.isAlpha Char.isUpper Char.isLower at hLetter
  simp only [Bool.or_eq_true, Bool.and_eq_true,
    decide_eq_true_iff, UInt32.le_iff_toNat_le, ge_iff_le,
    hVal] at hLetter
  simp at hLetter
  rw [decide_eq_true_iff]
  omega

/- A filter text, with the whitespace between its parts. -/
def filterText
    (before attributeName first operator second encoded
      after : String) :
    String :=
  before ++ attributeName ++ first ++ operator ++ second ++
    encoded ++ after

theorem toList_filterText
    (before attributeName first operator second encoded
      after : String) :
    (filterText before attributeName first operator second
        encoded after).toList =
      before.toList ++ (attributeName.toList ++
        (first.toList ++ (operator.toList ++
          (second.toList ++
            (encoded.toList ++ after.toList))))) := by
  unfold filterText
  simp only [String.toList_append, List.append_assoc]

/- The attributes of the filters, with their operators. -/
def filterOperators : List (List (String × List String)) :=
  [userFilterOperators, groupFilterOperators]

/- An attribute is a name, and its operators are words. -/
theorem filterOperators_names
    {operators : List (String × List String)}
    (hOperators : operators ∈ filterOperators)
    {attributeName : String}
    {supported : List String}
    (hSupported :
      operators.lookup attributeName = some supported) :
    (∃ c cs, attributeName.toList = c :: cs ∧
        c.isAlpha = true) ∧
      (∀ c ∈ attributeName.toList,
        isAttributeChar c = true) ∧
      ∀ operator ∈ supported,
        operator.toList ≠ [] ∧
          ∀ c ∈ operator.toList, c.isAlpha = true := by
  have hMem : (attributeName, supported) ∈ operators := by
    have hSome :=
      List.lookup_eq_some_iff.mp hSupported
    rcases hSome with ⟨before, after, hEq, -⟩
    rw [hEq]
    simp
  have hNames :
      ∀ operators ∈ filterOperators, ∀ entry ∈ operators,
        entry.1.toList.head?.any Char.isAlpha = true ∧
          entry.1.toList.all isAttributeChar = true ∧
          ∀ operator ∈ entry.2,
            operator.toList ≠ [] ∧
              operator.toList.all Char.isAlpha = true := by
    decide +kernel
  rcases hNames operators hOperators _ hMem with
    ⟨hHead, hChars, hWords⟩
  simp only [List.all_eq_true] at hHead hChars hWords
  refine ⟨?_, hChars, hWords⟩
  cases hList : attributeName.toList with
  | nil =>
      rw [hList] at hHead
      cases hHead
  | cons c cs =>
      rw [hList] at hHead
      exact ⟨c, cs, rfl, hHead⟩

variable [Platform]

/- A filter text is read into its parts. -/
theorem parseScimFilter_of_parts
    {operators : List (String × List String)}
    (hOperators : operators ∈ filterOperators)
    {attributeName operator : String}
    {supported : List String}
    (hSupported :
      operators.lookup attributeName = some supported)
    (hText : attributeName ≠ "active")
    (hOperator : asciiLower operator ∈ supported)
    {value encoded : String}
    (hEncodes : JsonEncodes value encoded)
    {before first second after : String}
    (hBefore : IsBlank before.toList)
    (hFirst : Separates first.toList)
    (hSecond : Separates second.toList)
    (hAfter : IsBlank after.toList) :
    parseScimFilter operators
        (some
          (filterText before attributeName first operator
            second encoded after)) =
      .ok (some
        ⟨attributeName, asciiLower operator,
          .text value⟩) := by
  rcases filterOperators_names hOperators hSupported with
    ⟨hName, hNameChars, hWords⟩
  rcases hWords _ hOperator with ⟨hNonempty, hLowered⟩
  have hAlpha := isAlpha_of_lower hLowered
  have hOperatorNonempty : operator.toList ≠ [] := by
    intro hEmpty
    apply hNonempty
    unfold asciiLower
    rw [String.toList_ofList, hEmpty]
    rfl
  have hLower :
      Platform.lower operator = asciiLower operator :=
    Platform.lower_of_isAscii _ (isAscii_of_isAlpha hAlpha)
  have hParts :=
    matchFilterPattern_of_parts hBefore hName hNameChars
      hFirst hAlpha hOperatorNonempty hSecond
      (isValue_of_encodes hEncodes) hAfter
  rw [String.ofList_toList, String.ofList_toList,
    String.ofList_toList, ← toList_filterText,
    String.ofList_toList] at hParts
  unfold parseScimFilter
  simp only
  rw [hParts]
  simp only
  rw [hSupported, hLower]
  simp only
  rw [if_neg (not_not_intro hOperator), if_neg hText]
  unfold parseQuotedString
  rw [readJsonString_of_encodes hEncodes]
  rfl

/-
  Every text is taken literally: any filter made of a
  supported attribute and operator, and of any JSON encoding
  of the text, is read as that text, and what `co` selects of
  the users and the groups is what contains it.
-/
theorem filter_values_literal
    {operators : List (String × List String)}
    (hOperators : operators ∈ filterOperators)
    {attributeName operator : String}
    {supported : List String}
    (hSupported :
      operators.lookup attributeName = some supported)
    (hText : attributeName ≠ "active")
    (hOperator : asciiLower operator ∈ supported)
    {value encoded : String}
    (hEncodes : JsonEncodes value encoded)
    {before first second after : String}
    (hBefore : IsBlank before.toList)
    (hFirst : Separates first.toList)
    (hSecond : Separates second.toList)
    (hAfter : IsBlank after.toList)
    {dialect : Dialect}
    (hFolds : FoldsCharacters dialect) :
    parseScimFilter operators
        (some
          (filterText before attributeName first operator
            second encoded after)) =
      .ok (some
        ⟨attributeName, asciiLower operator,
          .text value⟩) ∧
      (∃ condition,
        buildUserFilterExpression dialect
            (some ⟨"displayName", "co", .text value⟩) =
          .ok (some condition) ∧
        ∀ user,
          condition user = true ↔
            (dialect.lower value).toList <:+:
              (dialect.lower user.name).toList) ∧
      ∃ condition,
        buildGroupFilterExpression dialect
            (some ⟨"displayName", "co", .text value⟩) =
          .ok (some condition) ∧
        ∀ group,
          condition group = true ↔
            (dialect.lower value).toList <:+:
              (dialect.lower group.displayName).toList := by
  refine ⟨?_, ?_, ?_⟩
  · exact parseScimFilter_of_parts hOperators hSupported hText
      hOperator hEncodes hBefore hFirst hSecond hAfter
  · refine ⟨_, rfl, ?_⟩
    intro user
    exact ilike_escaped_iff hFolds user.name value
  · refine ⟨_, rfl, ?_⟩
    intro group
    exact ilike_escaped_iff hFolds group.displayName value

end Scim

end AccessIQ

------------------------------------------------------------
-- A Value Of Wildcards
------------------------------------------------------------

namespace AccessIQ

namespace Scim

open Python

section Seeded

attribute [local instance] asciiPlatform

/- A quote, a backslash, wildcards and a newline. -/
def awkwardText : String :=
  "50%_\\\" co \n"

theorem filter_values_literal_awkward :
    parseScimFilter groupFilterOperators
        (some
          (filterText " " "displayName" "\t" "Co" "  "
            (jsonDumps awkwardText) "\n")) =
      .ok (some
        ⟨"displayName", "co", .text awkwardText⟩) :=
  (@filter_values_literal _ groupFilterOperators (by decide)
    "displayName" "Co" ["eq", "co"] rfl (by decide)
    (by decide) awkwardText _
    (jsonEncodes_jsonDumps awkwardText) " " "\t" "  " "\n"
    (by decide) ⟨by decide, by decide⟩
    ⟨by decide, by decide⟩ (by decide) .sqlite
    foldsCharacters_sqlite).1

end Seeded

end Scim

end AccessIQ
