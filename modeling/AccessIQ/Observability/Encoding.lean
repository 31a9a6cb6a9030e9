import AccessIQ.Foundations.Escaping
import AccessIQ.Foundations.Lines
import AccessIQ.Observability.Labels

/-
  The text of a label set, and how it is read.

  The three replacements in a value come to one escape of
  each backslash, line feed and quote.  A reader that ends a
  value at the first quote that is not escaped finds every
  label again, so that no two label sets share a text.

  Key definitions include:
    * `ValidNames`
    * `labelEscapes`
    * `unescapeLabelValue`
    * `readLabels`

  Key theorems include:
    * `toList_escapeLabelValue`
    * `readLabels_formatLabels`
    * `labels_encoded_injectively`
-/

------------------------------------------------------------
-- Values
------------------------------------------------------------

namespace AccessIQ

namespace Observability

open Foundations

/- The escapes of the exposition format. -/
def labelEscapes : Escapes Char where
  mark := '\\'
  code c :=
    if c = '\\' then some '\\'
    else if c = '\n' then some 'n'
    else if c = '"' then some '"'
    else none
  value c :=
    if c = '\\' then some '\\'
    else if c = 'n' then some '\n'
    else if c = '"' then some '"'
    else none
  value_code := by
    intro a b hCode
    split_ifs at hCode with hMark hFeed hQuote
    · cases hCode
      rw [hMark]
      rfl
    · cases hCode
      rw [hFeed]
      rfl
    · cases hCode
      rw [hQuote]
      rfl
  mark_coded := rfl

/- The value that is written so, if it is written well. -/
def unescapeLabelValue
    (text : String) :
    Option String :=
  (labelEscapes.decode text.toList).map String.ofList

/- A quote that would end the value. -/
def UnescapedQuote
    (text : String) : Prop :=
  labelEscapes.Unescaped '"' text.toList

/- The replacements act on each character for itself. -/
theorem toList_escapeLabelValue
    (value : String) :
    (escapeLabelValue value).toList =
      labelEscapes.encode value.toList := by
  unfold escapeLabelValue replaceWith Escapes.encode
  simp only [String.toList_ofList, List.flatMap_assoc]
  congr 1
  funext c
  unfold Escapes.encodeOne labelEscapes
  by_cases hMark : c = '\\'
  · subst hMark
    rfl
  · by_cases hFeed : c = '\n'
    · subst hFeed
      rfl
    · by_cases hQuote : c = '"'
      · subst hQuote
        rfl
      · simp [hMark, hFeed, hQuote]

theorem unescape_escapeLabelValue
    (value : String) :
    unescapeLabelValue (escapeLabelValue value) =
      some value := by
  unfold unescapeLabelValue
  rw [toList_escapeLabelValue, Escapes.decode_encode,
    Option.map_some, String.ofList_toList]

theorem not_unescapedQuote_escapeLabelValue
    (value : String) :
    ¬UnescapedQuote (escapeLabelValue value) := by
  unfold UnescapedQuote
  rw [toList_escapeLabelValue]
  apply Escapes.not_unescaped_encode
  · rfl
  · decide

theorem no_lineFeed_escapeLabelValue
    (value : String) :
    '\n' ∉ (escapeLabelValue value).toList := by
  rw [toList_escapeLabelValue]
  apply Escapes.not_mem_encode
  · rfl
  · decide
  · intro c hCode
    have hRead := labelEscapes.value_code hCode
    cases hRead

end Observability

end AccessIQ

------------------------------------------------------------
-- Names
------------------------------------------------------------

namespace AccessIQ

namespace Observability

/- A character that a label name may have. -/
def labelNameCharacter
    (c : Char) :
    Bool :=
  c.isAlphanum || c == '_'

/- `[a-zA-Z_][a-zA-Z0-9_]*` -/
def validLabelName
    (name : String) :
    Bool :=
  match name.toList with
  | [] => false
  | c :: cs =>
      (c.isAlpha || c == '_') && cs.all labelNameCharacter

/- All names of the labels are valid. -/
def ValidNames
    (labels : MetricLabels) : Prop :=
  ∀ name ∈ labels.keys, validLabelName name

theorem labelNameCharacter_of_mem
    {name : String}
    (hValid : validLabelName name)
    {c : Char}
    (hMem : c ∈ name.toList) :
    labelNameCharacter c := by
  unfold validLabelName at hValid
  cases hName : name.toList with
  | nil =>
      rw [hName] at hMem
      cases hMem
  | cons d cs =>
      rw [hName] at hValid hMem
      rw [Bool.and_eq_true] at hValid
      rcases List.mem_cons.mp hMem with hFirst | hRest
      · subst hFirst
        have hStart := hValid.1
        unfold labelNameCharacter Char.isAlphanum
        rw [Bool.or_eq_true] at hStart
        rcases hStart with hAlpha | hUnderscore
        · rw [hAlpha]
          rfl
        · rw [hUnderscore, Bool.or_true]
      · exact List.all_eq_true.mp hValid.2 c hRest

/- No name has a character that ends it or ends a line. -/
theorem not_mem_of_validLabelName
    {name : String}
    (hValid : validLabelName name)
    {c : Char}
    (hOther : labelNameCharacter c = false) :
    c ∉ name.toList := by
  intro hMem
  have hCharacter := labelNameCharacter_of_mem hValid hMem
  rw [hOther] at hCharacter
  cases hCharacter

/- A label set keeps the names it was made from. -/
theorem validLabelName_of_mem_normalizeLabels
    {labels : MetricLabels}
    (hLabels : ValidNames labels)
    {label : String × String}
    (hMem : label ∈ normalizeLabels labels) :
    validLabelName label.1 := by
  unfold normalizeLabels at hMem
  have hKept := (List.mem_insertionSort pairLe).mp hMem
  rcases List.mem_filterMap.mp hKept with
    ⟨entry, hEntry, hSome⟩
  rcases Option.map_eq_some_iff.mp hSome with ⟨_, _, hEq⟩
  cases hEq
  exact hLabels entry.1 (List.mem_map_of_mem hEntry)

end Observability

end AccessIQ

------------------------------------------------------------
-- Reading
------------------------------------------------------------

namespace AccessIQ

namespace Observability

open Foundations

/- A label at the front, its value still escaped. -/
def readLabel
    (text : List Char) :
    Option ((String × String) × List Char) :=
  match text.dropWhile (· ≠ '=') with
  | '=' :: '"' :: rest =>
      (labelEscapes.readUntil '"' rest).map fun read =>
        ((String.ofList (text.takeWhile (· ≠ '=')),
          String.ofList read.1), read.2)
  | _ => none

theorem readLabel_length
    {text rest : List Char}
    {label : String × String}
    (hRead : readLabel text = some (label, rest)) :
    rest.length < text.length := by
  unfold readLabel at hRead
  have hShorter :=
    (List.dropWhile_suffix (· ≠ '=') (l := text)).length_le
  split at hRead
  · rename_i quoted hQuoted
    rcases Option.map_eq_some_iff.mp hRead with
      ⟨⟨body, left⟩, hUntil, hEq⟩
    cases hEq
    have hLess : left.length < quoted.length :=
      labelEscapes.readFrom_length hUntil
    rw [hQuoted] at hShorter
    simp only [List.length_cons] at hShorter
    exact hLess.trans_le (by omega)
  · cases hRead

/- The labels that follow, up to the closing brace. -/
def readMore
    (text : List Char) :
    Option LabelSet :=
  match text with
  | ',' :: rest =>
      match _hRead : readLabel rest with
      | some (label, rest) => (label :: ·) <$> readMore rest
      | none => none
  | ['\x7d'] => some []
  | _ => none
termination_by text.length
decreasing_by
  have hLess := readLabel_length _hRead
  simp only [List.length_cons]
  omega

/- The labels of a text, their values still escaped. -/
def readLabels
    (text : String) :
    Option LabelSet :=
  match text.toList with
  | [] => some []
  | '\x7b' :: rest => readMore (',' :: rest)
  | _ => none

/- The characters of one label. -/
def labelCharacters
    (label : String × String) :
    List Char :=
  label.1.toList ++
    '=' :: '"' ::
      (labelEscapes.encode label.2.toList ++ ['"'])

theorem toList_formatLabels_cons
    (label : String × String)
    (labels : LabelSet) :
    ∃ rest,
      (formatLabels (label :: labels)).toList =
          '\x7b' :: rest ∧
        ',' :: rest =
          (label :: labels).flatMap
              (fun label => ',' :: labelCharacters label) ++
            ['\x7d'] := by
  have hParts :
      ((label :: labels).map fun label =>
          (label.1 ++ "=\"" ++ escapeLabelValue label.2 ++
            "\"").toList) =
        (label :: labels).map labelCharacters := by
    apply List.map_congr_left
    intro one _
    unfold labelCharacters
    simp [toList_escapeLabelValue]
  refine ⟨[','].intercalate
    ((label :: labels).map labelCharacters) ++ ['\x7d'],
    ?_, ?_⟩
  · unfold formatLabels
    rw [if_neg (List.cons_ne_nil _ _), String.toList_append,
      String.toList_append, String.toList_intercalate,
      List.map_map, ← hParts]
    rfl
  · rw [List.map_cons, ← List.cons_append,
      cons_intercalate, ← List.map_cons, List.flatMap_map]

/- One label is read in front of any text. -/
theorem readLabel_labelCharacters
    {label : String × String}
    (hValid : validLabelName label.1)
    (rest : List Char) :
    readLabel (labelCharacters label ++ rest) =
      some ((label.1, escapeLabelValue label.2), rest) := by
  have hName : ∀ c ∈ label.1.toList, c ≠ '=' := by
    intro c hMem hEq
    subst hEq
    exact not_mem_of_validLabelName hValid rfl hMem
  have hText :
      labelCharacters label ++ rest =
        label.1.toList ++
          '=' :: '"' ::
            (labelEscapes.encode label.2.toList ++
              '"' :: rest) := by
    simp [labelCharacters]
  have hUntil :
      labelEscapes.readUntil '"'
          (labelEscapes.encode label.2.toList ++
            '"' :: rest) =
        some (labelEscapes.encode label.2.toList, rest) := by
    apply Escapes.readUntil_encode
    · rfl
    · decide
  unfold readLabel
  rw [hText,
    List.dropWhile_append_of_pos (by simpa using hName),
    List.takeWhile_append_of_pos (by simpa using hName),
    List.dropWhile_cons_of_neg (by simp),
    List.takeWhile_cons_of_neg (by simp), List.append_nil]
  simp only
  rw [hUntil, Option.map_some, ← toList_escapeLabelValue,
    String.ofList_toList, String.ofList_toList]

/- All labels are read, one after the other. -/
theorem readMore_labelCharacters
    {labels : LabelSet}
    (hValid : ∀ label ∈ labels, validLabelName label.1) :
    readMore
        (labels.flatMap
            (fun label => ',' :: labelCharacters label) ++
          ['\x7d']) =
      some
        (labels.map fun label =>
          (label.1, escapeLabelValue label.2)) := by
  induction labels with
  | nil =>
      rw [List.flatMap_nil, List.nil_append, readMore]
      rfl
  | cons label labels ih =>
      have hRest :=
        ih fun one hOne =>
          hValid one (List.mem_cons_of_mem _ hOne)
      have hLabel :=
        readLabel_labelCharacters
          (hValid label List.mem_cons_self)
          (labels.flatMap
              (fun label => ',' :: labelCharacters label) ++
            ['\x7d'])
      rw [List.flatMap_cons, List.cons_append,
        List.cons_append, List.append_assoc, readMore]
      split
      · rename_i read rest hRead
        rw [hLabel] at hRead
        cases hRead
        rw [hRest]
        rfl
      · rename_i hRead
        rw [hLabel] at hRead
        cases hRead

/- The text of a label set is read as its labels. -/
theorem readLabels_formatLabels
    {labels : LabelSet}
    (hValid : ∀ label ∈ labels, validLabelName label.1) :
    readLabels (formatLabels labels) =
      some
        (labels.map fun label =>
          (label.1, escapeLabelValue label.2)) := by
  cases labels with
  | nil => rfl
  | cons label labels =>
      rcases toList_formatLabels_cons label labels with
        ⟨rest, hText, hMore⟩
      unfold readLabels
      rw [hText]
      simp only
      rw [hMore, readMore_labelCharacters hValid]

end Observability

end AccessIQ

------------------------------------------------------------
-- Label Sets
------------------------------------------------------------

namespace AccessIQ

namespace Observability

open Foundations

theorem escapeLabelValue_injective :
    Function.Injective escapeLabelValue := by
  intro value other hEq
  have hChars := congrArg String.toList hEq
  rw [toList_escapeLabelValue, toList_escapeLabelValue]
    at hChars
  exact String.toList_injective
    (labelEscapes.encode_injective hChars)

/- Equal texts are of equal label sets. -/
theorem formatLabels_injective
    {labels others : LabelSet}
    (hLabels :
      ∀ label ∈ labels, validLabelName label.1)
    (hOthers :
      ∀ label ∈ others, validLabelName label.1)
    (hEq : formatLabels labels = formatLabels others) :
    labels = others := by
  have hRead := readLabels_formatLabels hLabels
  rw [hEq, readLabels_formatLabels hOthers] at hRead
  injection hRead with hSame
  have hInjective :
      Function.Injective
        fun label : String × String =>
          (label.1, escapeLabelValue label.2) := by
    intro one two hPair
    injection hPair with hName hValue
    exact Prod.ext hName (escapeLabelValue_injective hValue)
  exact (hInjective.list_map hSame).symm

/- A text of labels is one line. -/
theorem no_lineFeed_formatLabels
    {labels : LabelSet}
    (hValid : ∀ label ∈ labels, validLabelName label.1) :
    '\n' ∉ (formatLabels labels).toList := by
  cases labels with
  | nil =>
      intro hMem
      cases hMem
  | cons label labels =>
      rcases toList_formatLabels_cons label labels with
        ⟨rest, hText, hMore⟩
      have hLabel :
          ∀ one ∈ label :: labels,
            '\n' ∉ labelCharacters one := by
        intro one hOne
        have hName :=
          not_mem_of_validLabelName (hValid one hOne)
            (c := '\n') rfl
        have hValue := no_lineFeed_escapeLabelValue one.2
        rw [toList_escapeLabelValue] at hValue
        unfold labelCharacters
        simp [hName, hValue]
      have hRest : '\n' ∉ ',' :: rest := by
        rw [hMore, List.mem_append, not_or]
        constructor
        · intro hMem
          rcases List.mem_flatMap.mp hMem with
            ⟨one, hOne, hIn⟩
          rcases List.mem_cons.mp hIn with hComma | hIn
          · cases hComma
          · exact hLabel one hOne hIn
        · decide
      rw [hText]
      intro hMem
      rcases List.mem_cons.mp hMem with hBrace | hIn
      · cases hBrace
      · exact hRest (List.mem_cons_of_mem _ hIn)

/-
  Two label sets have one text only if they are one label
  set; the text is one line, its quoted values are found
  again, and each value is read back from its escapes.
-/
theorem labels_encoded_injectively
    (labels others : MetricLabels)
    (hLabels : ValidNames labels)
    (hOthers : ValidNames others) :
    (formatLabels (normalizeLabels labels) =
        formatLabels (normalizeLabels others) →
      normalizeLabels labels = normalizeLabels others) ∧
      '\n' ∉
        (formatLabels (normalizeLabels labels)).toList ∧
      readLabels (formatLabels (normalizeLabels labels)) =
        some
          ((normalizeLabels labels).map fun label =>
            (label.1, escapeLabelValue label.2)) ∧
      ∀ label ∈ normalizeLabels labels,
        ¬UnescapedQuote (escapeLabelValue label.2) ∧
          unescapeLabelValue (escapeLabelValue label.2) =
            some label.2 := by
  have hNames :
      ∀ label ∈ normalizeLabels labels,
        validLabelName label.1 :=
    fun _ => validLabelName_of_mem_normalizeLabels hLabels
  have hOtherNames :
      ∀ label ∈ normalizeLabels others,
        validLabelName label.1 :=
    fun _ => validLabelName_of_mem_normalizeLabels hOthers
  refine ⟨?_, ?_, ?_, ?_⟩
  · exact formatLabels_injective hNames hOtherNames
  · exact no_lineFeed_formatLabels hNames
  · exact readLabels_formatLabels hNames
  · intro label _
    exact ⟨not_unescapedQuote_escapeLabelValue label.2,
      unescape_escapeLabelValue label.2⟩

/- Labels whose values have every escaped character. -/
def quotedLabels : MetricLabels where
  entries :=
    [("path", some (.text "C:\\n\"a\",b=\"")),
      ("note", some (.text "first\nsecond\\")),
      ("missing", none)]
  nodup := by decide

theorem validNames_quotedLabels :
    ValidNames quotedLabels := by
  unfold ValidNames
  decide

theorem labels_encoded_injectively_quoted :
    (formatLabels (normalizeLabels quotedLabels) =
        formatLabels (normalizeLabels .empty) →
      normalizeLabels quotedLabels =
        normalizeLabels .empty) ∧
      '\n' ∉
        (formatLabels
          (normalizeLabels quotedLabels)).toList ∧
      readLabels
          (formatLabels (normalizeLabels quotedLabels)) =
        some
          ((normalizeLabels quotedLabels).map fun label =>
            (label.1, escapeLabelValue label.2)) ∧
      ∀ label ∈ normalizeLabels quotedLabels,
        ¬UnescapedQuote (escapeLabelValue label.2) ∧
          unescapeLabelValue (escapeLabelValue label.2) =
            some label.2 := by
  apply labels_encoded_injectively quotedLabels .empty
  · exact validNames_quotedLabels
  · intro name hName
    cases hName

end Observability

end AccessIQ
