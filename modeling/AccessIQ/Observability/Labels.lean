import AccessIQ.Python.Text
import AccessIQ.Python.Dict
import Mathlib.Data.List.Lex
import Mathlib.Data.List.Sort
import Mathlib.Data.Prod.Lex
import Mathlib.Data.String.Basic

/-
  The names and the labels of a metric.

  A series is known by its sanitised name and by its labels
  in order, each with its value as text.

  Key definitions include:
    * `LabelValue`
    * `normalizeLabels`
    * `formatLabels`
    * `sanitizeMetricName`
    * `SeriesKey`
-/

------------------------------------------------------------
-- Labels
------------------------------------------------------------

namespace AccessIQ

namespace Observability

open Python

/- The value of a label; a number that is not whole as text. -/
inductive LabelValue where
  | text (value : String)
  | integer (value : Int)
  | float (value : String)
  | boolean (value : Bool)
  deriving DecidableEq, Repr

/- `str(value)`. -/
def LabelValue.str : LabelValue → String
  | .text value => value
  | .integer value => toString value
  | .float value => value
  | .boolean true => "True"
  | .boolean false => "False"

/- The labels a caller gives. -/
abbrev MetricLabels := Dict String (Option LabelValue)

abbrev LabelSet := List (String × String)

/- Pairs of texts in the order of Python's tuples. -/
def pairLe
    (a b : String × String) : Prop :=
  toLex a ≤ toLex b

instance : DecidableRel pairLe :=
  fun a b => inferInstanceAs (Decidable (toLex a ≤ toLex b))

/- `_normalize_labels`: labels without a value are left out. -/
def normalizeLabels
    (labels : MetricLabels) :
    LabelSet :=
  (labels.entries.filterMap fun label =>
      label.2.map fun value =>
        (label.1, value.str)).insertionSort pairLe

/- `str.replace` of one character by a text. -/
def replaceWith
    (text : String)
    (old : Char)
    (new : String) :
    String :=
  String.ofList
    (text.toList.flatMap fun c =>
      if c = old then new.toList else [c])

/- `_escape_label_value`. -/
def escapeLabelValue
    (value : String) :
    String :=
  replaceWith
    (replaceWith (replaceWith value '\\' "\\\\") '\n' "\\n")
    '"' "\\\""

/- `_format_labels`. -/
def formatLabels
    (labels : LabelSet) :
    String :=
  if labels = [] then
    ""
  else
    "\x7b" ++
      String.intercalate ","
        (labels.map fun label =>
          label.1 ++ "=\"" ++ escapeLabelValue label.2 ++
            "\"") ++
      "\x7d"

end Observability

end AccessIQ

------------------------------------------------------------
-- Series
------------------------------------------------------------

namespace AccessIQ

namespace Observability

/- A character that a metric name keeps. -/
def nameCharacter
    (c : Char) :
    Bool :=
  c.isAlphanum || c == '_' || c == ':'

/- `_sanitize_metric_name`. -/
def sanitizeMetricName
    (name : String) :
    String :=
  String.ofList
    (name.toList.map fun c =>
      if nameCharacter c then c else '_')

/- What a metric of a provider is stored under. -/
abbrev SeriesKey := String × LabelSet

/- Keys in the order of Python's tuples. -/
def seriesLe
    (a b : SeriesKey) : Prop :=
  toLex (a.1, a.2.map toLex) ≤ toLex (b.1, b.2.map toLex)

instance : DecidableRel seriesLe :=
  fun a b =>
    inferInstanceAs
      (Decidable
        (toLex (a.1, a.2.map toLex) ≤
          toLex (b.1, b.2.map toLex)))

end Observability

end AccessIQ
