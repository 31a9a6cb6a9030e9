import AccessIQ.Foundations.Grouping
import AccessIQ.Observability.Encoding
import AccessIQ.Observability.Histograms
import AccessIQ.Python.Numbers

/-
  The text of the provider's metrics, read back.

  A reader passes over the comment lines, and takes a line
  apart at its last space: a value has none, while a label
  may.  What it finds is what the calls of the run say, with
  no regard to how the provider keeps it: for each counter
  the sum of its amounts, for each gauge the value set last,
  and for each histogram the values observed.

  Key definitions include:
    * `Sample`
    * `readSample`
    * `readExposition`
    * `exposed`
    * `Tells`

  Key theorems include:
    * `readSample_line`
    * `sorted_entries`
    * `tells_renderSeries`
    * `exposition_read_back`
-/

------------------------------------------------------------
-- Samples
------------------------------------------------------------

namespace AccessIQ

namespace Observability

open Foundations

/- What one line of the text tells. -/
structure Sample where
  name : String
  labels : LabelSet
  value : String
  deriving DecidableEq, Repr

def Sample.line
    (sample : Sample) :
    String :=
  s!"{sample.name}{formatLabels sample.labels} " ++
    sample.value

/- The labels of a text, their values no longer escaped. -/
def unescapeLabels
    (labels : LabelSet) :
    Option LabelSet :=
  labels.mapM fun label =>
    (unescapeLabelValue label.2).map fun value =>
      (label.1, value)

def readSample
    (line : String) :
    Option Sample := do
  let (series, value) ← splitLast ' ' line.toList
  let escaped ←
    readLabels
      (String.ofList (series.dropWhile nameCharacter))
  let labels ← unescapeLabels escaped
  some
    { name := String.ofList (series.takeWhile nameCharacter)
      labels := labels
      value := String.ofList value }

/- A line that is neither empty nor a comment. -/
def isSample
    (line : String) :
    Bool :=
  match line.toList with
  | [] => false
  | c :: _ => c ≠ '#'

def readExposition
    (text : String) :
    Option (List Sample) :=
  ((splitLines text).filter isSample).mapM readSample

/- A sample whose parts can be told apart in its line. -/
structure Sample.Plain
    (sample : Sample) : Prop where
  name : ∀ c ∈ sample.name.toList, nameCharacter c
  labels :
    ∀ label ∈ sample.labels, validLabelName label.1
  space : ' ' ∉ sample.value.toList
  lineFeed : '\n' ∉ sample.value.toList

theorem unescapeLabels_escaped
    (labels : LabelSet) :
    unescapeLabels
        (labels.map fun label =>
          (label.1, escapeLabelValue label.2)) =
      some labels := by
  apply mapM_eq_some_of_forall
  intro label _
  rw [unescape_escapeLabelValue]
  rfl

/- The text of labels starts with a brace, if with any. -/
theorem head_formatLabels
    (labels : LabelSet) :
    (formatLabels labels).toList = [] ∨
      ∃ rest,
        (formatLabels labels).toList = '\x7b' :: rest := by
  cases labels with
  | nil => exact Or.inl rfl
  | cons label labels =>
      rcases toList_formatLabels_cons label labels with
        ⟨rest, hText, -⟩
      exact Or.inr ⟨rest, hText⟩

theorem Sample.toList_line
    (sample : Sample) :
    sample.line.toList =
      (sample.name.toList ++
          (formatLabels sample.labels).toList) ++
        ' ' :: sample.value.toList := by
  unfold Sample.line
  simp only [String.toList_append, List.append_assoc]
  rfl

theorem readSample_line
    {sample : Sample}
    (hPlain : sample.Plain) :
    readSample sample.line = some sample := by
  have hName :
      ∀ c ∈ sample.name.toList, nameCharacter c = true :=
    hPlain.name
  have hDrop :
      (sample.name.toList ++
            (formatLabels sample.labels).toList).dropWhile
          nameCharacter =
        (formatLabels sample.labels).toList := by
    rw [List.dropWhile_append_of_pos hName]
    rcases head_formatLabels sample.labels with
      hEmpty | ⟨rest, hBrace⟩
    · rw [hEmpty]
      rfl
    · rw [hBrace,
        List.dropWhile_cons_of_neg (by decide)]
  have hTake :
      (sample.name.toList ++
            (formatLabels sample.labels).toList).takeWhile
          nameCharacter =
        sample.name.toList := by
    rw [List.takeWhile_append_of_pos hName]
    rcases head_formatLabels sample.labels with
      hEmpty | ⟨rest, hBrace⟩
    · rw [hEmpty, List.takeWhile_nil, List.append_nil]
    · rw [hBrace, List.takeWhile_cons_of_neg (by decide),
        List.append_nil]
  unfold readSample
  rw [sample.toList_line, splitLast_append _ hPlain.space]
  simp only [Option.bind_eq_bind, Option.bind_some, hDrop,
    hTake, String.ofList_toList]
  rw [readLabels_formatLabels hPlain.labels]
  simp only [Option.bind_some]
  rw [unescapeLabels_escaped]
  rfl

/- The line of a sample is neither empty nor a comment. -/
theorem isSample_line
    {sample : Sample}
    (hPlain : sample.Plain) :
    isSample sample.line = true := by
  unfold isSample
  rw [sample.toList_line]
  cases hName : sample.name.toList with
  | cons c name =>
      have hFirst := hPlain.name c
      rw [hName] at hFirst
      have hCharacter := hFirst List.mem_cons_self
      have hOther : c ≠ '#' := by
        intro hEq
        rw [hEq] at hCharacter
        exact absurd hCharacter (by decide)
      simpa using hOther
  | nil =>
      rcases head_formatLabels sample.labels with
        hEmpty | ⟨rest, hBrace⟩
      · rw [hEmpty]
        rfl
      · rw [hBrace]
        rfl

theorem no_lineFeed_line
    {sample : Sample}
    (hPlain : sample.Plain) :
    '\n' ∉ sample.line.toList := by
  have hName : '\n' ∉ sample.name.toList := by
    intro hMem
    exact absurd (hPlain.name _ hMem) (by decide)
  have hLabels := no_lineFeed_formatLabels hPlain.labels
  rw [sample.toList_line]
  simp [hName, hLabels, hPlain.lineFeed]

end Observability

end AccessIQ

------------------------------------------------------------
-- What The Calls Say
------------------------------------------------------------

namespace AccessIQ

namespace Observability

open Foundations Python

variable {α : Type}

/- The metric a call is for. -/
def MetricCall.metric :
    MetricCall α → Metric
  | .incrementCounter metric _ => metric
  | .setGauge metric _ => metric
  | .observeHistogram metric _ _ => metric

/- The series a call counts in. -/
def MetricCall.counted :
    MetricCall α → Option SeriesKey
  | .incrementCounter metric _ => some metric.key
  | .setGauge .. => none
  | .observeHistogram .. => none

/- The series a call sets. -/
def MetricCall.gauged :
    MetricCall α → Option SeriesKey
  | .incrementCounter .. => none
  | .setGauge metric _ => some metric.key
  | .observeHistogram .. => none

/- What one call adds to a counter. -/
def MetricCall.amount
    (key : SeriesKey) :
    MetricCall α → List α
  | .incrementCounter metric amount =>
      if metric.key = key then [amount] else []
  | .setGauge .. => []
  | .observeHistogram .. => []

/- What one call sets a gauge to. -/
def MetricCall.setting
    (key : SeriesKey) :
    MetricCall α → List α
  | .incrementCounter .. => []
  | .setGauge metric value =>
      if metric.key = key then [value] else []
  | .observeHistogram .. => []

def amounts
    (key : SeriesKey)
    (calls : List (MetricCall α)) :
    List α :=
  calls.flatMap (MetricCall.amount key)

def settings
    (key : SeriesKey)
    (calls : List (MetricCall α)) :
    List α :=
  calls.flatMap (MetricCall.setting key)

/- The series of one kind that the calls are for, in order. -/
def seriesOf
    (kind : MetricCall α → Option SeriesKey)
    (calls : List (MetricCall α)) :
    List SeriesKey :=
  (calls.filterMap kind).dedup.insertionSort seriesLe

/- The sample of a counter or of a gauge. -/
def valueSample
    (formats : Formats α)
    (key : SeriesKey)
    (value : α) :
    List Sample :=
  [{ name := key.1
     labels := key.2
     value := formats.value value }]

/- The sample of a bucket, whose limit is written already. -/
def bucketSample
    (key : SeriesKey)
    (limit : String)
    (cumulative : Nat) :
    Sample where
  name := key.1 ++ "_bucket"
  labels := key.2 ++ [("le", limit)]
  value := toString cumulative

variable [LinearOrder α] [Zero α] [Add α]

/- The samples of the values observed. -/
def observedSamples
    (formats : Formats α)
    (key : SeriesKey)
    (buckets values : List α) :
    List Sample :=
  (sortedDistinct buckets).map
      (fun bucket =>
        bucketSample key (formats.bucket bucket)
          (values.countP fun value => value ≤ bucket)) ++
    [bucketSample key "+Inf" values.length,
      { name := key.1 ++ "_count"
        labels := key.2
        value := toString values.length },
      { name := key.1 ++ "_sum"
        labels := key.2
        value :=
          formats.value
            (values.foldl (fun total value => total + value)
              0) }]

/- The samples of a counter: one sum, if any was counted. -/
def counterSamples
    (formats : Formats α)
    (key : SeriesKey) :
    List α → List Sample
  | [] => []
  | first :: rest =>
      valueSample formats key
        ((first :: rest).foldl
          (fun total amount => total + amount) 0)

/- The samples of a gauge: the last value, if any was set. -/
def gaugeSamples
    (formats : Formats α)
    (key : SeriesKey)
    (values : List α) :
    List Sample :=
  match values.getLast? with
  | none => []
  | some value => valueSample formats key value

/- The samples of a histogram, with the first buckets. -/
def histogramSamples
    (formats : Formats α)
    (key : SeriesKey) :
    List (α × List α) → List Sample
  | [] => []
  | first :: rest =>
      observedSamples formats key first.2
        ((first :: rest).map Prod.fst)

/- What the text of the metrics tells of the calls made. -/
def exposed
    (formats : Formats α)
    (calls : List (MetricCall α)) :
    List Sample :=
  ((seriesOf MetricCall.counted calls).flatMap fun key =>
      counterSamples formats key (amounts key calls)) ++
    ((seriesOf MetricCall.gauged calls).flatMap fun key =>
      gaugeSamples formats key (settings key calls)) ++
    ((seriesOf MetricCall.observed calls).flatMap fun key =>
      histogramSamples formats key (observations key calls))

end Observability

end AccessIQ

------------------------------------------------------------
-- Series In Order
------------------------------------------------------------

namespace AccessIQ

namespace Observability

open Foundations Python

/- A key as the order of Python's tuples compares it. -/
def SeriesKey.ordered
    (key : SeriesKey) :
    Lex (String × List (Lex (String × String))) :=
  toLex (key.1, key.2.map toLex)

theorem ordered_injective :
    Function.Injective SeriesKey.ordered := by
  intro a b hEq
  have hPair := toLex_inj.mp hEq
  injection hPair with hName hLabels
  exact Prod.ext hName
    (List.map_injective_iff.mpr toLex.injective hLabels)

instance : Std.Total seriesLe where
  total a b :=
    le_total (SeriesKey.ordered a) (SeriesKey.ordered b)

instance : IsTrans SeriesKey seriesLe where
  trans _ _ _ hab hbc := le_trans hab hbc

instance : Std.Antisymm seriesLe where
  antisymm _ _ hab hba :=
    ordered_injective (le_antisymm hab hba)

/- Keys in order have their names in order. -/
theorem name_le_of_seriesLe
    {a b : SeriesKey}
    (hLe : seriesLe a b) :
    a.1 ≤ b.1 := by
  rcases Prod.Lex.le_iff.mp hLe with hLess | hSame
  · exact le_of_lt hLess
  · exact le_of_eq hSame.1

/- The stored series in order are those with these keys. -/
theorem sorted_entries
    {β : Type}
    {series : Dict SeriesKey β}
    {keys : List SeriesKey}
    (hKeys : ∀ key, key ∈ series.keys ↔ key ∈ keys) :
    (series.entries.insertionSort fun a b =>
          seriesLe a.1 b.1).map Prod.fst =
      keys.dedup.insertionSort seriesLe := by
  have hMap :=
    List.map_insertionSort
      (fun a b : SeriesKey × β => seriesLe a.1 b.1)
      seriesLe Prod.fst series.entries
      (fun _ _ _ _ => Iff.rfl)
  have hSame :=
    insertionSort_eq_of_mem_iff (r := seriesLe)
      series.nodup keys.nodup_dedup
      (fun key => (hKeys key).trans List.mem_dedup.symm)
  exact hMap.trans hSame

end Observability

end AccessIQ

------------------------------------------------------------
-- What The Provider Keeps
------------------------------------------------------------

namespace AccessIQ

namespace Observability

open Foundations Python

variable {α : Type}

/- A description changes nothing but the descriptions. -/
@[simp] theorem counters_rememberDescription
    (provider : PrometheusProvider α)
    (metric : Metric) :
    (provider.rememberDescription metric).counters =
      provider.counters := by
  unfold PrometheusProvider.rememberDescription
  split
  · rfl
  · split_ifs <;> rfl

@[simp] theorem gauges_rememberDescription
    (provider : PrometheusProvider α)
    (metric : Metric) :
    (provider.rememberDescription metric).gauges =
      provider.gauges := by
  unfold PrometheusProvider.rememberDescription
  split
  · rfl
  · split_ifs <;> rfl

/- A description is kept already, or is the one given. -/
theorem get?_rememberDescription
    {provider : PrometheusProvider α}
    {metric : Metric}
    {name text : String}
    (hGet :
      (provider.rememberDescription metric).descriptions.get?
          name =
        some text) :
    metric.description = some text ∨
      provider.descriptions.get? name = some text := by
  unfold PrometheusProvider.rememberDescription at hGet
  cases hDescription : metric.description with
  | none =>
      rw [hDescription] at hGet
      exact Or.inr hGet
  | some description =>
      rw [hDescription] at hGet
      dsimp only at hGet
      by_cases hEmpty : description = ""
      · rw [if_pos hEmpty] at hGet
        exact Or.inr hGet
      · rw [if_neg hEmpty] at hGet
        dsimp only at hGet
        unfold Dict.setDefault at hGet
        split_ifs at hGet with hKept
        · exact Or.inr hGet
        · rw [Dict.get?_set] at hGet
          split_ifs at hGet with hName
          · exact Or.inl hGet
          · exact Or.inr hGet

/- A list of a series has values if a call is for it. -/
theorem flatMap_ne_nil_iff
    {β : Type}
    {kind : MetricCall α → Option SeriesKey}
    {values : MetricCall α → List β}
    {key : SeriesKey}
    (hValues :
      ∀ call, values call ≠ [] ↔ kind call = some key)
    (calls : List (MetricCall α)) :
    calls.flatMap values ≠ [] ↔ key ∈ calls.filterMap kind := by
  rw [List.mem_filterMap, ne_eq, List.flatMap_eq_nil_iff]
  simp only [not_forall, exists_prop]
  exact exists_congr fun call =>
    and_congr_right fun _ => hValues call

theorem amount_ne_nil_iff
    (key : SeriesKey)
    (call : MetricCall α) :
    call.amount key ≠ [] ↔ call.counted = some key := by
  cases call with
  | incrementCounter metric amount =>
      unfold MetricCall.amount MetricCall.counted
      by_cases hKey : metric.key = key <;> simp [hKey]
  | setGauge metric value =>
      simp [MetricCall.amount, MetricCall.counted]
  | observeHistogram metric value buckets =>
      simp [MetricCall.amount, MetricCall.counted]

theorem setting_ne_nil_iff
    (key : SeriesKey)
    (call : MetricCall α) :
    call.setting key ≠ [] ↔ call.gauged = some key := by
  cases call with
  | incrementCounter metric amount =>
      simp [MetricCall.setting, MetricCall.gauged]
  | setGauge metric value =>
      unfold MetricCall.setting MetricCall.gauged
      by_cases hKey : metric.key = key <;> simp [hKey]
  | observeHistogram metric value buckets =>
      simp [MetricCall.setting, MetricCall.gauged]

theorem observation_ne_nil_iff
    (key : SeriesKey)
    (call : MetricCall α) :
    call.observation key ≠ [] ↔ call.observed = some key := by
  cases call with
  | incrementCounter metric amount =>
      simp [MetricCall.observation, MetricCall.observed]
  | setGauge metric value =>
      simp [MetricCall.observation, MetricCall.observed]
  | observeHistogram metric value buckets =>
      unfold MetricCall.observation MetricCall.observed
      by_cases hKey : metric.key = key <;> simp [hKey]

/- The key of a call is the one of its metric. -/
theorem key_of_counted
    {key : SeriesKey}
    {call : MetricCall α}
    (hKind : call.counted = some key) :
    call.metric.key = key := by
  cases call with
  | incrementCounter metric amount =>
      exact Option.some_inj.mp hKind
  | setGauge metric value => cases hKind
  | observeHistogram metric value buckets => cases hKind

theorem key_of_gauged
    {key : SeriesKey}
    {call : MetricCall α}
    (hKind : call.gauged = some key) :
    call.metric.key = key := by
  cases call with
  | incrementCounter metric amount => cases hKind
  | setGauge metric value =>
      exact Option.some_inj.mp hKind
  | observeHistogram metric value buckets => cases hKind

theorem key_of_observed
    {key : SeriesKey}
    {call : MetricCall α}
    (hKind : call.observed = some key) :
    call.metric.key = key := by
  cases call with
  | incrementCounter metric amount => cases hKind
  | setGauge metric value => cases hKind
  | observeHistogram metric value buckets =>
      exact Option.some_inj.mp hKind

variable [LinearOrder α] [Zero α] [Add α]

theorem run_concat
    (calls : List (MetricCall α))
    (call : MetricCall α) :
    PrometheusProvider.run (calls ++ [call]) =
      (PrometheusProvider.run calls).step call := by
  unfold PrometheusProvider.run
  rw [List.foldl_append]
  rfl

/- The sum of some amounts, if there are any. -/
def totalOf :
    List α → Option α
  | [] => none
  | first :: rest =>
      some
        ((first :: rest).foldl
          (fun total amount => total + amount) 0)

omit [LinearOrder α] in
theorem totalOf_concat
    (values : List α)
    (amount : α) :
    totalOf (values ++ [amount]) =
      some ((totalOf values).getD 0 + amount) := by
  cases values with
  | nil => rfl
  | cons first rest =>
      have hFold :
          totalOf (first :: rest ++ [amount]) =
            some
              ((first :: rest ++ [amount]).foldl
                (fun total amount => total + amount) 0) :=
        rfl
      rw [hFold, List.foldl_append]
      rfl

/- A counter is the sum of the amounts. -/
theorem get?_counters_run
    (calls : List (MetricCall α))
    (key : SeriesKey) :
    (PrometheusProvider.run calls).counters.get? key =
      totalOf (amounts key calls) := by
  induction calls using List.reverseRecOn with
  | nil => rfl
  | append_singleton calls call ih =>
      have hAmounts :
          amounts key (calls ++ [call]) =
            amounts key calls ++ call.amount key := by
        unfold amounts
        rw [List.flatMap_append, List.flatMap_singleton]
      rw [run_concat, hAmounts]
      cases call with
      | incrementCounter metric amount =>
          simp only [PrometheusProvider.step,
            PrometheusProvider.incrementCounter,
            counters_rememberDescription,
            MetricCall.amount]
          rw [Dict.get?_set]
          by_cases hKey : metric.key = key
          · subst hKey
            rw [if_pos rfl, if_pos rfl, totalOf_concat, ih]
          · rw [if_neg hKey, if_neg hKey, List.append_nil,
              ih]
      | setGauge metric value =>
          simp only [PrometheusProvider.step,
            PrometheusProvider.setGauge,
            counters_rememberDescription,
            MetricCall.amount, List.append_nil]
          exact ih
      | observeHistogram metric value buckets =>
          simp only [PrometheusProvider.step,
            PrometheusProvider.observeHistogram,
            counters_rememberDescription,
            MetricCall.amount, List.append_nil]
          exact ih

/- A gauge is the value set last. -/
theorem get?_gauges_run
    (calls : List (MetricCall α))
    (key : SeriesKey) :
    (PrometheusProvider.run calls).gauges.get? key =
      (settings key calls).getLast? := by
  induction calls using List.reverseRecOn with
  | nil => rfl
  | append_singleton calls call ih =>
      have hSettings :
          settings key (calls ++ [call]) =
            settings key calls ++ call.setting key := by
        unfold settings
        rw [List.flatMap_append, List.flatMap_singleton]
      rw [run_concat, hSettings]
      cases call with
      | incrementCounter metric amount =>
          simp only [PrometheusProvider.step,
            PrometheusProvider.incrementCounter,
            gauges_rememberDescription,
            MetricCall.setting, List.append_nil]
          exact ih
      | setGauge metric value =>
          simp only [PrometheusProvider.step,
            PrometheusProvider.setGauge,
            gauges_rememberDescription,
            MetricCall.setting]
          rw [Dict.get?_set]
          by_cases hKey : metric.key = key
          · rw [if_pos hKey, if_pos hKey,
              List.getLast?_append]
            rfl
          · rw [if_neg hKey, if_neg hKey, List.append_nil,
              ih]
      | observeHistogram metric value buckets =>
          simp only [PrometheusProvider.step,
            PrometheusProvider.observeHistogram,
            gauges_rememberDescription,
            MetricCall.setting, List.append_nil]
          exact ih

/- Every description was given with a call. -/
theorem get?_descriptions_run
    {calls : List (MetricCall α)}
    {name text : String}
    (hGet :
      (PrometheusProvider.run calls).descriptions.get? name =
        some text) :
    ∃ call ∈ calls, call.metric.description = some text := by
  induction calls using List.reverseRecOn with
  | nil => cases hGet
  | append_singleton calls call ih =>
      rw [run_concat] at hGet
      have hKept :
          call.metric.description = some text ∨
            (PrometheusProvider.run calls).descriptions.get?
                name =
              some text := by
        cases call with
        | incrementCounter metric amount =>
            exact get?_rememberDescription hGet
        | setGauge metric value =>
            exact get?_rememberDescription hGet
        | observeHistogram metric value buckets =>
            exact get?_rememberDescription hGet
      rcases hKept with hGiven | hBefore
      · exact ⟨call, by simp, hGiven⟩
      · rcases ih hBefore with ⟨other, hOther, hText⟩
        exact ⟨other, List.mem_append_left _ hOther, hText⟩

/- The keys of the series are those of the calls. -/
theorem mem_keys_counters_run
    (calls : List (MetricCall α))
    (key : SeriesKey) :
    key ∈ (PrometheusProvider.run calls).counters.keys ↔
      key ∈ calls.filterMap MetricCall.counted := by
  rw [← flatMap_ne_nil_iff (amount_ne_nil_iff key),
    ← not_iff_not, ← Dict.get?_eq_none_iff,
    get?_counters_run, not_not]
  change totalOf (amounts key calls) = none ↔
    amounts key calls = []
  cases amounts key calls with
  | nil => exact iff_of_true rfl rfl
  | cons first rest =>
      exact iff_of_false (Option.some_ne_none _)
        (List.cons_ne_nil _ _)

theorem mem_keys_gauges_run
    (calls : List (MetricCall α))
    (key : SeriesKey) :
    key ∈ (PrometheusProvider.run calls).gauges.keys ↔
      key ∈ calls.filterMap MetricCall.gauged := by
  rw [← flatMap_ne_nil_iff (setting_ne_nil_iff key),
    ← not_iff_not, ← Dict.get?_eq_none_iff,
    get?_gauges_run, not_not]
  exact List.getLast?_eq_none_iff

theorem mem_keys_histograms_run
    (calls : List (MetricCall α))
    (key : SeriesKey) :
    key ∈ (PrometheusProvider.run calls).histograms.keys ↔
      key ∈ calls.filterMap MetricCall.observed := by
  have hAll := represents_run calls key
  rw [← flatMap_ne_nil_iff (observation_ne_nil_iff key),
    ← not_iff_not, ← Dict.get?_eq_none_iff, not_not]
  change _ ↔ observations key calls = []
  cases hObserved : observations key calls with
  | nil =>
      rw [hObserved] at hAll
      exact iff_of_true hAll rfl
  | cons first rest =>
      rw [hObserved] at hAll
      rcases hAll with ⟨state, hState, -⟩
      rw [hState]
      exact iff_of_false (Option.some_ne_none _)
        (List.cons_ne_nil _ _)

end Observability

end AccessIQ

------------------------------------------------------------
-- Lines And Samples
------------------------------------------------------------

namespace AccessIQ

namespace Observability

open Foundations Python

/-
  The samples among the lines, which a reader can take
  apart.
-/
structure Tells
    (lines : List String)
    (samples : List Sample) : Prop where
  sampled : lines.filter isSample = samples.map Sample.line
  plain : ∀ sample ∈ samples, sample.Plain
  oneLine : ∀ line ∈ lines, '\n' ∉ line.toList

theorem Tells.append
    {lines lines' : List String}
    {samples samples' : List Sample}
    (hTells : Tells lines samples)
    (hTells' : Tells lines' samples') :
    Tells (lines ++ lines') (samples ++ samples') where
  sampled := by
    rw [List.filter_append, List.map_append, hTells.sampled,
      hTells'.sampled]
  plain sample hMem := by
    rcases List.mem_append.mp hMem with hMem | hMem
    · exact hTells.plain sample hMem
    · exact hTells'.plain sample hMem
  oneLine line hMem := by
    rcases List.mem_append.mp hMem with hMem | hMem
    · exact hTells.oneLine line hMem
    · exact hTells'.oneLine line hMem

theorem tells_lines
    {samples : List Sample}
    (hPlain : ∀ sample ∈ samples, sample.Plain) :
    Tells (samples.map Sample.line) samples where
  sampled := by
    apply List.filter_eq_self.mpr
    intro line hMem
    rcases List.mem_map.mp hMem with ⟨sample, hSample, rfl⟩
    exact isSample_line (hPlain sample hSample)
  plain := hPlain
  oneLine line hMem := by
    rcases List.mem_map.mp hMem with ⟨sample, hSample, rfl⟩
    exact no_lineFeed_line (hPlain sample hSample)

theorem tells_nil :
    Tells [] [] where
  sampled := rfl
  plain := by simp
  oneLine := by simp

/- What the lines tell is read from their text. -/
theorem Tells.read
    {lines : List String}
    {samples : List Sample}
    (hTells : Tells lines samples)
    (hLines : lines ≠ []) :
    readExposition (joinLines lines) = some samples := by
  unfold readExposition
  rw [splitLines_joinLines hLines hTells.oneLine,
    hTells.sampled]
  apply mapM_eq_some_of_forall
  intro sample hMem
  exact readSample_line (hTells.plain sample hMem)

/- The lines of one series after the other. -/
theorem Tells.flatMap
    {ι : Type}
    {members : List ι}
    {lines : ι → List String}
    {samples : ι → List Sample}
    (hEach :
      ∀ i ∈ members, Tells (lines i) (samples i)) :
    Tells (members.flatMap lines)
      (members.flatMap samples) := by
  induction members with
  | nil => exact tells_nil
  | cons i members ih =>
      rw [List.flatMap_cons, List.flatMap_cons]
      apply (hEach i List.mem_cons_self).append
      apply ih
      intro j hj
      exact hEach j (List.mem_cons_of_mem i hj)

/- A name of a series has no line feed. -/
theorem no_lineFeed_name
    {name : String}
    (hName : ∀ c ∈ name.toList, nameCharacter c) :
    '\n' ∉ name.toList := by
  intro hMem
  exact absurd (hName _ hMem) (by decide)

theorem renderMetricHeader_eq
    (name metricType : String)
    (descriptions : Dict String String) :
    renderMetricHeader name metricType descriptions =
      ["# HELP " ++ name ++ " " ++
          (descriptions.get? name).getD
            (replaceChar name '_' ' '),
        "# TYPE " ++ name ++ " " ++ metricType] :=
  rfl

/- A header tells nothing, on lines of its own. -/
theorem tells_renderMetricHeader
    {name : String}
    (metricType : String)
    {descriptions : Dict String String}
    (hName : ∀ c ∈ name.toList, nameCharacter c)
    (hType : '\n' ∉ metricType.toList)
    (hDescriptions :
      ∀ text,
        descriptions.get? name = some text →
          '\n' ∉ text.toList) :
    Tells (renderMetricHeader name metricType descriptions)
      [] where
  sampled := by
    rw [renderMetricHeader_eq]
    simp [isSample, String.toList_append]
  plain := by simp
  oneLine := by
    have hFeed := no_lineFeed_name hName
    have hText :
        '\n' ∉
          ((descriptions.get? name).getD
            (replaceChar name '_' ' ')).toList := by
      cases hGet : descriptions.get? name with
      | some text => exact hDescriptions text hGet
      | none =>
          intro hMem
          unfold replaceChar at hMem
          rw [Option.getD_none, String.toList_ofList] at hMem
          rcases List.mem_map.mp hMem with ⟨c, hc, hEq⟩
          split_ifs at hEq with hSpace
          · cases hEq
          · exact hFeed (hEq ▸ hc)
    intro line hLine
    rw [renderMetricHeader_eq] at hLine
    rcases List.mem_cons.mp hLine with rfl | hLine
    · simp [String.toList_append, hFeed, hText]
    · cases List.mem_singleton.mp hLine
      simp [String.toList_append, hFeed, hType]

/- The text of one kind of series tells their samples. -/
theorem tells_renderSeries
    {β : Type}
    {metricType : String}
    {descriptions : Dict String String}
    {lines : SeriesKey → β → List String}
    {series : Dict SeriesKey β}
    {keys : List SeriesKey}
    {samples : SeriesKey → List Sample}
    (hType : '\n' ∉ metricType.toList)
    (hDescriptions :
      ∀ name text,
        descriptions.get? name = some text →
          '\n' ∉ text.toList)
    (hKeys : ∀ key, key ∈ series.keys ↔ key ∈ keys)
    (hNames :
      ∀ key ∈ keys, ∀ c ∈ key.1.toList, nameCharacter c)
    (hLines :
      ∀ key value,
        series.get? key = some value →
          lines key value = (samples key).map Sample.line)
    (hPlain :
      ∀ key ∈ keys, ∀ sample ∈ samples key, sample.Plain) :
    Tells (renderSeries metricType descriptions lines series)
      ((keys.dedup.insertionSort seriesLe).flatMap
        samples) := by
  have hMem :
      ∀ entry ∈
        series.entries.insertionSort fun a b =>
          seriesLe a.1 b.1,
        series.get? entry.1 = some entry.2 ∧
          entry.1 ∈ keys := by
    intro entry hEntry
    have hGet : series.get? entry.1 = some entry.2 :=
      Dict.get?_eq_some_iff.mpr
        ((List.mem_insertionSort _).mp hEntry)
    exact
      ⟨hGet,
        (hKeys _).mp (Dict.mem_keys_iff.mpr ⟨_, hGet⟩)⟩
  have hInOrder :
      (series.entries.insertionSort fun a b =>
          seriesLe a.1 b.1).Pairwise
        fun a b => a.1.1 ≤ b.1.1 := by
    have hSorted :=
      List.pairwise_insertionSort seriesLe keys.dedup
    rw [← sorted_entries hKeys, List.pairwise_map] at hSorted
    exact hSorted.imp name_le_of_seriesLe
  have hGroups :=
    flatMap_groups
      (fun entry : SeriesKey × β => samples entry.1)
      (pairwise_sortedDistinct (series.keys.map (·.1)))
      hInOrder
      (by
        intro entry hEntry
        rw [mem_sortedDistinct]
        exact List.mem_map_of_mem
          ((hKeys _).mpr (hMem entry hEntry).2))
  rw [← sorted_entries hKeys, List.flatMap_map, ← hGroups]
  unfold renderSeries
  apply Tells.flatMap
  intro name hName
  rw [mem_sortedDistinct] at hName
  rcases List.mem_map.mp hName with ⟨key, hKey, rfl⟩
  have hHeader :=
    tells_renderMetricHeader metricType
      (hNames key ((hKeys key).mp hKey)) hType
      (hDescriptions key.1)
  apply hHeader.append
  apply Tells.flatMap
  intro entry hEntry
  rcases hMem entry hEntry with ⟨hGet, hIn⟩
  by_cases hSame : entry.1.1 = key.1
  · rw [if_pos hSame, if_pos hSame,
      hLines entry.1 entry.2 hGet]
    exact tells_lines (hPlain entry.1 hIn)
  · rw [if_neg hSame, if_neg hSame]
    exact tells_nil

end Observability

end AccessIQ

------------------------------------------------------------
-- Runs Read Back
------------------------------------------------------------

namespace AccessIQ

namespace Observability

open Foundations Python

variable {α : Type}

/- A written value that a reader can tell from its series. -/
def PlainValue
    (text : String) : Prop :=
  ' ' ∉ text.toList ∧ '\n' ∉ text.toList

/- A call whose labels and description can be told apart. -/
structure MetricCall.Plain
    (call : MetricCall α) : Prop where
  labels : ValidNames call.metric.labels
  description :
    ∀ text ∈ call.metric.description, '\n' ∉ text.toList

/- A series whose parts can be told apart. -/
structure PlainKey
    (key : SeriesKey) : Prop where
  name : ∀ c ∈ key.1.toList, nameCharacter c
  labels : ∀ label ∈ key.2, validLabelName label.1

theorem plainValue_int
    (i : Int) :
    PlainValue (toString i) := by
  constructor
  · intro hMem
    rcases mem_toString hMem with hMinus | hDigit
    · exact absurd hMinus (by decide)
    · exact absurd hDigit (by decide)
  · intro hMem
    rcases mem_toString hMem with hMinus | hDigit
    · exact absurd hMinus (by decide)
    · exact absurd hDigit (by decide)

theorem plainValue_nat
    (n : Nat) :
    PlainValue (toString n) :=
  plainValue_int n

theorem nameCharacter_of_mem_sanitizeMetricName
    {name : String}
    {c : Char}
    (hc : c ∈ (sanitizeMetricName name).toList) :
    nameCharacter c := by
  unfold sanitizeMetricName at hc
  rw [String.toList_ofList] at hc
  rcases List.mem_map.mp hc with ⟨d, -, hEq⟩
  split_ifs at hEq with hKept
  · exact hEq ▸ hKept
  · exact hEq ▸ rfl

theorem MetricCall.Plain.key
    {call : MetricCall α}
    (hPlain : call.Plain) :
    PlainKey call.metric.key where
  name _ hc := nameCharacter_of_mem_sanitizeMetricName hc
  labels _ hLabel :=
    validLabelName_of_mem_normalizeLabels hPlain.labels hLabel

/- The calls are for series that can be told apart. -/
theorem plainKey_of_mem
    {kind : MetricCall α → Option SeriesKey}
    {calls : List (MetricCall α)}
    (hKind :
      ∀ {key call},
        kind call = some key → call.metric.key = key)
    (hCalls : ∀ call ∈ calls, call.Plain)
    {key : SeriesKey}
    (hMem : key ∈ calls.filterMap kind) :
    PlainKey key := by
  rcases List.mem_filterMap.mp hMem with ⟨call, hCall, hKey⟩
  have hPlain := (hCalls call hCall).key
  rw [hKind hKey] at hPlain
  exact hPlain

/- A sample of the series itself. -/
theorem PlainKey.sample
    {key : SeriesKey}
    (hKey : PlainKey key)
    {value : String}
    (hValue : PlainValue value) :
    Sample.Plain
      { name := key.1
        labels := key.2
        value := value } where
  name := hKey.name
  labels := hKey.labels
  space := hValue.1
  lineFeed := hValue.2

/-
  A sample whose name has an ending of its own.  The endings
  are literals, so the check of one computes.
-/
theorem PlainKey.withEnding
    {key : SeriesKey}
    (hKey : PlainKey key)
    {ending value : String}
    (hEnding : ending.toList.all nameCharacter = true)
    (hValue : PlainValue value) :
    Sample.Plain
      { name := key.1 ++ ending
        labels := key.2
        value := value } where
  name c hc := by
    rw [String.toList_append] at hc
    rcases List.mem_append.mp hc with hc | hc
    · exact hKey.name c hc
    · exact List.all_eq_true.mp hEnding c hc
  labels := hKey.labels
  space := hValue.1
  lineFeed := hValue.2

theorem PlainKey.bucket
    {key : SeriesKey}
    (hKey : PlainKey key)
    (limit : String)
    (cumulative : Nat) :
    (bucketSample key limit cumulative).Plain := by
  have hLimited :
      PlainKey (key.1, key.2 ++ [("le", limit)]) := by
    refine ⟨hKey.name, ?_⟩
    intro label hLabel
    rcases List.mem_append.mp hLabel with hLabel | hLe
    · exact hKey.labels label hLabel
    · cases List.mem_singleton.mp hLe
      change validLabelName "le" = true
      decide
  exact hLimited.withEnding (by decide)
    (plainValue_nat cumulative)

variable [LinearOrder α] [Zero α] [Add α]
variable {formats : Formats α}

/- The lines of a histogram are the lines of its samples. -/
theorem observedLines_eq
    (key : SeriesKey)
    (buckets values : List α) :
    observedLines formats key buckets values =
      (observedSamples formats key buckets values).map
        Sample.line := by
  unfold observedLines observedSamples
  rw [List.map_append, List.map_map]
  rfl

theorem plain_observedSamples
    {key : SeriesKey}
    (hFormats : ∀ value, PlainValue (formats.value value))
    (hKey : PlainKey key)
    (buckets values : List α) :
    ∀ sample ∈ observedSamples formats key buckets values,
      sample.Plain := by
  intro sample hMem
  unfold observedSamples at hMem
  rcases List.mem_append.mp hMem with hMem | hMem
  · rcases List.mem_map.mp hMem with ⟨bucket, -, rfl⟩
    exact hKey.bucket _ _
  · simp only [List.mem_cons, List.not_mem_nil, or_false]
      at hMem
    rcases hMem with rfl | rfl | rfl
    · exact hKey.bucket _ _
    · exact hKey.withEnding (by decide) (plainValue_nat _)
    · exact hKey.withEnding (by decide) (hFormats _)

/- The counters tell the sums of the amounts. -/
theorem tells_counters
    {calls : List (MetricCall α)}
    (hFormats : ∀ value, PlainValue (formats.value value))
    (hCalls : ∀ call ∈ calls, call.Plain)
    {descriptions : Dict String String}
    (hDescriptions :
      ∀ name text,
        descriptions.get? name = some text →
          '\n' ∉ text.toList) :
    Tells
      (renderSeries "counter" descriptions
        (valueLine formats)
        (PrometheusProvider.run calls).counters)
      ((seriesOf MetricCall.counted calls).flatMap fun key =>
        counterSamples formats key (amounts key calls)) := by
  have hKey :
      ∀ key ∈ calls.filterMap MetricCall.counted,
        PlainKey key :=
    fun _ => plainKey_of_mem key_of_counted hCalls
  apply tells_renderSeries (by decide) hDescriptions
    (mem_keys_counters_run calls)
    (fun key hMem => (hKey key hMem).name)
  · intro key value hGet
    rw [get?_counters_run] at hGet
    cases hAmounts : amounts key calls with
    | nil =>
        rw [hAmounts] at hGet
        cases hGet
    | cons first rest =>
        rw [hAmounts] at hGet
        cases Option.some_inj.mp hGet
        rfl
  · intro key hMem sample hSample
    cases hAmounts : amounts key calls with
    | nil =>
        rw [hAmounts] at hSample
        cases hSample
    | cons first rest =>
        rw [hAmounts] at hSample
        cases List.mem_singleton.mp hSample
        exact (hKey key hMem).sample (hFormats _)

/- The gauges tell the values set last. -/
theorem tells_gauges
    {calls : List (MetricCall α)}
    (hFormats : ∀ value, PlainValue (formats.value value))
    (hCalls : ∀ call ∈ calls, call.Plain)
    {descriptions : Dict String String}
    (hDescriptions :
      ∀ name text,
        descriptions.get? name = some text →
          '\n' ∉ text.toList) :
    Tells
      (renderSeries "gauge" descriptions
        (valueLine formats)
        (PrometheusProvider.run calls).gauges)
      ((seriesOf MetricCall.gauged calls).flatMap fun key =>
        gaugeSamples formats key (settings key calls)) := by
  have hKey :
      ∀ key ∈ calls.filterMap MetricCall.gauged,
        PlainKey key :=
    fun _ => plainKey_of_mem key_of_gauged hCalls
  apply tells_renderSeries (by decide) hDescriptions
    (mem_keys_gauges_run calls)
    (fun key hMem => (hKey key hMem).name)
  · intro key value hGet
    rw [get?_gauges_run] at hGet
    unfold gaugeSamples
    rw [hGet]
    rfl
  · intro key hMem sample hSample
    unfold gaugeSamples at hSample
    cases hLast : (settings key calls).getLast? with
    | none =>
        rw [hLast] at hSample
        cases hSample
    | some value =>
        rw [hLast] at hSample
        cases List.mem_singleton.mp hSample
        exact (hKey key hMem).sample (hFormats _)

/- The histograms tell the values observed. -/
theorem tells_histograms
    {calls : List (MetricCall α)}
    (hFormats : ∀ value, PlainValue (formats.value value))
    (hCalls : ∀ call ∈ calls, call.Plain)
    {descriptions : Dict String String}
    (hDescriptions :
      ∀ name text,
        descriptions.get? name = some text →
          '\n' ∉ text.toList) :
    Tells
      (renderSeries "histogram" descriptions
        (histogramLines formats)
        (PrometheusProvider.run calls).histograms)
      ((seriesOf MetricCall.observed calls).flatMap fun key =>
        histogramSamples formats key
          (observations key calls)) := by
  have hKey :
      ∀ key ∈ calls.filterMap MetricCall.observed,
        PlainKey key :=
    fun _ => plainKey_of_mem key_of_observed hCalls
  apply tells_renderSeries (by decide) hDescriptions
    (mem_keys_histograms_run calls)
    (fun key hMem => (hKey key hMem).name)
  · intro key histogram hGet
    have hAll := represents_run calls key
    cases hObserved : observations key calls with
    | nil =>
        rw [hObserved, hGet] at hAll
        cases hAll
    | cons first rest =>
        rw [hObserved, hGet] at hAll
        rcases hAll with ⟨state, hState, hRepresents⟩
        cases Option.some_inj.mp hState
        rw [histogramLines_of_represents formats key
          hRepresents]
        exact observedLines_eq key _ _
  · intro key hMem sample hSample
    cases hObserved : observations key calls with
    | nil =>
        rw [hObserved] at hSample
        cases hSample
    | cons first rest =>
        rw [hObserved] at hSample
        exact
          plain_observedSamples hFormats (hKey key hMem) _ _
            sample hSample

/-
  Whatever calls were made, in any order and for any series,
  the text that the provider renders is read as what the
  calls say: no sample is lost, invented or torn apart.
-/
theorem exposition_read_back
    (formats : Formats α)
    (hFormats : ∀ value, PlainValue (formats.value value))
    (calls : List (MetricCall α))
    (hCalls : ∀ call ∈ calls, call.Plain) :
    readExposition
        ((PrometheusProvider.run calls).render formats) =
      some (exposed formats calls) := by
  have hDescriptions :
      ∀ name text,
        (PrometheusProvider.run calls).descriptions.get?
            name =
          some text →
          '\n' ∉ text.toList := by
    intro name text hGet
    rcases get?_descriptions_run hGet with
      ⟨call, hCall, hText⟩
    exact (hCalls call hCall).description text hText
  have hEnd : Tells [""] [] := by
    refine ⟨rfl, by simp, ?_⟩
    intro line hLine
    cases List.mem_singleton.mp hLine
    simp
  have hTells :=
    (((tells_counters hFormats hCalls hDescriptions).append
          (tells_gauges hFormats hCalls hDescriptions)).append
        (tells_histograms hFormats hCalls
          hDescriptions)).append
      hEnd
  rw [List.append_nil] at hTells
  apply hTells.read
  exact List.append_ne_nil_of_right_ne_nil _
    (List.cons_ne_nil _ _)

/- Calls of each kind, one of them described. -/
def mixedCalls : List (MetricCall Int) :=
  let labels (path : String) : MetricLabels :=
    Dict.empty.set "path" (some (.text path))
  [.incrementCounter
      { name := "http requests"
        labels := labels "/a b\n"
        description := some "All requests." } 2,
    .setGauge { name := "release" } 1,
    .incrementCounter
      { name := "http.requests"
        labels := labels "/a b\n" } 5,
    .setGauge { name := "release" } (-4),
    .observeHistogram
      { name := "duration"
        labels := labels "\"" } 12 [50, 10]]

theorem exposition_read_back_mixed :
    readExposition
        ((PrometheusProvider.run mixedCalls).render
          wholeFormats) =
      some (exposed wholeFormats mixedCalls) := by
  apply exposition_read_back
  · exact plainValue_int
  · intro call hCall
    simp only [mixedCalls, List.mem_cons, List.not_mem_nil,
      or_false] at hCall
    rcases hCall with rfl | rfl | rfl | rfl | rfl
    · exact ⟨by unfold ValidNames; decide, by decide⟩
    · exact ⟨by unfold ValidNames; decide, by decide⟩
    · exact ⟨by unfold ValidNames; decide, by decide⟩
    · exact ⟨by unfold ValidNames; decide, by decide⟩
    · exact ⟨by unfold ValidNames; decide, by decide⟩

example :
    exposed wholeFormats mixedCalls =
      [{ name := "http_requests"
         labels := [("path", "/a b\n")]
         value := "7" },
        { name := "release", labels := [], value := "-4" },
        { name := "duration_bucket"
          labels := [("path", "\""), ("le", "10")]
          value := "0" },
        { name := "duration_bucket"
          labels := [("path", "\""), ("le", "50")]
          value := "1" },
        { name := "duration_bucket"
          labels := [("path", "\""), ("le", "+Inf")]
          value := "1" },
        { name := "duration_count"
          labels := [("path", "\"")]
          value := "1" },
        { name := "duration_sum"
          labels := [("path", "\"")]
          value := "12" }] := by
  decide +kernel

end Observability

end AccessIQ
