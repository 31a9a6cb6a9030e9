import AccessIQ.Foundations.Buckets
import AccessIQ.Observability.Labels

/-
  The Prometheus provider and its histograms.

  A histogram counts each observation in one bucket, and its
  text shows the running totals, so that a bucket line says
  how many observations its limit holds.

  The observed values are of any linear order; how a value
  and a limit are written is a parameter.

  Key definitions include:
    * `HistogramState`
    * `PrometheusProvider`
    * `MetricCall`
    * `PrometheusProvider.render`
    * `HistogramState.Represents`
    * `observations`
    * `HistogramRendered`

  Key theorems include:
    * `HistogramState.Represents.observe`
    * `represents_run`
    * `histogram_rendered`
-/

------------------------------------------------------------
-- Histograms
------------------------------------------------------------

namespace AccessIQ

namespace Observability

open Foundations Python

/- How values and bucket limits are written. -/
structure Formats (α : Type) where
  value : α → String
  bucket : α → String

structure HistogramState (α : Type) where
  buckets : List α
  bucketCounts : Dict α Nat
  infCount : Nat := 0
  count : Nat := 0
  total : α

variable {α : Type}
variable [LinearOrder α] [Zero α] [Add α]

/- The state of a histogram without observations. -/
def HistogramState.create
    (buckets : List α) :
    HistogramState α where
  buckets := sortedDistinct buckets
  bucketCounts :=
    buckets.foldl (fun counts bucket => counts.set bucket 0)
      .empty
  total := 0

/- The count of one bucket. -/
def HistogramState.countOf
    (histogram : HistogramState α)
    (bucket : α) :
    Nat :=
  (histogram.bucketCounts.get? bucket).getD 0

/- `HistogramState.observe`. -/
def HistogramState.observe
    (histogram : HistogramState α)
    (value : α) :
    HistogramState α :=
  let counted :=
    { histogram with
      count := histogram.count + 1
      total := histogram.total + value }
  -- the loop returns at the first bucket that holds it
  match
    histogram.buckets.find? fun bucket => value ≤ bucket
  with
  | some bucket =>
      { counted with
        bucketCounts :=
          histogram.bucketCounts.set bucket
            (histogram.countOf bucket + 1) }
  | none =>
      { counted with infCount := histogram.infCount + 1 }

end Observability

end AccessIQ

------------------------------------------------------------
-- The Provider
------------------------------------------------------------

namespace AccessIQ

namespace Observability

open Foundations Python

structure PrometheusProvider (α : Type) where
  counters : Dict SeriesKey α
  gauges : Dict SeriesKey α
  histograms : Dict SeriesKey (HistogramState α)
  descriptions : Dict String String

/- What every call of the provider names. -/
structure Metric where
  name : String
  labels : MetricLabels := .empty
  description : Option String := none

/- A call of the provider. -/
inductive MetricCall (α : Type) where
  | incrementCounter (metric : Metric) (amount : α)
  | setGauge (metric : Metric) (value : α)
  | observeHistogram
      (metric : Metric) (value : α) (buckets : List α)

/- The key a metric is stored under. -/
def Metric.key
    (metric : Metric) :
    SeriesKey :=
  (sanitizeMetricName metric.name,
    normalizeLabels metric.labels)

namespace PrometheusProvider

variable {α : Type}

/- A new provider. -/
def empty : PrometheusProvider α where
  counters := .empty
  gauges := .empty
  histograms := .empty
  descriptions := .empty

/- `_remember_description`: the first one is kept. -/
def rememberDescription
    (provider : PrometheusProvider α)
    (metric : Metric) :
    PrometheusProvider α :=
  match metric.description with
  | none => provider
  | some description =>
      if description = "" then
        provider
      else
        { provider with
          descriptions :=
            provider.descriptions.setDefault
              (sanitizeMetricName metric.name) description }

def setGauge
    (provider : PrometheusProvider α)
    (metric : Metric)
    (value : α) :
    PrometheusProvider α :=
  let provider := provider.rememberDescription metric
  { provider with
    gauges := provider.gauges.set metric.key value }

variable [LinearOrder α] [Zero α] [Add α]

def incrementCounter
    (provider : PrometheusProvider α)
    (metric : Metric)
    (amount : α) :
    PrometheusProvider α :=
  let provider := provider.rememberDescription metric
  { provider with
    counters :=
      provider.counters.set metric.key
        ((provider.counters.get? metric.key).getD 0 +
          amount) }

def observeHistogram
    (provider : PrometheusProvider α)
    (metric : Metric)
    (value : α)
    (buckets : List α) :
    PrometheusProvider α :=
  let provider := provider.rememberDescription metric
  let histogram :=
    (provider.histograms.get? metric.key).getD
      (.create buckets)
  { provider with
    histograms :=
      provider.histograms.set metric.key
        (histogram.observe value) }

/- The provider after a call. -/
def step
    (provider : PrometheusProvider α) :
    MetricCall α → PrometheusProvider α
  | .incrementCounter metric amount =>
      provider.incrementCounter metric amount
  | .setGauge metric value => provider.setGauge metric value
  | .observeHistogram metric value buckets =>
      provider.observeHistogram metric value buckets

/- The provider after the calls of a run. -/
def run
    (calls : List (MetricCall α)) :
    PrometheusProvider α :=
  calls.foldl step empty

end PrometheusProvider

end Observability

end AccessIQ

------------------------------------------------------------
-- The Text Of The Metrics
------------------------------------------------------------

namespace AccessIQ

namespace Observability

open Foundations Python

/- `_render_metric_header`. -/
def renderMetricHeader
    (name metricType : String)
    (descriptions : Dict String String) :
    List String :=
  let description :=
    (descriptions.get? name).getD (replaceChar name '_' ' ')
  [s!"# HELP {name} {description}",
    s!"# TYPE {name} {metricType}"]

/-
  The series of one kind: for each name in order its header,
  and the lines of its series in the order of their labels.
-/
def renderSeries
    {β : Type}
    (metricType : String)
    (descriptions : Dict String String)
    (lines : SeriesKey → β → List String)
    (series : Dict SeriesKey β) :
    List String :=
  (sortedDistinct (series.keys.map (·.1))).flatMap
    fun name =>
      renderMetricHeader name metricType descriptions ++
        (series.entries.insertionSort fun a b =>
            seriesLe a.1 b.1).flatMap
          fun entry =>
            if entry.1.1 = name then
              lines entry.1 entry.2
            else
              []

variable {α : Type}

/- The line of a counter or of a gauge. -/
def valueLine
    (formats : Formats α)
    (key : SeriesKey)
    (value : α) :
    List String :=
  [s!"{key.1}{formatLabels key.2} {formats.value value}"]

/- The line of a bucket, whose limit is written already. -/
def bucketLine
    (key : SeriesKey)
    (limit : String)
    (cumulative : Nat) :
    String :=
  let labels := formatLabels (key.2 ++ [("le", limit)])
  s!"{key.1}_bucket{labels} {cumulative}"

/- The lines of a histogram after those of its buckets. -/
def summaryLines
    (formats : Formats α)
    (key : SeriesKey)
    (cumulative count : Nat)
    (total : α) :
    List String :=
  [bucketLine key "+Inf" cumulative,
    s!"{key.1}_count{formatLabels key.2} {count}",
    s!"{key.1}_sum{formatLabels key.2} " ++
      formats.value total]

variable [LinearOrder α] [Zero α] [Add α]

/-
  The loop over the buckets: their lines, and the total the
  loop ends with.
-/
def bucketLines
    (formats : Formats α)
    (key : SeriesKey)
    (histogram : HistogramState α) :
    List α → Nat → List String × Nat
  | [], cumulative => ([], cumulative)
  | bucket :: rest, cumulative =>
      let cumulative := cumulative + histogram.countOf bucket
      let (lines, final) :=
        bucketLines formats key histogram rest cumulative
      (bucketLine key (formats.bucket bucket) cumulative ::
          lines,
        final)

/- The lines of a histogram. -/
def histogramLines
    (formats : Formats α)
    (key : SeriesKey)
    (histogram : HistogramState α) :
    List String :=
  let (lines, cumulative) :=
    bucketLines formats key histogram histogram.buckets 0
  lines ++
    summaryLines formats key (cumulative + histogram.infCount)
      histogram.count histogram.total

/- The lines of `render`. -/
def PrometheusProvider.lines
    (formats : Formats α)
    (provider : PrometheusProvider α) :
    List String :=
  renderSeries "counter" provider.descriptions
      (valueLine formats) provider.counters ++
    renderSeries "gauge" provider.descriptions
      (valueLine formats) provider.gauges ++
    renderSeries "histogram" provider.descriptions
      (histogramLines formats) provider.histograms ++
    [""]

def PrometheusProvider.render
    (formats : Formats α)
    (provider : PrometheusProvider α) :
    String :=
  String.intercalate "\n" (provider.lines formats)

end Observability

end AccessIQ

------------------------------------------------------------
-- What A Histogram Represents
------------------------------------------------------------

namespace AccessIQ

namespace Observability

open Foundations Python

variable {α : Type}
variable [LinearOrder α] [Zero α] [Add α]

namespace HistogramState

/- The state counts the values observed so far. -/
structure Represents
    (histogram : HistogramState α)
    (buckets values : List α) : Prop where
  limits : histogram.buckets = sortedDistinct buckets
  counts :
    ∀ bucket,
      histogram.countOf bucket =
        countIn (sortedDistinct buckets) values (some bucket)
  overflow :
    histogram.infCount =
      countIn (sortedDistinct buckets) values none
  count : histogram.count = values.length
  total :
    histogram.total =
      values.foldl (fun total value => total + value) 0

omit [Add α] in
theorem countOf_create
    (buckets : List α)
    (bucket : α) :
    (create buckets).countOf bucket = 0 := by
  have hZero :
      ∀ (rest : List α) (counts : Dict α Nat),
        (counts.get? bucket).getD 0 = 0 →
          ((rest.foldl
                (fun counts bucket => counts.set bucket 0)
                counts).get? bucket).getD 0 =
            0 := by
    intro rest
    induction rest with
    | nil => exact fun _ hCounts => hCounts
    | cons limit rest ih =>
        intro counts hCounts
        apply ih
        rw [Dict.get?_set]
        by_cases hEq : limit = bucket
        · rw [if_pos hEq]
          rfl
        · rw [if_neg hEq]
          exact hCounts
  apply hZero buckets .empty
  rw [Dict.get?_empty]
  rfl

/- A new histogram has observed nothing. -/
theorem represents_create
    (buckets : List α) :
    (create buckets).Represents buckets [] where
  limits := rfl
  counts bucket := by
    rw [countOf_create, countIn_nil]
  overflow := by
    rw [countIn_nil]
    rfl
  count := rfl
  total := rfl

/- One more observation counts in one place. -/
theorem Represents.observe
    {histogram : HistogramState α}
    {buckets values : List α}
    (hRepresents : histogram.Represents buckets values)
    (value : α) :
    (histogram.observe value).Represents buckets
      (values ++ [value]) := by
  have hCount :
      histogram.count + 1 = (values ++ [value]).length := by
    rw [List.length_append, hRepresents.count]
    rfl
  have hTotal :
      histogram.total + value =
        (values ++ [value]).foldl
          (fun total value => total + value) 0 := by
    rw [List.foldl_append, ← hRepresents.total]
    rfl
  have hFind :
      (histogram.buckets.find? fun bucket =>
          value ≤ bucket) =
        bucketOf (sortedDistinct buckets) value := by
    rw [hRepresents.limits]
    rfl
  unfold HistogramState.observe
  rw [hFind]
  cases hBucket :
      bucketOf (sortedDistinct buckets) value with
  | some bucket =>
      refine
        { limits := hRepresents.limits
          counts := ?_
          overflow := ?_
          count := hCount
          total := hTotal }
      · intro other
        change
          ((histogram.bucketCounts.set bucket _).get?
              other).getD 0 = _
        rw [Dict.get?_set, countIn_concat, hBucket,
          ← hRepresents.counts]
        by_cases hEq : bucket = other
        · subst hEq
          rw [if_pos rfl, if_pos rfl]
          rfl
        · rw [if_neg hEq,
            if_neg fun hSome => hEq (Option.some_inj.mp hSome)]
          rfl
      · change histogram.infCount = _
        rw [countIn_concat, hBucket, ← hRepresents.overflow,
          if_neg (Option.some_ne_none bucket)]
        rfl
  | none =>
      refine
        { limits := hRepresents.limits
          counts := ?_
          overflow := ?_
          count := hCount
          total := hTotal }
      · intro other
        change histogram.countOf other = _
        rw [countIn_concat, hBucket, ← hRepresents.counts,
          if_neg (Option.some_ne_none other).symm]
        rfl
      · change histogram.infCount + 1 = _
        rw [countIn_concat, hBucket, ← hRepresents.overflow,
          if_pos rfl]

end HistogramState

/- The lines of the buckets show their running totals. -/
omit [Zero α] [Add α] in
theorem bucketLines_eq
    (formats : Formats α)
    (key : SeriesKey)
    (histogram : HistogramState α)
    (buckets : List α)
    (cumulative : Nat) :
    bucketLines formats key histogram buckets cumulative =
      ((runningTotals histogram.countOf cumulative
            buckets).map
          fun total =>
            bucketLine key (formats.bucket total.1) total.2,
        cumulative +
          (buckets.map histogram.countOf).sum) := by
  induction buckets generalizing cumulative with
  | nil => rfl
  | cons bucket rest ih =>
      simp only [bucketLines, ih, runningTotals,
        List.map_cons, List.sum_cons, Nat.add_assoc]

/- The lines of the values observed. -/
def observedLines
    (formats : Formats α)
    (key : SeriesKey)
    (buckets values : List α) :
    List String :=
  (sortedDistinct buckets).map
      (fun bucket =>
        bucketLine key (formats.bucket bucket)
          (values.countP fun value => value ≤ bucket)) ++
    summaryLines formats key values.length values.length
      (values.foldl (fun total value => total + value) 0)

/- The lines of a histogram tell what it represents. -/
theorem histogramLines_of_represents
    (formats : Formats α)
    (key : SeriesKey)
    {histogram : HistogramState α}
    {buckets values : List α}
    (hRepresents : histogram.Represents buckets values) :
    histogramLines formats key histogram =
      observedLines formats key buckets values := by
  have hSorted := pairwise_sortedDistinct buckets
  have hCounts :
      histogram.countOf =
        fun bucket =>
          countIn (sortedDistinct buckets) values
            (some bucket) :=
    funext hRepresents.counts
  have hAll := sum_countIn_add_overflow values hSorted
  unfold histogramLines observedLines
  simp only [bucketLines_eq]
  rw [hRepresents.limits, hCounts,
    runningTotals_countIn values hSorted, List.map_map,
    Nat.zero_add, hRepresents.overflow, hAll,
    hRepresents.count, hRepresents.total]
  rfl

end Observability

end AccessIQ

------------------------------------------------------------
-- Runs Of The Provider
------------------------------------------------------------

namespace AccessIQ

namespace Observability

open Foundations Python

variable {α : Type}

/- The series a call observes a value of. -/
def MetricCall.observed :
    MetricCall α → Option SeriesKey
  | .incrementCounter .. => none
  | .setGauge .. => none
  | .observeHistogram metric .. => some metric.key

/- What one call observes of a series, with its buckets. -/
def MetricCall.observation
    (key : SeriesKey) :
    MetricCall α → List (α × List α)
  | .incrementCounter .. => []
  | .setGauge .. => []
  | .observeHistogram metric value buckets =>
      if metric.key = key then [(value, buckets)] else []

/- What the calls of a run observe of a series. -/
def observations
    (key : SeriesKey)
    (calls : List (MetricCall α)) :
    List (α × List α) :=
  calls.flatMap (MetricCall.observation key)

theorem observation_of_ne
    {key : SeriesKey}
    {call : MetricCall α}
    (hOther : call.observed ≠ some key) :
    call.observation key = [] := by
  cases call with
  | incrementCounter metric amount => rfl
  | setGauge metric value => rfl
  | observeHistogram metric value buckets =>
      apply if_neg
      intro hKey
      exact hOther (congrArg some hKey)

@[simp] theorem histograms_rememberDescription
    (provider : PrometheusProvider α)
    (metric : Metric) :
    (provider.rememberDescription metric).histograms =
      provider.histograms := by
  unfold PrometheusProvider.rememberDescription
  cases metric.description with
  | none => rfl
  | some description =>
      by_cases hEmpty : description = ""
      · simp only [if_pos hEmpty]
      · simp only [if_neg hEmpty]

variable [LinearOrder α] [Zero α] [Add α]

/- Another series is left as it was. -/
theorem get?_step_of_ne
    {key : SeriesKey}
    {call : MetricCall α}
    (provider : PrometheusProvider α)
    (hOther : call.observed ≠ some key) :
    (provider.step call).histograms.get? key =
      provider.histograms.get? key := by
  cases call with
  | incrementCounter metric amount =>
      simp [PrometheusProvider.step,
        PrometheusProvider.incrementCounter]
  | setGauge metric value =>
      simp [PrometheusProvider.step,
        PrometheusProvider.setGauge]
  | observeHistogram metric value buckets =>
      have hKey : metric.key ≠ key :=
        fun hKey => hOther (congrArg some hKey)
      simp only [PrometheusProvider.step,
        PrometheusProvider.observeHistogram,
        histograms_rememberDescription]
      rw [Dict.get?_set, if_neg hKey]

/- The histogram of a series, if a value was observed. -/
def RepresentsAll
    (histogram : Option (HistogramState α)) :
    List (α × List α) → Prop
  | [] => histogram = none
  | first :: rest =>
      ∃ state,
        histogram = some state ∧
          state.Represents first.2
            ((first :: rest).map Prod.fst)

/- One call keeps what the histograms represent. -/
theorem representsAll_step
    {provider : PrometheusProvider α}
    {key : SeriesKey}
    {observed : List (α × List α)}
    (hAll :
      RepresentsAll (provider.histograms.get? key) observed)
    (call : MetricCall α) :
    RepresentsAll ((provider.step call).histograms.get? key)
      (observed ++ call.observation key) := by
  by_cases hOther : call.observed ≠ some key
  · rw [get?_step_of_ne provider hOther,
      observation_of_ne hOther, List.append_nil]
    exact hAll
  · cases call with
    | incrementCounter metric amount =>
        exact absurd (Option.some_ne_none key).symm hOther
    | setGauge metric value =>
        exact absurd (Option.some_ne_none key).symm hOther
    | observeHistogram metric value buckets =>
        have hKey : metric.key = key :=
          Option.some_inj.mp (not_not.mp hOther)
        subst hKey
        simp only [PrometheusProvider.step,
          PrometheusProvider.observeHistogram,
          histograms_rememberDescription,
          MetricCall.observation, if_pos]
        rw [Dict.get?_set, if_pos rfl]
        cases observed with
        | nil =>
            have hNone :
                provider.histograms.get? metric.key = none :=
              hAll
            rw [hNone]
            refine ⟨_, rfl, ?_⟩
            exact
              (HistogramState.represents_create
                buckets).observe value
        | cons first rest =>
            rcases hAll with ⟨state, hState, hRepresents⟩
            rw [hState]
            have hObserved :
                (state.observe value).Represents first.2
                  ((first :: (rest ++ [(value, buckets)])).map
                    Prod.fst) := by
              simpa only [List.map_cons, List.map_append,
                List.map_nil, List.cons_append]
                using hRepresents.observe value
            exact ⟨_, rfl, hObserved⟩

/- The histograms represent what a run observed. -/
theorem represents_run
    (calls : List (MetricCall α))
    (key : SeriesKey) :
    RepresentsAll
      ((PrometheusProvider.run calls).histograms.get? key)
      (observations key calls) := by
  induction calls using List.reverseRecOn with
  | nil => rfl
  | append_singleton calls call ih =>
      unfold PrometheusProvider.run observations
      rw [List.foldl_append, List.flatMap_append,
        List.flatMap_singleton]
      exact representsAll_step ih call

end Observability

end AccessIQ

------------------------------------------------------------
-- The Text Of A Histogram
------------------------------------------------------------

namespace AccessIQ

namespace Observability

open Foundations Python

/- The lines of one of the members stand in a row. -/
theorem exists_flatMap_eq
    {β γ : Type}
    {members : List β}
    {member : β}
    (lines : β → List γ)
    (hMem : member ∈ members) :
    ∃ before after,
      members.flatMap lines =
        before ++ lines member ++ after := by
  rcases List.append_of_mem hMem with ⟨front, back, rfl⟩
  refine ⟨front.flatMap lines, back.flatMap lines, ?_⟩
  rw [List.flatMap_append, List.flatMap_cons,
    List.append_assoc]

/- The lines of a stored series stand in a row. -/
theorem exists_renderSeries_eq
    {β : Type}
    (metricType : String)
    (descriptions : Dict String String)
    (lines : SeriesKey → β → List String)
    {series : Dict SeriesKey β}
    {key : SeriesKey}
    {value : β}
    (hGet : series.get? key = some value) :
    ∃ before after,
      renderSeries metricType descriptions lines series =
        before ++ lines key value ++ after := by
  have hEntry : (key, value) ∈ series.entries :=
    Dict.get?_eq_some_iff.mp hGet
  have hName :
      key.1 ∈ sortedDistinct (series.keys.map (·.1)) := by
    rw [mem_sortedDistinct]
    exact List.mem_map_of_mem (List.mem_map_of_mem hEntry)
  have hSorted :
      (key, value) ∈
        series.entries.insertionSort fun a b =>
          seriesLe a.1 b.1 :=
    (List.mem_insertionSort _).mpr hEntry
  rcases exists_flatMap_eq
      (fun name =>
        renderMetricHeader name metricType descriptions ++
          (series.entries.insertionSort fun a b =>
              seriesLe a.1 b.1).flatMap
            fun entry =>
              if entry.1.1 = name then
                lines entry.1 entry.2
              else
                []) hName with
    ⟨before, after, hNames⟩
  rcases exists_flatMap_eq
      (fun entry : SeriesKey × β =>
        if entry.1.1 = key.1 then
          lines entry.1 entry.2
        else
          []) hSorted with
    ⟨front, back, hEntries⟩
  rw [if_pos rfl] at hEntries
  refine
    ⟨before ++
        renderMetricHeader key.1 metricType descriptions ++
        front,
      back ++ after, ?_⟩
  unfold renderSeries
  rw [hNames, hEntries]
  simp only [List.append_assoc]

variable {α : Type}
variable [LinearOrder α] [Zero α] [Add α]

/- The lines of one histogram of the provider. -/
def PrometheusProvider.linesOf
    (formats : Formats α)
    (provider : PrometheusProvider α)
    (key : SeriesKey) :
    Option (List String) :=
  (provider.histograms.get? key).map
    (histogramLines formats key)

/-
  The text shows the values observed of a series: its bucket
  lines stand in increasing order of their limits, each with
  the number of values it holds, and then the lines that show
  how many values there are.
-/
structure HistogramRendered
    (formats : Formats α)
    (provider : PrometheusProvider α)
    (key : SeriesKey)
    (buckets values : List α) : Prop where
  limits :
    ∀ bucket,
      bucket ∈ sortedDistinct buckets ↔ bucket ∈ buckets
  increasing :
    (sortedDistinct buckets).Pairwise fun a b => a < b
  monotone :
    ((sortedDistinct buckets).map fun bucket =>
        values.countP fun value => value ≤ bucket).Pairwise
      fun m n => m ≤ n
  lines :
    provider.linesOf formats key =
      some (observedLines formats key buckets values)
  rendered :
    ∃ before after,
      provider.render formats =
        String.intercalate "\n"
          (before ++
            observedLines formats key buckets values ++
            after)

/- What the provider represents, its text shows. -/
theorem rendered_of_represents
    (formats : Formats α)
    {provider : PrometheusProvider α}
    {key : SeriesKey}
    {state : HistogramState α}
    {buckets values : List α}
    (hGet : provider.histograms.get? key = some state)
    (hRepresents : state.Represents buckets values) :
    HistogramRendered formats provider key buckets
      values := by
  have hLines :=
    histogramLines_of_represents formats key hRepresents
  have hSorted := pairwise_sortedDistinct buckets
  refine
    { limits := fun _ => mem_sortedDistinct
      increasing := hSorted
      monotone := ?_
      lines := ?_
      rendered := ?_ }
  · rw [List.pairwise_map]
    exact hSorted.imp fun hLt =>
      countP_le_mono values (le_of_lt hLt)
  · unfold PrometheusProvider.linesOf
    rw [hGet, Option.map_some, hLines]
  · rcases exists_renderSeries_eq "histogram"
        provider.descriptions (histogramLines formats)
        hGet with
      ⟨before, after, hSeries⟩
    rw [hLines] at hSeries
    refine
      ⟨renderSeries "counter" provider.descriptions
            (valueLine formats) provider.counters ++
          renderSeries "gauge" provider.descriptions
            (valueLine formats) provider.gauges ++
          before,
        after ++ [""], ?_⟩
    unfold PrometheusProvider.render PrometheusProvider.lines
    rw [hSeries]
    simp only [List.append_assoc]

/-
  After any calls, the text of a series that was observed
  shows its observations, with the buckets of the first; a
  call for another series leaves its lines as they are.
-/
theorem histogram_rendered
    (formats : Formats α)
    (calls : List (MetricCall α))
    (key : SeriesKey)
    {first : α × List α}
    {rest : List (α × List α)}
    (hObserved : observations key calls = first :: rest) :
    HistogramRendered formats (PrometheusProvider.run calls)
        key first.2 ((first :: rest).map Prod.fst) ∧
      ∀ call : MetricCall α,
        call.observed ≠ some key →
          (PrometheusProvider.run
              (calls ++ [call])).linesOf formats key =
            (PrometheusProvider.run calls).linesOf formats
              key := by
  have hAll := represents_run calls key
  rw [hObserved] at hAll
  rcases hAll with ⟨state, hGet, hRepresents⟩
  refine ⟨rendered_of_represents formats hGet hRepresents, ?_⟩
  intro call hOther
  unfold PrometheusProvider.run PrometheusProvider.linesOf
  rw [List.foldl_append]
  exact congrArg
    (Option.map (histogramLines formats key))
    (get?_step_of_ne _ hOther)

/- Whole numbers, written as they are. -/
def wholeFormats : Formats Int where
  value n := toString n
  bucket n := toString n

/- Three durations of one operation, and one of another. -/
def durationCalls : List (MetricCall Int) :=
  let metric (operation : String) : Metric :=
    { name := "duration.ms"
      labels :=
        Dict.empty.set "operation"
          (some (.text operation)) }
  [.observeHistogram (metric "unit") 12 [50, 10, 50],
    .observeHistogram (metric "other") 3 [5],
    .observeHistogram (metric "unit") 7 [100],
    .observeHistogram (metric "unit") 80 []]

theorem histogram_rendered_durations :
    let key : SeriesKey :=
      ("duration_ms", [("operation", "unit")])
    HistogramRendered wholeFormats
        (PrometheusProvider.run durationCalls) key
        [50, 10, 50] [12, 7, 80] ∧
      ∀ call : MetricCall Int,
        call.observed ≠ some key →
          (PrometheusProvider.run
              (durationCalls ++ [call])).linesOf
              wholeFormats key =
            (PrometheusProvider.run durationCalls).linesOf
              wholeFormats key := by
  intro key
  have hObserved :
      observations key durationCalls =
        (12, [50, 10, 50]) :: [(7, [100]), (80, [])] := by
    decide +kernel
  exact histogram_rendered wholeFormats durationCalls key
    hObserved

example :
    observedLines wholeFormats ("duration_ms", [])
        [50, 10, 50] [12, 7, 80] =
      ["duration_ms_bucket\x7ble=\"10\"\x7d 1",
        "duration_ms_bucket\x7ble=\"50\"\x7d 2",
        "duration_ms_bucket\x7ble=\"+Inf\"\x7d 3",
        "duration_ms_count 3", "duration_ms_sum 99"] := by
  decide +kernel

end Observability

end AccessIQ
