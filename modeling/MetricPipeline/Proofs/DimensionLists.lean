import MetricPipeline.Proofs.Aggregation.Groups
import MetricPipeline.Proofs.Dimensions

/-! The list of dimensions stands for what the root reports for the string metrics that become dimensions, and
for nothing else. Registered metrics of one name are one metric, so the items that share a name in the list are
the reports of one metric, in report order, and lists are the same exactly when each metric was reported with
the same strings in the same order. -/

namespace MetricPipeline

/-- The text of a value that is a string. -/
def Value.text? : Value → Option String
  | .string s => some s
  | _ => none

namespace Record

/-- A string reported for a string metric among those that become dimensions. -/
def Matches (metrics : List Metric) (record : Record) : Prop :=
  record.metric.valueType = .string ∧ record.metric ∈ metrics ∧ record.value.text?.isSome = true

instance (metrics : List Metric) (record : Record) : Decidable (record.Matches metrics) :=
  inferInstanceAs (Decidable (_ ∧ _ ∧ _))

/-- The name of the metric with the text that is reported for it. -/
def dimension (record : Record) : Dimension := ⟨record.metric.name, record.value.text?.getD ""⟩

theorem dimension?_eq (metrics : List Metric) (record : Record) :
    dimension? metrics record = if record.Matches metrics then some record.dimension else none := by
  obtain ⟨metric, value⟩ := record
  cases value <;> simp [dimension?, Matches, dimension, Value.text?]

end Record

namespace Collection

/-- The strings that the root reports for a metric, in report order. -/
def texts (collection : Collection) (metric : Metric) : List String :=
  (collection.metricValues metric).filterMap Value.text?

variable {registry : Registry} {metrics : List Metric} {a b : Collection}

theorem filterMap_dimension? (metrics : List Metric) (records : List Record) :
    records.filterMap (Record.dimension? metrics) =
      (records.filter fun record => record.Matches metrics).map Record.dimension := by
  rw [← List.filterMap_eq_map, List.filterMap_filter]
  refine List.filterMap_congr fun record _ => ?_
  rw [Record.dimension?_eq]
  simp

/-- Among registered metrics, what is reported under the name of a metric is reported for this metric. -/
theorem dimensionValues_eq_texts (ha : ∀ record ∈ a.records, record.metric ∈ registry.metrics)
    {metric : Metric} (hregistered : metric ∈ registry.metrics) (hmem : metric ∈ metrics)
    (hstring : metric.valueType = .string) : a.dimensionValues metrics metric.name = a.texts metric := by
  rw [dimensionValues, texts, metricValues, List.filter_filterMap, List.map_filterMap, List.filterMap_map,
    List.filterMap_filter]
  refine List.filterMap_congr fun record hrecord => ?_
  by_cases hmetric : record.metric = metric
  · obtain ⟨reported, value⟩ := record
    dsimp only at hmetric
    subst hmetric
    cases value <;> simp [Record.dimension?, Value.text?, hmem, hstring]
  · have hname : record.metric.name ≠ metric.name := fun h =>
      hmetric (registry.eq_of_name_eq (ha record hrecord) hregistered h)
    rw [Record.dimension?_eq]
    split_ifs <;> simp_all [Record.dimension]

theorem texts_eq_nil (ha : ∀ record ∈ a.records, record.metric ∈ registry.metrics) {metric : Metric}
    (hunknown : metric ∉ registry.metrics) : a.texts metric = [] := by
  have hnone : a.records.filter (·.metric = metric) = [] := by
    refine List.filter_eq_nil_iff.2 fun record hrecord => ?_
    rw [decide_eq_true_iff]
    rintro rfl
    exact hunknown (ha record hrecord)
  rw [texts, metricValues, hnone]
  rfl

/-- A name that values are listed for is the name of one of the metrics. -/
theorem exists_metric_of_dimensionValues (ha : ∀ record ∈ a.records, record.metric ∈ registry.metrics)
    {name : String} (hne : a.dimensionValues metrics name ≠ []) :
    ∃ metric ∈ metrics, metric ∈ registry.metrics ∧ metric.valueType = .string ∧ metric.name = name := by
  obtain ⟨text, htext⟩ := List.exists_mem_of_ne_nil _ hne
  obtain ⟨d, hd, -⟩ := List.mem_map.1 htext
  obtain ⟨hd, hname⟩ := List.mem_filter.1 hd
  rw [filterMap_dimension?] at hd
  obtain ⟨record, hrecord, rfl⟩ := List.mem_map.1 hd
  obtain ⟨hrecord, hmatches⟩ := List.mem_filter.1 hrecord
  obtain ⟨hstring, hmem, -⟩ := of_decide_eq_true hmatches
  exact ⟨record.metric, hmem, ha record hrecord, hstring, of_decide_eq_true hname⟩

/-- The lists are the same exactly when the reports for each of the metrics are. -/
theorem dimensions_eq_iff_texts (ha : ∀ record ∈ a.records, record.metric ∈ registry.metrics)
    (hb : ∀ record ∈ b.records, record.metric ∈ registry.metrics) :
    a.dimensions metrics = b.dimensions metrics ↔
      ∀ metric ∈ metrics, metric.valueType = .string → a.texts metric = b.texts metric := by
  rw [dimensions_eq_iff]
  constructor
  · intro h metric hmem hstring
    by_cases hregistered : metric ∈ registry.metrics
    · rw [← dimensionValues_eq_texts ha hregistered hmem hstring,
        ← dimensionValues_eq_texts hb hregistered hmem hstring, h]
    · rw [texts_eq_nil ha hregistered, texts_eq_nil hb hregistered]
  · intro h name
    by_cases hnone : a.dimensionValues metrics name = [] ∧ b.dimensionValues metrics name = []
    · rw [hnone.1, hnone.2]
    · obtain ⟨metric, hmem, hregistered, hstring, rfl⟩ : ∃ metric ∈ metrics,
          metric ∈ registry.metrics ∧ metric.valueType = .string ∧ metric.name = name := by
        rcases not_and_or.1 hnone with hne | hne
        · exact exists_metric_of_dimensionValues ha hne
        · exact exists_metric_of_dimensionValues hb hne
      rw [dimensionValues_eq_texts ha hregistered hmem hstring,
        dimensionValues_eq_texts hb hregistered hmem hstring, h metric hmem hstring]

/-- Of registered metrics, the dimensions of two collections are the same exactly when for each string metric
that becomes a dimension the roots report the same strings in the same order. They are a rearrangement of the
matching records of the root, by descending code units of the names, those of one name in report order; and no
other record, no child and no name or time of a node has any part in them. -/
theorem dimensions_canonical (registry : Registry) (metrics : List Metric) (a b : Collection)
    (ha : ∀ record ∈ a.records, record.metric ∈ registry.metrics)
    (hb : ∀ record ∈ b.records, record.metric ∈ registry.metrics) :
    (a.dimensions metrics = b.dimensions metrics ↔
        ∀ metric ∈ metrics, metric.valueType = .string → a.texts metric = b.texts metric) ∧
      (a.dimensions metrics).Perm
        ((a.records.filter fun record => record.Matches metrics).map Record.dimension) ∧
      (a.dimensions metrics).Pairwise (fun d e => Text.units e.name ≤ Text.units d.name) ∧
      (∀ name, (a.dimensions metrics).filter (·.name = name) =
        ((a.records.filter fun record => record.Matches metrics).map Record.dimension).filter
          (·.name = name)) ∧
      ∀ c : Collection, (c.records.filter fun record => record.Matches metrics) =
        (a.records.filter fun record => record.Matches metrics) →
          c.dimensions metrics = a.dimensions metrics := by
  refine ⟨dimensions_eq_iff_texts ha hb, ?_, ?_, fun name => ?_, fun c hc => ?_⟩
  · rw [← filterMap_dimension?]
    exact List.mergeSort_perm _ _
  · have hsorted : (a.dimensions metrics).Pairwise fun d e => Text.unitsLe e.name d.name = true :=
      totalOrder_names.pairwise_mergeSort _
    exact hsorted.imp Text.unitsLe_iff.1
  · rw [← filterMap_dimension?]
    exact totalOrder_names.filter_mergeSort _ name
  · rw [dimensions, dimensions, filterMap_dimension?, filterMap_dimension?, hc]

/-- A metric whose name is a character beyond the basic plane. -/
def faceMetric : Metric := ⟨"😀", .string, .info, [.all]⟩

/-- A metric whose name is a character of the basic plane that is above all surrogates. -/
def tildeMetric : Metric := ⟨"～", .string, .info, [.all]⟩

/-- A root with texts for the two metrics, and a child. -/
def signs (reports : List (Metric × String)) (child : String) : Collection :=
  .node "Signs" (.ofInt 0) (reports.map fun report => ⟨report.1, .string report.2⟩)
    [.node "Child" (.ofInt 0) [⟨tildeMetric, .string child⟩] []]

/-- The character with the lower code point has the greater code units, and so comes first. -/
theorem dimensions_canonical_signs :
    (signs [(faceMetric, "1"), (tildeMetric, "2"), (faceMetric, "3")] "4").dimensions
        [faceMetric, tildeMetric] = [⟨"～", "2"⟩, ⟨"😀", "1"⟩, ⟨"😀", "3"⟩] ∧
      (signs [(faceMetric, "1"), (faceMetric, "3")] "4").dimensions [faceMetric] ≠
        (signs [(faceMetric, "3"), (faceMetric, "1")] "4").dimensions [faceMetric] := by
  obtain ⟨hsorted, -⟩ := dimensions_canonical ⟨[faceMetric, tildeMetric], by decide⟩
    [faceMetric, tildeMetric] (signs [(faceMetric, "1"), (tildeMetric, "2"), (faceMetric, "3")] "4")
    (signs [(tildeMetric, "2"), (faceMetric, "1"), (faceMetric, "3")] "5") (by decide) (by decide)
  obtain ⟨hswapped, -⟩ := dimensions_canonical ⟨[faceMetric, tildeMetric], by decide⟩ [faceMetric]
    (signs [(faceMetric, "1"), (faceMetric, "3")] "4") (signs [(faceMetric, "3"), (faceMetric, "1")] "4")
    (by decide) (by decide)
  refine ⟨(hsorted.2 (by decide)).trans ?_, fun h => ?_⟩
  · rw [dimensions, List.mergeSort_of_pairwise (by decide)]
    decide
  · exact absurd (hswapped.1 h faceMetric List.mem_cons_self rfl) (by decide)

end Collection
end MetricPipeline
