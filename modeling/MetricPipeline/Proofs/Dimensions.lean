import Mathlib.Tactic.SplitIfs
import MetricPipeline.Proofs.Sorting
import MetricPipeline.Proofs.Store
import MetricPipeline.Proofs.Text.Units
import MetricPipeline.Registry.BuiltIn

/-! Dimensions and the order of reports. Sorting by name makes the order of different dimensions irrelevant,
and what a collection reports for one dimension more than once stays in report order. So trees with the same
reports at the root in any two orders have the same dimensions exactly when no dimension has its values in
two orders, and then all of their observations are filed under the same keys. -/

namespace MetricPipeline

theorem Dimension.eq_of_values {d e : Dimension} (hname : d.name = e.name) (hvalue : d.value = e.value) :
    d = e := by
  cases d
  cases e
  simp_all

theorem Record.dimension?_of_mem {metrics : List Metric} {metric : Metric}
    (hstring : metric.valueType = .string) (hmem : metric ∈ metrics) (value : String) :
    Record.dimension? metrics ⟨metric, .string value⟩ = some ⟨metric.name, value⟩ :=
  if_pos ⟨hstring, hmem⟩

namespace Collection

/-- What the root reports for the dimensions of a name, in report order. -/
def dimensionValues (collection : Collection) (metrics : List Metric) (name : String) : List String :=
  ((collection.records.filterMap (Record.dimension? metrics)).filter (·.name = name)).map Dimension.value

/-- Names in descending order. -/
theorem totalOrder_names : TotalOrder fun a b => Text.unitsLe b a where
  trans hab hbc := Text.unitsLe_trans hbc hab
  total a b := Text.unitsLe_total b a
  antisymm hab hba := Text.unitsLe_antisymm hba hab

variable {metrics : List Metric} {options : StoreOptions} {a b : Collection}

theorem filter_name_eq_iff {ds es : List Dimension} (name : String) :
    ds.filter (·.name = name) = es.filter (·.name = name) ↔
      (ds.filter (·.name = name)).map Dimension.value = (es.filter (·.name = name)).map Dimension.value := by
  have hrebuild : ∀ ds : List Dimension,
      ((ds.filter (·.name = name)).map Dimension.value).map (Dimension.mk name) =
        ds.filter (·.name = name) := by
    intro ds
    rw [List.map_map]
    refine (List.map_congr_left fun d hd => ?_).trans (List.map_id _)
    exact Dimension.eq_of_values (of_decide_eq_true (List.mem_filter.1 hd).2).symm rfl
  constructor
  · exact congrArg _
  · intro h
    rw [← hrebuild ds, ← hrebuild es, h]

/-- Dimensions are the same when what is reported for each of their names is the same. -/
theorem dimensions_eq_iff :
    a.dimensions metrics = b.dimensions metrics ↔
      ∀ name, a.dimensionValues metrics name = b.dimensionValues metrics name := by
  refine (totalOrder_names.mergeSort_eq_iff Dimension.name).trans ?_
  exact forall_congr' fun name => filter_name_eq_iff name

theorem dimensionValues_perm (h : a.records.Perm b.records) (metrics : List Metric) (name : String) :
    (a.dimensionValues metrics name).Perm (b.dimensionValues metrics name) :=
  ((h.filterMap _).filter _).map _

theorem allRecords_eq (collection : Collection) :
    collection.allRecords = collection.records ++ allRecordsOf collection.children := by
  cases collection
  rw [allRecords, records, children]

theorem arrivals_perm (htime : a.time = b.time) (hchildren : a.children = b.children)
    (hperm : a.records.Perm b.records)
    (hdimensions : a.dimensions options.dimensions = b.dimensions options.dimensions) :
    (a.arrivals options).Perm (b.arrivals options) := by
  have hrecords : a.allRecords.Perm b.allRecords := by
    rw [allRecords_eq, allRecords_eq, hchildren]
    exact hperm.append_right _
  rw [arrivals, arrivals, htime, hdimensions]
  exact (hrecords.filterMap _).map _

/-- A name that is reported once at most has one value at most, so there is no order to its values. -/
theorem dimensionValues_eq_of_nodup (hperm : a.records.Perm b.records)
    (hnodup : ((a.records.filterMap (Record.dimension? metrics)).map Dimension.name).Nodup)
    (name : String) : a.dimensionValues metrics name = b.dimensionValues metrics name := by
  have hperm' := dimensionValues_perm hperm metrics name
  have hone : (a.dimensionValues metrics name).length ≤ 1 := by
    have hcount := List.nodup_iff_count_le_one.1 hnodup name
    rw [List.count, List.countP_map, List.countP_eq_length_filter] at hcount
    rw [dimensionValues, List.length_map]
    exact hcount
  match hvalues : a.dimensionValues metrics name, hone with
  | [], _ => rw [hvalues] at hperm'; exact hperm'.nil_eq
  | [value], _ => rw [hvalues] at hperm'; exact hperm'.singleton_eq

/-- Trees with the same reports at the root in two orders have the same dimensions, up to their order, and in
the same order exactly when each name has its values in one order, as when no name is reported twice. Then
they bring the same observations under the same keys. -/
theorem dimensions_of_perm (options : StoreOptions) (a b : Collection) (htime : a.time = b.time)
    (hchildren : a.children = b.children) (hperm : a.records.Perm b.records) :
    (a.dimensions options.dimensions).Perm (b.dimensions options.dimensions) ∧
      (a.dimensions options.dimensions = b.dimensions options.dimensions ↔
        ∀ name, a.dimensionValues options.dimensions name = b.dimensionValues options.dimensions name) ∧
      (((a.records.filterMap (Record.dimension? options.dimensions)).map Dimension.name).Nodup →
        a.dimensions options.dimensions = b.dimensions options.dimensions) ∧
      (a.dimensions options.dimensions = b.dimensions options.dimensions →
        (a.arrivals options).Perm (b.arrivals options)) := by
  refine ⟨?_, dimensions_eq_iff, fun hnodup => ?_, arrivals_perm htime hchildren hperm⟩
  · exact (List.mergeSort_perm _ _).trans ((hperm.filterMap _).trans (List.mergeSort_perm _ _).symm)
  · exact dimensions_eq_iff.2 (dimensionValues_eq_of_nodup hperm hnodup)

/-- A call with reports at its root and one retry in a child. -/
def call (reports : List (Metric × String)) : Collection :=
  .node "Call" (.ofInt 0) (reports.map fun report => ⟨report.1, .string report.2⟩)
    [.node "Attempt" (.ofInt 0) [⟨Registry.coreMetric "RetryCount" .number .error, .number (.ofInt 1)⟩] []]

theorem dimensions_of_perm_call :
    (call [(Registry.serviceId, "Orders"), (Registry.operationName, "Put")]).dimensions
        Registry.defaultDimensions =
      (call [(Registry.operationName, "Put"), (Registry.serviceId, "Orders")]).dimensions
        Registry.defaultDimensions ∧
    ((call [(Registry.serviceId, "Orders"), (Registry.operationName, "Put")]).arrivals
        ⟨Registry.defaultDimensions, [.all], none, []⟩).Perm
      ((call [(Registry.operationName, "Put"), (Registry.serviceId, "Orders")]).arrivals
        ⟨Registry.defaultDimensions, [.all], none, []⟩) := by
  obtain ⟨-, -, hsame, hfiled⟩ := dimensions_of_perm ⟨Registry.defaultDimensions, [.all], none, []⟩
    (call [(Registry.serviceId, "Orders"), (Registry.operationName, "Put")])
    (call [(Registry.operationName, "Put"), (Registry.serviceId, "Orders")]) rfl rfl (List.Perm.swap _ _ _)
  have hdimensions := hsame (by decide +kernel)
  exact ⟨hdimensions, hfiled hdimensions⟩

/-- A call that reports service ids. -/
def callOf (services : List String) : Collection := call (services.map (Registry.serviceId, ·))

/-- The values of one dimension stay in report order. -/
theorem dimensions_callOf (services : List String) :
    (callOf services).dimensions [Registry.serviceId] = services.map (Dimension.mk "ServiceId") := by
  have hreported : (callOf services).records.filterMap (Record.dimension? [Registry.serviceId]) =
      services.map (Dimension.mk "ServiceId") := by
    rw [callOf, call, records, List.map_map, List.filterMap_map, ← List.filterMap_eq_map]
    exact List.filterMap_congr fun service _ =>
      Record.dimension?_of_mem rfl (List.mem_singleton_self _) service
  rw [dimensions, hreported, List.mergeSort_of_pairwise]
  exact List.pairwise_map.2 (List.pairwise_of_forall fun _ _ => totalOrder_names.refl _)

/-- A dimension that is reported twice splits one group in two by the order of its reports. -/
theorem dimensions_of_reported_twice :
    (callOf ["A", "B"]).time = (callOf ["B", "A"]).time ∧
      (callOf ["A", "B"]).children = (callOf ["B", "A"]).children ∧
      (callOf ["A", "B"]).records.Perm (callOf ["B", "A"]).records ∧
      (callOf ["A", "B"]).dimensions [Registry.serviceId] ≠
        (callOf ["B", "A"]).dimensions [Registry.serviceId] ∧
      (Store.holding ⟨[Registry.serviceId], [.all], none, []⟩
        [callOf ["A", "B"], callOf ["B", "A"]]).size = 2 := by
  refine ⟨rfl, rfl, List.Perm.swap _ _ _, ?_, ?_⟩
  · rw [dimensions_callOf, dimensions_callOf]
    decide
  · rw [Store.holding_eq]
    simp only [Store.arrivals, List.flatMap_cons, List.flatMap_nil, arrivals, dimensions_callOf]
    decide +kernel

end Collection
end MetricPipeline
