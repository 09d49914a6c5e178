import MetricPipeline.Proofs.Aggregation.Groups
import MetricPipeline.Proofs.Aggregation.Limits

/-! Exact accounting. All data that a drain returns about a group say what the observations of the group
since the last drain were, and no datum is about anything else. -/

namespace MetricPipeline

/-- How data tell of the observations of a metric with dimensions in a minute. -/
structure Accounted (options : StoreOptions) (group : ObservationGroup) (observations : List Binary64)
    (data : List Datum) : Prop where
  none : observations = [] → data = []
  summary : observations ≠ [] → group.metric ∉ options.detailed →
    data = [⟨group.metric.name, group.dimensions, .ofMinute group.minute, group.metric.unit,
      .statistics ⟨.least observations, .greatest observations, .total observations,
        observations.length⟩⟩]
  detailed : observations ≠ [] → group.metric ∈ options.detailed →
    (∀ datum ∈ data, datum.unit = group.metric.unit ∧
      ∃ values counts, datum.measurement = .entries values counts ∧ counts.length = values.length) ∧
    ((data.flatMap Datum.pairs).map Prod.fst).Nodup ∧
    ∀ v n, (v, n) ∈ data.flatMap Datum.pairs ↔ v ∈ observations ∧ n = observations.count v

/-- How requests tell of the observations of registered metrics in collections, and of nothing besides. -/
structure Accounts (registry : Registry) (options : StoreOptions) (collections : List Collection)
    (requests : List Request) : Prop where
  told : ∀ group : ObservationGroup, group.metric ∈ registry.metrics →
    Accounted options group (group.observations options collections)
      ((requests.flatMap Request.data).filter fun datum => datum.series = group.series)
  only : ∀ request ∈ requests, ∀ datum ∈ request.data, ∃ group : ObservationGroup,
    group.metric ∈ registry.metrics ∧ datum.series = group.series ∧
      group.observations options collections ≠ []

theorem filter_flatten_of_notMem {placed : List (Instant × Aggregator)} {pieces : List (List Datum)}
    (h : List.Forall₂ Renders placed pieces) {s : Series} (hs : s ∉ seriesOf placed) :
    pieces.flatten.filter (fun datum => datum.series = s) = [] := by
  induction h with
  | nil => rfl
  | @cons x piece rest pieces hx _ ih =>
    rw [seriesOf, List.map_cons, List.mem_cons, not_or] at hs
    rw [List.flatten_cons, List.filter_append, ih hs.2, List.append_nil, List.filter_eq_nil_iff]
    intro datum hd
    rw [decide_eq_true_eq, (hx.about datum hd).1]
    exact fun heq => hs.1 heq.symm

/-- The data about an aggregator are those that show it. -/
theorem renders_filter_flatten {placed : List (Instant × Aggregator)} {pieces : List (List Datum)}
    (h : List.Forall₂ Renders placed pieces) (hnodup : (seriesOf placed).Nodup)
    {x : Instant × Aggregator} (hx : x ∈ placed) :
    Renders x (pieces.flatten.filter fun datum => datum.series = x.2.series x.1) := by
  induction h with
  | nil => cases hx
  | @cons y piece rest pieces hy hrest ih =>
    rw [seriesOf, List.map_cons, List.nodup_cons] at hnodup
    rw [List.flatten_cons, List.filter_append]
    rcases List.mem_cons.1 hx with rfl | hx
    · have hpiece : piece.filter (fun datum => datum.series = x.2.series x.1) = piece :=
        List.filter_eq_self.2 fun datum hd => decide_eq_true (hy.about datum hd).1
      rwa [hpiece, filter_flatten_of_notMem hrest hnodup.1, List.append_nil]
    · have hpiece : piece.filter (fun datum => datum.series = x.2.series x.1) = [] := by
        rw [List.filter_eq_nil_iff]
        intro datum hd
        rw [decide_eq_true_eq, (hy.about datum hd).1]
        exact fun heq => hnodup.1 (heq ▸ List.mem_map.2 ⟨x, hx, rfl⟩)
      rw [hpiece, List.nil_append]
      exact ih hnodup.2 hx

/-- The entries of the histogram of values are the distinct values, each with its number of times. -/
theorem Histogram.zip_ofList (values : List Binary64) :
    (ofList values).values.toList.zip (ofList values).counts.toList =
      values.eraseDups.map fun v => (v, values.count v) := by
  rw [(exact_ofList values).values_eq, (exact_ofList values).counts_eq, List.zip_map_right]
  induction values.eraseDups with
  | nil => rfl
  | cons v rest ih => rw [List.zip_cons_cons, List.map_cons, List.map_cons, ih]; rfl

namespace Aggregation

variable {options : StoreOptions} {group : ObservationGroup} {observations : List Binary64}
  {data : List Datum}

theorem accounted_summary (hdetailed : group.metric ∉ options.detailed) (hne : observations ≠ [])
    (h : Renders (.ofMinute group.minute, .collect options.detailed group.key observations) data) :
    Accounted options group observations data := by
  refine ⟨fun hnil => absurd hnil hne, fun _ _ => ?_, fun _ hmem => absurd hmem hdetailed⟩
  have htally : (Aggregator.collect options.detailed group.key observations).tally =
      .summary (.ofList observations) := by
    rw [Aggregator.tally_collect]
    exact if_neg hdetailed
  rw [h.summary _ htally, Aggregator.datum, Aggregator.key_collect, Aggregator.unit_collect]
  rfl

theorem accounted_detailed (hdetailed : group.metric ∈ options.detailed) (hne : observations ≠ [])
    (h : Renders (.ofMinute group.minute, .collect options.detailed group.key observations) data) :
    Accounted options group observations data := by
  refine ⟨fun hnil => absurd hnil hne, fun _ hnot => absurd hdetailed hnot, fun _ _ => ?_⟩
  have htally : (Aggregator.collect options.detailed group.key observations).tally =
      .detailed (.ofList observations) := by
    rw [Aggregator.tally_collect]
    exact if_pos hdetailed
  obtain ⟨hentries, hpairs⟩ := h.detailed _ htally
  rw [hpairs, Histogram.zip_ofList]
  refine ⟨fun datum hd => ?_, ?_, fun v n => ?_⟩
  · obtain ⟨-, hunit, hproper⟩ := h.about datum hd
    obtain ⟨values, counts, heq⟩ := hentries datum hd
    rw [Datum.Proper, heq] at hproper
    rw [Aggregator.unit_collect] at hunit
    exact ⟨hunit, values, counts, heq, hproper.2⟩
  · have hid : (Prod.fst ∘ fun v => (v, observations.count v)) = id := rfl
    rw [List.map_map, hid, List.map_id]
    exact nodup_eraseDups observations
  · simp only [List.mem_map, List.mem_eraseDups, Prod.mk.injEq]
    constructor
    · rintro ⟨v, hv, rfl, rfl⟩
      exact ⟨hv, rfl⟩
    · rintro ⟨hv, rfl⟩
      exact ⟨v, hv, rfl, rfl⟩

/-- Requests that pack what is held about well-formed collections account for them. -/
theorem accounts_of_packing {registry : Registry} {collections : List Collection} {D V : Nat} (hD : 0 < D)
    (hV : 0 < V) (hw : Wellformed registry collections) {requests : List Request}
    (hpacking : Packing D V (Store.holding options collections).placed requests) :
    Accounts registry options collections requests := by
  have hnodup : (seriesOf (Store.holding options collections).placed).Nodup :=
    Store.nodup_series options collections
  obtain ⟨pieces, hpieces, hall⟩ := hpacking.renders
  refine ⟨fun group hmetric => ?_, fun request hr datum hd => ?_⟩
  · rw [hpieces]
    by_cases hne : group.observations options collections = []
    · have hnot : group.series ∉ seriesOf (Store.holding options collections).placed := by
        intro hs
        obtain ⟨x, hx, hseries⟩ := List.mem_map.1 hs
        exact (Store.placed_of_series hw hmetric hx hseries).1 hne
      rw [filter_flatten_of_notMem hall hnot]
      exact ⟨fun _ => rfl, fun h => absurd hne h, fun h => absurd hne h⟩
    · obtain ⟨x, hx, hseries⟩ := Store.exists_placed_of_group hw hmetric hne
      obtain ⟨-, htime, haggregator⟩ := Store.placed_of_series hw hmetric hx hseries
      have hrenders := renders_filter_flatten hall hnodup hx
      rw [hseries, ← Prod.mk.eta (p := x), htime, haggregator] at hrenders
      by_cases hdetailed : group.metric ∈ options.detailed
      · exact accounted_detailed hdetailed hne hrenders
      · exact accounted_summary hdetailed hne hrenders
  · obtain ⟨x, hx, hseries⟩ := List.mem_map.1 (hpacking.series_mem hD hV hr hd)
    obtain ⟨group, hmetric, hne, htime, -, haggregator⟩ := Store.exists_group_of_placed hw hx
    refine ⟨group, hmetric, ?_, hne⟩
    rw [← hseries, Aggregator.series, htime, haggregator, Aggregator.key_collect]
    rfl

/-- After any operations on well-formed collections a drain returns, for each registered metric, dimensions
and minute, data that tell exactly the observations since the last drain, and nothing besides. -/
theorem drain_accounts (registry : Registry) (namespaceName : String) (options : StoreOptions)
    (data values : Option Binary64) (hdata : data ≠ some .nan) (hvalues : values ≠ some .nan)
    (operations : List Operation)
    (hvalid : ∀ collection, .add collection ∈ operations → collection.time ≠ .invalid)
    (hregistered : ∀ collection, .add collection ∈ operations →
      ∀ record ∈ collection.allRecords, record.metric ∈ registry.metrics) :
    ∃ requests, ((create namespaceName options data values).after operations).drain.1 = .ok requests ∧
      (∀ group : ObservationGroup, group.metric ∈ registry.metrics →
        Accounted options group (group.observations options (sinceDrain operations))
          ((requests.flatMap Request.data).filter fun datum => datum.series = group.series)) ∧
      ∀ request ∈ requests, ∀ datum ∈ request.data, ∃ group : ObservationGroup,
        group.metric ∈ registry.metrics ∧ datum.series = group.series ∧
          group.observations options (sinceDrain operations) ≠ [] := by
  obtain ⟨D, V, hD, hV, -, -, -, -, -, -, requests, hdrain, hpacking⟩ :=
    drain_after namespaceName options hdata hvalues operations
  have hw : Wellformed registry (sinceDrain operations) :=
    ⟨fun collection hc => hvalid collection (mem_of_mem_sinceDrain hc),
      fun collection hc => hregistered collection (mem_of_mem_sinceDrain hc)⟩
  have haccounts := accounts_of_packing hD hV hw hpacking
  exact ⟨requests, hdrain, haccounts.told, haccounts.only⟩

theorem drain_accounts_twoCounts :
    ∃ requests,
      ((create "App" ⟨[], [.core], none, []⟩ none (some (.ofInt 1))).after
        [.add twoCounts, .drain, .add twoCounts]).drain.1 = .ok requests ∧
      (requests.flatMap Request.data).filter
          (fun datum => datum.series = ⟨"RetryCount", [], .ofInt 60000⟩) =
        [⟨"RetryCount", [], .ofInt 60000, .none, .statistics ⟨.ofInt 3, .ofInt 3, .ofInt 3, 1⟩⟩] ∧
      (requests.flatMap Request.data).filter
          (fun datum => datum.series = ⟨"MaxConcurrency", [], .ofInt 60000⟩) = [] := by
  obtain ⟨requests, hdrain, haccounts, -⟩ :=
    drain_accounts .builtIn "App" ⟨[], [.core], none, []⟩ none (some (.ofInt 1)) (by decide)
      (by decide +kernel) [.add twoCounts, .drain, .add twoCounts]
      (by simp only [List.mem_cons, Operation.add.injEq, reduceCtorEq, List.not_mem_nil, or_false,
            false_or, or_self, forall_eq]
          decide +kernel)
      (by simp only [List.mem_cons, Operation.add.injEq, reduceCtorEq, List.not_mem_nil, or_false,
            false_or, or_self, forall_eq]
          decide +kernel)
  have hretries : (ObservationGroup.mk (Registry.coreMetric "RetryCount" .number .error) [] 1).observations
      ⟨[], [.core], none, []⟩ (sinceDrain [.add twoCounts, .drain, .add twoCounts]) = [.ofInt 3] := by
    decide +kernel
  have hconcurrency : (ObservationGroup.mk (Registry.httpMetric "MaxConcurrency" .number .info) []
      1).observations ⟨[], [.core], none, []⟩
        (sinceDrain [.add twoCounts, .drain, .add twoCounts]) = [] := by
    decide +kernel
  refine ⟨requests, hdrain, ?_, ?_⟩
  · have h := haccounts ⟨Registry.coreMetric "RetryCount" .number .error, [], 1⟩ (by decide)
    rw [hretries] at h
    have hsum : Summary.ofList [.ofInt 3] = ⟨.ofInt 3, .ofInt 3, .ofInt 3, 1⟩ := by decide +kernel
    rw [← hsum]
    exact h.summary (List.cons_ne_nil _ _) List.not_mem_nil
  · have h := haccounts ⟨Registry.httpMetric "MaxConcurrency" .number .info, [], 1⟩ (by decide)
    exact h.none hconcurrency

end Aggregation
end MetricPipeline
