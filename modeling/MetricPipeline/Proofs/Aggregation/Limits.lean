import MetricPipeline.Proofs.Aggregation.History
import MetricPipeline.Proofs.Grouping
import MetricPipeline.Registry.BuiltIn

/-! The requests of a drain keep both limits, and there is no way to keep them with fewer requests. -/

namespace MetricPipeline

namespace Packing

variable {D V : Nat} {placed : List (Instant × Aggregator)} {requests : List Request}

theorem isCut (h : Packing D V placed requests) (hD : 0 < D) (hV : 0 < V) :
    IsCut D V (slotsOf placed) (requests.map fun request => labels request.data) := by
  rw [h.groups]
  exact Cut.isCut_greedy hD hV (slotsOf placed)

theorem length_requests (h : Packing D V placed requests) :
    requests.length = (Cut.greedy D V (slotsOf placed)).groups.length := by
  rw [← h.groups, List.length_map]

/-- The requests are as large as the groups of the greedy cut, in data and in values. -/
theorem sizes (h : Packing D V placed requests) :
    requests.map (fun request => (request.data.length, (request.data.map Datum.slots).sum)) =
      (Cut.greedy D V (slotsOf placed)).groups.map fun group => (group.toFinset.card, group.length) := by
  rw [← h.groups, List.map_map]
  refine List.map_congr_left fun request hr => ?_
  rw [Function.comp, (h.neat request hr).card_labels, length_labels]

/-- A request has data, and is within both limits. -/
theorem within (h : Packing D V placed requests) (hD : 0 < D) (hV : 0 < V) {request : Request}
    (hr : request ∈ requests) :
    1 ≤ request.data.length ∧ request.data.length ≤ D ∧ (request.data.map Datum.slots).sum ≤ V := by
  have hadmissible := (h.isCut hD hV).admissible _ (List.mem_map.2 ⟨request, hr, rfl⟩)
  have hneat := h.neat request hr
  refine ⟨?_, ?_, ?_⟩
  · refine List.length_pos_iff.2 fun hnil => hadmissible.nonempty ?_
    exact hneat.labels_eq_nil.2 hnil
  · rw [← hneat.card_labels]
    exact hadmissible.card_le
  · rw [← length_labels]
    exact hadmissible.length_le

theorem series_mem (h : Packing D V placed requests) (hD : 0 < D) (hV : 0 < V) {request : Request}
    (hr : request ∈ requests) {datum : Datum} (hd : datum ∈ request.data) :
    datum.series ∈ seriesOf placed := by
  apply mem_seriesOf_of_mem_slotsOf
  rw [← (h.isCut hD hV).flatten, List.mem_flatten]
  refine ⟨labels request.data, List.mem_map.2 ⟨request, hr, rfl⟩, ?_⟩
  rw [(h.neat request hr).mem_labels]
  exact List.mem_map.2 ⟨datum, hd, rfl⟩

end Packing

theorem slotsOf_of_summaries {placed : List (Instant × Aggregator)}
    (h : ∀ x ∈ placed, ∃ summary, x.2.tally = .summary summary) : slotsOf placed = seriesOf placed := by
  induction placed with
  | nil => rfl
  | cons x rest ih =>
    obtain ⟨summary, hsummary⟩ := h x List.mem_cons_self
    have hone : x.2.slots = 1 := by rw [Aggregator.slots, hsummary]
    have hrest := ih fun y hy => h y (List.mem_cons_of_mem x hy)
    rw [slotsOf, List.flatMap_cons, ← slotsOf, hrest, hone]
    rfl

theorem slotsOf_singleton {time : Instant} {aggregator : Aggregator} {histogram : Histogram}
    (h : aggregator.tally = .detailed histogram) :
    slotsOf [(time, aggregator)] = List.replicate histogram.size (aggregator.series time) := by
  have hslots : aggregator.slots = histogram.size := by rw [Aggregator.slots, h]
  simp [slotsOf, hslots]

namespace Aggregation

/-- Any operations lead to a store that is drained without failure into packed requests. -/
theorem drain_after (namespaceName : String) (options : StoreOptions) {data values : Option Binary64}
    (hdata : data ≠ some .nan) (hvalues : values ≠ some .nan) (operations : List Operation) :
    ∃ D V : Nat, ∃ hD : 0 < D, ∃ hV : 0 < V,
      D ≤ RequestLimits.serviceData ∧ V ≤ RequestLimits.serviceValues ∧
      (Limit.clamp RequestLimits.serviceData data).toInt? = some (D : Int) ∧
      (Limit.clamp RequestLimits.serviceValues values).toInt? = some (V : Int) ∧
      RequestLimits.create data values = ⟨.atMost D hD, .atMost V hV⟩ ∧
      ((create namespaceName options data values).after operations).store =
        .holding options (sinceDrain operations) ∧
      ∃ requests, ((create namespaceName options data values).after operations).drain.1 = .ok requests ∧
        Packing D V (Store.holding options (sinceDrain operations)).placed requests := by
  obtain ⟨D, V, hD, hV, hDle, hVle, hDint, hVint, hlimits⟩ :=
    RequestLimits.exists_create_eq hdata hvalues
  obtain ⟨requests, hdrain, hpacking⟩ := drain_holding namespaceName options hD hV
    (sinceDrain operations)
  refine ⟨D, V, hD, hV, hDle, hVle, hDint, hVint, hlimits, ?_, requests, ?_, hpacking⟩
  · rw [after_create]
    rfl
  · rw [after_create, hlimits, hdrain]

theorem sizes_drain {namespaceName : String} {options : StoreOptions} {data values : Option Binary64}
    {D V : Nat} {hD : 0 < D} {hV : 0 < V}
    (hlimits : RequestLimits.create data values = ⟨.atMost D hD, .atMost V hV⟩)
    {operations : List Operation} {requests : List Request}
    (hdrain : ((create namespaceName options data values).after operations).drain.1 = .ok requests) :
    requests.map (fun request => (request.data.length, (request.data.map Datum.slots).sum)) =
      (Cut.greedy D V (slotsOf (Store.holding options (sinceDrain operations)).placed)).groups.map
        fun group => (group.toFinset.card, group.length) := by
  obtain ⟨packed, hpacked, hpacking⟩ := drain_holding namespaceName options hD hV (sinceDrain operations)
  rw [after_create, hlimits, hpacked] at hdrain
  rw [← Except.ok.inj hdrain]
  exact hpacking.sizes

/-- Each request of a drain has one datum at least and keeps both limits, shows no aggregator twice, and
each of its histograms has a count for each of its values. -/
theorem requests_within_limits (namespaceName : String) (options : StoreOptions)
    (data values : Option Binary64) (hdata : data ≠ some .nan) (hvalues : values ≠ some .nan)
    (operations : List Operation) :
    ∃ D V : Nat, ∃ hD : 0 < D, ∃ hV : 0 < V, D ≤ 20 ∧ V ≤ 300 ∧
      (Limit.clamp 20 data).toInt? = some (D : Int) ∧ (Limit.clamp 300 values).toInt? = some (V : Int) ∧
      RequestLimits.create data values = ⟨.atMost D hD, .atMost V hV⟩ ∧
      ∃ requests, ((create namespaceName options data values).after operations).drain.1 = .ok requests ∧
        (seriesOf ((create namespaceName options data values).after operations).store.placed).Nodup ∧
        ∀ request ∈ requests,
          1 ≤ request.data.length ∧ request.data.length ≤ D ∧
          (request.data.map Datum.slots).sum ≤ V ∧
          (request.data.map Datum.series).Nodup ∧
          ∀ datum ∈ request.data,
            datum.series ∈
              seriesOf ((create namespaceName options data values).after operations).store.placed ∧
            ∀ entries counts, datum.measurement = .entries entries counts →
              entries ≠ [] ∧ counts.length = entries.length := by
  obtain ⟨D, V, hD, hV, hDle, hVle, hDint, hVint, hlimits, hstore, requests, hdrain, hpacking⟩ :=
    drain_after namespaceName options hdata hvalues operations
  refine ⟨D, V, hD, hV, hDle, hVle, hDint, hVint, hlimits, requests, hdrain, ?_, ?_⟩
  · rw [hstore]
    exact Store.nodup_series options (sinceDrain operations)
  · intro request hr
    obtain ⟨hpos, hlength, hslots⟩ := hpacking.within hD hV hr
    have hneat := hpacking.neat request hr
    refine ⟨hpos, hlength, hslots, hneat.nodup, fun datum hd => ⟨?_, fun entries counts heq => ?_⟩⟩
    · rw [hstore]
      exact hpacking.series_mem hD hV hr hd
    · have hproper := hneat.proper datum hd
      rwa [Datum.Proper, heq] at hproper

/-- A call with two metrics that are summarized. -/
def twoCounts : Collection :=
  .node "Call" (.ofInt 61000)
    [⟨Registry.coreMetric "RetryCount" .number .error, .number (.ofInt 3)⟩,
      ⟨Registry.httpMetric "MaxConcurrency" .number .info, .number (.ofInt 8)⟩] []

/-- A call with a metric of two values and two others. -/
def threeCounts : Collection :=
  .node "Call" (.ofInt 61000)
    [⟨Registry.coreMetric "RetryCount" .number .error, .number (.ofInt 2)⟩,
      ⟨Registry.httpMetric "MaxConcurrency" .number .info, .number (.ofInt 8)⟩,
      ⟨Registry.coreMetric "RetryCount" .number .error, .number (.ofInt 4)⟩,
      ⟨Registry.httpMetric "LeasedConcurrency" .number .info, .number (.ofInt 5)⟩] []

theorem slotsOf_threeCounts : slotsOf
    (Store.holding ⟨[], [.all], none, [Registry.coreMetric "RetryCount" .number .error]⟩ [threeCounts]).placed =
      [⟨"RetryCount", [], .ofMinute 1⟩, ⟨"RetryCount", [], .ofMinute 1⟩, ⟨"MaxConcurrency", [], .ofMinute 1⟩,
        ⟨"LeasedConcurrency", [], .ofMinute 1⟩] := by
  have hwellformed : Wellformed .builtIn [threeCounts] := ⟨by decide +kernel, by decide +kernel⟩
  rw [Observation.placed_holding (m := 1) .builtIn hwellformed (by decide +kernel), slotsOf,
    List.flatMap_map]
  simp only [Aggregator.slots_collect, Aggregator.series_collect]
  decide +kernel

/-- Where the limit of data is minus infinity, each datum is a request. Where it is infinity and the limit of
values is three, the histogram of two values and the first summary fill a request to the last value, and the
other summary takes another. -/
theorem requests_within_limits_infinite :
    (∃ requests,
      ((create "App" ⟨[], [.all], none, []⟩ (some (.infinite true)) (some (.infinite false))).after
        [.add twoCounts]).drain.1 = .ok requests ∧ requests.length = 2 ∧
      ∀ request ∈ requests, request.data.length = 1 ∧ (request.data.map Datum.slots).sum ≤ 300) ∧
    ∃ requests,
      ((create "App" ⟨[], [.all], none, [Registry.coreMetric "RetryCount" .number .error]⟩
        (some (.infinite false)) (some (.ofInt 3))).after [.add threeCounts]).drain.1 = .ok requests ∧
      requests.map (fun request => (request.data.length, (request.data.map Datum.slots).sum)) =
        [(2, 3), (1, 1)] ∧
      ∀ request ∈ requests, (request.data.map Datum.slots).sum ≤ 3 ∧
        (request.data.map Datum.series).Nodup := by
  constructor
  · obtain ⟨D, V, hD, hV, -, hV300, -, -, hlimits, requests, hdrain, -, hall⟩ :=
      requests_within_limits "App" ⟨[], [.all], none, []⟩ (some (.infinite true))
        (some (.infinite false)) (by decide) (by decide) [.add twoCounts]
    have hone : (RequestLimits.create (some (.infinite true)) (some (.infinite false))).data =
        .atMost 1 Nat.one_pos := by decide +kernel
    have hmost : (RequestLimits.create (some (.infinite true)) (some (.infinite false))).values =
        .atMost 300 (by decide) := by decide +kernel
    have hsizes := sizes_drain hlimits hdrain
    rw [hlimits] at hone hmost
    obtain rfl : D = 1 := Limit.atMost.inj hone
    obtain rfl : V = 300 := Limit.atMost.inj hmost
    refine ⟨requests, hdrain, ?_, fun request hr => ?_⟩
    · rw [← List.length_map, hsizes]
      decide +kernel
    · obtain ⟨hpos, hlength, hslots, -⟩ := hall request hr
      exact ⟨Nat.le_antisymm hlength hpos, hslots⟩
  · obtain ⟨D, V, hD, hV, -, -, -, -, hlimits, requests, hdrain, -, hall⟩ :=
      requests_within_limits "App" ⟨[], [.all], none, [Registry.coreMetric "RetryCount" .number .error]⟩
        (some (.infinite false)) (some (.ofInt 3)) (by decide) (by decide +kernel) [.add threeCounts]
    have hmost : (RequestLimits.create (some (.infinite false)) (some (.ofInt 3))).data =
        .atMost 20 (by decide) := by decide +kernel
    have hthree : (RequestLimits.create (some (.infinite false)) (some (.ofInt 3))).values =
        .atMost 3 (by decide) := by decide +kernel
    have hsizes := sizes_drain hlimits hdrain
    rw [hlimits] at hmost hthree
    obtain rfl : D = 20 := Limit.atMost.inj hmost
    obtain rfl : V = 3 := Limit.atMost.inj hthree
    refine ⟨requests, hdrain, ?_, fun request hr => ?_⟩
    · have hsince : sinceDrain [.add threeCounts] = [threeCounts] := rfl
      rw [hsizes, hsince, slotsOf_threeCounts]
      decide +kernel
    · obtain ⟨-, -, hslots, hnodup, -⟩ := hall request hr
      exact ⟨hslots, hnodup⟩

/-- A drain returns as few requests as any cut of the slots of the store into consecutive groups within
both limits, and its own requests are such a cut. -/
theorem requests_fewest (namespaceName : String) (options : StoreOptions)
    (data values : Option Binary64) (hdata : data ≠ some .nan) (hvalues : values ≠ some .nan)
    (operations : List Operation) :
    ∃ D V : Nat, ∃ hD : 0 < D, ∃ hV : 0 < V,
      RequestLimits.create data values = ⟨.atMost D hD, .atMost V hV⟩ ∧
      ∃ placed, ((create namespaceName options data values).after operations).store.placed = placed ∧
        (seriesOf placed).Nodup ∧
        ∃ requests, ((create namespaceName options data values).after operations).drain.1 = .ok requests ∧
          IsCut D V (slotsOf placed) (requests.map fun request => labels request.data) ∧
          (∀ groups, IsCut D V (slotsOf placed) groups → requests.length ≤ groups.length) ∧
          ((∀ x ∈ placed, ∃ summary, x.2.tally = .summary summary) →
            requests.length = (placed.length + min D V - 1) / min D V) ∧
          (∀ time aggregator histogram, placed = [(time, aggregator)] →
            aggregator.tally = .detailed histogram →
              requests.length = (histogram.size + V - 1) / V) := by
  obtain ⟨D, V, hD, hV, -, -, -, -, hlimits, hstore, requests, hdrain, hpacking⟩ :=
    drain_after namespaceName options hdata hvalues operations
  have hnodup : (seriesOf (Store.holding options (sinceDrain operations)).placed).Nodup :=
    Store.nodup_series options (sinceDrain operations)
  refine ⟨D, V, hD, hV, hlimits, _, rfl, ?_, requests, hdrain, ?_, ?_, ?_, ?_⟩
  all_goals rw [hstore]
  · exact hnodup
  · exact hpacking.isCut hD hV
  · intro groups hcut
    rw [hpacking.length_requests]
    exact Cut.length_groups_greedy_le hcut
  · intro hsummaries
    rw [hpacking.length_requests, slotsOf_of_summaries hsummaries,
      Cut.length_groups_greedy_of_nodup hD hV hnodup, seriesOf, List.length_map]
  · intro time aggregator histogram hplaced hdetailed
    rw [hpacking.length_requests, hplaced, slotsOf_singleton hdetailed,
      Cut.length_groups_greedy_replicate hD hV]

theorem requests_fewest_twoCounts :
    ∃ requests,
      ((create "App" ⟨[], [.all], none, []⟩ (some (.ofInt 1)) none).after
        [.add twoCounts]).drain.1 = .ok requests ∧ requests.length = 2 := by
  obtain ⟨D, V, hD, hV, hlimits, placed, hplaced, -, requests, hdrain, -, -, hsummaries, -⟩ :=
    requests_fewest "App" ⟨[], [.all], none, []⟩ (some (.ofInt 1)) none (by decide +kernel) (by decide)
      [.add twoCounts]
  have hdata : (RequestLimits.create (some (.ofInt 1)) none).data = .atMost 1 Nat.one_pos := by
    decide +kernel
  rw [hlimits] at hdata
  have hD1 : D = 1 := Limit.atMost.inj hdata
  have htwo : placed.length = 2 := by
    rw [← hplaced]
    decide +kernel
  have hall : placed.all (fun x => x.2.tally matches .summary _) = true := by
    rw [← hplaced]
    decide +kernel
  refine ⟨requests, hdrain, ?_⟩
  rw [hsummaries fun x hx => ?_, htwo, hD1, Nat.min_eq_left hV, Nat.div_one]
  have hx' := List.all_eq_true.1 hall x hx
  split at hx'
  · next summary heq => exact ⟨summary, heq⟩
  · cases hx'

end Aggregation
end MetricPipeline
