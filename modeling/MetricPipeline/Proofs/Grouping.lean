import Mathlib.Data.Finset.Card
import Mathlib.Data.List.Sort
import MetricPipeline.Proofs.Aggregation.Groups
import MetricPipeline.Proofs.Binary64.Order
import MetricPipeline.Proofs.Measures
import MetricPipeline.Proofs.Registry

/-! A store is a flat list of observations, grouped. Observations are grouped by their UTC minute and then by
metric and dimensions; minutes ascend, and the groups of a minute stand in the order of their first
observations. -/

namespace MetricPipeline

/-- A value to be aggregated, with the UTC minute and the dimensions of the tree that it stands in. -/
structure Observation where
  minute : Int
  key : AggregationKey
  value : Binary64

/-- The level of a metric is included, and one of its categories is configured. -/
def StoreOptions.Selects (options : StoreOptions) (metric : Metric) : Prop :=
  (options.level?.getD .info).Includes metric.level ∧
    ∃ category ∈ metric.categories, category ∈ options.categories

instance (options : StoreOptions) (metric : Metric) : Decidable (options.Selects metric) :=
  inferInstanceAs (Decidable (_ ∧ _))

/-- For metrics that carry the category of all metrics, configuring it selects every category. -/
theorem StoreOptions.selects_iff (options : StoreOptions) {metric : Metric} (h : .all ∈ metric.categories) :
    options.Selects metric ↔ options.reports metric = true := by
  rw [reports_iff, Selects, Reportable]
  refine and_congr_right fun _ => ⟨Or.inr, ?_⟩
  rintro (hall | hshared)
  · exact ⟨.all, h, hall⟩
  · exact hshared

/-- The numeric records of a tree that are selected, in pre-order. -/
def Collection.observed (options : StoreOptions) (collection : Collection) : List Observation :=
  match collection.time.utcMinute? with
  | none => []
  | some minute =>
    (collection.allRecords.filter fun record => options.Selects record.metric).filterMap fun record =>
      record.numeric?.map fun value =>
        ⟨minute, ⟨record.metric, collection.dimensions options.dimensions⟩, value⟩

namespace Observation

def ofCollections (options : StoreOptions) (collections : List Collection) : List Observation :=
  collections.flatMap (Collection.observed options)

/-- The minutes of observations in ascending order. -/
def minutes (observations : List Observation) : List Int :=
  (observations.map minute).eraseDups.mergeSort (· ≤ ·)

/-- The keys of the observations of a minute, in the order of their first ones. -/
def keys (observations : List Observation) (m : Int) : List AggregationKey :=
  ((observations.filter (·.minute = m)).map key).eraseDups

/-- The values of a group in the order of arrival. -/
def values (observations : List Observation) (m : Int) (k : AggregationKey) : List Binary64 :=
  (observations.filter fun o => o.minute = m ∧ o.key = k).map value

/-- The aggregator of a group: an exact histogram if its metric is detailed, else a summary. -/
def aggregator (detailed : List Metric) (k : AggregationKey) (values : List Binary64) : Aggregator where
  key := k
  unit := k.metric.unit
  tally := if k.metric ∈ detailed then .detailed (values.foldl Histogram.add .empty)
    else .summary (values.foldl Summary.add .empty)

def grouping (options : StoreOptions) (observations : List Observation) : List TimeBucket :=
  (minutes observations).map fun m => ⟨.ofMinute m, (keys observations m).map fun k =>
    aggregator options.detailed k (values observations m k)⟩

theorem mem_minutes {observations : List Observation} {m : Int} :
    m ∈ minutes observations ↔ ∃ o ∈ observations, o.minute = m := by
  rw [minutes, List.mem_mergeSort, List.mem_eraseDups, List.mem_map]

theorem minutes_pairwise (observations : List Observation) : (minutes observations).Pairwise (· < ·) := by
  have hsorted : (minutes observations).Pairwise (· ≤ ·) := List.pairwise_mergeSort' (· ≤ ·) _
  have hnodup : (minutes observations).Nodup := List.nodup_mergeSort.2 (nodup_eraseDups _)
  exact (hsorted.and hnodup).imp fun h => lt_of_le_of_ne h.1 h.2

theorem aggregator_eq_collect (detailed : List Metric) (k : AggregationKey) (values : List Binary64) :
    aggregator detailed k values = .collect detailed k values := by
  rw [Aggregator.collect, Aggregator.foldl_add, aggregator, Aggregator.create]
  split_ifs
  · rw [Aggregator.foldl_tally_detailed]
  · rw [Aggregator.foldl_tally_summary]

/-- The double under which a minute is filed. -/
def start (m : Int) : Binary64 := .ofInt (60000 * m)

/-- The observation as it is filed. -/
def arrival (o : Observation) : Arrival := ⟨start o.minute, o.key, o.value⟩

end Observation

/-! What the store files is what is observed -/

theorem Collection.arrivals_eq {options : StoreOptions} {collection : Collection}
    (hvalid : collection.time ≠ .invalid)
    (hall : ∀ record ∈ collection.allRecords, .all ∈ record.metric.categories) :
    collection.arrivals options = (collection.observed options).map Observation.arrival := by
  obtain ⟨m, hm⟩ := Instant.exists_utcMinute hvalid
  rw [arrivals, Store.observations, observed, hm]
  dsimp only
  rw [List.map_filterMap, List.map_filterMap, List.filterMap_filter]
  refine List.filterMap_congr fun record hrecord => ?_
  have hselects := options.selects_iff (hall record hrecord)
  by_cases h : options.Selects record.metric
  · rw [StoreOptions.observation?, if_pos (hselects.1 h), if_pos (decide_eq_true h)]
    cases record.numeric? with
    | none => rfl
    | some v => simp [Observation.arrival, Observation.start, Instant.minute_eq hm]
  · rw [StoreOptions.observation?, if_neg fun hr => h (hselects.2 hr), if_neg (by simpa using h)]
    rfl

theorem Collection.minute_of_observed {options : StoreOptions} {collection : Collection} {o : Observation}
    (h : o ∈ collection.observed options) : collection.time.utcMinute? = some o.minute := by
  unfold observed at h
  split at h
  · cases h
  · next m hm =>
    obtain ⟨record, -, hrecord⟩ := List.mem_filterMap.1 h
    obtain ⟨v, -, rfl⟩ := Option.map_eq_some_iff.1 hrecord
    exact hm

theorem Collection.metric_of_observed {options : StoreOptions} {collection : Collection} {o : Observation}
    (h : o ∈ collection.observed options) :
    ∃ record ∈ collection.allRecords, record.metric = o.key.metric := by
  unfold observed at h
  split at h
  · cases h
  · obtain ⟨record, hrecord, ho⟩ := List.mem_filterMap.1 h
    obtain ⟨v, -, rfl⟩ := Option.map_eq_some_iff.1 ho
    exact ⟨record, (List.mem_filter.1 hrecord).1, rfl⟩

namespace Observation

/-- Observations of registered metrics at valid times, as they come from collections. -/
structure Sound (registry : Registry) (observations : List Observation) : Prop where
  inRange : ∀ o ∈ observations, (60000 * o.minute).natAbs ≤ Instant.bound
  registered : ∀ o ∈ observations, o.key.metric ∈ registry.metrics

variable {registry : Registry} {options : StoreOptions} {collections : List Collection}
  {observations : List Observation}

theorem sound_ofCollections (hw : Wellformed registry collections) :
    Sound registry (ofCollections options collections) := by
  constructor
  · intro o ho
    obtain ⟨collection, -, ho⟩ := List.mem_flatMap.1 ho
    exact Instant.utcMinute?_range (Collection.minute_of_observed ho)
  · intro o ho
    obtain ⟨collection, hc, ho⟩ := List.mem_flatMap.1 ho
    obtain ⟨record, hrecord, hmetric⟩ := Collection.metric_of_observed ho
    rw [← hmetric]
    exact hw.registered collection hc record hrecord

theorem arrivals_eq (hregistry : registry.Defined) (hw : Wellformed registry collections) :
    Store.arrivals options collections = (ofCollections options collections).map arrival := by
  rw [Store.arrivals, ofCollections, List.map_flatMap]
  refine List.flatMap_congr fun collection hc => ?_
  exact Collection.arrivals_eq (hw.valid collection hc) fun record hrecord =>
    hregistry.all_mem_categories _ (hw.registered collection hc record hrecord)

/-- Minutes are told apart by the doubles at which they start, which are in the same order. -/
theorem Sound.lt_minute (h : Sound registry observations) {a b : Observation} (ha : a ∈ observations)
    (hb : b ∈ observations) : (start a.minute).lt (start b.minute) = decide (a.minute < b.minute) := by
  have hbound : Instant.bound = 8640000000000000 := rfl
  have hra := h.inRange a ha
  have hrb := h.inRange b hb
  rw [start, start, Binary64.lt_ofInt (by omega) (by omega)]
  exact decide_eq_decide.2 (by omega)

theorem Sound.minute_inj (h : Sound registry observations) {a b : Observation} (ha : a ∈ observations)
    (hb : b ∈ observations) : start a.minute = start b.minute ↔ a.minute = b.minute := by
  constructor
  · intro heq
    have hab := h.lt_minute ha hb
    have hba := h.lt_minute hb ha
    have haa := h.lt_minute ha ha
    rw [heq] at hab hba haa
    have hirrefl : (start b.minute).lt (start b.minute) = false := by
      rw [haa]
      exact decide_eq_false (lt_irrefl _)
    rw [hirrefl] at hab hba
    have := of_decide_eq_false hab.symm
    have := of_decide_eq_false hba.symm
    omega
  · intro heq
    rw [heq]

theorem Sound.key_inj (h : Sound registry observations) {a b : Observation} (ha : a ∈ observations)
    (hb : b ∈ observations) : a.key.id = b.key.id ↔ a.key = b.key := by
  rw [AggregationKey.id_eq_iff]
  constructor
  · rintro ⟨hname, hdimensions⟩
    have hmetric := registry.eq_of_name_eq (h.registered a ha) (h.registered b hb) hname
    exact congrArg₂ AggregationKey.mk hmetric hdimensions
  · intro heq
    rw [heq]
    exact ⟨rfl, rfl⟩

/-- The bucket of a minute. -/
def bucketAt (options : StoreOptions) (observations : List Observation) (m : Int) : Bucket :=
  ((observations.filter (·.minute = m)).map arrival).foldl (Store.fileInBucket options) .empty

theorem Sound.filter_arrivals (h : Sound registry observations) {o : Observation} (ho : o ∈ observations) :
    (observations.map arrival).filter (fun a => a.minute = start o.minute) =
      (observations.filter (·.minute = o.minute)).map arrival := by
  rw [List.filter_map]
  refine congrArg _ (List.filter_congr fun a ha => ?_)
  rw [Function.comp_apply]
  exact decide_eq_decide.2 (h.minute_inj ha ho)

theorem Sound.keys_bucketAt (h : Sound registry observations) (options : StoreOptions) (m : Int) :
    (bucketAt options observations m).keys = (keys observations m).map AggregationKey.id := by
  have hkeys := OrderedMap.keys_foldl_upsert (fun a : Arrival => a.key.id)
    (fun a found => (found.getD (Aggregator.create options.detailed a.key)).add a.value)
    ((observations.filter (·.minute = m)).map arrival)
  rw [List.map_map] at hkeys
  refine hkeys.trans ?_
  rw [keys, ← eraseDups_map, List.map_map]
  · rfl
  · -- metrics of one name are the same only where they are registered
    intro k hk k' hk' heq
    obtain ⟨a, ha, rfl⟩ := List.mem_map.1 hk
    obtain ⟨b, hb, rfl⟩ := List.mem_map.1 hk'
    exact (h.key_inj (List.mem_filter.1 ha).1 (List.mem_filter.1 hb).1).1 heq

/-- What a bucket holds under the id of a key is the aggregator of its group. -/
theorem Sound.find?_bucketAt (h : Sound registry observations) (options : StoreOptions) {m : Int}
    {k : AggregationKey} (hk : k ∈ keys observations m) :
    (bucketAt options observations m).find? k.id =
      some (aggregator options.detailed k (values observations m k)) := by
  rw [keys, List.mem_eraseDups, List.mem_map] at hk
  obtain ⟨o, ho, rfl⟩ := hk
  obtain ⟨ho, hm⟩ := List.mem_filter.1 ho
  have hgroup : ((observations.filter (·.minute = m)).map arrival).filter (fun a => a.key.id = o.key.id) =
      (observations.filter fun a => a.minute = m ∧ a.key = o.key).map arrival := by
    rw [List.filter_map, List.filter_filter]
    refine congrArg _ (List.filter_congr fun a ha => ?_)
    have hkey : a.arrival.key.id = o.key.id ↔ a.key = o.key := h.key_inj ha ho
    simp only [Function.comp, hkey, Bool.decide_and, Bool.and_comm]
  have hmem : o ∈ observations.filter fun a => a.minute = m ∧ a.key = o.key :=
    List.mem_filter.2 ⟨ho, by simpa using hm⟩
  rw [bucketAt, Store.find?_foldl_fileInBucket, hgroup, aggregator_eq_collect, values]
  cases hfirst : observations.filter fun a => a.minute = m ∧ a.key = o.key with
  | nil =>
    rw [hfirst] at hmem
    cases hmem
  | cons first rest =>
    have hin : first ∈ observations.filter fun a => a.minute = m ∧ a.key = o.key := by
      rw [hfirst]
      exact List.mem_cons_self
    have hsame : first.arrival.key = o.key := (of_decide_eq_true (List.mem_filter.1 hin).2).2
    simp only [List.map_cons, List.map_map, hsame]
    rfl

theorem Sound.values_bucketAt (h : Sound registry observations) (options : StoreOptions) (m : Int) :
    (bucketAt options observations m).values = (keys observations m).map fun k =>
      aggregator options.detailed k (values observations m k) := by
  rw [OrderedMap.values_eq, h.keys_bucketAt, List.filterMap_map, ← List.filterMap_eq_map]
  exact List.filterMap_congr fun k hk => h.find?_bucketAt options hk

/-- The buckets in the order in which their minutes came. -/
theorem Sound.entries_eq (h : Sound registry observations) (options : StoreOptions) :
    ((observations.map arrival).foldl (Store.file options) .empty).entries =
      (observations.map minute).eraseDups.map fun m => (start m, bucketAt options observations m) := by
  have hkeys := OrderedMap.keys_foldl_upsert (fun a : Arrival => a.minute)
    (fun a found => Store.fileInBucket options (found.getD .empty) a) (observations.map arrival)
  have hstarts : ((observations.map arrival).map Arrival.minute).eraseDups =
      (observations.map minute).eraseDups.map start := by
    rw [← eraseDups_map, List.map_map, List.map_map]
    · rfl
    · intro m hm m' hm' heq
      obtain ⟨a, ha, rfl⟩ := List.mem_map.1 hm
      obtain ⟨b, hb, rfl⟩ := List.mem_map.1 hm'
      exact (h.minute_inj ha hb).1 heq
  rw [OrderedMap.entries_eq]
  rw [hstarts] at hkeys
  have hfind : ∀ m ∈ (observations.map minute).eraseDups,
      ((observations.map arrival).foldl (Store.file options) .empty).find? (start m) =
        some (bucketAt options observations m) := by
    intro m hm
    rw [List.mem_eraseDups, List.mem_map] at hm
    obtain ⟨o, ho, rfl⟩ := hm
    have hstep := OrderedMap.find?_foldl_upsert (fun a : Arrival => a.minute)
      (fun a found => Store.fileInBucket options (found.getD .empty) a) (observations.map arrival)
      .empty (start o.minute)
    rw [h.filter_arrivals ho] at hstep
    refine (hstep.trans (OrderedMap.foldl_some _ _ _)).trans (if_neg fun hnil => ?_)
    have hmem : o ∈ observations.filter (·.minute = o.minute) := List.mem_filter.2 ⟨ho, by simp⟩
    rw [List.map_eq_nil_iff.1 hnil] at hmem
    cases hmem
  refine (congrArg (List.filterMap _) hkeys).trans ?_
  rw [List.filterMap_map, ← List.filterMap_eq_map (f := fun m => (start m, bucketAt options observations m))]
  refine List.filterMap_congr fun m hm => ?_
  rw [Function.comp, hfind m hm]
  rfl

theorem timeBuckets_holding (hregistry : registry.Defined) (hw : Wellformed registry collections) :
    (Store.holding options collections).timeBuckets =
      grouping options (ofCollections options collections) := by
  have h : Sound registry (ofCollections options collections) := sound_ofCollections hw
  have hbound : Instant.bound = 8640000000000000 := rfl
  rw [Store.holding_eq, arrivals_eq hregistry hw, Store.timeBuckets, h.entries_eq, grouping, minutes,
    ← List.map_mergeSort, List.map_map]
  · refine List.map_congr_left fun m hm => ?_
    rw [List.mem_mergeSort, List.mem_eraseDups, List.mem_map] at hm
    obtain ⟨o, ho, rfl⟩ := hm
    have hrange := h.inRange o ho
    rw [Function.comp]
    dsimp only
    rw [h.values_bucketAt, start, Instant.ofMillis, Binary64.truncate?_ofInt (by omega), Instant.ofMinute]
  · intro m hm m' hm'
    rw [List.mem_eraseDups, List.mem_map] at hm hm'
    obtain ⟨a, ha, rfl⟩ := hm
    obtain ⟨b, hb, rfl⟩ := hm'
    have hlt : (start b.minute).lt (start a.minute) = decide (b.minute < a.minute) := h.lt_minute hb ha
    rw [hlt, ← decide_not]
    exact decide_eq_decide.2 not_lt.symm

/-- What a store holds where all that is observed falls into one minute. -/
theorem placed_holding (hregistry : registry.Defined) (hw : Wellformed registry collections) {m : Int}
    (hm : ((ofCollections options collections).map minute).eraseDups = [m]) :
    (Store.holding options collections).placed = (keys (ofCollections options collections) m).map fun k =>
      (.ofMinute m, .collect options.detailed k (values (ofCollections options collections) m k)) := by
  rw [Store.placed, timeBuckets_holding hregistry hw, grouping, minutes, hm, List.mergeSort_singleton,
    List.map_singleton, List.flatMap_singleton, List.map_map]
  refine List.map_congr_left fun k _ => ?_
  rw [Function.comp, aggregator_eq_collect]

/-- The groups in the order in which the store lists them. -/
def groups (observations : List Observation) : List (Int × AggregationKey) :=
  (minutes observations).flatMap fun m => (keys observations m).map (m, ·)

theorem mem_groups {observations : List Observation} {group : Int × AggregationKey} :
    group ∈ groups observations ↔ ∃ o ∈ observations, (o.minute, o.key) = group := by
  simp only [groups, List.mem_flatMap, List.mem_map, mem_minutes, keys, List.mem_eraseDups, List.mem_filter,
    decide_eq_true_eq]
  constructor
  · rintro ⟨m, -, k, ⟨o, ⟨ho, rfl⟩, rfl⟩, rfl⟩
    exact ⟨o, ho, rfl⟩
  · rintro ⟨o, ho, rfl⟩
    exact ⟨o.minute, ⟨o, ho, rfl⟩, o.key, ⟨o, ⟨ho, rfl⟩, rfl⟩, rfl⟩

theorem nodup_groups (observations : List Observation) : (groups observations).Nodup := by
  rw [groups, List.nodup_flatMap]
  constructor
  · intro m _
    exact (nodup_eraseDups _).map fun _ _ h => (Prod.mk.inj h).2
  · refine (minutes_pairwise observations).imp fun hlt => List.disjoint_left.2 fun group hg hg' => ?_
    obtain ⟨k, -, rfl⟩ := List.mem_map.1 hg
    obtain ⟨k', -, heq⟩ := List.mem_map.1 hg'
    exact hlt.ne (Prod.mk.inj heq).1.symm

/-- Each group is listed once. -/
theorem length_groups (observations : List Observation) :
    (groups observations).length = (observations.map fun o => (o.minute, o.key)).toFinset.card := by
  rw [← List.toFinset_card_of_nodup (nodup_groups observations)]
  refine congrArg Finset.card (Finset.ext fun group => ?_)
  rw [List.mem_toFinset, List.mem_toFinset, mem_groups, List.mem_map]

end Observation

namespace Store

open Observation (ofCollections grouping minutes)

theorem size_eq_length_placed (store : Store) : store.size = store.placed.length := by
  rw [(placed_perm_unsorted store).length_eq, unsorted, List.length_flatMap, size, ← List.sum_eq_foldl,
    OrderedMap.values, List.map_map]
  refine congrArg List.sum (List.map_congr_left fun entry _ => ?_)
  rw [List.length_map, OrderedMap.values, List.length_map]
  rfl

/-- A store that was just made or just reset. -/
inductive Fresh (options : StoreOptions) : Store → Prop where
  | empty : Fresh options (.empty options)
  | reset (store : Store) (h : store.options = options) : Fresh options store.reset

variable {options : StoreOptions} {start : Store}

theorem Fresh.eq_empty (h : Fresh options start) : start = .empty options := by
  cases h with
  | empty => rfl
  | reset store h =>
    rw [← h]
    rfl

theorem add_of_observed_nil {store : Store} {collection : Collection} (hvalid : collection.time ≠ .invalid)
    (hall : ∀ record ∈ collection.allRecords, .all ∈ record.metric.categories)
    (hnil : collection.observed store.options = []) : store.add collection = store := by
  rw [add_eq, Collection.arrivals_eq hvalid hall, hnil]
  rfl

/-- What is observed in a record is what it measures. A store that collections are added to, from its making or
its last reset on, lists the minutes that have observations in ascending order, and in each of them the groups
in the order of their first observations, each with the aggregator of its values in the order of arrival. -/
theorem timeBuckets_eq_grouping (registry : Registry) (hregistry : registry.Defined)
    (options : StoreOptions) (start : Store) (hstart : Fresh options start) (collections : List Collection)
    (hvalid : ∀ collection ∈ collections, collection.time ≠ .invalid)
    (hregistered : ∀ collection ∈ collections, ∀ record ∈ collection.allRecords,
      record.metric ∈ registry.metrics) :
    (∀ (record : Record) (x : Binary64), record.numeric? = some x ↔ record.Measures x) ∧
      (collections.foldl add start).timeBuckets =
        grouping options (ofCollections options collections) ∧
      (minutes (ofCollections options collections)).Pairwise (· < ·) ∧
      (∀ m, m ∈ minutes (ofCollections options collections) ↔
        ∃ o ∈ ofCollections options collections, o.minute = m) ∧
      (collections.foldl add start).size =
        ((ofCollections options collections).map fun o => (o.minute, o.key)).toFinset.card ∧
      ∀ collection ∈ collections, collection.observed options = [] →
        ∀ store : Store, store.options = options → store.add collection = store := by
  have hw : Wellformed registry collections := ⟨hvalid, hregistered⟩
  have hbuckets : (collections.foldl add start).timeBuckets =
      grouping options (ofCollections options collections) := by
    rw [hstart.eq_empty]
    exact Observation.timeBuckets_holding hregistry hw
  refine ⟨fun record x => Record.numeric?_eq_some_iff, hbuckets, Observation.minutes_pairwise _,
    fun m => Observation.mem_minutes, ?_, ?_⟩
  · rw [size_eq_length_placed, placed, hbuckets, ← Observation.length_groups,
      grouping, List.flatMap_map, Observation.groups, List.length_flatMap, List.length_flatMap]
    simp only [List.length_map]
  · rintro collection hc hnil store rfl
    exact add_of_observed_nil (hvalid collection hc) (fun record hrecord =>
      hregistry.all_mem_categories _ (hregistered collection hc record hrecord)) hnil

/-- A call to a service with its numbers of retries. -/
def retries (time : Int) (service : String) (counts : List Int) : Collection :=
  .node "Call" (.ofInt time)
    (⟨Registry.serviceId, .string service⟩ ::
      counts.map fun n => ⟨Registry.coreMetric "RetryCount" .number .error, .number (.ofInt n)⟩) []

/-- A call to a service with the nanoseconds that it took. -/
def lasting (time : Int) (service : String) (nanos : Int) : Collection :=
  .node "Call" (.ofInt time)
    [⟨Registry.serviceId, .string service⟩,
      ⟨Registry.coreMetric "ApiCallDuration" .duration .info, .duration ⟨.ofInt nanos⟩⟩] []

/-- Minutes visited out of order, before the epoch and after it, in a store that was reset, and a span of three
milliseconds. -/
theorem timeBuckets_eq_grouping_retries :
    (([retries 61000 "B" [3], retries (-1) "A" [2, 4], retries 119999 "A" [1], lasting 60500 "A" 3000000,
        retries 60000 "B" [5]].foldl add
          ((empty ⟨[Registry.serviceId], [.all], none, []⟩).add (retries 0 "A" [7])).reset).timeBuckets.map
      fun bucket => (bucket.time, bucket.aggregators.map fun a =>
        (a.key.metric.name, a.key.dimensions.map Dimension.value,
          match a.tally with
          | .summary summary => summary.sum
          | .detailed _ => .nan))) =
      [(.ofInt (-60000), [("RetryCount", ["A"], .ofInt 6)]),
        (.ofInt 60000, [("RetryCount", ["B"], .ofInt 8), ("RetryCount", ["A"], .ofInt 1),
          ("ApiCallDuration", ["A"], .ofInt 3)])] := by
  obtain ⟨-, hbuckets, -⟩ := timeBuckets_eq_grouping .builtIn .builtIn
    ⟨[Registry.serviceId], [.all], none, []⟩
    ((empty ⟨[Registry.serviceId], [.all], none, []⟩).add (retries 0 "A" [7])).reset (.reset _ rfl)
    [retries 61000 "B" [3], retries (-1) "A" [2, 4], retries 119999 "A" [1], lasting 60500 "A" 3000000,
      retries 60000 "B" [5]] (by decide +kernel) (by decide +kernel)
  have hminutes : minutes (ofCollections ⟨[Registry.serviceId], [.all], none, []⟩ [retries 61000 "B" [3],
      retries (-1) "A" [2, 4], retries 119999 "A" [1], lasting 60500 "A" 3000000,
      retries 60000 "B" [5]]) = [-1, 1] := by
    rw [minutes, List.mergeSort_eq_insertionSort (· ≤ ·)]
    decide +kernel
  rw [hbuckets, grouping, hminutes]
  decide +kernel

end Store
end MetricPipeline
