import MetricPipeline.Proofs.Aggregation.Limits
import MetricPipeline.Proofs.Grouping

/-! A drain lists the store in order. Buckets come by ascending minute and the aggregators of a bucket in the
order in which they were first seen, and the data of each aggregator stand together: one datum for a summary,
and for a histogram slices that make up its values and its counts again. -/

namespace MetricPipeline

/-- What aggregators are told apart by within a minute. -/
structure Label where
  metric : String
  dimensions : List Dimension
deriving DecidableEq

namespace AggregationKey

def label (key : AggregationKey) : Label := ⟨key.metric.name, key.dimensions⟩

/-- The id of the keys with a label. -/
def idOf (label : Label) : String :=
  (AggregationKey.mk ⟨label.metric, .number, .info, []⟩ label.dimensions).id

theorem idOf_label (key : AggregationKey) : idOf key.label = key.id := id_eq_iff.2 ⟨rfl, rfl⟩

theorem idOf_injective : Function.Injective idOf := by
  rintro ⟨name, dimensions⟩ ⟨name', dimensions'⟩ h
  obtain ⟨hname, hdimensions⟩ := id_eq_iff.1 h
  rw [Label.mk.injEq]
  exact ⟨hname, hdimensions⟩

end AggregationKey

namespace Datum

/-- The values of a datum of entries. -/
def values (datum : Datum) : List Binary64 :=
  match datum.measurement with
  | .statistics _ => []
  | .entries values _ => values

/-- The counts of a datum of entries. -/
def counts (datum : Datum) : List Nat :=
  match datum.measurement with
  | .statistics _ => []
  | .entries _ counts => counts

theorem Proper.length_counts {datum : Datum} (h : datum.Proper) :
    datum.counts.length = datum.values.length := by
  unfold Proper at h
  unfold counts values
  split
  · rfl
  · next values counts heq =>
    rw [heq] at h
    exact h.2

theorem pairs_eq_zip (datum : Datum) : datum.pairs = datum.values.zip datum.counts := by
  unfold pairs values counts
  cases datum.measurement <;> rfl

theorem Proper.map_fst_pairs {datum : Datum} (h : datum.Proper) :
    datum.pairs.map Prod.fst = datum.values := by
  rw [pairs_eq_zip, List.map_fst_zip h.length_counts.ge]

theorem Proper.map_snd_pairs {datum : Datum} (h : datum.Proper) :
    datum.pairs.map Prod.snd = datum.counts := by
  rw [pairs_eq_zip, List.map_snd_zip h.length_counts.le]

end Datum

/-- Data that are an aggregator at a time, laid out: all carry its name, its dimensions, its unit and the
time; a summary is one datum with its statistics; the entries of a histogram are one datum or more, each with
values and a count for each of them, which put together are the values and the counts of the histogram. -/
structure Tiles (time : Instant) (aggregator : Aggregator) (data : List Datum) : Prop where
  about : ∀ datum ∈ data, datum.metric = aggregator.key.metric.name ∧
    datum.dimensions = aggregator.key.dimensions ∧ datum.time = time ∧ datum.unit = aggregator.unit
  summary : ∀ summary, aggregator.tally = .summary summary →
    ∃ datum, data = [datum] ∧ datum.measurement = .statistics summary
  detailed : ∀ histogram, aggregator.tally = .detailed histogram →
    data ≠ [] ∧
    (∀ datum ∈ data, datum.measurement = .entries datum.values datum.counts ∧ datum.values ≠ [] ∧
      datum.counts.length = datum.values.length) ∧
    data.flatMap Datum.values = histogram.values.toList ∧
    data.flatMap Datum.counts = histogram.counts.toList

/-- Data that show a filled aggregator tile it. -/
theorem Renders.tiles {time : Instant} {aggregator : Aggregator} {data : List Datum}
    (h : Renders (time, aggregator) data) (hfilled : aggregator.Filled) : Tiles time aggregator data := by
  refine ⟨fun datum hd => ?_, fun summary htally => ⟨_, h.summary summary htally, rfl⟩,
    fun histogram htally => ?_⟩
  · obtain ⟨hseries, hunit, -⟩ := h.about datum hd
    obtain ⟨hname, hdimensions, htime⟩ := Series.mk.inj hseries
    exact ⟨hname, hdimensions, htime, hunit⟩
  · obtain ⟨hentries, hpairs⟩ := h.detailed histogram htally
    rw [Aggregator.Filled, htally] at hfilled
    obtain ⟨hpos, hcounts⟩ := hfilled
    have hvalues : data.flatMap Datum.values = histogram.values.toList := by
      rw [List.flatMap_congr fun datum hd => (h.about datum hd).2.2.map_fst_pairs.symm, ← List.map_flatMap,
        hpairs, List.map_fst_zip hcounts.ge]
    refine ⟨?_, fun datum hd => ?_, hvalues, ?_⟩
    · rintro rfl
      rw [Histogram.size, ← Array.length_toList, ← hvalues] at hpos
      exact Nat.lt_irrefl 0 hpos
    · obtain ⟨values, counts, hmeasurement⟩ := hentries datum hd
      have hproper := (h.about datum hd).2.2
      refine ⟨?_, ?_, hproper.length_counts⟩
      · rw [Datum.values, Datum.counts, hmeasurement]
      · rw [Datum.Proper, hmeasurement] at hproper
        rw [Datum.values, hmeasurement]
        exact hproper.1
    · rw [List.flatMap_congr fun datum hd => (h.about datum hd).2.2.map_snd_pairs.symm, ← List.map_flatMap,
        hpairs, List.map_snd_zip hcounts.le]

namespace Store

variable {options : StoreOptions} {collections : List Collection}

/-- The observations of the collections of a UTC minute, in the order in which they came. -/
def arrivalsIn (options : StoreOptions) (collections : List Collection) (m : Int) : List Arrival :=
  arrivals options (collections.filter fun collection => collection.time.utcMinute? = some m)

/-- The values of a minute under a label, in the order in which they came. -/
def valuesIn (options : StoreOptions) (collections : List Collection) (m : Int) (label : Label) :
    List Binary64 :=
  ((arrivalsIn options collections m).filter fun a => a.key.label = label).map Arrival.value

/-- How a bucket lists the observations of a minute: one aggregator for each label, in the order in which the
labels were first seen, made of the values under its label. A histogram has the distinct ones in the order in
which they were first seen, each with the number of times that it came. -/
structure Lists (options : StoreOptions) (collections : List Collection) (m : Int) (bucket : TimeBucket) :
    Prop where
  time : bucket.time = .ofMinute m
  labels : bucket.aggregators.map (·.key.label) =
    ((arrivalsIn options collections m).map (·.key.label)).eraseDups
  collected : ∀ aggregator ∈ bucket.aggregators,
    aggregator = .collect options.detailed aggregator.key
      (valuesIn options collections m aggregator.key.label)
  histograms : ∀ aggregator ∈ bucket.aggregators, ∀ histogram, aggregator.tally = .detailed histogram →
    histogram.values.toList = (valuesIn options collections m aggregator.key.label).eraseDups ∧
    histogram.counts.toList = (valuesIn options collections m aggregator.key.label).eraseDups.map
      (valuesIn options collections m aggregator.key.label).count

/-- What is filed under the minute of an instant came with the collections of this minute. -/
theorem filter_arrivals_minute (hvalid : ∀ collection ∈ collections, collection.time ≠ .invalid)
    {time : Instant} {m : Int} (htime : time.utcMinute? = some m) :
    (arrivals options collections).filter (fun a => a.minute = time.minute) =
      arrivalsIn options collections m := by
  induction collections with
  | nil => rfl
  | cons collection rest ih =>
    have hrest := ih fun c hc => hvalid c (List.mem_cons_of_mem _ hc)
    have hminute := Instant.minute_eq_iff (hvalid collection List.mem_cons_self) htime
    have hsame : ∀ a ∈ collection.arrivals options, a.minute = collection.time.minute := by
      intro a ha
      obtain ⟨o, -, rfl⟩ := List.mem_map.1 ha
      rfl
    unfold arrivals at hrest ⊢
    rw [List.flatMap_cons, List.filter_append, hrest, arrivalsIn, arrivalsIn, List.filter_cons]
    by_cases hm : collection.time.utcMinute? = some m
    · rw [if_pos (decide_eq_true hm), List.filter_eq_self.2 fun a ha => decide_eq_true
        ((hsame a ha).trans (hminute.2 hm))]
      rfl
    · rw [if_neg (by simpa using hm), List.filter_eq_nil_iff.2 fun a ha heq =>
        hm (hminute.1 ((hsame a ha).symm.trans (of_decide_eq_true heq)))]
      rfl

/-- The bucket of a minute. -/
def bucketIn (options : StoreOptions) (collections : List Collection) (m : Int) : Bucket :=
  (arrivalsIn options collections m).foldl (fileInBucket options) .empty

theorem exists_time_of_arrivalsIn {m : Int} (h : arrivalsIn options collections m ≠ []) :
    ∃ time : Instant, time.utcMinute? = some m := by
  obtain ⟨a, ha⟩ := List.exists_mem_of_ne_nil _ h
  obtain ⟨collection, hc, -⟩ := List.mem_flatMap.1 ha
  exact ⟨collection.time, of_decide_eq_true (List.mem_filter.1 hc).2⟩

/-- The buckets are those of the minutes that have observations. -/
theorem mem_entries_holding (hvalid : ∀ collection ∈ collections, collection.time ≠ .invalid)
    {entry : Binary64 × Bucket} :
    entry ∈ (holding options collections).buckets.entries ↔
      ∃ m, arrivalsIn options collections m ≠ [] ∧
        entry = (Observation.start m, bucketIn options collections m) := by
  obtain ⟨k, bucket⟩ := entry
  rw [OrderedMap.mem_entries_iff, find?_holding]
  dsimp only
  constructor
  · intro h
    split_ifs at h with hne
    obtain ⟨a, ha⟩ := List.exists_mem_of_ne_nil _ hne
    obtain ⟨ha, hk⟩ := List.mem_filter.1 ha
    obtain ⟨collection, hc, hminute, -⟩ := mem_arrivals ha
    obtain ⟨m, hm⟩ := Instant.exists_utcMinute (hvalid collection hc)
    obtain rfl : collection.time.minute = k := hminute.symm.trans (of_decide_eq_true hk)
    rw [filter_arrivals_minute hvalid hm] at h hne
    refine ⟨m, hne, ?_⟩
    rw [← Option.some.inj h, Instant.minute_eq hm, Observation.start, bucketIn]
  · rintro ⟨m, hne, heq⟩
    obtain ⟨time, hm⟩ := exists_time_of_arrivalsIn hne
    obtain ⟨rfl, rfl⟩ := Prod.mk.inj heq
    rw [Observation.start, ← Instant.minute_eq hm, filter_arrivals_minute hvalid hm, if_neg hne, bucketIn]

/-- What stands in the bucket of a minute: the aggregators of the ids that were seen. -/
theorem of_mem_bucketIn {m : Int} {entry : String × Aggregator}
    (h : entry ∈ (bucketIn options collections m).entries) :
    entry.2.key.id = entry.1 ∧
      entry.2 = .collect options.detailed entry.2.key
        (valuesIn options collections m entry.2.key.label) := by
  obtain ⟨id, aggregator⟩ := entry
  rw [OrderedMap.mem_entries_iff, bucketIn, find?_foldl_fileInBucket] at h
  split at h
  · cases h
  · next first rest heq =>
    obtain rfl := Option.some.inj h
    have hfirst : first ∈ (arrivalsIn options collections m).filter fun a => a.key.id = id := by
      rw [heq]
      exact List.mem_cons_self
    have hid : first.key.id = id := of_decide_eq_true (List.mem_filter.1 hfirst).2
    have hvalues : valuesIn options collections m first.key.label = (first :: rest).map Arrival.value := by
      rw [valuesIn, ← heq, ← hid]
      refine congrArg _ (List.filter_congr fun a _ => decide_eq_decide.2 ?_)
      rw [← AggregationKey.idOf_label, ← AggregationKey.idOf_label, AggregationKey.idOf_injective.eq_iff]
    dsimp only
    rw [Aggregator.key_collect, hvalues]
    exact ⟨hid, rfl⟩

/-- The bucket of a minute lists its observations. -/
theorem lists_bucketIn (options : StoreOptions) (collections : List Collection) (m : Int) :
    Lists options collections m ⟨.ofMinute m, (bucketIn options collections m).values⟩ := by
  have hcollected : ∀ aggregator ∈ (bucketIn options collections m).values,
      aggregator = .collect options.detailed aggregator.key
        (valuesIn options collections m aggregator.key.label) := by
    intro aggregator ha
    obtain ⟨entry, hentry, rfl⟩ := List.mem_map.1 ha
    exact (of_mem_bucketIn hentry).2
  refine ⟨rfl, ?_, hcollected, fun aggregator ha histogram htally => ?_⟩
  · have hkeys := OrderedMap.keys_foldl_upsert (fun a : Arrival => a.key.id)
      (fun a found => (found.getD (Aggregator.create options.detailed a.key)).add a.value)
      (arrivalsIn options collections m)
    have hids : (bucketIn options collections m).values.map (·.key.id) =
        ((arrivalsIn options collections m).map (·.key.id)).eraseDups := by
      refine Eq.trans ?_ hkeys
      rw [OrderedMap.values, List.map_map]
      exact List.map_congr_left fun entry hentry => (of_mem_bucketIn hentry).1
    -- labels and ids tell the same keys apart
    refine List.map_injective_iff.2 AggregationKey.idOf_injective ?_
    have herase : (((arrivalsIn options collections m).map (·.key.label)).map
        AggregationKey.idOf).eraseDups = _ :=
      eraseDups_map fun a _ b _ h => AggregationKey.idOf_injective h
    rw [← herase, List.map_map, List.map_map]
    simp only [Function.comp_def, AggregationKey.idOf_label]
    exact hids
  · rw [hcollected aggregator ha, Aggregator.tally_collect] at htally
    split_ifs at htally
    obtain rfl := Tally.detailed.inj htally
    have hexact := Histogram.exact_ofList (valuesIn options collections m aggregator.key.label)
    exact ⟨hexact.values_eq, hexact.counts_eq⟩

/-- Minutes that have observations are told apart, and ordered, by the doubles at which they start. -/
theorem lt_start {a b : Int} (ha : arrivalsIn options collections a ≠ [])
    (hb : arrivalsIn options collections b ≠ []) :
    (Observation.start a).lt (Observation.start b) = decide (a < b) := by
  have hbound : Instant.bound = 8640000000000000 := rfl
  obtain ⟨s, hs⟩ := exists_time_of_arrivalsIn ha
  obtain ⟨t, ht⟩ := exists_time_of_arrivalsIn hb
  have hra := Instant.utcMinute?_range hs
  have hrb := Instant.utcMinute?_range ht
  rw [Observation.start, Observation.start, Binary64.lt_ofInt (by omega) (by omega)]
  exact decide_eq_decide.2 (by omega)

/-- The buckets of a store are those of the minutes that have observations, by ascending minute. -/
theorem exists_minutes (options : StoreOptions) (hvalid : ∀ collection ∈ collections, collection.time ≠ .invalid) :
    ∃ minutes : List Int, minutes.Pairwise (· < ·) ∧
      (∀ m, m ∈ minutes ↔ arrivalsIn options collections m ≠ []) ∧
      List.Forall₂ (Lists options collections) minutes (holding options collections).timeBuckets := by
  let entry (m : Int) : Binary64 × Bucket := (Observation.start m, bucketIn options collections m)
  obtain ⟨came, hcame, hentries⟩ : ∃ came : List Int,
      (∀ m ∈ came, arrivalsIn options collections m ≠ []) ∧
      came.map entry = (holding options collections).buckets.entries := by
    have hrange : (holding options collections).buckets.entries ∈
        Set.range (List.map fun m : {m // arrivalsIn options collections m ≠ []} => entry m) := by
      rw [Set.range_list_map]
      intro e he
      obtain ⟨m, hm, rfl⟩ := (mem_entries_holding hvalid).1 he
      exact ⟨⟨m, hm⟩, rfl⟩
    obtain ⟨came, hcame⟩ := hrange
    refine ⟨came.map Subtype.val, fun m hm => ?_, ?_⟩
    · obtain ⟨m, -, rfl⟩ := List.mem_map.1 hm
      exact m.2
    · rw [← hcame, List.map_map]
      rfl
  have hnodup : came.Nodup := by
    have hkeys := (holding options collections).buckets.nodup
    rw [← hentries, List.map_map] at hkeys
    exact hkeys.of_map
  have hsorted : (holding options collections).timeBuckets =
      (came.mergeSort (· ≤ ·)).map fun m => ⟨.ofMinute m, (bucketIn options collections m).values⟩ := by
    rw [timeBuckets, ← hentries, ← List.map_mergeSort, List.map_map]
    · refine List.map_congr_left fun m hm => ?_
      obtain ⟨time, htime⟩ := exists_time_of_arrivalsIn (hcame m (List.mem_mergeSort.1 hm))
      rw [Function.comp]
      dsimp only [entry]
      rw [Observation.start, ← Instant.minute_eq htime, Instant.ofMillis_minute htime]
    · intro a ha b hb
      dsimp only [entry]
      rw [lt_start (hcame b hb) (hcame a ha), ← decide_not]
      exact decide_eq_decide.2 not_lt.symm
  refine ⟨came.mergeSort (· ≤ ·), ?_, fun m => ?_, ?_⟩
  · have hpairwise : (came.mergeSort (· ≤ ·)).Pairwise (· ≤ ·) := List.pairwise_mergeSort' (· ≤ ·) _
    exact (hpairwise.and (List.nodup_mergeSort.2 hnodup)).imp fun h => lt_of_le_of_ne h.1 h.2
  · rw [List.mem_mergeSort]
    refine ⟨hcame m, fun hm => ?_⟩
    have hmem : entry m ∈ came.map entry := by
      rw [hentries]
      exact (mem_entries_holding hvalid).2 ⟨m, hm, rfl⟩
    obtain ⟨n, hn, heq⟩ := List.mem_map.1 hmem
    have hmn := lt_start hm (hcame n hn)
    have hnm := lt_start (hcame n hn) hm
    rw [(Prod.mk.inj heq).1] at hmn hnm
    rw [hmn] at hnm
    have := decide_eq_decide.1 hnm
    obtain rfl : n = m := by omega
    exact hn
  · rw [hsorted, List.forall₂_map_right_iff]
    exact List.forall₂_same.2 fun m _ => lists_bucketIn options collections m

end Store

namespace Aggregation

/-- After any operations on collections at valid times a drain lists the store in order: the buckets are those
of the minutes that have observations since the last drain, ascending, each bucket lists its observations, and
the data of the requests, put together, tile the aggregators one after the other. -/
theorem drain_tiles (namespaceName : String) (options : StoreOptions) (data values : Option Binary64)
    (hdata : data ≠ some .nan) (hvalues : values ≠ some .nan) (operations : List Operation)
    (hvalid : ∀ collection, .add collection ∈ operations → collection.time ≠ .invalid) :
    ∃ requests minutes pieces,
      ((create namespaceName options data values).after operations).drain.1 = .ok requests ∧
      requests.flatMap Request.data = pieces.flatten ∧
      List.Forall₂ (fun placed piece => Tiles placed.1 placed.2 piece)
        (((create namespaceName options data values).after operations).store.timeBuckets.flatMap
          fun bucket => bucket.aggregators.map (bucket.time, ·)) pieces ∧
      minutes.Pairwise (· < ·) ∧
      (∀ m, m ∈ minutes ↔ Store.arrivalsIn options (sinceDrain operations) m ≠ []) ∧
      List.Forall₂ (Store.Lists options (sinceDrain operations)) minutes
        ((create namespaceName options data values).after operations).store.timeBuckets := by
  obtain ⟨D, V, hD, hV, -, -, -, -, -, hstore, requests, hdrain, hpacking⟩ :=
    drain_after namespaceName options hdata hvalues operations
  obtain ⟨pieces, hpieces, hrenders⟩ := hpacking.renders
  obtain ⟨minutes, hminutes, hmem, hlists⟩ := Store.exists_minutes options
    fun collection hc => hvalid collection (mem_of_mem_sinceDrain hc)
  rw [hstore]
  refine ⟨requests, minutes, pieces, hdrain, hpieces, ?_, hminutes, hmem, hlists⟩
  have hfilled : ∀ placed ∈ (Store.holding options (sinceDrain operations)).placed, placed.2.Filled :=
    fun placed hp => Store.filled_of_mem_placed hp
  exact ((List.forall₂_and_left _ _).2 ⟨hfilled, hrenders⟩).imp fun _ _ h => h.2.tiles h.1

/-- A call that reports numbers of retries. -/
def retriesOf (counts : List Int) : Collection :=
  .node "Call" (.ofInt 61000)
    (counts.map fun n => ⟨Registry.coreMetric "RetryCount" .number .error, .number (.ofInt n)⟩) []

/-- The histogram of three numbers of retries, in the bucket of their minute. -/
def retriesPlaced : Instant × Aggregator :=
  (.ofMinute 1, .collect [Registry.coreMetric "RetryCount" .number .error]
    ⟨Registry.coreMetric "RetryCount" .number .error, []⟩ [.ofInt 3, .ofInt 8, .ofInt 3, .ofInt 5])

theorem placed_retriesOf : (Store.holding
    ⟨[], [.core], none, [Registry.coreMetric "RetryCount" .number .error]⟩ [retriesOf [3, 8, 3, 5]]).placed =
      [retriesPlaced] := by
  let retries : Metric := Registry.coreMetric "RetryCount" .number .error
  let observations := Observation.ofCollections ⟨[], [.core], none, [retries]⟩ [retriesOf [3, 8, 3, 5]]
  have hwellformed : Wellformed .builtIn [retriesOf [3, 8, 3, 5]] := ⟨by decide +kernel, by decide +kernel⟩
  have hkeys : Observation.keys observations 1 = [⟨retries, []⟩] := by decide +kernel
  have hvalues : Observation.values observations 1 ⟨retries, []⟩ =
      [.ofInt 3, .ofInt 8, .ofInt 3, .ofInt 5] := by decide +kernel
  rw [Observation.placed_holding (m := 1) .builtIn hwellformed (by decide +kernel), hkeys,
    List.map_singleton, hvalues]
  rfl

/-- A histogram of three values, of which a request takes two. -/
theorem drain_tiles_retries :
    ∃ requests,
      ((create "App" ⟨[], [.core], none, [Registry.coreMetric "RetryCount" .number .error]⟩ none
        (some (.ofInt 2))).after [.add (retriesOf [3, 8, 3, 5])]).drain.1 = .ok requests ∧
      (requests.flatMap Request.data).flatMap Datum.values = [.ofInt 3, .ofInt 8, .ofInt 5] ∧
      (requests.flatMap Request.data).flatMap Datum.counts = [2, 1, 1] := by
  obtain ⟨requests, minutes, pieces, hdrain, hdata, htiles, -⟩ :=
    drain_tiles "App" ⟨[], [.core], none, [Registry.coreMetric "RetryCount" .number .error]⟩ none
      (some (.ofInt 2)) (by decide) (by decide +kernel) [.add (retriesOf [3, 8, 3, 5])]
      (by simp only [List.mem_cons, Operation.add.injEq, List.not_mem_nil, or_false, forall_eq]
          decide +kernel)
  have hplaced : ((create "App" ⟨[], [.core], none, [Registry.coreMetric "RetryCount" .number .error]⟩ none
      (some (.ofInt 2))).after [.add (retriesOf [3, 8, 3, 5])]).store.placed = [retriesPlaced] :=
    placed_retriesOf
  rw [Store.placed] at hplaced
  rw [hplaced] at htiles
  obtain ⟨piece, rest, htile, hrest, rfl⟩ := List.forall₂_cons_left_iff.1 htiles
  obtain rfl := List.forall₂_nil_left_iff.1 hrest
  obtain ⟨-, -, hconcat, hcounts⟩ := htile.detailed _ Aggregator.tally_collect
  have hexact := Histogram.exact_ofList [Binary64.ofInt 3, .ofInt 8, .ofInt 3, .ofInt 5]
  refine ⟨requests, hdrain, ?_, ?_⟩
  · rw [hdata, List.flatten_singleton, hconcat, hexact.values_eq]
    decide +kernel
  · rw [hdata, List.flatten_singleton, hcounts, hexact.counts_eq]
    decide +kernel

end Aggregation
end MetricPipeline
