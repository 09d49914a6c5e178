import MetricPipeline.Proofs.Binary64.Extremes
import MetricPipeline.Proofs.Grouping

/-! Collections may be added in any order, up to the order of what is listed. The aggregator of a minute and
a key is made of the values that came to it, in their order, so collections that change places change the
aggregators to which both of them contribute, and these only in the order of their entries and in their
sums. -/

namespace MetricPipeline

theorem perm_eraseDups {α : Type} [DecidableEq α] {xs ys : List α} (h : xs.Perm ys) :
    xs.eraseDups.Perm ys.eraseDups := by
  refine (List.perm_ext_iff_of_nodup (nodup_eraseDups _) (nodup_eraseDups _)).2 fun a => ?_
  rw [List.mem_eraseDups, List.mem_eraseDups, h.mem_iff]

namespace Histogram

/-- The distinct values, each with its count. -/
def entries (histogram : Histogram) : List (Binary64 × Nat) :=
  histogram.values.toList.zip histogram.counts.toList

theorem entries_ofList (values : List Binary64) :
    (ofList values).entries = values.eraseDups.map fun v => (v, values.count v) := by
  rw [entries, (exact_ofList values).values_eq, (exact_ofList values).counts_eq, List.map_prod_left_eq_zip]

theorem entries_ofList_perm {xs ys : List Binary64} (h : xs.Perm ys) :
    (ofList xs).entries.Perm (ofList ys).entries := by
  have hcount : (fun v => (v, xs.count v)) = fun v => (v, ys.count v) := by
    funext v
    rw [h.count_eq]
  rw [entries_ofList, entries_ofList, hcount]
  exact (perm_eraseDups h).map _

end Histogram

/-- Tallies of one kind that differ at most in the order of their entries or in their sums. -/
inductive Tally.Alike : Tally → Tally → Prop where
  | summary {s t : Summary} (count : s.count = t.count) (minimum : s.minimum = t.minimum)
    (maximum : s.maximum = t.maximum) : Alike (.summary s) (.summary t)
  | detailed {g h : Histogram} (entries : g.entries.Perm h.entries) : Alike (.detailed g) (.detailed h)

structure Aggregator.Alike (a b : Aggregator) : Prop where
  key : a.key = b.key
  unit : a.unit = b.unit
  tally : a.tally.Alike b.tally

theorem Aggregator.collect_alike {detailed : List Metric} {key : AggregationKey} {xs ys : List Binary64}
    (h : xs.Perm ys) : (collect detailed key xs).Alike (collect detailed key ys) := by
  refine ⟨by rw [key_collect, key_collect], by rw [unit_collect, unit_collect], ?_⟩
  rw [tally_collect, tally_collect]
  split_ifs
  · exact .detailed (Histogram.entries_ofList_perm h)
  · exact .summary h.length_eq (Binary64.least_congr fun _ => h.mem_iff)
      (Binary64.greatest_congr fun _ => h.mem_iff)

/-- The collection has a reported number of the metric, and its root is of the minute and the dimensions. -/
def Collection.Contributes (options : StoreOptions) (collection : Collection) (time : Instant)
    (key : AggregationKey) : Prop :=
  (∃ m, collection.time.utcMinute? = some m ∧ .ofMinute m = time) ∧
    collection.dimensions options.dimensions = key.dimensions ∧
    ∃ record ∈ collection.allRecords,
      record.metric = key.metric ∧ options.Reportable key.metric ∧ record.numeric?.isSome

namespace Store

/-- The aggregator that a store lists for a minute and a key. -/
def lookup (store : Store) (time : Instant) (key : AggregationKey) : Option Aggregator :=
  (store.placed.find? fun x => x.1 = time ∧ x.2.key = key).map Prod.snd

/-- Stores that list the same minutes and in them the same keys, with aggregators that are alike. -/
structure Alike (s t : Store) : Prop where
  minutes : (s.timeBuckets.map TimeBucket.time).Perm (t.timeBuckets.map TimeBucket.time)
  keys : (s.placed.map fun x => (x.1, x.2.key)).Perm (t.placed.map fun x => (x.1, x.2.key))
  aggregators : ∀ time key, Option.Rel Aggregator.Alike (s.lookup time key) (t.lookup time key)

/-- The stores that adding collections of registered metrics and resetting lead to. -/
inductive Reachable (registry : Registry) (options : StoreOptions) : Store → Prop where
  | empty : Reachable registry options (.empty options)
  | add {store : Store} (h : Reachable registry options store) (collection : Collection)
    (hregistered : ∀ record ∈ collection.allRecords, record.metric ∈ registry.metrics) :
    Reachable registry options (store.add collection)
  | reset {store : Store} (h : Reachable registry options store) : Reachable registry options store.reset

variable {registry : Registry} {options : StoreOptions} {collections : List Collection}

theorem holding_concat (options : StoreOptions) (collections : List Collection) (collection : Collection) :
    holding options (collections ++ [collection]) = (holding options collections).add collection :=
  List.foldl_concat ..

/-- Collections all of whose metrics are registered. -/
def Registered (registry : Registry) (collections : List Collection) : Prop :=
  ∀ collection ∈ collections, ∀ record ∈ collection.allRecords, record.metric ∈ registry.metrics

theorem Registered.concat (h : Registered registry collections) {collection : Collection}
    (hregistered : ∀ record ∈ collection.allRecords, record.metric ∈ registry.metrics) :
    Registered registry (collections ++ [collection]) := by
  intro other hother
  rcases List.mem_append.1 hother with hother | hother
  · exact h other hother
  · rw [List.mem_singleton.1 hother]
    exact hregistered

theorem Reachable.exists_holding {store : Store} (h : Reachable registry options store) :
    ∃ collections, Registered registry collections ∧ store = holding options collections := by
  induction h with
  | empty => exact ⟨[], by simp [Registered], rfl⟩
  | add _ collection hregistered ih =>
    obtain ⟨collections, hcollections, rfl⟩ := ih
    exact ⟨_, hcollections.concat hregistered, (holding_concat ..).symm⟩
  | reset _ ih =>
    obtain ⟨collections, -, rfl⟩ := ih
    refine ⟨[], by simp [Registered], ?_⟩
    rw [holding_eq]
    rfl

/-! What is listed for a minute and a key -/

/-- The values that collections bring to a minute and a key, in their order. -/
def valuesAt (options : StoreOptions) (collections : List Collection) (time : Instant)
    (key : AggregationKey) : List Binary64 :=
  ((arrivals options collections).filter fun a => Instant.ofMillis a.minute = time ∧ a.key = key).map
    Arrival.value

theorem valuesAt_append (options : StoreOptions) (xs ys : List Collection) (time : Instant)
    (key : AggregationKey) :
    valuesAt options (xs ++ ys) time key = valuesAt options xs time key ++ valuesAt options ys time key := by
  simp only [valuesAt, arrivals, List.flatMap_append, List.filter_append, List.map_append]

theorem Registered.metric_mem (h : Registered registry collections) {a : Arrival}
    (ha : a ∈ arrivals options collections) : a.key.metric ∈ registry.metrics := by
  obtain ⟨collection, hc, -, -, hobservation⟩ := mem_arrivals ha
  obtain ⟨record, hrecord, hmetric⟩ := mem_observations hobservation
  rw [← hmetric]
  exact h collection hc record hrecord

theorem Registered.key_inj (h : Registered registry collections) {a b : Arrival}
    (ha : a ∈ arrivals options collections) (hb : b ∈ arrivals options collections) :
    a.key.id = b.key.id ↔ a.key = b.key := by
  constructor
  · intro hid
    obtain ⟨hname, hdimensions⟩ := AggregationKey.id_eq_iff.1 hid
    have hmetric := registry.eq_of_name_eq (h.metric_mem ha) (h.metric_mem hb) hname
    exact congrArg₂ AggregationKey.mk hmetric hdimensions
  · exact congrArg _

/-- A group is known by its time and its key. -/
theorem Registered.group_eq (h : Registered registry collections) {first : Arrival}
    (hfirst : first ∈ arrivals options collections) :
    (group options collections first.minute first.key.id).map Arrival.value =
      valuesAt options collections (.ofMillis first.minute) first.key := by
  rw [group, valuesAt]
  refine congrArg _ (List.filter_congr fun a ha => decide_eq_decide.2 (and_congr ?_ (h.key_inj ha hfirst)))
  obtain ⟨collection, -, hminute, -⟩ := mem_arrivals ha
  obtain ⟨collection', -, hminute', -⟩ := mem_arrivals hfirst
  rw [hminute, hminute']
  exact ⟨congrArg _, Instant.ofMillis_minute_inj⟩

theorem Registered.mem_placed (h : Registered registry collections) {time : Instant}
    {aggregator : Aggregator} :
    (time, aggregator) ∈ (holding options collections).placed ↔
      valuesAt options collections time aggregator.key ≠ [] ∧
        aggregator = .collect options.detailed aggregator.key
          (valuesAt options collections time aggregator.key) := by
  rw [Store.mem_placed]
  constructor
  · rintro ⟨m, bucket, id, hbucket, hentry, rfl⟩
    obtain ⟨first, rest, hgroup, rfl⟩ := stored_iff.1 ⟨bucket, hbucket, hentry⟩
    have hfirst : first ∈ group options collections m id := by
      rw [hgroup]
      exact List.mem_cons_self
    obtain ⟨harrival, rfl, rfl⟩ := mem_group.1 hfirst
    rw [Aggregator.key_collect, ← h.group_eq harrival, hgroup]
    exact ⟨List.cons_ne_nil _ _, rfl⟩
  · rintro ⟨hne, haggregator⟩
    obtain ⟨v, hv⟩ := List.exists_mem_of_ne_nil _ hne
    obtain ⟨a, ha, -⟩ := List.mem_map.1 hv
    obtain ⟨harrival, hat⟩ := List.mem_filter.1 ha
    obtain ⟨rfl, hkey⟩ := of_decide_eq_true hat
    rw [← hkey, ← h.group_eq harrival] at haggregator
    have hmem : a ∈ group options collections a.minute a.key.id := mem_group.2 ⟨harrival, rfl, rfl⟩
    cases hgroup : group options collections a.minute a.key.id with
    | nil =>
      rw [hgroup] at hmem
      cases hmem
    | cons first rest =>
      have hfirst : first ∈ group options collections a.minute a.key.id := by
        rw [hgroup]
        exact List.mem_cons_self
      obtain ⟨hfirst, -, hid⟩ := mem_group.1 hfirst
      have hsame : first.key = a.key := (h.key_inj hfirst harrival).1 hid
      obtain ⟨bucket, hbucket, hentry⟩ := stored_iff.2 ⟨first, rest, hgroup, rfl⟩
      rw [hsame, ← hgroup, ← haggregator] at hentry
      exact ⟨_, bucket, _, hbucket, hentry, rfl⟩

theorem Registered.lookup_holding (h : Registered registry collections) (time : Instant)
    (key : AggregationKey) :
    (holding options collections).lookup time key =
      if valuesAt options collections time key = [] then none
      else some (.collect options.detailed key (valuesAt options collections time key)) := by
  rw [lookup]
  cases hfind : (holding options collections).placed.find? fun x => x.1 = time ∧ x.2.key = key with
  | none =>
    rw [Option.map_none]
    split_ifs with hnil
    · rfl
    · have hplaced : (time, Aggregator.collect options.detailed key (valuesAt options collections time key)) ∈
          (holding options collections).placed := by
        rw [h.mem_placed, Aggregator.key_collect]
        exact ⟨hnil, rfl⟩
      have hother := List.find?_eq_none.1 hfind _ hplaced
      rw [decide_eq_true_eq] at hother
      exact absurd ⟨rfl, Aggregator.key_collect⟩ hother
  | some x =>
    have hat := List.find?_some hfind
    rw [decide_eq_true_eq] at hat
    obtain ⟨rfl, rfl⟩ := hat
    obtain ⟨hne, haggregator⟩ := h.mem_placed.1 (List.mem_of_find?_eq_some hfind)
    rw [Option.map_some, if_neg hne, ← haggregator]

theorem Registered.mem_keys (h : Registered registry collections) {time : Instant} {key : AggregationKey} :
    (time, key) ∈ (holding options collections).placed.map (fun x => (x.1, x.2.key)) ↔
      valuesAt options collections time key ≠ [] := by
  rw [List.mem_map]
  constructor
  · rintro ⟨⟨_, aggregator⟩, hplaced, heq⟩
    obtain ⟨rfl, rfl⟩ := Prod.mk.inj heq
    exact (h.mem_placed.1 hplaced).1
  · intro hne
    refine ⟨(time, .collect options.detailed key (valuesAt options collections time key)), ?_, ?_⟩
    · rw [h.mem_placed, Aggregator.key_collect]
      exact ⟨hne, rfl⟩
    · rw [Aggregator.key_collect]

theorem nodup_keys (options : StoreOptions) (collections : List Collection) :
    ((holding options collections).placed.map fun x => (x.1, x.2.key)).Nodup := by
  have hseries := nodup_series options collections
  refine List.Nodup.of_map (fun x : Instant × AggregationKey =>
    Series.mk x.2.metric.name x.2.dimensions x.1) ?_
  rwa [List.map_map]

theorem times_perm (options : StoreOptions) (collections : List Collection) :
    ((holding options collections).timeBuckets.map TimeBucket.time).Perm
      (((arrivals options collections).map Arrival.minute).eraseDups.map Instant.ofMillis) := by
  have hkeys : (holding options collections).buckets.keys =
      ((arrivals options collections).map Arrival.minute).eraseDups := by
    rw [holding_eq]
    exact OrderedMap.keys_foldl_upsert Arrival.minute _ _
  rw [timeBuckets, List.map_map, ← hkeys, OrderedMap.keys, List.map_map]
  exact (List.mergeSort_perm _ _).map _

/-! Changing places -/

/-- A reportable number below a root arrives under the minute and the dimensions of the root. -/
theorem mem_collection_arrivals {collection : Collection} {a : Arrival} :
    a ∈ collection.arrivals options ↔
      a.minute = collection.time.minute ∧ a.key.dimensions = collection.dimensions options.dimensions ∧
        ∃ record ∈ collection.allRecords,
          record.metric = a.key.metric ∧ options.Reportable record.metric ∧ record.numeric? = some a.value := by
  rw [Collection.arrivals, observations, List.mem_map]
  constructor
  · rintro ⟨⟨metric, v⟩, hobservation, rfl⟩
    obtain ⟨record, hrecord, hsome⟩ := List.mem_filterMap.1 hobservation
    unfold StoreOptions.observation? at hsome
    split_ifs at hsome with hreports
    obtain ⟨v', hv, hpair⟩ := Option.map_eq_some_iff.1 hsome
    obtain ⟨rfl, rfl⟩ := Prod.mk.inj hpair
    exact ⟨rfl, rfl, record, hrecord, rfl, (options.reports_iff _).1 hreports, hv⟩
  · obtain ⟨m, ⟨metric, dimensions⟩, v⟩ := a
    rintro ⟨rfl, rfl, record, hrecord, rfl, hreportable, hv⟩
    refine ⟨(record.metric, v), List.mem_filterMap.2 ⟨record, hrecord, ?_⟩, rfl⟩
    rw [StoreOptions.observation?, if_pos ((options.reports_iff _).2 hreportable), hv]
    rfl

/-- A collection brings values to the groups that it contributes to. -/
theorem valuesAt_eq_nil_iff {collection : Collection} (hvalid : collection.time ≠ .invalid)
    {time : Instant} {key : AggregationKey} :
    valuesAt options [collection] time key = [] ↔ ¬collection.Contributes options time key := by
  obtain ⟨m, hm⟩ := Instant.exists_utcMinute hvalid
  have hminute := Instant.ofMillis_minute hm
  have harrivals : arrivals options [collection] = collection.arrivals options := List.flatMap_singleton _ _
  rw [valuesAt, harrivals, List.map_eq_nil_iff, List.filter_eq_nil_iff]
  simp only [decide_eq_true_eq, mem_collection_arrivals]
  constructor
  · rintro hnone ⟨⟨n, hn, rfl⟩, hdimensions, record, hrecord, hmetric, hreportable, hsome⟩
    obtain ⟨v, hv⟩ := Option.isSome_iff_exists.1 hsome
    obtain rfl := Option.some.inj (hm.symm.trans hn)
    exact hnone ⟨collection.time.minute, key, v⟩
      ⟨rfl, hdimensions.symm, record, hrecord, hmetric, hmetric ▸ hreportable, hv⟩ ⟨hminute, rfl⟩
  · rintro hnot a ⟨htime, hdimensions, record, hrecord, hmetric, hreportable, hv⟩ ⟨rfl, rfl⟩
    refine hnot ⟨⟨m, hm, ?_⟩, hdimensions.symm, record, hrecord, hmetric, hmetric ▸ hreportable, ?_⟩
    · rw [htime, hminute]
    · rw [hv]
      rfl

theorem Registered.alike (h : Registered registry collections) {others : List Collection}
    (hperm : collections.Perm others) : (holding options collections).Alike (holding options others) := by
  have hothers : Registered registry others := fun collection hc => h collection (hperm.mem_iff.2 hc)
  have harrivals : (arrivals options collections).Perm (arrivals options others) := hperm.flatMap_right _
  have hvalues : ∀ time key,
      (valuesAt options collections time key).Perm (valuesAt options others time key) :=
    fun time key => (harrivals.filter _).map _
  have hnil : ∀ time key,
      valuesAt options collections time key = [] ↔ valuesAt options others time key = [] :=
    fun time key => ⟨fun heq => (heq ▸ hvalues time key).nil_eq.symm,
      fun heq => (heq ▸ hvalues time key).eq_nil⟩
  constructor
  · exact (times_perm _ _).trans
      (((perm_eraseDups (harrivals.map _)).map _).trans (times_perm _ _).symm)
  · refine (List.perm_ext_iff_of_nodup (nodup_keys _ _) (nodup_keys _ _)).2 fun ⟨time, key⟩ => ?_
    rw [h.mem_keys, hothers.mem_keys, ne_eq, ne_eq, hnil]
  · intro time key
    rw [h.lookup_holding, hothers.lookup_holding]
    simp only [hnil]
    split_ifs
    · exact .none
    · exact .some (Aggregator.collect_alike (hvalues time key))

/-- Two collections may be added to a store in either order. What they both contribute to comes out alike,
everything else comes out the same, and what neither of them contributes to is left as it was. -/
theorem add_comm_alike (registry : Registry) (options : StoreOptions) (store : Store)
    (hreachable : Reachable registry options store) (a b : Collection) (ha : a.time ≠ .invalid)
    (hb : b.time ≠ .invalid) (haregistered : ∀ record ∈ a.allRecords, record.metric ∈ registry.metrics)
    (hbregistered : ∀ record ∈ b.allRecords, record.metric ∈ registry.metrics) :
    ((store.add a).add b).Alike ((store.add b).add a) ∧
      (∀ time key, ¬(a.Contributes options time key ∧ b.Contributes options time key) →
        ((store.add a).add b).lookup time key = ((store.add b).add a).lookup time key) ∧
      ∀ time key, ¬a.Contributes options time key → ¬b.Contributes options time key →
        ((store.add a).add b).lookup time key = store.lookup time key := by
  obtain ⟨collections, hcollections, rfl⟩ := hreachable.exists_holding
  have hab : Registered registry (collections ++ [a] ++ [b]) :=
    (hcollections.concat haregistered).concat hbregistered
  have hba : Registered registry (collections ++ [b] ++ [a]) :=
    (hcollections.concat hbregistered).concat haregistered
  have hswap : (collections ++ [a] ++ [b]).Perm (collections ++ [b] ++ [a]) := by
    rw [List.append_assoc, List.append_assoc]
    exact (List.Perm.swap b a []).append_left collections
  simp only [← holding_concat]
  refine ⟨hab.alike hswap, fun time key hnot => ?_, fun time key hnota hnotb => ?_⟩
  · have hvalues : valuesAt options (collections ++ [a] ++ [b]) time key =
        valuesAt options (collections ++ [b] ++ [a]) time key := by
      simp only [valuesAt_append]
      rcases not_and_or.1 hnot with hnot | hnot
      · simp [(valuesAt_eq_nil_iff ha).2 hnot]
      · simp [(valuesAt_eq_nil_iff hb).2 hnot]
    rw [hab.lookup_holding, hba.lookup_holding, hvalues]
  · have hvalues : valuesAt options (collections ++ [a] ++ [b]) time key =
        valuesAt options collections time key := by
      rw [valuesAt_append, valuesAt_append, (valuesAt_eq_nil_iff ha).2 hnota,
        (valuesAt_eq_nil_iff hb).2 hnotb, List.append_nil, List.append_nil]
    rw [hab.lookup_holding, hcollections.lookup_holding, hvalues]

/-- Two calls of one minute whose retries a histogram counts, after a call of another service. -/
theorem add_comm_alike_retries :
    let options : StoreOptions := ⟨[Registry.serviceId], [.all], none,
      [Registry.coreMetric "RetryCount" .number .error]⟩
    let store := ((empty options).add (retries 5 "A" [7])).add (retries 60000 "B" [1])
    let a := retries 1 "A" [2, 7]
    let b := retries 2 "A" [3, 2]
    let key : AggregationKey := ⟨Registry.coreMetric "RetryCount" .number .error, [⟨"ServiceId", "B"⟩]⟩
    ((store.add a).add b).Alike ((store.add b).add a) ∧
      ((store.add a).add b).lookup (.ofMinute 1) key = ((store.add b).add a).lookup (.ofMinute 1) key ∧
      ((store.add a).add b).lookup (.ofMinute 1) key = store.lookup (.ofMinute 1) key := by
  intro options store a b key
  have hfirst : Reachable .builtIn options ((empty options).add (retries 5 "A" [7])) :=
    .add .empty (retries 5 "A" [7]) (by decide +kernel)
  have hstore : Reachable .builtIn options store :=
    .add hfirst (retries 60000 "B" [1]) (by decide +kernel)
  obtain ⟨halike, hsame, hkept⟩ := add_comm_alike .builtIn options store hstore a b (by decide +kernel)
    (by decide +kernel) (by decide +kernel) (by decide +kernel)
  -- the service of the key is not that of the two calls
  have hother : ∀ call : Collection, call.dimensions options.dimensions = [⟨"ServiceId", "A"⟩] →
      ¬call.Contributes options (.ofMinute 1) key := by
    rintro call hdimensions ⟨-, hdims, -⟩
    rw [hdimensions] at hdims
    exact absurd hdims (by decide)
  have hnota := hother a (by decide +kernel)
  have hnotb := hother b (by decide +kernel)
  exact ⟨halike, hsame _ _ fun hboth => hnota hboth.1, hkept _ _ hnota hnotb⟩

end Store
end MetricPipeline
