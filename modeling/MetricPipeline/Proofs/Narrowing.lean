import MetricPipeline.Proofs.Grouping

/-! Reporting less only takes away. What is observed under narrower options is what is observed under wider
ones, less the metrics that are no longer reported, and so are the buckets: the groups that stay do not
depend on those that go. -/

namespace MetricPipeline

/-- Options that report no metric that `wide` does not report, and are the same otherwise. -/
structure StoreOptions.Narrows (narrow wide : StoreOptions) : Prop where
  dimensions : ∀ metric, metric ∈ narrow.dimensions ↔ metric ∈ wide.dimensions
  detailed : ∀ metric, metric ∈ narrow.detailed ↔ metric ∈ wide.detailed
  categories : narrow.categories ⊆ wide.categories ∨ .all ∈ wide.categories
  levels : ∀ level, narrow.level.includes level = true → wide.level.includes level = true

/-- The bucket with the aggregators of the metrics that are kept. -/
def TimeBucket.restrict (keep : Metric → Bool) (bucket : TimeBucket) : TimeBucket :=
  ⟨bucket.time, bucket.aggregators.filter fun aggregator => keep aggregator.key.metric⟩

/-- The buckets restricted to the metrics that are kept, without those that are then empty. -/
def TimeBucket.restrictAll (keep : Metric → Bool) (buckets : List TimeBucket) : List TimeBucket :=
  (buckets.map (restrict keep)).filter fun bucket => !bucket.aggregators.isEmpty

namespace StoreOptions.Narrows

variable {narrow wide : StoreOptions}

theorem reports (h : narrow.Narrows wide) {metric : Metric} (hreports : narrow.reports metric = true) :
    wide.reports metric = true := by
  have hlevel := h.levels metric.level
  rw [reports_iff, Reportable] at hreports ⊢
  refine ⟨Level.includes_iff.1 (hlevel (Level.includes_iff.2 hreports.1)), ?_⟩
  rcases h.categories with hsub | hall
  · rcases hreports.2 with hall | ⟨category, hmetric, hcategory⟩
    · exact .inl (hsub hall)
    · exact .inr ⟨category, hmetric, hsub hcategory⟩
  · exact .inl hall

theorem collection_dimensions (h : narrow.Narrows wide) (collection : Collection) :
    collection.dimensions narrow.dimensions = collection.dimensions wide.dimensions := by
  have hrecord : Record.dimension? narrow.dimensions = Record.dimension? wide.dimensions := by
    funext ⟨metric, value⟩
    cases value with
    | string s => simp only [Record.dimension?, h.dimensions metric]
    | _ => rfl
  rw [Collection.dimensions, Collection.dimensions, hrecord]

theorem aggregator (h : narrow.Narrows wide) (k : AggregationKey) (values : List Binary64) :
    Observation.aggregator narrow.detailed k values = Observation.aggregator wide.detailed k values := by
  simp only [Observation.aggregator, h.detailed k.metric]

/-- A record is selected by the narrower options when the wider ones select it and the narrower ones report
its metric. -/
theorem observed (h : narrow.Narrows wide) {collection : Collection}
    (hall : ∀ record ∈ collection.allRecords, .all ∈ record.metric.categories) :
    collection.observed narrow =
      (collection.observed wide).filter fun o => narrow.reports o.key.metric := by
  have hselected : (collection.allRecords.filter fun record => narrow.Selects record.metric) =
      (collection.allRecords.filter fun record => wide.Selects record.metric).filter fun record =>
        narrow.reports record.metric := by
    rw [List.filter_filter]
    refine List.filter_congr fun record hrecord => ?_
    have hnarrow := narrow.selects_iff (hall record hrecord)
    have hwide := wide.selects_iff (hall record hrecord)
    rw [Bool.eq_iff_iff, Bool.and_eq_true, decide_eq_true_eq, decide_eq_true_eq, hnarrow, hwide]
    exact ⟨fun hr => ⟨hr, h.reports hr⟩, And.left⟩
  unfold Collection.observed
  split
  · rfl
  · next m hm =>
    rw [hselected, h.collection_dimensions, List.filter_filterMap, List.filterMap_filter]
    refine List.filterMap_congr fun record _ => ?_
    cases record.numeric? with
    | none => simp
    | some v => simp [Option.filter]

theorem ofCollections (h : narrow.Narrows wide) {collections : List Collection}
    (hall : ∀ collection ∈ collections, ∀ record ∈ collection.allRecords,
      .all ∈ record.metric.categories) :
    Observation.ofCollections narrow collections =
      (Observation.ofCollections wide collections).filter fun o => narrow.reports o.key.metric := by
  rw [Observation.ofCollections, Observation.ofCollections, List.filter_flatMap]
  exact List.flatMap_congr fun collection hc => h.observed (hall collection hc)

end StoreOptions.Narrows

theorem eraseDups_filter {α : Type} [DecidableEq α] (p : α → Bool) (items : List α) :
    (items.filter p).eraseDups = items.eraseDups.filter p := by
  induction items using List.reverseRecOn with
  | nil => rfl
  | append_singleton items a ih =>
    rw [List.filter_append, eraseDups_concat]
    cases hp : p a with
    | true =>
      rw [List.filter_cons_of_pos hp, List.filter_nil, eraseDups_concat, ih]
      simp only [List.mem_filter, hp, and_true]
      split_ifs
      · rfl
      · rw [List.filter_append, List.filter_cons_of_pos hp, List.filter_nil]
    | false =>
      have hnot : ¬p a = true := by simp [hp]
      rw [List.filter_cons_of_neg hnot, List.filter_nil, List.append_nil, ih]
      split_ifs
      · rfl
      · rw [List.filter_append, List.filter_cons_of_neg hnot, List.filter_nil, List.append_nil]

namespace Observation

variable (keep : Metric → Bool) (observations : List Observation)

/-- The observations of the metrics that are kept. -/
def kept : List Observation := observations.filter fun o => keep o.key.metric

theorem keys_kept (m : Int) :
    keys (kept keep observations) m = (keys observations m).filter fun k => keep k.metric := by
  rw [keys, keys, kept, ← eraseDups_filter, List.filter_map, List.filter_filter, List.filter_filter]
  refine congrArg (fun items => (List.map key items).eraseDups) (List.filter_congr fun o _ => ?_)
  exact Bool.and_comm _ _

theorem values_kept (m : Int) {k : AggregationKey} (hk : keep k.metric = true) :
    values (kept keep observations) m k = values observations m k := by
  rw [values, values, kept, List.filter_filter]
  refine congrArg _ (List.filter_congr fun o _ => ?_)
  rw [Bool.and_eq_left_iff_imp, decide_eq_true_eq]
  rintro ⟨-, rfl⟩
  exact hk

/-- The minutes that stay are those in which a group stays. -/
theorem minutes_kept :
    minutes (kept keep observations) =
      (minutes observations).filter fun m => !(keys (kept keep observations) m).isEmpty := by
  refine List.Pairwise.eq_of_mem_iff (minutes_pairwise _) ((minutes_pairwise _).filter _) fun m => ?_
  rw [List.mem_filter, mem_minutes, mem_minutes]
  constructor
  · rintro ⟨o, ho, rfl⟩
    have hkey : o.key ∈ keys (kept keep observations) o.minute := by
      rw [keys, List.mem_eraseDups, List.mem_map]
      exact ⟨o, List.mem_filter.2 ⟨ho, by simp⟩, rfl⟩
    refine ⟨⟨o, (List.mem_filter.1 ho).1, rfl⟩, ?_⟩
    simpa using List.ne_nil_of_mem hkey
  · rintro ⟨-, hne⟩
    obtain ⟨k, hk⟩ := List.exists_mem_of_ne_nil _ (by simpa using hne)
    rw [keys, List.mem_eraseDups, List.mem_map] at hk
    obtain ⟨o, ho, -⟩ := hk
    exact ⟨o, (List.mem_filter.1 ho).1, of_decide_eq_true (List.mem_filter.1 ho).2⟩

/-- A group is made of its own observations only, so grouping what is kept gives the groups that are kept. -/
theorem grouping_kept (options : StoreOptions) :
    grouping options (kept keep observations) =
      TimeBucket.restrictAll keep (grouping options observations) := by
  have hbucket : ∀ m, (⟨.ofMinute m, (keys (kept keep observations) m).map fun k =>
        aggregator options.detailed k (values (kept keep observations) m k)⟩ : TimeBucket) =
      TimeBucket.restrict keep ⟨.ofMinute m, (keys observations m).map fun k =>
        aggregator options.detailed k (values observations m k)⟩ := by
    intro m
    rw [TimeBucket.restrict, keys_kept, List.filter_map]
    refine congrArg _ (List.map_congr_left fun k hk => ?_)
    rw [values_kept keep observations m (List.mem_filter.1 hk).2]
  rw [grouping, grouping, minutes_kept, TimeBucket.restrictAll, List.map_map, List.filter_map]
  simp only [Function.comp_def, ← hbucket, List.isEmpty_map]

end Observation

namespace Store

/-- Collections added under narrower options fill the buckets that they fill under wider ones, less the
aggregators of the metrics that are no longer reported. -/
theorem timeBuckets_of_narrows (registry : Registry) (hregistry : registry.Defined)
    (narrow wide : StoreOptions) (hnarrows : narrow.Narrows wide) (narrowStart wideStart : Store)
    (hnarrow : Fresh narrow narrowStart) (hwide : Fresh wide wideStart) (collections : List Collection)
    (hvalid : ∀ collection ∈ collections, collection.time ≠ .invalid)
    (hregistered : ∀ collection ∈ collections, ∀ record ∈ collection.allRecords,
      record.metric ∈ registry.metrics) :
    (collections.foldl add narrowStart).timeBuckets =
      TimeBucket.restrictAll narrow.reports (collections.foldl add wideStart).timeBuckets := by
  have hw : Wellformed registry collections := ⟨hvalid, hregistered⟩
  have hkept : Observation.ofCollections narrow collections =
      Observation.kept narrow.reports (Observation.ofCollections wide collections) :=
    hnarrows.ofCollections fun collection hc record hrecord =>
      hregistry.all_mem_categories _ (hregistered collection hc record hrecord)
  have hgrouping : Observation.grouping narrow = Observation.grouping wide := by
    funext observations
    simp only [Observation.grouping, hnarrows.aggregator]
  rw [hnarrow.eq_empty, hwide.eq_empty]
  calc (holding narrow collections).timeBuckets
    _ = Observation.grouping narrow (Observation.ofCollections narrow collections) :=
      Observation.timeBuckets_holding hregistry hw
    _ = TimeBucket.restrictAll narrow.reports
        (Observation.grouping wide (Observation.ofCollections wide collections)) := by
      rw [hgrouping, hkept, Observation.grouping_kept]
    _ = TimeBucket.restrictAll narrow.reports (holding wide collections).timeBuckets := by
      rw [Observation.timeBuckets_holding hregistry hw]

/-- The connections of an HTTP client below a call to a service. -/
def connections (time : Int) (service : String) (counts : List Int) : Collection :=
  .node "Call" (.ofInt time) [⟨Registry.serviceId, .string service⟩]
    [.node "Attempt" (.ofInt 0)
      (counts.map fun n => ⟨Registry.httpMetric "MaxConcurrency" .number .info, .number (.ofInt n)⟩) []]

/-- One of the minutes in which all metrics are reported has no errors of the core. -/
theorem timeBuckets_of_narrows_errors :
    let narrow : StoreOptions := ⟨[Registry.serviceId], [.core], some .error, []⟩
    let wide : StoreOptions := ⟨[Registry.serviceId], [.all], none, []⟩
    let collections := [connections 61000 "B" [7, 8], retries 61000 "B" [3], connections 130000 "A" [5],
      retries 62000 "A" [1]]
    (collections.foldl add (empty narrow)).timeBuckets =
        TimeBucket.restrictAll narrow.reports (collections.foldl add (empty wide)).timeBuckets ∧
      (collections.foldl add (empty wide)).buckets.values.map OrderedMap.size = [3, 1] ∧
      (collections.foldl add (empty narrow)).buckets.values.map OrderedMap.size = [2] := by
  intro narrow wide collections
  have hlevels : ∀ level, narrow.level.includes level = true → wide.level.includes level = true := by
    intro level
    cases level <;> decide
  exact ⟨timeBuckets_of_narrows .builtIn .builtIn narrow wide
      ⟨fun _ => Iff.rfl, fun _ => Iff.rfl, .inr (by decide), hlevels⟩ (empty narrow) (empty wide)
      .empty .empty collections (by decide +kernel) (by decide +kernel),
    by decide +kernel, by decide +kernel⟩

end Store
end MetricPipeline
