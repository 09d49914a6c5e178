import MetricPipeline.Proofs.Registry
import MetricPipeline.Proofs.Store

/-! What is to be accounted for: the observations of a metric with the dimensions and in the minute of the
root. Where metrics are known by their names, the aggregators of a store are those of the groups that have
observations, each made of the observations of its group in their order. -/

namespace MetricPipeline

/-- A level that is configured includes itself. The most detailed one includes all, and errors are included by
all. -/
inductive Level.Includes : Level → Level → Prop where
  | itself (level : Level) : Includes level level
  | trace (level : Level) : Includes .trace level
  | error (level : Level) : Includes level .error

theorem Level.includes_iff {configured level : Level} :
    configured.includes level = true ↔ configured.Includes level := by
  constructor
  · intro h
    cases configured with
    | trace => exact .trace level
    | info =>
      cases level with
      | trace => cases h
      | info => exact .itself _
      | error => exact .error _
    | error =>
      cases level with
      | error => exact .itself _
      | _ => cases h
  · rintro (_ | _ | _)
    · exact decide_eq_true le_rfl
    · exact decide_eq_true (Nat.zero_le _)
    · cases configured <;> rfl

instance (configured level : Level) : Decidable (configured.Includes level) :=
  decidable_of_iff _ Level.includes_iff

/-- A metric is reported if its level is included, `info` where none is configured, under a configured category
or when all are. -/
def StoreOptions.Reportable (options : StoreOptions) (metric : Metric) : Prop :=
  (options.level?.getD .info).Includes metric.level ∧
    (.all ∈ options.categories ∨ ∃ category ∈ metric.categories, category ∈ options.categories)

instance (options : StoreOptions) (metric : Metric) : Decidable (options.Reportable metric) :=
  inferInstanceAs (Decidable (_ ∧ _))

theorem StoreOptions.reports_iff (options : StoreOptions) (metric : Metric) :
    options.reports metric = true ↔ options.Reportable metric := by
  unfold reports reportsCategory Reportable level
  rw [← Level.includes_iff]
  split_ifs with h <;> simp [h]

/-- What observations are grouped by: a metric, the dimensions of the root, and its UTC minute. -/
structure ObservationGroup where
  metric : Metric
  dimensions : List Dimension
  minute : Int

namespace ObservationGroup

def key (group : ObservationGroup) : AggregationKey := ⟨group.metric, group.dimensions⟩

/-- What the data of a group are about. -/
def series (group : ObservationGroup) : Series :=
  ⟨group.metric.name, group.dimensions, .ofMinute group.minute⟩

/-- The numeric values of reportable records of a tree, in pre-order, when its root is of the group. -/
def observationsOf (group : ObservationGroup) (options : StoreOptions) (collection : Collection) :
    List Binary64 :=
  if collection.time.utcMinute? = some group.minute ∧
      collection.dimensions options.dimensions = group.dimensions then
    (collection.allRecords.filter fun record =>
      record.metric = group.metric ∧ options.Reportable record.metric).filterMap Record.numeric?
  else []

def observations (group : ObservationGroup) (options : StoreOptions) (collections : List Collection) :
    List Binary64 :=
  collections.flatMap (group.observationsOf options)

end ObservationGroup

/-- Collections stamped with valid times, all of whose metrics are registered. -/
structure Wellformed (registry : Registry) (collections : List Collection) : Prop where
  valid : ∀ collection ∈ collections, collection.time ≠ .invalid
  registered : ∀ collection ∈ collections, ∀ record ∈ collection.allRecords,
    record.metric ∈ registry.metrics

namespace Instant

theorem exists_utcMinute {time : Instant} (h : time ≠ .invalid) : ∃ m, time.utcMinute? = some m := by
  cases time with
  | invalid => exact absurd rfl h
  | millis t ht => exact ⟨t / 60000, rfl⟩

theorem ofMinute_inj {time : Instant} {m n : Int} (h : time.utcMinute? = some m)
    (heq : ofMinute m = ofMinute n) : m = n := by
  rw [ofMinute_valid h, ofMinute, ofInt] at heq
  split_ifs at heq
  have := Instant.millis.inj heq
  omega

theorem minute_eq_iff {a b : Instant} {m : Int} (ha : a ≠ .invalid) (hb : b.utcMinute? = some m) :
    a.minute = b.minute ↔ a.utcMinute? = some m := by
  constructor
  · intro h
    obtain ⟨n, hn⟩ := exists_utcMinute ha
    have heq := congrArg ofMillis h
    rw [ofMillis_minute hn, ofMillis_minute hb] at heq
    rw [hn, ofMinute_inj hn heq]
  · intro h
    rw [minute_eq h, minute_eq hb]

end Instant

namespace Store

variable {registry : Registry} {options : StoreOptions} {collections : List Collection}

theorem mem_observations {collection : Collection} {metric : Metric} {v : Binary64}
    (h : (metric, v) ∈ observations options collection) :
    ∃ record ∈ collection.allRecords, record.metric = metric := by
  obtain ⟨record, hrecord, hobservation⟩ := List.mem_filterMap.1 h
  unfold StoreOptions.observation? at hobservation
  split_ifs at hobservation
  obtain ⟨v', -, hpair⟩ := Option.map_eq_some_iff.1 hobservation
  exact ⟨record, hrecord, congrArg Prod.fst hpair⟩

/-- The reported values of one metric among records. -/
theorem map_filter_observation? (options : StoreOptions) (metric : Metric) (records : List Record) :
    ((records.filterMap options.observation?).filter (fun o => o.1 = metric)).map Prod.snd =
      (records.filter fun record =>
        record.metric = metric ∧ options.Reportable record.metric).filterMap Record.numeric? := by
  induction records with
  | nil => rfl
  | cons record rest ih =>
    have hreports := options.reports_iff record.metric
    by_cases hr : options.Reportable record.metric
    · have hobservation : options.observation? record = record.numeric?.map (record.metric, ·) :=
        if_pos (hreports.2 hr)
      cases hn : record.numeric? with
      | none =>
        have hnone : options.observation? record = none := by rw [hobservation, hn]; rfl
        rw [List.filterMap_cons_none hnone, ih, List.filter_cons]
        split_ifs
        · rw [List.filterMap_cons_none hn]
        · rfl
      | some v =>
        have hsome : options.observation? record = some (record.metric, v) := by
          rw [hobservation, hn]; rfl
        rw [List.filterMap_cons_some hsome]
        by_cases hm : record.metric = metric
        · rw [List.filter_cons_of_pos (by exact decide_eq_true hm),
            List.filter_cons_of_pos (by exact decide_eq_true ⟨hm, hr⟩), List.filterMap_cons_some hn,
            List.map_cons, ih]
        · rw [List.filter_cons_of_neg (by simpa using hm), List.filter_cons_of_neg (by simp [hm]), ih]
    · have hnone : options.observation? record = none :=
        if_neg fun h => hr (hreports.1 h)
      rw [List.filterMap_cons_none hnone, ih, List.filter_cons_of_neg (by simp [hr])]

variable {group : ObservationGroup} {time : Instant}

/-- What a collection brings to the place of a group in the store. -/
theorem values_filter_arrivals {collection : Collection} (hvalid : collection.time ≠ .invalid)
    (hregistered : ∀ record ∈ collection.allRecords, record.metric ∈ registry.metrics)
    (hmetric : group.metric ∈ registry.metrics) (htime : time.utcMinute? = some group.minute) :
    ((collection.arrivals options).filter fun a =>
        a.minute = time.minute ∧ a.key.id = group.key.id).map Arrival.value =
      group.observationsOf options collection := by
  have hminute := Instant.minute_eq_iff hvalid htime
  have hmatch : ∀ o ∈ observations options collection,
      (collection.time.minute = time.minute ∧
          (AggregationKey.mk o.1 (collection.dimensions options.dimensions)).id = group.key.id) ↔
        (collection.time.utcMinute? = some group.minute ∧
          collection.dimensions options.dimensions = group.dimensions) ∧ o.1 = group.metric := by
    rintro ⟨metric, v⟩ ho
    obtain ⟨record, hrecord, rfl⟩ := mem_observations ho
    rw [hminute, AggregationKey.id_eq_iff]
    constructor
    · rintro ⟨hm, hname, hdimensions⟩
      exact ⟨⟨hm, hdimensions⟩, registry.eq_of_name_eq (hregistered record hrecord) hmetric hname⟩
    · rintro ⟨⟨hm, hdimensions⟩, hname⟩
      exact ⟨hm, congrArg Metric.name hname, hdimensions⟩
  rw [Collection.arrivals, List.filter_map, List.map_map, ObservationGroup.observationsOf]
  have hfilter : (observations options collection).filter
      ((fun a : Arrival => decide (a.minute = time.minute ∧ a.key.id = group.key.id)) ∘
        fun o => ⟨collection.time.minute, ⟨o.1, collection.dimensions options.dimensions⟩, o.2⟩) =
      (observations options collection).filter fun o =>
        (collection.time.utcMinute? = some group.minute ∧
          collection.dimensions options.dimensions = group.dimensions) ∧ o.1 = group.metric :=
    List.filter_congr fun o ho => decide_eq_decide.2 (hmatch o ho)
  rw [hfilter]
  split_ifs with h
  · simp only [h, true_and]
    exact map_filter_observation? options group.metric collection.allRecords
  · simp [h]

/-- The values filed under the minute and the id of a group are its observations. -/
theorem values_group (group : ObservationGroup) (options : StoreOptions)
    (hw : Wellformed registry collections) (hmetric : group.metric ∈ registry.metrics)
    (htime : time.utcMinute? = some group.minute) :
    (Store.group options collections time.minute group.key.id).map Arrival.value =
      group.observations options collections := by
  rw [Store.group, arrivals, List.filter_flatMap, List.map_flatMap, ObservationGroup.observations]
  refine List.flatMap_congr fun collection hc => ?_
  exact values_filter_arrivals (hw.valid collection hc) (hw.registered collection hc) hmetric htime

/-- An aggregator of a store is that of a group with observations. -/
theorem exists_group_of_placed (hw : Wellformed registry collections) {x : Instant × Aggregator}
    (hx : x ∈ (holding options collections).placed) :
    ∃ group : ObservationGroup, group.metric ∈ registry.metrics ∧
      group.observations options collections ≠ [] ∧ x.1 = .ofMinute group.minute ∧
      (∃ time : Instant, time.utcMinute? = some group.minute) ∧
      x.2 = .collect options.detailed group.key (group.observations options collections) := by
  obtain ⟨t, aggregator⟩ := x
  obtain ⟨m, bucket, id, hbucket, hentry, htime⟩ := mem_placed.1 hx
  obtain ⟨first, rest, hgroup, haggregator⟩ := stored_iff.1 ⟨bucket, hbucket, hentry⟩
  have hfirst : first ∈ Store.group options collections m id := by
    rw [hgroup]
    exact List.mem_cons_self
  obtain ⟨harrival, rfl, rfl⟩ := mem_group.1 hfirst
  obtain ⟨collection, hc, hminute, hdimensions, hobservation⟩ := mem_arrivals harrival
  obtain ⟨record, hrecord, hmetric⟩ := mem_observations hobservation
  obtain ⟨n, hn⟩ := Instant.exists_utcMinute (hw.valid collection hc)
  have hregistered : first.key.metric ∈ registry.metrics := by
    rw [← hmetric]
    exact hw.registered collection hc record hrecord
  let group : ObservationGroup := ⟨first.key.metric, first.key.dimensions, n⟩
  have hvalues : (first :: rest).map Arrival.value = group.observations options collections := by
    rw [← hgroup, hminute]
    exact values_group group options hw hregistered hn
  refine ⟨group, hregistered, ?_, ?_, ⟨collection.time, hn⟩, ?_⟩
  · rw [← hvalues]
    exact List.cons_ne_nil _ _
  · rw [htime, hminute, Instant.ofMillis_minute hn]
  · rw [haggregator, hvalues]
    rfl

/-- A group with observations has an aggregator. -/
theorem exists_placed_of_group (hw : Wellformed registry collections)
    (hmetric : group.metric ∈ registry.metrics) (hne : group.observations options collections ≠ []) :
    ∃ x ∈ (holding options collections).placed, x.2.series x.1 = group.series := by
  obtain ⟨v, hv⟩ := List.exists_mem_of_ne_nil _ hne
  obtain ⟨collection, hc, hobservation⟩ := List.mem_flatMap.1 hv
  have htime : collection.time.utcMinute? = some group.minute := by
    unfold ObservationGroup.observationsOf at hobservation
    split_ifs at hobservation with h
    · exact h.1
    · cases hobservation
  have hvalues := values_group group options hw hmetric htime
  cases hgroup : Store.group options collections collection.time.minute group.key.id with
  | nil =>
    rw [hgroup] at hvalues
    exact absurd hvalues.symm hne
  | cons first rest =>
    have hfirst : first ∈ Store.group options collections collection.time.minute group.key.id := by
      rw [hgroup]
      exact List.mem_cons_self
    obtain ⟨-, -, hid⟩ := mem_group.1 hfirst
    obtain ⟨hname, hdimensions⟩ := AggregationKey.id_eq_iff.1 hid
    obtain ⟨bucket, hbucket, hentry⟩ := stored_iff.2 ⟨first, rest, hgroup, rfl⟩
    refine ⟨_, mem_placed.2 ⟨_, bucket, _, hbucket, hentry, rfl⟩, ?_⟩
    rw [Aggregator.series_collect, Instant.ofMillis_minute htime, hname, hdimensions]
    rfl

/-- The aggregator of a group is the only one with its series, and there is none without observations. -/
theorem placed_of_series (hw : Wellformed registry collections) (hmetric : group.metric ∈ registry.metrics)
    {x : Instant × Aggregator} (hx : x ∈ (holding options collections).placed)
    (hseries : x.2.series x.1 = group.series) :
    group.observations options collections ≠ [] ∧ x.1 = .ofMinute group.minute ∧
      x.2 = .collect options.detailed group.key (group.observations options collections) := by
  obtain ⟨other, hother, hne, htime, ⟨time, hminute⟩, haggregator⟩ := exists_group_of_placed hw hx
  have hkey : x.2.key = other.key := by rw [haggregator, Aggregator.key_collect]
  simp only [Aggregator.series, hkey, htime, ObservationGroup.series, Series.mk.injEq] at hseries
  obtain ⟨hname, hdimensions, hofMinute⟩ := hseries
  obtain rfl : other = group := by
    cases other
    cases group
    simp only [ObservationGroup.mk.injEq]
    exact ⟨registry.eq_of_name_eq hother hmetric hname, hdimensions, Instant.ofMinute_inj hminute hofMinute⟩
  exact ⟨hne, htime, haggregator⟩

end Store
end MetricPipeline
