import Mathlib.Data.List.Nodup
import Mathlib.Data.List.Pairwise
import Mathlib.Data.List.Sort
import MetricPipeline.Proofs.AggregationKey
import MetricPipeline.Proofs.Aggregator
import MetricPipeline.Proofs.Instant
import MetricPipeline.Store

/-! A store groups what arrives. Each arrival is an observation with the minute and the key of the
collection that it comes from, and the store holds one aggregator for each minute and id that has arrivals,
made of the values of these arrivals in their order and of nothing else. -/

namespace MetricPipeline

/-- An observation with the minute and the key it is filed under. -/
structure Arrival where
  minute : Binary64
  key : AggregationKey
  value : Binary64

def Collection.arrivals (options : StoreOptions) (collection : Collection) : List Arrival :=
  (Store.observations options collection).map fun observation =>
    ⟨collection.time.minute, ⟨observation.1, collection.dimensions options.dimensions⟩, observation.2⟩

namespace Store

def arrivals (options : StoreOptions) (collections : List Collection) : List Arrival :=
  collections.flatMap (Collection.arrivals options)

/-- The store of collections added in order to an empty one. -/
def holding (options : StoreOptions) (collections : List Collection) : Store :=
  collections.foldl add (empty options)

def fileInBucket (options : StoreOptions) (bucket : Bucket) (arrival : Arrival) : Bucket :=
  addToBucket options arrival.key arrival.value bucket

def file (options : StoreOptions) (buckets : OrderedMap Binary64 Bucket) (arrival : Arrival) :
    OrderedMap Binary64 Bucket :=
  buckets.upsert arrival.minute fun bucket => fileInBucket options (bucket.getD .empty) arrival

theorem foldl_addObservation (minute : Binary64) (dimensions : List Dimension)
    (observations : List (Metric × Binary64)) (store : Store) :
    observations.foldl (addObservation minute dimensions) store =
      { store with
        buckets := (observations.map fun observation =>
          Arrival.mk minute ⟨observation.1, dimensions⟩ observation.2).foldl (file store.options)
            store.buckets } := by
  induction observations generalizing store with
  | nil => rfl
  | cons observation rest ih =>
    rw [List.foldl_cons, ih]
    rfl

theorem add_eq (store : Store) (collection : Collection) :
    store.add collection =
      { store with
        buckets := (collection.arrivals store.options).foldl (file store.options) store.buckets } :=
  foldl_addObservation _ _ _ _

theorem foldl_add (collections : List Collection) (store : Store) :
    collections.foldl add store =
      { store with
        buckets := (arrivals store.options collections).foldl (file store.options) store.buckets } := by
  induction collections generalizing store with
  | nil => rfl
  | cons collection rest ih =>
    rw [List.foldl_cons, ih, add_eq]
    simp only [arrivals, List.flatMap_cons, List.foldl_append]

theorem holding_eq (options : StoreOptions) (collections : List Collection) :
    holding options collections =
      ⟨options, (arrivals options collections).foldl (file options) .empty⟩ :=
  foldl_add collections (empty options)

variable {options : StoreOptions} {collections : List Collection}

/-- What a bucket holds under an id after arrivals in order. -/
theorem find?_foldl_fileInBucket (items : List Arrival) (id : String) :
    (items.foldl (fileInBucket options) .empty).find? id =
      match items.filter (fun a => a.key.id = id) with
      | [] => none
      | first :: rest =>
        some (Aggregator.collect options.detailed first.key ((first :: rest).map Arrival.value)) := by
  have hfold : ∀ (items : List Arrival) (aggregator : Aggregator),
      items.foldl (fun found a =>
        some ((found.getD (.create options.detailed a.key)).add a.value)) (some aggregator) =
          some ((items.map Arrival.value).foldl Aggregator.add aggregator) := by
    intro items
    induction items with
    | nil => exact fun aggregator => rfl
    | cons a rest ih => exact fun aggregator => ih (aggregator.add a.value)
  have hfind := OrderedMap.find?_foldl_upsert (fun a : Arrival => a.key.id)
    (fun a found => (found.getD (Aggregator.create options.detailed a.key)).add a.value) items .empty id
  refine hfind.trans ?_
  cases items.filter fun a => a.key.id = id with
  | nil => rfl
  | cons first rest => exact hfold rest _

theorem find?_holding (m : Binary64) :
    (holding options collections).buckets.find? m =
      let items := (arrivals options collections).filter fun a => a.minute = m
      if items = [] then none else some (items.foldl (fileInBucket options) .empty) := by
  have hfind := OrderedMap.find?_foldl_upsert (fun a : Arrival => a.minute)
    (fun a found => fileInBucket options (found.getD .empty) a) (arrivals options collections) .empty m
  rw [holding_eq]
  exact hfind.trans (OrderedMap.foldl_some _ _ _)

/-- The arrivals that are filed under a minute and an id. -/
def group (options : StoreOptions) (collections : List Collection) (m : Binary64) (id : String) :
    List Arrival :=
  (arrivals options collections).filter fun a => a.minute = m ∧ a.key.id = id

/-- The aggregators in a store are the groups of its arrivals. -/
theorem stored_iff {m : Binary64} {id : String} {aggregator : Aggregator} :
    (∃ bucket, (m, bucket) ∈ (holding options collections).buckets.entries ∧
        (id, aggregator) ∈ bucket.entries) ↔
      ∃ first rest, group options collections m id = first :: rest ∧
        aggregator = .collect options.detailed first.key ((first :: rest).map Arrival.value) := by
  have hgroup : group options collections m id =
      ((arrivals options collections).filter fun a => a.minute = m).filter fun a => a.key.id = id := by
    rw [group, List.filter_filter]
    refine List.filter_congr fun a _ => ?_
    simp [Bool.and_comm]
  simp only [OrderedMap.mem_entries_iff, find?_holding, hgroup]
  constructor
  · rintro ⟨bucket, hbucket, hfound⟩
    split_ifs at hbucket
    rw [← Option.some.inj hbucket, find?_foldl_fileInBucket] at hfound
    split at hfound
    · cases hfound
    · next first rest heq => exact ⟨first, rest, heq, (Option.some.inj hfound).symm⟩
  · rintro ⟨first, rest, heq, rfl⟩
    refine ⟨_, if_neg fun hnil => ?_, ?_⟩
    · rw [hnil] at heq
      cases heq
    · rw [find?_foldl_fileInBucket, heq]

theorem mem_group {a : Arrival} {m : Binary64} {id : String} :
    a ∈ group options collections m id ↔
      a ∈ arrivals options collections ∧ a.minute = m ∧ a.key.id = id := by
  rw [group, List.mem_filter]
  simp

theorem mem_arrivals {a : Arrival} (h : a ∈ arrivals options collections) :
    ∃ collection ∈ collections, a.minute = collection.time.minute ∧
      a.key.dimensions = collection.dimensions options.dimensions ∧
        (a.key.metric, a.value) ∈ observations options collection := by
  obtain ⟨collection, hc, ha⟩ := List.mem_flatMap.1 h
  obtain ⟨observation, ho, rfl⟩ := List.mem_map.1 ha
  exact ⟨collection, hc, rfl, rfl, ho⟩

/-- The id and the aggregator of a group, which is never empty. -/
theorem of_stored {m : Binary64} {bucket : Bucket} {id : String} {aggregator : Aggregator}
    (hbucket : (m, bucket) ∈ (holding options collections).buckets.entries)
    (hentry : (id, aggregator) ∈ bucket.entries) :
    id = aggregator.key.id ∧ aggregator.Filled ∧ ∃ time : Instant, m = time.minute := by
  obtain ⟨first, rest, heq, rfl⟩ := stored_iff.1 ⟨bucket, hbucket, hentry⟩
  have hfirst : first ∈ group options collections m id := by
    rw [heq]
    exact List.mem_cons_self
  obtain ⟨harrival, hm, hid⟩ := mem_group.1 hfirst
  obtain ⟨collection, -, htime, -⟩ := mem_arrivals harrival
  refine ⟨?_, Aggregator.filled_collect (List.cons_ne_nil _ _), collection.time, ?_⟩
  · rw [Aggregator.key_collect, hid]
  · rw [← hm, htime]

/-! The order of a drain -/

/-- The aggregators with the times of their buckets, in the order in which a drain takes them. -/
def placed (store : Store) : List (Instant × Aggregator) :=
  store.timeBuckets.flatMap fun bucket => bucket.aggregators.map (bucket.time, ·)

/-- The aggregators with the times of their buckets, in the order in which the buckets came. -/
def unsorted (store : Store) : List (Instant × Aggregator) :=
  store.buckets.entries.flatMap fun entry => entry.2.values.map (Instant.ofMillis entry.1, ·)

theorem placed_perm_unsorted (store : Store) : store.placed.Perm store.unsorted := by
  rw [placed, timeBuckets, List.flatMap_map, unsorted]
  exact (List.mergeSort_perm _ _).flatMap_right _

theorem mem_placed {store : Store} {time : Instant} {aggregator : Aggregator} :
    (time, aggregator) ∈ store.placed ↔
      ∃ m bucket id, (m, bucket) ∈ store.buckets.entries ∧ (id, aggregator) ∈ bucket.entries ∧
        time = Instant.ofMillis m := by
  rw [(placed_perm_unsorted store).mem_iff, unsorted]
  simp only [List.mem_flatMap, List.mem_map, OrderedMap.values, Prod.exists, Prod.mk.injEq]
  constructor
  · rintro ⟨m, bucket, hbucket, a, ⟨id, a', hentry, rfl⟩, rfl, rfl⟩
    exact ⟨m, bucket, id, hbucket, hentry, rfl⟩
  · rintro ⟨m, bucket, id, hbucket, hentry, rfl⟩
    exact ⟨m, bucket, hbucket, aggregator, ⟨id, aggregator, hentry, rfl⟩, rfl, rfl⟩

/-- The aggregators of a store are about different series. -/
theorem nodup_series (options : StoreOptions) (collections : List Collection) :
    ((holding options collections).placed.map fun x => x.2.series x.1).Nodup := by
  rw [((placed_perm_unsorted _).map _).nodup_iff, unsorted, List.map_flatMap, List.nodup_flatMap]
  constructor
  · rintro ⟨m, bucket⟩ hbucket
    rw [OrderedMap.values, List.map_map, List.map_map]
    refine (List.Nodup.of_map Prod.fst bucket.nodup).map_on ?_
    rintro ⟨id, a⟩ ha ⟨id', a'⟩ ha' hseries
    obtain ⟨hid, -⟩ := of_stored hbucket ha
    obtain ⟨hid', -⟩ := of_stored hbucket ha'
    simp only [Function.comp, Aggregator.series, Series.mk.injEq, and_true] at hseries
    have heq : id = id' := by rw [hid, hid', AggregationKey.id_eq_iff]; exact hseries
    subst heq
    rw [OrderedMap.mem_entries_iff] at ha ha'
    rw [Option.some.inj (ha.symm.trans ha')]
  · have hpair := List.pairwise_map.1 (holding options collections).buckets.nodup
    refine hpair.imp_of_mem ?_
    rintro ⟨m, bucket⟩ ⟨m', bucket'⟩ hb hb' hne
    refine List.disjoint_left.2 fun s hs hs' => hne ?_
    simp only [OrderedMap.values, List.map_map, List.mem_map, Function.comp, Prod.exists] at hs hs'
    obtain ⟨id, a, ha, rfl⟩ := hs
    obtain ⟨id', a', ha', hseries⟩ := hs'
    obtain ⟨-, -, time, rfl⟩ := of_stored hb ha
    obtain ⟨-, -, time', rfl⟩ := of_stored hb' ha'
    exact Instant.ofMillis_minute_inj (congrArg Series.time hseries).symm

theorem filled_of_mem_placed {time : Instant} {aggregator : Aggregator}
    (h : (time, aggregator) ∈ (holding options collections).placed) : aggregator.Filled := by
  obtain ⟨m, bucket, id, hbucket, hentry, -⟩ := mem_placed.1 h
  exact (of_stored hbucket hentry).2.1

end Store
end MetricPipeline
