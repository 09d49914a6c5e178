import MetricPipeline.Proofs.Aggregation.History

/-! A drain cannot fail. Buckets and aggregators come into being only where a value is added at once, so
whatever collections are added, no bucket is empty and no aggregator is without values, and what an
aggregator is was decided by the metric of its key. Placing fails for a summary without values only. -/

namespace MetricPipeline

/-- An aggregator as it stands under an id of a store with these options. -/
structure Aggregator.Kept (options : StoreOptions) (id : String) (aggregator : Aggregator) : Prop where
  id_eq : id = aggregator.key.id
  detailed_iff : (∃ histogram, aggregator.tally = .detailed histogram) ↔
    aggregator.key.metric ∈ options.detailed
  unit_iff : aggregator.unit = .milliseconds ↔ aggregator.key.metric.valueType = .duration
  count_pos : ∀ summary, aggregator.tally = .summary summary → 1 ≤ summary.count
  size_pos : ∀ histogram, aggregator.tally = .detailed histogram → 1 ≤ histogram.size

/-- Buckets have aggregators, and these are kept under their ids. -/
structure Store.Kept (store : Store) : Prop where
  nonempty : ∀ m bucket, (m, bucket) ∈ store.buckets.entries → bucket.entries ≠ []
  aggregators : ∀ m bucket, (m, bucket) ∈ store.buckets.entries →
    ∀ id aggregator, (id, aggregator) ∈ bucket.entries → aggregator.Kept store.options id

theorem Metric.unit_eq_milliseconds {metric : Metric} :
    metric.unit = .milliseconds ↔ metric.valueType = .duration := by
  unfold unit
  split_ifs with h <;> simp [h]

theorem Aggregator.kept_collect {options : StoreOptions} {key : AggregationKey} {values : List Binary64}
    (h : values ≠ []) : (collect options.detailed key values).Kept options key.id := by
  have hfilled : (collect options.detailed key values).Filled := filled_collect h
  rw [Filled] at hfilled
  constructor
  · rw [key_collect]
  · rw [key_collect, tally_collect]
    split_ifs with hd <;> simp [hd]
  · rw [unit_collect, key_collect, Metric.unit_eq_milliseconds]
  · intro summary htally
    rw [htally] at hfilled
    exact hfilled
  · intro histogram htally
    rw [htally] at hfilled
    exact hfilled.1

namespace Store

variable {options : StoreOptions} {collections : List Collection}

/-- A bucket comes with its first arrival. -/
theorem entries_ne_nil_of_holding {m : Binary64} {bucket : Bucket}
    (h : (m, bucket) ∈ (holding options collections).buckets.entries) : bucket.entries ≠ [] := by
  rw [OrderedMap.mem_entries_iff, find?_holding] at h
  simp only at h
  split_ifs at h with hnil
  obtain ⟨first, hfirst⟩ := List.exists_mem_of_ne_nil _ hnil
  have hfound := @find?_foldl_fileInBucket options
    ((arrivals options collections).filter fun a => a.minute = m) first.key.id
  rw [Option.some.inj h] at hfound
  split at hfound
  · next hnone =>
    have hmem : first ∈ ((arrivals options collections).filter fun a => a.minute = m).filter
        fun a => a.key.id = first.key.id := List.mem_filter.2 ⟨hfirst, by simp⟩
    rw [hnone] at hmem
    cases hmem
  · exact List.ne_nil_of_mem ((OrderedMap.mem_entries_iff bucket).2 hfound)

theorem kept_holding (options : StoreOptions) (collections : List Collection) :
    (holding options collections).Kept := by
  have hoptions : (holding options collections).options = options := by rw [holding_eq]
  refine ⟨fun m bucket => entries_ne_nil_of_holding, fun m bucket hbucket id aggregator hentry => ?_⟩
  obtain ⟨first, rest, hgroup, rfl⟩ := stored_iff.1 ⟨bucket, hbucket, hentry⟩
  have hfirst : first ∈ group options collections m id := by
    rw [hgroup]
    exact List.mem_cons_self
  rw [hoptions, ← (mem_group.1 hfirst).2.2]
  exact Aggregator.kept_collect (List.cons_ne_nil _ _)

end Store

namespace Aggregation

/-- One operation, or the error that it ends with. -/
def attempt (aggregation : Aggregation) : Operation → Except AggregationError Aggregation
  | .add collection => .ok (aggregation.add collection)
  | .drain => aggregation.drain.1.map fun _ => aggregation.drain.2

/-- Operations in order up to the first that fails. -/
def attemptAll (aggregation : Aggregation) (operations : List Operation) :
    Except AggregationError Aggregation :=
  operations.foldlM attempt aggregation

theorem attempt_holding (namespaceName : String) (options : StoreOptions) (limits : RequestLimits)
    (collections : List Collection) (operation : Operation) :
    (holding namespaceName options limits collections).attempt operation =
      .ok ((holding namespaceName options limits collections).perform operation) := by
  cases operation with
  | add collection => rfl
  | drain =>
    obtain ⟨requests, hdrain⟩ := exists_drain_holding namespaceName options limits collections
    rw [attempt, perform, hdrain]
    rfl

/-- Nothing fails in a run, wherever it leads. -/
theorem attemptAll_holding (namespaceName : String) (options : StoreOptions) (limits : RequestLimits)
    (operations : List Operation) :
    (holding namespaceName options limits []).attemptAll operations =
      .ok ((holding namespaceName options limits []).after operations) := by
  -- the state before the last operation is again one that holds collections
  induction operations using List.reverseRecOn with
  | nil => rfl
  | append_singleton operations operation ih =>
    rw [attemptAll, List.foldlM_append, ← attemptAll, ih, after_concat, after_holding]
    exact (bind_pure _).trans (attempt_holding namespaceName options limits _ operation)

/-- Whatever the options and the limits, and whatever is added and drained in whatever order: no operation
fails, all that is stored is well kept, and the next drain returns requests and leaves nothing. -/
theorem drain_never_fails (namespaceName : String) (options : StoreOptions)
    (data values : Option Binary64) (operations : List Operation) :
    (create namespaceName options data values).attemptAll operations =
        .ok ((create namespaceName options data values).after operations) ∧
      ((create namespaceName options data values).after operations).store.options = options ∧
      ((create namespaceName options data values).after operations).store.Kept ∧
      ∃ requests drained, ((create namespaceName options data values).after operations).drain =
        (.ok requests, drained) ∧ drained.pending = 0 := by
  have hcreate : create namespaceName options data values =
      holding namespaceName options (.create data values) [] := rfl
  obtain ⟨requests, hdrain⟩ := exists_drain_holding namespaceName options (.create data values)
    (sinceDrain operations)
  rw [hcreate, attemptAll_holding, after_holding]
  refine ⟨rfl, ?_, Store.kept_holding options (sinceDrain operations), requests, _, hdrain, rfl⟩
  rw [holding, Store.holding_eq]

end Aggregation
end MetricPipeline
