import MetricPipeline.Proofs.Strategies

/-! What an aggregator that keeps its values in detail holds after any values, in the parts it is made of: the
values themselves, the counts beside them, the index and the place of minus zero. -/

namespace MetricPipeline

/-- The parts of a histogram tell of the values that were added, each distinct value at one place. -/
structure Histogram.Lists (added : List Binary64) (histogram : Histogram) : Prop where
  mem_iff : ∀ v, v ∈ histogram.values ↔ v ∈ added
  nodup : histogram.values.toList.Nodup
  /-- Values stand in the order in which they first came. -/
  order : histogram.values.toList.Pairwise fun v w => added.idxOf v < added.idxOf w
  size_eq : histogram.counts.size = histogram.values.size
  counted : ∀ (i : Nat) (v : Binary64), histogram.values[i]? = some v →
    histogram.counts[i]? = some (added.count v)
  sum_counts : histogram.counts.toList.sum = added.length
  /-- The index holds the place of each value but minus zero, and nothing else. -/
  index_iff : ∀ (v : Binary64) (i : Nat),
    histogram.index[v]? = some i ↔ v ≠ .zero true ∧ histogram.values[i]? = some v
  negativeZero_iff : ∀ i : Nat, histogram.negativeZero = some i ↔ histogram.values[i]? = some (.zero true)

theorem Histogram.lists_ofList (added : List Binary64) : (ofList added).Lists added := by
  have hexact := exact_ofList added
  constructor
  case mem_iff => simp [← Array.mem_toList_iff, mem_values_ofList]
  case nodup =>
    rw [hexact.values_eq]
    exact nodup_eraseDups added
  case order =>
    rw [hexact.values_eq]
    exact pairwise_idxOf_eraseDups added
  case size_eq => simpa using length_counts_ofList added
  case counted =>
    intro i v hi
    rw [← Array.getElem?_toList, hexact.values_eq] at hi
    rw [← Array.getElem?_toList, hexact.counts_eq, List.getElem?_map, hi]
    rfl
  case sum_counts => exact sum_counts_ofList added
  case index_iff => exact hexact.index_iff
  case negativeZero_iff => exact hexact.negativeZero_iff

/-- A detailed aggregator keeps its key and unit, and an exact histogram of what is added to it. -/
theorem Aggregator.lists_foldl_add (key : AggregationKey) (unit : MeasureUnit) (added : List Binary64) :
    ∃ histogram, added.foldl add ⟨key, unit, .detailed .empty⟩ = ⟨key, unit, .detailed histogram⟩ ∧
      histogram.Lists added := by
  refine ⟨.ofList added, ?_, Histogram.lists_ofList added⟩
  rw [foldl_add, foldl_tally_detailed]
  rfl

/-- Both zeros and not-a-number, each seen twice. -/
example : (Histogram.ofList [.zero false, .nan, .zero true, .nan, .zero false, .zero true]).values.toList =
    [.zero false, .nan, .zero true] := by
  cbv

end MetricPipeline
