import MetricPipeline.Aggregator
import MetricPipeline.Proofs.Histogram

/-! What an aggregator holds after a list of values: the summary of the list or its exact histogram. -/

namespace MetricPipeline

namespace Binary64

/-- The least of doubles, infinity of none. -/
def least (values : List Binary64) : Binary64 := values.foldl Binary64.min (.infinite false)

/-- The greatest of doubles, minus infinity of none. -/
def greatest (values : List Binary64) : Binary64 := values.foldl Binary64.max (.infinite true)

/-- The sum of doubles from left to right, from zero on. -/
def total (values : List Binary64) : Binary64 := values.foldl (· + ·) (.zero false)

end Binary64

namespace Summary

theorem foldl_add (values : List Binary64) (summary : Summary) :
    values.foldl add summary =
      ⟨values.foldl Binary64.min summary.minimum, values.foldl Binary64.max summary.maximum,
        values.foldl (· + ·) summary.sum, summary.count + values.length⟩ := by
  induction values generalizing summary with
  | nil => rfl
  | cons v values ih =>
    rw [List.foldl_cons, ih]
    simp only [add, List.foldl_cons, List.length_cons, Nat.add_assoc, Nat.add_comm 1]

/-- The summary of values added in order. -/
def ofList (values : List Binary64) : Summary :=
  ⟨.least values, .greatest values, .total values, values.length⟩

theorem foldl_add_empty (values : List Binary64) : values.foldl add empty = ofList values := by
  rw [foldl_add, ofList]
  simp only [empty, Nat.zero_add]
  rfl

end Summary

/-- What a datum is about: a metric, dimensions and a minute. -/
structure Series where
  metric : String
  dimensions : List Dimension
  time : Instant
deriving DecidableEq

def Datum.series (datum : Datum) : Series := ⟨datum.metric, datum.dimensions, datum.time⟩

namespace Aggregator

def series (aggregator : Aggregator) (time : Instant) : Series :=
  ⟨aggregator.key.metric.name, aggregator.key.dimensions, time⟩

/-- How many values of a request the aggregator takes. -/
def slots (aggregator : Aggregator) : Nat :=
  match aggregator.tally with
  | .summary _ => 1
  | .detailed histogram => histogram.size

/-- An aggregator that has received a value. -/
def Filled (aggregator : Aggregator) : Prop :=
  match aggregator.tally with
  | .summary summary => 0 < summary.count
  | .detailed histogram =>
    0 < histogram.size ∧ histogram.counts.toList.length = histogram.values.toList.length

theorem Filled.slots_pos {aggregator : Aggregator} (h : aggregator.Filled) : 0 < aggregator.slots := by
  unfold Filled at h
  unfold slots
  split <;> simp_all

/-- The aggregator of a key after values added in order. -/
def collect (detailed : List Metric) (key : AggregationKey) (values : List Binary64) : Aggregator :=
  values.foldl add (create detailed key)

theorem foldl_add (values : List Binary64) (aggregator : Aggregator) :
    values.foldl add aggregator =
      { aggregator with tally := values.foldl (fun tally v => tally.add v) aggregator.tally } := by
  induction values generalizing aggregator with
  | nil => rfl
  | cons v values ih =>
    rw [List.foldl_cons, ih]
    rfl

theorem foldl_tally_summary (values : List Binary64) (summary : Summary) :
    values.foldl (fun tally v => tally.add v) (.summary summary) =
      Tally.summary (values.foldl Summary.add summary) := by
  induction values generalizing summary with
  | nil => rfl
  | cons v values ih => exact ih (summary.add v)

theorem foldl_tally_detailed (values : List Binary64) (histogram : Histogram) :
    values.foldl (fun tally v => tally.add v) (.detailed histogram) =
      Tally.detailed (values.foldl Histogram.add histogram) := by
  induction values generalizing histogram with
  | nil => rfl
  | cons v values ih => exact ih (histogram.add v)

variable {detailed : List Metric} {key : AggregationKey} {values : List Binary64}

theorem key_collect : (collect detailed key values).key = key := by
  rw [collect, foldl_add]
  rfl

theorem unit_collect : (collect detailed key values).unit = key.metric.unit := by
  rw [collect, foldl_add]
  rfl

theorem tally_collect : (collect detailed key values).tally =
    if key.metric ∈ detailed then .detailed (.ofList values) else .summary (.ofList values) := by
  rw [collect, foldl_add]
  simp only [create]
  split_ifs with h
  · exact foldl_tally_detailed values .empty
  · rw [foldl_tally_summary, Summary.foldl_add_empty]

theorem series_collect (time : Instant) :
    (collect detailed key values).series time = ⟨key.metric.name, key.dimensions, time⟩ := by
  rw [series, key_collect]

theorem slots_collect : (collect detailed key values).slots =
    if key.metric ∈ detailed then values.eraseDups.length else 1 := by
  rw [slots, tally_collect]
  split_ifs
  · exact Histogram.size_ofList values
  · rfl

theorem filled_collect (h : values ≠ []) : (collect detailed key values).Filled := by
  have hpos := List.length_pos_iff.2 h
  unfold Filled
  rw [tally_collect]
  split_ifs with hd
  · refine ⟨?_, Histogram.length_counts_ofList values⟩
    rw [Histogram.size_ofList, List.length_pos_iff]
    intro hnil
    obtain ⟨v, hv⟩ := List.exists_mem_of_ne_nil values h
    rw [← List.mem_eraseDups, hnil] at hv
    cases hv
  · exact hpos

end Aggregator
end MetricPipeline
