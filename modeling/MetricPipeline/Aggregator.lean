import MetricPipeline.AggregationKey
import MetricPipeline.Histogram
import MetricPipeline.Summary

/-! Aggregators hold the observations of one key, as a summary or as an exact histogram, and give the data
that are uploaded for it. -/

namespace MetricPipeline

inductive Tally where
  | summary (summary : Summary)
  | detailed (histogram : Histogram)

structure Aggregator where
  key : AggregationKey
  unit : MeasureUnit
  tally : Tally

inductive Measurement where
  | statistics (summary : Summary)
  | entries (values : List Binary64) (counts : List Nat)
deriving DecidableEq

/-- One measured value of one metric, as uploaded. -/
structure Datum where
  metric : String
  dimensions : List Dimension
  time : Instant
  unit : MeasureUnit
  measurement : Measurement
deriving DecidableEq

inductive AggregationError where
  | emptySummary (metric : String)
deriving DecidableEq

def AggregationError.message : AggregationError → String
  | emptySummary metric => "Summary for '" ++ metric ++ "' has no values."

def Tally.add (value : Binary64) : Tally → Tally
  | summary s => .summary (s.add value)
  | detailed h => .detailed (h.add value)

namespace Aggregator

def create (detailedMetrics : List Metric) (key : AggregationKey) : Aggregator where
  key
  unit := key.metric.unit
  tally := if key.metric ∈ detailedMetrics then .detailed .empty else .summary .empty

def add (aggregator : Aggregator) (value : Binary64) : Aggregator :=
  { aggregator with tally := aggregator.tally.add value }

def datum (aggregator : Aggregator) (time : Instant) (measurement : Measurement) : Datum :=
  ⟨aggregator.key.metric.name, aggregator.key.dimensions, time, aggregator.unit, measurement⟩

def statistics (aggregator : Aggregator) (time : Instant) (summary : Summary) :
    Except AggregationError Datum :=
  if summary.count = 0 then .error (.emptySummary aggregator.key.metric.name)
  else .ok (aggregator.datum time (.statistics summary))

/-- The entries from place `start` up to, not including, place `stop`. -/
def entries (aggregator : Aggregator) (time : Instant) (histogram : Histogram) (start stop : Nat) :
    Datum :=
  aggregator.datum time
    (.entries (histogram.values.extract start stop).toList (histogram.counts.extract start stop).toList)

/-- The datum of a summary, or at most `limit` entries of a histogram from place `offset` on. -/
def datum? (aggregator : Aggregator) (time : Instant) (offset limit : Binary64) :
    Except AggregationError Datum :=
  match aggregator.tally with
  | .summary summary => aggregator.statistics time summary
  | .detailed histogram =>
    .ok (aggregator.entries time histogram (Histogram.positionOf offset histogram.size)
      (Histogram.positionOf (offset + limit) histogram.size))

end Aggregator
end MetricPipeline
