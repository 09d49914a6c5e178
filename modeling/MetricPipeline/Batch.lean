import MetricPipeline.Limit
import MetricPipeline.Store

/-! Packing data into requests. Data are placed in the order of the store; the request under way is closed
only when one of its limits is reached, and a histogram is cut where the room for values ends. -/

namespace MetricPipeline

structure Request where
  namespaceName : String
  data : List Datum
deriving DecidableEq

/-- The requests closed so far and the one under way. -/
structure Batch where
  namespaceName : String
  limits : RequestLimits
  closed : List Request
  data : List Datum
  values : Nat

namespace Batch

def empty (namespaceName : String) (limits : RequestLimits) : Batch :=
  ⟨namespaceName, limits, [], [], 0⟩

def close (batch : Batch) : Batch :=
  { batch with closed := batch.closed ++ [⟨batch.namespaceName, batch.data⟩], data := [], values := 0 }

/-- Makes room for a datum. -/
def reserve (batch : Batch) : Batch :=
  if batch.limits.data.reached batch.data.length || batch.limits.values.reached batch.values then
    batch.close
  else batch

def push (batch : Batch) (datum : Datum) (values : Nat) : Batch :=
  { batch with data := batch.data ++ [datum], values := batch.values + values }

theorem limits_reserve (batch : Batch) : batch.reserve.limits = batch.limits := by
  unfold reserve; split <;> rfl

theorem values_reserve_lt {batch : Batch} {n : Nat} {pos : 0 < n}
    (h : batch.limits.values = .atMost n pos) : batch.reserve.values < n := by
  unfold reserve
  split
  · exact pos
  · next open' => simp [h, Limit.reached] at open'; exact open'.2

/-- Places the entries of a histogram from `offset` on. Where values have no limit there is no number of
them to take either, and the histogram gives one datum without entries. -/
def placeEntries (aggregator : Aggregator) (time : Instant) (histogram : Histogram) (batch : Batch)
    (offset : Nat) : Batch :=
  if offset < histogram.size then
    match h : batch.limits.values with
    | .unbounded => batch.reserve.push (aggregator.entries time histogram 0 0) 0
    | .atMost n _ =>
      have : batch.reserve.values < n := values_reserve_lt h
      let count := min (n - batch.reserve.values) (histogram.size - offset)
      placeEntries aggregator time histogram
        (batch.reserve.push (aggregator.entries time histogram offset (offset + count)) count)
        (offset + count)
  else batch
termination_by histogram.size - offset
decreasing_by omega

def place (time : Instant) (batch : Batch) (aggregator : Aggregator) : Except AggregationError Batch :=
  match aggregator.tally with
  | .summary summary => (aggregator.statistics time summary).map (batch.reserve.push · 1)
  | .detailed histogram => .ok (placeEntries aggregator time histogram batch 0)

def placeBucket (batch : Batch) (bucket : TimeBucket) : Except AggregationError Batch :=
  bucket.aggregators.foldlM (place bucket.time) batch

def finish (batch : Batch) : List Request :=
  if batch.data = [] then batch.closed else batch.close.closed

def requests (namespaceName : String) (limits : RequestLimits) (buckets : List TimeBucket) :
    Except AggregationError (List Request) :=
  (buckets.foldlM placeBucket (empty namespaceName limits)).map finish

end Batch

/-- A store that is drained into requests for one namespace. -/
structure Aggregation where
  namespaceName : String
  limits : RequestLimits
  store : Store

namespace Aggregation

def create (namespaceName : String) (options : StoreOptions) (data values : Option Binary64) :
    Aggregation :=
  ⟨namespaceName, .create data values, .empty options⟩

def add (aggregation : Aggregation) (collection : Collection) : Aggregation :=
  { aggregation with store := aggregation.store.add collection }

/-- The requests for all that is stored, and the emptied store; a failure leaves the store as it is. -/
def drain (aggregation : Aggregation) : Except AggregationError (List Request) × Aggregation :=
  match Batch.requests aggregation.namespaceName aggregation.limits aggregation.store.timeBuckets with
  | .ok requests => (.ok requests, { aggregation with store := aggregation.store.reset })
  | .error e => (.error e, aggregation)

/-- Number of aggregators that the next drain takes. -/
def pending (aggregation : Aggregation) : Nat := aggregation.store.size

end Aggregation
end MetricPipeline
