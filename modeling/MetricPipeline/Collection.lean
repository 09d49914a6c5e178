import MetricPipeline.Duration
import MetricPipeline.Instant
import MetricPipeline.Metric
import MetricPipeline.Text.Units

/-! Collections: trees of reported values, one node for each unit of work. What is aggregated from a
collection is the numeric values of all its nodes, in pre-order, under the dimensions found at its
root. -/

namespace MetricPipeline

inductive Value where
  | string (s : String)
  | boolean (b : Bool)
  | number (x : Binary64)
  | duration (d : Duration)
deriving DecidableEq

/-- A value reported for a metric; nothing ties its kind to the type of the metric. -/
structure Record where
  metric : Metric
  value : Value
deriving DecidableEq

inductive Collection where
  | node (name : String) (time : Instant) (records : List Record) (children : List Collection)

structure Dimension where
  name : String
  value : String
deriving DecidableEq

/-- The number that a record adds to its group, in the unit of its metric. -/
def Record.numeric? : Record → Option Binary64
  | ⟨metric, .duration d⟩ => if metric.valueType = .duration then some d.toMillis else none
  | ⟨metric, .number x⟩ => if metric.valueType = .number then some x else none
  | _ => none

/-- The dimension that a record gives when its metric is one of `metrics`. -/
def Record.dimension? (metrics : List Metric) : Record → Option Dimension
  | ⟨metric, .string s⟩ =>
    if metric.valueType = .string ∧ metric ∈ metrics then some ⟨metric.name, s⟩ else none
  | _ => none

namespace Collection

def name : Collection → String
  | node name _ _ _ => name

def time : Collection → Instant
  | node _ time _ _ => time

def records : Collection → List Record
  | node _ _ records _ => records

def children : Collection → List Collection
  | node _ _ _ children => children

mutual

/-- The records of a tree, each node before its children. -/
def allRecords : Collection → List Record
  | node _ _ records children => records ++ allRecordsOf children

def allRecordsOf : List Collection → List Record
  | [] => []
  | child :: rest => allRecords child ++ allRecordsOf rest

end

/-- Values of one metric at the root only. -/
def metricValues (collection : Collection) (metric : Metric) : List Value :=
  (collection.records.filter (·.metric = metric)).map Record.value

/-- Dimensions at the root, by descending name; those of one name stay in report order. -/
def dimensions (collection : Collection) (metrics : List Metric) : List Dimension :=
  (collection.records.filterMap (Record.dimension? metrics)).mergeSort
    fun a b => Text.unitsLe b.name a.name

/-- The node reached from the root by child positions. -/
def descendant? : Collection → List Nat → Option Collection
  | collection, [] => some collection
  | collection, i :: path => (collection.children[i]?).bind (descendant? · path)

end Collection
end MetricPipeline
