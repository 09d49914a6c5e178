import MetricPipeline.Aggregator
import MetricPipeline.OrderedMap

/-! The store groups the observations of collections by minute, metric and dimensions. What is observed
is every numeric record of a tree whose metric is of a reported level and category; the minute and the
dimensions are those of the root. -/

namespace MetricPipeline

structure StoreOptions where
  /-- String metrics whose values become dimensions. -/
  dimensions : List Metric
  categories : List Category
  /-- The most detailed level reported, `info` when none is given. -/
  level? : Option Level
  /-- Metrics kept as histograms. -/
  detailed : List Metric

namespace StoreOptions

def level (options : StoreOptions) : Level := options.level?.getD .info

def reportsCategory (options : StoreOptions) (metric : Metric) : Bool :=
  if .all ∈ options.categories then true else metric.categories.any (· ∈ options.categories)

def reports (options : StoreOptions) (metric : Metric) : Bool :=
  options.level.includes metric.level && options.reportsCategory metric

def observation? (options : StoreOptions) (record : Record) : Option (Metric × Binary64) :=
  if options.reports record.metric then record.numeric?.map (record.metric, ·) else none

end StoreOptions

def bucketMillis : Binary64 := .ofNat 60000

/-- The start of the minute of an instant, in milliseconds. -/
def Instant.minute (time : Instant) : Binary64 := (time.toMillis / bucketMillis).floor * bucketMillis

/-- The aggregators of a minute under the ids of their keys. -/
abbrev Bucket := OrderedMap String Aggregator

structure Store where
  options : StoreOptions
  buckets : OrderedMap Binary64 Bucket

structure TimeBucket where
  time : Instant
  aggregators : List Aggregator

namespace Store

def empty (options : StoreOptions) : Store := ⟨options, .empty⟩

def addToBucket (options : StoreOptions) (key : AggregationKey) (value : Binary64) (bucket : Bucket) :
    Bucket :=
  bucket.upsert key.id fun aggregator => (aggregator.getD (.create options.detailed key)).add value

def addObservation (minute : Binary64) (dimensions : List Dimension) (store : Store)
    (observation : Metric × Binary64) : Store :=
  { store with
    buckets := store.buckets.upsert minute fun bucket =>
      addToBucket store.options ⟨observation.1, dimensions⟩ observation.2 (bucket.getD .empty) }

def observations (options : StoreOptions) (collection : Collection) : List (Metric × Binary64) :=
  collection.allRecords.filterMap options.observation?

def add (store : Store) (collection : Collection) : Store :=
  (observations store.options collection).foldl
    (addObservation collection.time.minute (collection.dimensions store.options.dimensions)) store

/-- Number of aggregators in all buckets. -/
def size (store : Store) : Nat := (store.buckets.values.map OrderedMap.size).foldl (· + ·) 0

/-- Buckets by ascending time. A bucket without a valid time is neither before nor after any other. -/
def timeBuckets (store : Store) : List TimeBucket :=
  (store.buckets.entries.mergeSort fun a b => !Binary64.lt b.1 a.1).map
    fun (minute, bucket) => ⟨.ofMillis minute, bucket.values⟩

def reset (store : Store) : Store := { store with buckets := .empty }

end Store
end MetricPipeline
