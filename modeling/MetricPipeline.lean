import MetricPipeline.AggregationKey
import MetricPipeline.Aggregator
import MetricPipeline.Batch
import MetricPipeline.Binary64.Arithmetic
import MetricPipeline.Binary64.Basic
import MetricPipeline.Binary64.Decimal
import MetricPipeline.Binary64.Numeral
import MetricPipeline.Collection
import MetricPipeline.Collector
import MetricPipeline.Connection
import MetricPipeline.Consumer.State
import MetricPipeline.Consumer.Step
import MetricPipeline.Duration
import MetricPipeline.Environment
import MetricPipeline.Fifo
import MetricPipeline.Histogram
import MetricPipeline.Instant
import MetricPipeline.Issue
import MetricPipeline.Limit
import MetricPipeline.LogLevel
import MetricPipeline.Logger
import MetricPipeline.Metric
import MetricPipeline.OrderedMap
import MetricPipeline.Publisher
import MetricPipeline.Registry
import MetricPipeline.Registry.BuiltIn
import MetricPipeline.Session
import MetricPipeline.Settings
import MetricPipeline.Store
import MetricPipeline.Summary
import MetricPipeline.Text.Blank
import MetricPipeline.Text.CharTable
import MetricPipeline.Text.CombiningClass
import MetricPipeline.Text.Composition
import MetricPipeline.Text.Digit
import MetricPipeline.Text.Direction
import MetricPipeline.Text.Form
import MetricPipeline.Text.Joining
import MetricPipeline.Text.Mark
import MetricPipeline.Text.Percent
import MetricPipeline.Text.Punycode
import MetricPipeline.Text.Quoted
import MetricPipeline.Text.Units
import MetricPipeline.Text.UpperCase
import MetricPipeline.Text.Utf8
import MetricPipeline.Timer
import MetricPipeline.Untyped
import MetricPipeline.Url
import MetricPipeline.Url.Domain.Label
import MetricPipeline.Url.Domain.Mapping
import MetricPipeline.Url.Host
import MetricPipeline.Proofs.Binary64.Rounding
import MetricPipeline.Proofs.Binary64.Whole
import MetricPipeline.Proofs.Instant
import MetricPipeline.Proofs.Measures
import MetricPipeline.Proofs.AggregationKey
import MetricPipeline.Proofs.Histogram
import MetricPipeline.Proofs.Aggregator
import MetricPipeline.Proofs.Store
import MetricPipeline.Proofs.Limit
import MetricPipeline.Proofs.Batch.Cut
import MetricPipeline.Proofs.Batch.Packing
import MetricPipeline.Proofs.Aggregation.History
import MetricPipeline.Proofs.Aggregation.Limits
import MetricPipeline.Proofs.Aggregation.Groups
import MetricPipeline.Proofs.Aggregation.Accounting
import MetricPipeline.Proofs.Consumer.Run
import MetricPipeline.Proofs.Consumer.Flow
import MetricPipeline.Proofs.Consumer.Order
import MetricPipeline.Proofs.Consumer.Flushes
import MetricPipeline.Proofs.Consumer.Steps
import MetricPipeline.Proofs.Consumer.ExactlyOnce
import MetricPipeline.Proofs.Registry
import MetricPipeline.Proofs.Binary64.Order
import MetricPipeline.Proofs.Grouping
import MetricPipeline.Proofs.Consumer.Uploads
import MetricPipeline.Proofs.Consumer.Delivery
import MetricPipeline.Proofs.Consumer.Shutdown
import MetricPipeline.Proofs.Consumer.FinalFlush
import MetricPipeline.Proofs.Consumer.Idle
import MetricPipeline.Proofs.Consumer.Lossless
import MetricPipeline.Proofs.Text.Units
import MetricPipeline.Proofs.Sorting
import MetricPipeline.Proofs.Dimensions
import MetricPipeline.Proofs.KeyIdentity
import MetricPipeline.Proofs.Aggregation.Safety
import MetricPipeline.Proofs.Binary64.Extremes
import MetricPipeline.Proofs.Binary64.WholeSum
import MetricPipeline.Proofs.Strategies
import MetricPipeline.Proofs.Narrowing
import MetricPipeline.Proofs.Commuting
import MetricPipeline.Proofs.Consumer.Core
import MetricPipeline.Proofs.Consumer.Schedule
import MetricPipeline.Proofs.Consumer.Independence
import MetricPipeline.Proofs.Text.Utf8
import MetricPipeline.Proofs.Text.Form
import MetricPipeline.Proofs.Url
import MetricPipeline.Proofs.ConnectionString
import MetricPipeline.Proofs.Checks
import MetricPipeline.Proofs.Settings
import MetricPipeline.Proofs.Text.Blank
import MetricPipeline.Proofs.Environment
import MetricPipeline.Proofs.Consumer.Stage
import MetricPipeline.Proofs.Consumer.Conclusion
import MetricPipeline.Proofs.Ownership
import MetricPipeline.Proofs.Shadowing
import MetricPipeline.Proofs.Aggregation.Tiling
import MetricPipeline.Proofs.Consumer.Settlement
import MetricPipeline.Proofs.Consumer.Late
import MetricPipeline.Proofs.Consumer.Discarded
import MetricPipeline.Proofs.Detail
import MetricPipeline.Proofs.Text.Listed
import MetricPipeline.Proofs.Located
import MetricPipeline.Proofs.VariableLists
import MetricPipeline.Proofs.Consumer.Capacity
import MetricPipeline.Proofs.Consumer.Reports
import MetricPipeline.Proofs.Minutes
import MetricPipeline.Proofs.DimensionLists
import MetricPipeline.Proofs.Collector.Calls
import MetricPipeline.Proofs.Aggregation.Termination
import MetricPipeline.Proofs.Definitions
import MetricPipeline.Proofs.Binary64.Nearest
import MetricPipeline.Proofs.Duration
import MetricPipeline.Proofs.Timer
