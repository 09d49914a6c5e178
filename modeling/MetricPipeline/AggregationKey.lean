import MetricPipeline.Collection
import MetricPipeline.Text.Quoted

/-! What observations are grouped by: a metric and a list of dimensions. The id writes both down as one
text, in which each name and value is quoted, and stands for the key wherever keys are looked up. -/

namespace MetricPipeline

structure AggregationKey where
  metric : Metric
  dimensions : List Dimension
deriving DecidableEq

namespace AggregationKey

def dimensionText (dimension : Dimension) : List Char :=
  Text.bracket [Text.quote dimension.name, Text.quote dimension.value]

/-- The array of the metric's name and of the pairs of name and value of the dimensions. -/
def idText (key : AggregationKey) : List Char :=
  Text.bracket (Text.quote key.metric.name :: key.dimensions.map dimensionText)

def id (key : AggregationKey) : String := String.ofList key.idText

/-- Keys are equal when they are for the same metric and have the same id. -/
def equals (a b : AggregationKey) : Bool := a.metric = b.metric && a.id = b.id

end AggregationKey
end MetricPipeline
