/-! Metrics: what can be reported, at which level of detail and under which categories. -/

namespace MetricPipeline

inductive Category where
  | core
  | httpClient
  | custom
  | all
deriving DecidableEq

/-- Levels from most to least detailed. -/
inductive Level where
  | trace
  | info
  | error
deriving DecidableEq

inductive ValueType where
  | string
  | number
  | boolean
  | duration
deriving DecidableEq

structure Metric where
  name : String
  valueType : ValueType
  level : Level
  categories : List Category
deriving DecidableEq

namespace Category

def values : List Category := [core, httpClient, custom, all]

def name : Category → String
  | core => "Core"
  | httpClient => "HttpClient"
  | custom => "Custom"
  | all => "All"

def ofName? (s : String) : Option Category := values.find? (·.name = s)

/-- The categories of a metric: the given ones without repeats, and `all`. -/
def closure (given : List Category) : List Category := (given ++ [all]).eraseDups

end Category

namespace Level

def values : List Level := [trace, info, error]

def name : Level → String
  | trace => "Trace"
  | info => "Info"
  | error => "Error"

def ofName? (s : String) : Option Level := values.find? (·.name = s)

def rank : Level → Nat
  | trace => 0
  | info => 1
  | error => 2

/-- Whether metrics of `level` are reported where `configured` is the most detailed level. -/
def includes (configured level : Level) : Bool := configured.rank ≤ level.rank

end Level

namespace ValueType

def values : List ValueType := [string, number, boolean, duration]

def name : ValueType → String
  | string => "string"
  | number => "number"
  | boolean => "boolean"
  | duration => "duration"

def ofName? (s : String) : Option ValueType := values.find? (·.name = s)

end ValueType

/-- Unit in which the values of a metric are uploaded. -/
inductive MeasureUnit where
  | milliseconds
  | none
deriving DecidableEq

def MeasureUnit.name : MeasureUnit → String
  | .milliseconds => "Milliseconds"
  | .none => "None"

def Metric.unit (metric : Metric) : MeasureUnit :=
  if metric.valueType = .duration then .milliseconds else .none

end MetricPipeline
