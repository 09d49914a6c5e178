import MetricPipeline.Registry
import MetricPipeline.Settings
import MetricPipeline.Text.Blank

/-! Settings read from environment variables. Lists are split at commas; numbers are read from text, as
is anything else that stands where a number is expected. -/

namespace MetricPipeline

structure Environment where
  namespaceName? : Option String
  publishFrequencyMs? : Option Binary64
  queueSize? : Option Binary64
  dimensions? : Option (List Metric)
  categories? : Option (List Category)
  level? : Option Level
  detailed? : Option (List Metric)
  connection? : Option String
  logLevel? : Option LogLevel
deriving DecidableEq

namespace Environment

def namespaceKey : String := "CLOUDWATCH_METRICS_NAMESPACE"

def frequencyKey : String := "CLOUDWATCH_METRICS_PUBLISH_FREQUENCY_MS"

def queueSizeKey : String := "CLOUDWATCH_METRICS_QUEUE_SIZE"

def dimensionsKey : String := "CLOUDWATCH_METRICS_DIMENSIONS"

def categoriesKey : String := "CLOUDWATCH_METRICS_CATEGORIES"

def levelKey : String := "CLOUDWATCH_METRICS_LEVEL"

def detailedKey : String := "CLOUDWATCH_METRICS_DETAILED"

def connectionKey : String := "CLOUDWATCH_METRICS_CONNECTION"

def logLevelKey : String := "LOG_LEVEL"

def connectionScheme : String := "cloudwatch://"

/-- The metrics that are defined among some names, and a fault for each other name. -/
def findMetrics (registry : Registry) (names : List String) : List Metric × List Fault :=
  (names.filterMap registry.find?,
    (names.filter fun name => (registry.find? name).isNone).map Fault.unknownMetric)

/-- A fault for each metric whose values are not strings. -/
def stringFaults (metrics : List Metric) : List Fault :=
  (metrics.filter (·.valueType ≠ .string)).map fun metric => .notStringMetric metric.name

def checkDetailed (registry : Registry) (list : String) : Checked (List Metric) :=
  let (metrics, unknown) := findMetrics registry (Text.commaList list)
  .ofFaults [.key detailedKey] unknown metrics

/-- The types of the metrics that were found are checked also when others are unknown. -/
def checkDimensions (registry : Registry) (list : String) : Checked (List Metric) :=
  let (metrics, unknown) := findMetrics registry (Text.commaList list)
  .ofFaults [.key dimensionsKey] (unknown ++ stringFaults metrics) metrics

def checkCategories (list : String) : Checked (List Category) :=
  Checked.items (Settings.checkCategory [.key categoriesKey]) 0 ((Text.commaList list).map .string)

def checkList {α : Type} (key : String) (check : String → Checked α) : Untyped → Checked α
  | .string s => check s
  | value => .fault [.key key] (.wrongKind .string value.kind)

/-- A value that is not taken for any number is checked as it stands. -/
def checkNumber (key : String) (rule : NumberRule) (value : Untyped) : Checked Binary64 :=
  rule.check [.key key] ((value.toNumber?.map .number).getD value)

def startFaults (s : String) : List Fault :=
  if connectionScheme.toList.isPrefixOf s.toList then [] else [.badStart connectionScheme]

section
open Untyped

def checkFields (registry : Registry) (field : String → Untyped) : Checked Environment :=
  Checked.and (.ok Environment.mk)
      (optional (checkString [.key namespaceKey] emptyFaults) (field namespaceKey))
    |>.and (optional (checkNumber frequencyKey Settings.frequencyRule) (field frequencyKey))
    |>.and (optional (checkNumber queueSizeKey Settings.queueSizeRule) (field queueSizeKey))
    |>.and (optional (checkList dimensionsKey (checkDimensions registry)) (field dimensionsKey))
    |>.and (optional (checkList categoriesKey checkCategories) (field categoriesKey))
    |>.and (optional (checkOption [.key levelKey] Level.values Level.name) (field levelKey))
    |>.and (optional (checkList detailedKey (checkDetailed registry)) (field detailedKey))
    |>.and (optional (checkString [.key connectionKey] startFaults) (field connectionKey))
    |>.and (optional (checkOption [.key logLevelKey] LogLevel.values LogLevel.name)
      (field logLevelKey))

end

def parse (registry : Registry) : Untyped → Checked Environment
  | .object fields => checkFields registry (Untyped.field fields)
  | value => .fault [] (.wrongKind .object value.kind)

end Environment
end MetricPipeline
