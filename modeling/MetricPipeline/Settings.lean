import MetricPipeline.Issue
import MetricPipeline.LogLevel
import MetricPipeline.Metric

/-! The settings of a publisher, checked field by field in the order of the record; what is not given takes
its default. -/

namespace MetricPipeline

structure Settings where
  namespaceName : String
  publishFrequencyMs : Binary64
  metricQueueSize : Binary64
  shutdownTimeoutMs : Binary64
  metricCategories : List Category
  metricLevel : Level
  maxMetricDataPerRequest? : Option Binary64
  maxValuesPerRequest? : Option Binary64
  logLevel : LogLevel
deriving DecidableEq

namespace Settings

def defaultNamespace : String := "BatchMetrics/Client"

def defaultMetricQueueSize : Nat := 10000

def defaultPublishFrequencyMs : Nat := 60000

def defaultShutdownTimeoutMs : Nat := 5000

/-- The longest delay that a timer takes. -/
def maxPublishFrequencyMs : Nat := 2147483647

def defaults : Settings where
  namespaceName := defaultNamespace
  publishFrequencyMs := .ofNat defaultPublishFrequencyMs
  metricQueueSize := .ofNat defaultMetricQueueSize
  shutdownTimeoutMs := .ofNat defaultShutdownTimeoutMs
  metricCategories := [.all]
  metricLevel := .info
  maxMetricDataPerRequest? := none
  maxValuesPerRequest? := none
  logLevel := .info

def frequencyRule : NumberRule := ⟨0, true, some maxPublishFrequencyMs⟩

def queueSizeRule : NumberRule := ⟨0, true, none⟩

def timeoutRule : NumberRule := ⟨0, false, none⟩

def dataLimitRule : NumberRule := ⟨1, false, some 20⟩

def valuesLimitRule : NumberRule := ⟨1, false, some 300⟩

def checkCategory (path : List PathStep) (i : Nat) (value : Untyped) : Checked Category :=
  value.checkOption (path ++ [.index i]) Category.values Category.name

/-- At least one category; the items are checked first. -/
def checkCategories (path : List PathStep) : Untyped → Checked (List Category)
  | .array items =>
    match Checked.items (checkCategory path) 0 items with
    | .ok [] => .fault path .emptyArray
    | checked => checked
  | value => .fault path (.wrongKind .array value.kind)

section
open Untyped

def checkFields (field : String → Untyped) : Checked Settings :=
  Checked.and (.ok Settings.mk)
      (withDefault defaults.namespaceName (checkString [.key "namespace"] emptyFaults)
        (field "namespace"))
    |>.and (withDefault defaults.publishFrequencyMs (frequencyRule.check [.key "publishFrequencyMs"])
      (field "publishFrequencyMs"))
    |>.and (withDefault defaults.metricQueueSize (queueSizeRule.check [.key "metricQueueSize"])
      (field "metricQueueSize"))
    |>.and (withDefault defaults.shutdownTimeoutMs (timeoutRule.check [.key "shutdownTimeoutMs"])
      (field "shutdownTimeoutMs"))
    |>.and (withDefault defaults.metricCategories (checkCategories [.key "metricCategories"])
      (field "metricCategories"))
    |>.and (withDefault defaults.metricLevel (checkOption [.key "metricLevel"] Level.values Level.name)
      (field "metricLevel"))
    |>.and (optional (dataLimitRule.check [.key "maxMetricDataPerRequest"])
      (field "maxMetricDataPerRequest"))
    |>.and (optional (valuesLimitRule.check [.key "maxValuesPerRequest"]) (field "maxValuesPerRequest"))
    |>.and (withDefault defaults.logLevel (checkOption [.key "logLevel"] LogLevel.values LogLevel.name)
      (field "logLevel"))

end

def parse : Untyped → Checked Settings
  | .object fields => checkFields (Untyped.field fields)
  | value => .fault [] (.wrongKind .object value.kind)

def optionalNumber : Option Binary64 → Untyped
  | some x => .number x
  | none => .undefined

/-- Settings as the object that they are read from. -/
def toUntyped (settings : Settings) : Untyped :=
  .object [
    ("namespace", .string settings.namespaceName),
    ("publishFrequencyMs", .number settings.publishFrequencyMs),
    ("metricQueueSize", .number settings.metricQueueSize),
    ("shutdownTimeoutMs", .number settings.shutdownTimeoutMs),
    ("metricCategories", .array (settings.metricCategories.map fun c => .string c.name)),
    ("metricLevel", .string settings.metricLevel.name),
    ("maxMetricDataPerRequest", optionalNumber settings.maxMetricDataPerRequest?),
    ("maxValuesPerRequest", optionalNumber settings.maxValuesPerRequest?),
    ("logLevel", .string settings.logLevel.name)]

end Settings
end MetricPipeline
