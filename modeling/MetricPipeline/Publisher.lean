import MetricPipeline.Connection
import MetricPipeline.Consumer.Step
import MetricPipeline.Environment
import MetricPipeline.Registry.BuiltIn

/-! A publisher is a consumer with what it uploads through: an uploader of the caller's, which is never
closed, or a connection, which the consumer closes. Publishers are built from options, which are checked,
or from environment variables, which given options override. -/

namespace MetricPipeline

inductive ConnectionSource where
  | config (config : ConnectionConfig)
  | text (text : String)

/-- The settings among the options are checked when the publisher is built; undefined ones are not
given. -/
structure PublisherOptions where
  /-- An uploader of the caller's: which of its calls fail at once. -/
  uploader? : Option (Nat → Option String) := none
  /-- A client of the caller's: what it was built with. -/
  client? : Option ConnectionConfig := none
  connection? : Option ConnectionSource := none
  dimensions? : Option (List Metric) := none
  detailed? : Option (List Metric) := none
  namespaceName : Untyped := .undefined
  publishFrequencyMs : Untyped := .undefined
  metricQueueSize : Untyped := .undefined
  shutdownTimeoutMs : Untyped := .undefined
  metricCategories : Untyped := .undefined
  metricLevel : Untyped := .undefined
  maxMetricDataPerRequest : Untyped := .undefined
  maxValuesPerRequest : Untyped := .undefined
  logLevel : Untyped := .undefined

inductive PublisherError where
  | invalid (issues : List Issue)
  | connection (error : ConnectionError)
deriving DecidableEq

namespace PublisherOptions

/-- The settings among the options, as they are checked. -/
def settings (options : PublisherOptions) : Untyped :=
  .object [
    ("namespace", options.namespaceName),
    ("publishFrequencyMs", options.publishFrequencyMs),
    ("metricQueueSize", options.metricQueueSize),
    ("shutdownTimeoutMs", options.shutdownTimeoutMs),
    ("metricCategories", options.metricCategories),
    ("metricLevel", options.metricLevel),
    ("maxMetricDataPerRequest", options.maxMetricDataPerRequest),
    ("maxValuesPerRequest", options.maxValuesPerRequest),
    ("logLevel", options.logLevel)]

def storeOptions (options : PublisherOptions) (settings : Settings) : StoreOptions where
  dimensions := options.dimensions?.getD Registry.defaultDimensions
  categories := settings.metricCategories
  level? := some settings.metricLevel
  detailed := options.detailed?.getD []

def given {α : Type} (encode : α → Untyped) : Option α → Untyped
  | some a => encode a
  | none => .undefined

def orElse : Untyped → Untyped → Untyped
  | .undefined, other => other
  | value, _ => value

/-- Options that take from an environment what they do not give themselves. -/
def withEnvironment (options : PublisherOptions) (environment : Environment) : PublisherOptions :=
  { options with
    connection? := options.connection? <|> environment.connection?.map ConnectionSource.text
    dimensions? := options.dimensions? <|> environment.dimensions?
    detailed? := options.detailed? <|> environment.detailed?
    namespaceName := orElse options.namespaceName (given .string environment.namespaceName?)
    publishFrequencyMs := orElse options.publishFrequencyMs (given .number environment.publishFrequencyMs?)
    metricQueueSize := orElse options.metricQueueSize (given .number environment.queueSize?)
    metricCategories := orElse options.metricCategories
      (given (fun categories => .array (categories.map fun c => .string c.name)) environment.categories?)
    metricLevel := orElse options.metricLevel (given (.string ·.name) environment.level?)
    logLevel := orElse options.logLevel (given (.string ·.name) environment.logLevel?) }

end PublisherOptions

inductive Uploader where
  /-- The caller's own, with the number of times it was closed. -/
  | own (closes : Nat)
  | connection (connection : Connection)

namespace Uploader

def close : Uploader → Uploader
  | own closes => own (closes + 1)
  | connection c => connection c.close

/-- The uploader that options ask for. A client of the caller's comes before a connection. -/
def ofOptions (options : PublisherOptions) : Except ConnectionError Uploader :=
  match options.uploader?, options.client?, options.connection? with
  | some _, _, _ => .ok (.own 0)
  | none, some client, _ => .ok (.connection (.ofClient client))
  | none, none, some (.text text) => (Connection.ofString text).map .connection
  | none, none, some (.config config) => (Connection.create config).map .connection
  | none, none, none => (Connection.create {}).map .connection

end Uploader

structure Publisher where
  consumer : Consumer
  uploader : Uploader
  /-- The part of the program that the consumer's log lines name. -/
  component? : Option String

structure LogLine where
  level : LogLevel
  component? : Option String
  fields : List (String × LogField)
  message : String
deriving DecidableEq

namespace Publisher

def component : String := "MetricConsumer"

def consumerOptions (options : PublisherOptions) (settings : Settings) : ConsumerOptions where
  ownsUploader := options.uploader?.isNone
  metricQueueSize := settings.metricQueueSize
  publishFrequencyMs := settings.publishFrequencyMs
  shutdownTimeoutMs := settings.shutdownTimeoutMs
  callFailure := options.uploader?.getD fun _ => none

def aggregation (options : PublisherOptions) (settings : Settings) : Aggregation :=
  .create settings.namespaceName (options.storeOptions settings) settings.maxMetricDataPerRequest?
    settings.maxValuesPerRequest?

/-- The line that tells of a new publisher. -/
def startLine (settings : Settings) : LogLine where
  level := .debug
  component? := none
  fields := [("namespace", .text settings.namespaceName),
    ("publishFrequencyMs", .number settings.publishFrequencyMs),
    ("metricQueueSize", .number settings.metricQueueSize)]
  message := "CloudWatch metric publisher started"

/-- The publisher for options, and the line it logs. Settings are checked before the connection. -/
def create (options : PublisherOptions) (now : Binary64) : Except PublisherError (Publisher × LogLine) :=
  match Settings.parse options.settings with
  | .error issues => .error (.invalid issues)
  | .ok settings =>
    match Uploader.ofOptions options with
    | .error error => .error (.connection error)
    | .ok uploader =>
      let consumer := Consumer.create (consumerOptions options settings) (aggregation options settings) now
      .ok (⟨consumer, uploader, some component⟩, startLine settings)

/-- The publisher for an environment, as far as the options do not say otherwise. -/
def ofEnvironment (registry : Registry) (source : Untyped) (options : PublisherOptions)
    (now : Binary64) : Except PublisherError (Publisher × LogLine) :=
  match Environment.parse registry source with
  | .error issues => .error (.invalid issues)
  | .ok environment => create (options.withEnvironment environment) now

def closeUploaderFor (uploader : Uploader) : Effect → Uploader
  | .closeUploader => uploader.close
  | _ => uploader

def step (publisher : Publisher) (event : Consumer.Event) : Publisher × List Effect :=
  let (consumer, effects) := publisher.consumer.step event
  ({ publisher with consumer, uploader := effects.foldl closeUploaderFor publisher.uploader }, effects)

def line (publisher : Publisher) (notice : Notice) : LogLine where
  level := notice.level
  component? := publisher.component?
  fields := notice.fields
  message := notice.message

end Publisher
end MetricPipeline
