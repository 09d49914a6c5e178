import MetricPipeline.Proofs.Environment
import MetricPipeline.Proofs.Ownership

/-! Options come before the environment, and the environment before the defaults. A variable whose option is
given has no influence on the publisher, and a variable whose option is not given is in effect as it stands. -/

namespace MetricPipeline

/-- The variables that a publisher is built from. -/
inductive Variable where
  | namespaceName
  | publishFrequencyMs
  | queueSize
  | dimensions
  | categories
  | level
  | detailed
  | connection
  | logLevel

def Variable.key : Variable → String
  | namespaceName => Environment.namespaceKey
  | publishFrequencyMs => Environment.frequencyKey
  | queueSize => Environment.queueSizeKey
  | dimensions => Environment.dimensionsKey
  | categories => Environment.categoriesKey
  | level => Environment.levelKey
  | detailed => Environment.detailedKey
  | connection => Environment.connectionKey
  | logLevel => Environment.logLevelKey

namespace PublisherOptions

/-- Environments that are the same in all that options do not give. -/
structure Agree (options : PublisherOptions) (a b : Environment) : Prop where
  namespaceName : options.namespaceName = .undefined → a.namespaceName? = b.namespaceName?
  publishFrequencyMs : options.publishFrequencyMs = .undefined →
    a.publishFrequencyMs? = b.publishFrequencyMs?
  queueSize : options.metricQueueSize = .undefined → a.queueSize? = b.queueSize?
  dimensions : options.dimensions? = none → a.dimensions? = b.dimensions?
  categories : options.metricCategories = .undefined → a.categories? = b.categories?
  level : options.metricLevel = .undefined → a.level? = b.level?
  detailed : options.detailed? = none → a.detailed? = b.detailed?
  connection : options.uploader? = none → options.client? = none → options.connection? = none →
    a.connection? = b.connection?
  logLevel : options.logLevel = .undefined → a.logLevel? = b.logLevel?

theorem some_orElse_congr {α : Type} {option? a b : Option α} (h : option? = none → a = b) :
    (option? <|> a) = (option? <|> b) := by
  cases option? with
  | none => rw [h rfl]
  | some value => rfl

variable {options : PublisherOptions} {a b : Environment}

/-- A connection is looked for only where there is neither an uploader nor a client. -/
theorem Agree.uploader_eq (h : options.Agree a b) :
    Uploader.ofOptions (options.withEnvironment a) = Uploader.ofOptions (options.withEnvironment b) := by
  unfold Uploader.ofOptions withEnvironment
  dsimp only
  cases huploader : options.uploader? with
  | some callFailure => rfl
  | none =>
    cases hclient : options.client? with
    | some client => rfl
    | none =>
      rw [some_orElse_congr fun hnone =>
        congrArg (Option.map ConnectionSource.text) (h.connection huploader hclient hnone)]

/-- Where an option is not given, the value is that of the variable, or else the default; where it is, the
value is the one that was given. -/
def Takes {α : Type} (option : Untyped) (read? : Option α) (default given value : α) : Prop :=
  (option = .undefined → value = read?.getD default) ∧ (option ≠ .undefined → value = given)

end PublisherOptions

namespace Publisher

open PublisherOptions

end Publisher
end MetricPipeline
