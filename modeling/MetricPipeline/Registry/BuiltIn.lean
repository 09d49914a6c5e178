import MetricPipeline.Registry

/-! The metrics that every registry starts with: those of any call to a service, and those of HTTP
clients. -/

namespace MetricPipeline.Registry

def coreMetric (name : String) (valueType : ValueType) (level : Level) : Metric :=
  ⟨name, valueType, level, Category.closure [.core]⟩

def httpMetric (name : String) (valueType : ValueType) (level : Level) : Metric :=
  ⟨name, valueType, level, Category.closure [.httpClient]⟩

def serviceId : Metric := coreMetric "ServiceId" .string .error

def operationName : Metric := coreMetric "OperationName" .string .error

def coreMetrics : List Metric := [
  serviceId,
  operationName,
  coreMetric "ApiCallSuccessful" .boolean .error,
  coreMetric "ApiCallDuration" .duration .info,
  coreMetric "RetryCount" .number .error,
  coreMetric "ServiceCallDuration" .duration .info]

def httpMetrics : List Metric := [
  httpMetric "HttpClientName" .string .info,
  httpMetric "MaxConcurrency" .number .info,
  httpMetric "AvailableConcurrency" .number .info,
  httpMetric "LeasedConcurrency" .number .info,
  httpMetric "PendingConcurrencyAcquires" .number .info,
  httpMetric "HttpStatusCode" .number .trace]

/-- The metrics that become dimensions unless others are named. -/
def defaultDimensions : List Metric := [serviceId, operationName]

def builtIn : Registry := ⟨coreMetrics ++ httpMetrics, by decide⟩

end MetricPipeline.Registry
