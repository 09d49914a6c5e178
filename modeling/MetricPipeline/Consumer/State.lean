import MetricPipeline.Batch
import MetricPipeline.Fifo
import MetricPipeline.LogLevel
import MetricPipeline.Timer

/-! The consumer feeds collections into an aggregation through a queue of tasks that run one at a time,
and drains the aggregation into uploads. It lives in an event loop: a job runs to its end before the next
one starts, and what a job brings about is put behind the jobs that are there. Timers, and flushes that
wait for room in the queue, get their turn only when there is no job. -/

namespace MetricPipeline

inductive Failure where
  | raised (message : String)
  | aggregation (error : AggregationError)
deriving DecidableEq

def Failure.message : Failure → String
  | raised message => message
  | aggregation error => error.message

/-- What is published: a collection, or one that fails when its time is read. -/
inductive Submission where
  | collection (collection : Collection)
  | unreadable (message : String)

/-- Who asked for a flush. -/
inductive FlushOrigin where
  | manual
  | scheduled
  | final
deriving DecidableEq

structure Flush where
  id : Nat
  origin : FlushOrigin
deriving DecidableEq

/-- Scheduled and final flushes are those that a shutdown waits for. -/
def Flush.tracked (flush : Flush) : Bool := flush.origin ≠ .manual

structure FlushResult where
  requests : Nat
  succeeded : Nat
  failed : Nat
deriving DecidableEq

inductive Task where
  | add (submission : Submission)
  | drain (flush : Flush)

/-- How an upload or the closing of the uploader ended. -/
inductive Outcome where
  | fulfilled
  | rejected (error : Failure)
deriving DecidableEq

/-- What users of a consumer can do. -/
inductive Call where
  | publish (submission : Submission)
  | flush
  | close

inductive Action where
  /-- Starts the next task unless one is running. -/
  | startNext
  /-- Ends the task that is running and starts the next one. -/
  | release
  | addFailed (error : Failure)
  | upload (flush : Flush) (drained : Except AggregationError (List Request))
  | arrived (flush : Flush) (index : Nat) (outcome : Outcome)
  | report (flush : Flush)
  | resolve (flush : Flush) (result : FlushResult)
  | reject (flush : Flush) (error : Failure)
  | untrack (flush : Flush)
  | flushFailed (flush : Flush) (error : Failure)
  /-- One of the flushes that a shutdown waits for has ended. -/
  | waited (flush : Flush)
  | allWaited
  /-- The flushes and the timeout race to end the wait; the first one counts. -/
  | race (finished : Bool)
  | clearTimeout (finished : Bool)
  | finishClose (finished : Bool)
  | uploaderClosed (outcome : Outcome)
  /-- A flush that waited looks for room in the queue again. -/
  | recheck (flush : Flush)
  | calls (calls : List Call)

/-- A job to be done when all jobs before it are, and put back behind all others `delay` times first. -/
structure Job where
  delay : Nat
  action : Action

inductive Notice where
  | droppedClosed
  | droppedFull (metricQueueSize : Binary64)
  | addFailed (error : Failure)
  | scheduledFlushFailed (error : Failure)
  | finalFlushFailed (error : Failure)
  | uploadsFailed (result : FlushResult) (error : Failure)
  | uploaded (result : FlushResult)
  | timedOut (shutdownTimeoutMs : Binary64) (pending : Nat)
deriving DecidableEq

/-- What happens in a step, as seen from outside the queue and from outside the consumer. -/
inductive Effect where
  | flushCalled (flush : Flush)
  | closeCalled (call : Nat)
  | queued (task : Task)
  | refused (submission : Submission)
  | executed (task : Task)
  | discarded (tasks : List Task)
  | log (notice : Notice)
  | upload (id : Nat) (flush : Flush) (request : Request)
  | flushed (flush : Flush) (result : Except Failure FlushResult)
  | closeUploader
  | closed (call : Nat) (outcome : Outcome)

/-- The uploads of one flush, those whose end has arrived with their outcome. -/
structure UploadBatch where
  flush : Flush
  /-- Id of the first upload; the others follow it. -/
  first : Nat
  outcomes : List (Option Outcome)

namespace UploadBatch

/-- Notes the outcome of an upload in the batch of its flush. -/
def arrive (flush : Flush) (index : Nat) (outcome : Outcome) (batch : UploadBatch) : UploadBatch :=
  if batch.flush = flush then { batch with outcomes := batch.outcomes.set index (some outcome) }
  else batch

def complete (batch : UploadBatch) : Bool := batch.outcomes.all Option.isSome

def contains (id : Nat) (batch : UploadBatch) : Bool :=
  batch.first ≤ id && id < batch.first + batch.outcomes.length

end UploadBatch

/-- A shutdown under way. -/
structure Closing where
  call : Nat
  waitingFor : List Flush
  raced : Bool
  awaitsUploader : Bool
deriving DecidableEq

structure ConsumerOptions where
  ownsUploader : Bool
  metricQueueSize : Binary64
  publishFrequencyMs : Binary64
  shutdownTimeoutMs : Binary64
  /-- Which calls of the uploader fail at once, by the number of the upload, and with which message. -/
  callFailure : Nat → Option String

/-- The moment at which a timer is due, if it is on, where timers run for the `delay` of what they are given. -/
def Timer.due? (delay : Binary64 → Binary64) (options : ConsumerOptions) : Timer → Option Binary64
  | off => none
  | interval since => some (since + delay options.publishFrequencyMs)
  | timeout since => some (since + delay options.shutdownTimeoutMs)

structure Consumer where
  options : ConsumerOptions
  aggregation : Aggregation
  /-- Tasks that have not started. -/
  queue : Fifo Task
  running : Bool
  jobs : Fifo Job
  /-- Flushes that wait for room in the queue. -/
  waiting : List Flush
  nextFlush : Nat
  nextClose : Nat
  nextUpload : Nat
  /-- Uploads that have not ended. -/
  unsettled : List Nat
  batches : List UploadBatch
  /-- Tracked flushes that have not ended. -/
  inFlight : List Flush
  closed : Bool
  closing : Option Closing
  timer : Timer
  /-- The time that the clock of the event loop shows, in milliseconds. -/
  now : Binary64

namespace Consumer

def create (options : ConsumerOptions) (aggregation : Aggregation) (now : Binary64) : Consumer where
  options
  aggregation
  queue := .empty
  running := false
  jobs := .empty
  waiting := []
  nextFlush := 0
  nextClose := 0
  nextUpload := 0
  unsettled := []
  batches := []
  inFlight := []
  closed := false
  closing := none
  timer := .interval now
  now

end Consumer

namespace Notice

def level : Notice → LogLevel
  | droppedClosed | droppedFull _ | uploadsFailed _ _ | timedOut _ _ => .warn
  | addFailed _ | scheduledFlushFailed _ | finalFlushFailed _ => .error
  | uploaded _ => .debug

def message : Notice → String
  | droppedClosed => "Metric collection dropped because the consumer is closed"
  | droppedFull _ => "Metric collection dropped because the metric queue is full"
  | addFailed _ => "Failed to aggregate metric collection"
  | scheduledFlushFailed _ => "Scheduled metric flush failed"
  | finalFlushFailed _ => "Final metric flush failed"
  | uploadsFailed _ _ => "Failed to publish some metric requests"
  | uploaded _ => "Published metric requests"
  | timedOut _ _ => "Timed out waiting for metric uploads to finish"

end Notice

/-- A field of a log line. -/
inductive LogField where
  | number (x : Binary64)
  | text (s : String)
  | failure (error : Failure)
deriving DecidableEq

namespace Notice

def resultFields (result : FlushResult) : List (String × LogField) :=
  [("requests", .number (.ofNat result.requests)), ("succeeded", .number (.ofNat result.succeeded)),
   ("failed", .number (.ofNat result.failed))]

def fields : Notice → List (String × LogField)
  | droppedClosed => []
  | droppedFull metricQueueSize => [("metricQueueSize", .number metricQueueSize)]
  | addFailed error | scheduledFlushFailed error | finalFlushFailed error => [("error", .failure error)]
  | uploadsFailed result error => resultFields result ++ [("error", .failure error)]
  | uploaded result => resultFields result
  | timedOut shutdownTimeoutMs pending =>
    [("shutdownTimeoutMs", .number shutdownTimeoutMs), ("pending", .number (.ofNat pending))]

end Notice
end MetricPipeline
