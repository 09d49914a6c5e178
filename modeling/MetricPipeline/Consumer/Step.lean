import MetricPipeline.Consumer.State

/-! What the consumer does at each event. User code calls the consumer at the start of a turn of the event
loop, or in a job; uploads, and the closing of the uploader, end at any time. -/

namespace MetricPipeline.Consumer

/-- Puts an action behind all jobs, and `delay` times behind those that come until its turn. -/
def later (consumer : Consumer) (delay : Nat) (action : Action) : Consumer :=
  { consumer with jobs := consumer.jobs.push ⟨delay, action⟩ }

def isFull (consumer : Consumer) : Bool :=
  consumer.options.metricQueueSize.le (.ofNat consumer.queue.size)

def enqueue (consumer : Consumer) (task : Task) : Consumer × List Effect :=
  (({ consumer with queue := consumer.queue.push task }).later 0 .startNext, [.queued task])

/-- Runs a task to its end. What waits for the task hears of it before the next one can start. -/
def execute (consumer : Consumer) : Task → Consumer × List Effect
  | task@(.add (.collection collection)) =>
    (({ consumer with running := true, aggregation := consumer.aggregation.add collection }).later 0
      .release, [.executed task])
  | task@(.add (.unreadable message)) =>
    ((({ consumer with running := true }).later 2 (.addFailed (.raised message))).later 0 .release,
      [.executed task])
  | task@(.drain flush) =>
    let (drained, aggregation) := consumer.aggregation.drain
    ((({ consumer with running := true, aggregation }).later 2 (.upload flush drained)).later 0 .release,
      [.executed task])

def startTask (consumer : Consumer) : Consumer × List Effect :=
  match consumer.queue.pop? with
  | none => (consumer, [])
  | some (task, queue) => execute { consumer with queue } task

/-! Calls -/

/-- Takes a submission, unless the consumer is closed or its queue is full. -/
def publish (consumer : Consumer) (submission : Submission) : Consumer × List Effect :=
  if consumer.closed then (consumer, [.refused submission, .log .droppedClosed])
  else if consumer.isFull then
    (consumer, [.refused submission, .log (.droppedFull consumer.options.metricQueueSize)])
  else consumer.enqueue (.add submission)

/-- Queues the drain of a flush, which waits while there is no room. -/
def beginFlush (consumer : Consumer) (flush : Flush) : Consumer × List Effect :=
  if consumer.isFull then ({ consumer with waiting := consumer.waiting ++ [flush] }, [])
  else consumer.enqueue (.drain flush)

/-- A new flush, the tracked ones among those in flight. -/
def flush (consumer : Consumer) (origin : FlushOrigin) : Consumer × List Effect :=
  let flush : Flush := ⟨consumer.nextFlush, origin⟩
  let (consumer, effects) := ({ consumer with nextFlush := consumer.nextFlush + 1 }).beginFlush flush
  (if flush.tracked then { consumer with inFlight := consumer.inFlight ++ [flush] } else consumer,
    .flushCalled flush :: effects)

/-- The first call stops the timer, flushes what is left and waits for all tracked flushes, but not
longer than the timeout; any further call does nothing. -/
def close (consumer : Consumer) : Consumer × List Effect :=
  let call := consumer.nextClose
  let consumer := { consumer with nextClose := call + 1 }
  if consumer.closed then (consumer, [.closeCalled call, .closed call .fulfilled])
  else
    let (consumer, effects) := ({ consumer with closed := true, timer := .off }).flush .final
    ({ consumer with
      closing := some ⟨call, consumer.inFlight, false, false⟩
      timer := .timeout consumer.now },
      .closeCalled call :: effects)

def call (consumer : Consumer) : Call → Consumer × List Effect
  | .publish submission => consumer.publish submission
  | .flush => consumer.flush .manual
  | .close => consumer.close

def callAll (consumer : Consumer) : List Call → Consumer × List Effect
  | [] => (consumer, [])
  | first :: rest =>
    let (consumer, effects) := consumer.call first
    let (consumer, more) := consumer.callAll rest
    (consumer, effects ++ more)

/-! Uploads -/

/-- Calls the uploader for each request until a call fails: the uploads, how many calls went well, and the
failure. -/
def callUploads (callFailure : Nat → Option String) (flush : Flush) :
    Nat → List Request → List Effect × Nat × Option String
  | _, [] => ([], 0, none)
  | id, request :: rest =>
    match callFailure id with
    | some message => ([.upload id flush request], 0, some message)
    | none =>
      let (effects, started, failure) := callUploads callFailure flush (id + 1) rest
      (.upload id flush request :: effects, started + 1, failure)

/-- Uploads the requests of a drain. A call that fails at once ends the flush, and the requests after it
are not uploaded. -/
def upload (consumer : Consumer) (flush : Flush) (requests : List Request) : Consumer × List Effect :=
  let first := consumer.nextUpload
  let (effects, started, failure) := callUploads consumer.options.callFailure flush first requests
  let consumer := { consumer with
    nextUpload := first + effects.length
    unsettled := consumer.unsettled ++ List.range' first started }
  match failure with
  | some message => (consumer.later 1 (.reject flush (.raised message)), effects)
  | none =>
    let batch : UploadBatch := ⟨flush, first, List.replicate started none⟩
    let consumer := { consumer with batches := consumer.batches ++ [batch] }
    (if started = 0 then consumer.later 0 (.report flush) else consumer, effects)

def arrived (consumer : Consumer) (flush : Flush) (index : Nat) (outcome : Outcome) : Consumer :=
  let batches := consumer.batches.map (UploadBatch.arrive flush index outcome)
  let consumer := { consumer with batches }
  match batches.find? (·.flush = flush) with
  | some batch => if batch.complete then consumer.later 0 (.report flush) else consumer
  | none => consumer

def failures (outcomes : List (Option Outcome)) : List Failure :=
  outcomes.filterMap fun
    | some (.rejected error) => some error
    | _ => none

def resultOf (outcomes : List (Option Outcome)) : FlushResult where
  requests := outcomes.length
  succeeded := outcomes.length - (failures outcomes).length
  failed := (failures outcomes).length

/-- The failure that is logged is that of the first request that failed, whenever it came. -/
def noticeOf (outcomes : List (Option Outcome)) : List Effect :=
  match failures outcomes with
  | error :: _ => [.log (.uploadsFailed (resultOf outcomes) error)]
  | [] => if outcomes = [] then [] else [.log (.uploaded (resultOf outcomes))]

def report (consumer : Consumer) (flush : Flush) : Consumer × List Effect :=
  match consumer.batches.find? (·.flush = flush) with
  | none => (consumer, [])
  | some batch =>
    (({ consumer with batches := consumer.batches.filter (·.flush ≠ flush) }).later 0
      (.resolve flush (resultOf batch.outcomes)), noticeOf batch.outcomes)

/-! The end of a flush and of a shutdown -/

def resolve (consumer : Consumer) (flush : Flush) (result : FlushResult) : Consumer × List Effect :=
  (if flush.tracked then consumer.later 0 (.untrack flush) else consumer, [.flushed flush (.ok result)])

def reject (consumer : Consumer) (flush : Flush) (error : Failure) : Consumer × List Effect :=
  (if flush.tracked then (consumer.later 0 (.untrack flush)).later 0 (.flushFailed flush error)
   else consumer, [.flushed flush (.error error)])

def flushFailed (flush : Flush) (error : Failure) : List Effect :=
  match flush.origin with
  | .manual => []
  | .scheduled => [.log (.scheduledFlushFailed error)]
  | .final => [.log (.finalFlushFailed error)]

def untrack (consumer : Consumer) (flush : Flush) : Consumer :=
  let consumer := { consumer with inFlight := consumer.inFlight.filter (· ≠ flush) }
  match consumer.closing with
  | some closing => if flush ∈ closing.waitingFor then consumer.later 0 (.waited flush) else consumer
  | none => consumer

def waited (consumer : Consumer) (flush : Flush) : Consumer :=
  match consumer.closing with
  | none => consumer
  | some closing =>
    let waitingFor := closing.waitingFor.filter (· ≠ flush)
    let consumer := { consumer with closing := some { closing with waitingFor } }
    if waitingFor = [] then consumer.later 0 .allWaited else consumer

def race (consumer : Consumer) (finished : Bool) : Consumer :=
  match consumer.closing with
  | none => consumer
  | some closing =>
    if closing.raced then consumer
    else ({ consumer with closing := some { closing with raced := true } }).later 0 (.clearTimeout finished)

def discard (consumer : Consumer) : Consumer × List Effect :=
  if consumer.queue.isEmpty then (consumer, [])
  else ({ consumer with queue := .empty }, [.discarded consumer.queue.toList])

/-- The last steps of a shutdown: a warning if the wait was cut short, then the queue is cleared and an
owned uploader closed. -/
def finishClose (consumer : Consumer) (finished : Bool) : Consumer × List Effect :=
  match consumer.closing with
  | none => (consumer, [])
  | some closing =>
    let warning := if finished then [] else
      [Effect.log (.timedOut consumer.options.shutdownTimeoutMs consumer.inFlight.length)]
    let (consumer, discarded) := consumer.discard
    if consumer.options.ownsUploader then
      ({ consumer with closing := some { closing with awaitsUploader := true } },
        warning ++ discarded ++ [.closeUploader])
    else (consumer, warning ++ discarded ++ [.closed closing.call .fulfilled])

def uploaderClosed (consumer : Consumer) (outcome : Outcome) : List Effect :=
  match consumer.closing with
  | none => []
  | some closing => [.closed closing.call outcome]

/-! Jobs and events -/

def perform (consumer : Consumer) : Action → Consumer × List Effect
  | .startNext => if consumer.running then (consumer, []) else consumer.startTask
  | .release => ({ consumer with running := false }).startTask
  | .addFailed error => (consumer, [.log (.addFailed error)])
  | .upload flush (.ok requests) => consumer.upload flush requests
  | .upload flush (.error error) => consumer.reject flush (.aggregation error)
  | .arrived flush index outcome => (consumer.arrived flush index outcome, [])
  | .report flush => consumer.report flush
  | .resolve flush result => consumer.resolve flush result
  | .reject flush error => consumer.reject flush error
  | .untrack flush => (consumer.untrack flush, [])
  | .flushFailed flush error => (consumer, flushFailed flush error)
  | .waited flush => (consumer.waited flush, [])
  | .allWaited => (consumer.later 0 (.race true), [])
  | .race finished => (consumer.race finished, [])
  | .clearTimeout finished => (({ consumer with timer := .off }).later 0 (.finishClose finished), [])
  | .finishClose finished => consumer.finishClose finished
  | .uploaderClosed outcome => (consumer, consumer.uploaderClosed outcome)
  | .recheck flush => consumer.beginFlush flush
  | .calls calls => consumer.callAll calls

def runJob (consumer : Consumer) : Consumer × List Effect :=
  match consumer.jobs.pop? with
  | none => (consumer, [])
  | some (⟨delay + 1, action⟩, jobs) => (({ consumer with jobs }).later delay action, [])
  | some (⟨0, action⟩, jobs) => ({ consumer with jobs }).perform action

/-- Gives the flush that has waited longest its turn to look for room. -/
def wake (consumer : Consumer) : Consumer :=
  match consumer.waiting with
  | [] => consumer
  | flush :: waiting => ({ consumer with waiting }).later 0 (.recheck flush)

/-- The moment at which the timer is due, if it is on. -/
def due? (consumer : Consumer) : Option Binary64 := consumer.timer.due? Timer.delay consumer.options

/-- The timer has run out: the interval starts over and flushes, the timeout ends the wait of a shutdown. -/
def fire (consumer : Consumer) : Consumer × List Effect :=
  match consumer.timer with
  | .off => (consumer, [])
  | .interval _ => ({ consumer with timer := .interval consumer.now }).flush .scheduled
  | .timeout _ => (({ consumer with timer := .off }).later 0 (.race false), [])

/-- The end of an upload. A flush hears of it unless one of its calls failed at once. -/
def settle (consumer : Consumer) (id : Nat) (outcome : Outcome) : Consumer :=
  if id ∈ consumer.unsettled then
    let consumer := { consumer with unsettled := consumer.unsettled.filter (· ≠ id) }
    match consumer.batches.find? (UploadBatch.contains id) with
    | some batch => consumer.later 0 (.arrived batch.flush (id - batch.first) outcome)
    | none => consumer
  else consumer

def endUploaderClose (consumer : Consumer) (outcome : Outcome) : Consumer :=
  match consumer.closing with
  | none => consumer
  | some closing =>
    if closing.awaitsUploader then
      ({ consumer with closing := some { closing with awaitsUploader := false } }).later 0
        (.uploaderClosed outcome)
    else consumer

inductive Event where
  /-- User code that runs at the start of a turn. -/
  | turn (calls : List Call)
  /-- User code that is put behind all jobs. -/
  | defer (calls : List Call)
  | job
  | wake
  | fire
  | clock (now : Binary64)
  | settle (id : Nat) (outcome : Outcome)
  | uploaderClosed (outcome : Outcome)

/-- Jobs come before everything but the end of an upload or of the uploader, a timer runs out only when it
is due, and the clock does not go back. -/
def Enabled (consumer : Consumer) : Event → Prop
  | .turn _ => consumer.jobs.toList = []
  | .defer _ => True
  | .job => consumer.jobs.toList ≠ []
  | .wake => consumer.jobs.toList = [] ∧ consumer.waiting ≠ []
  | .fire => consumer.jobs.toList = [] ∧ ∃ due, consumer.due? = some due ∧ due.le consumer.now
  | .clock now => consumer.now.le now
  | .settle id _ => id ∈ consumer.unsettled
  | .uploaderClosed _ => ∃ closing, consumer.closing = some closing ∧ closing.awaitsUploader

def step (consumer : Consumer) : Event → Consumer × List Effect
  | .turn calls => consumer.callAll calls
  | .defer calls => (consumer.later 0 (.calls calls), [])
  | .job => consumer.runJob
  | .wake => (consumer.wake, [])
  | .fire => consumer.fire
  | .clock now => ({ consumer with now }, [])
  | .settle id outcome => (consumer.settle id outcome, [])
  | .uploaderClosed outcome => (consumer.endUploaderClose outcome, [])

end MetricPipeline.Consumer
