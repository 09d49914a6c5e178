import MetricPipeline.Publisher

/-! Sessions run a publisher on a clock of their own, with uploads whose ends are planned. User code only
starts work; the event loop turns when a session settles, until nothing is left but what timers and held
uploads will bring. -/

namespace MetricPipeline

/-- How an upload is planned to end. -/
inductive UploadPlan where
  | ok
  | reject (message : String)
  /-- The call fails at once where calls can, and else the upload is rejected. -/
  | fail (message : String)
  /-- Stays under way until it is released. -/
  | hold (name : String)

inductive SessionStep where
  | publish (submission : Submission) (times : Nat)
  | flush
  | close
  | settle
  | release (name : String) (error? : Option String)
  | advance (ms : Binary64)

structure Session where
  publisher : Publisher
  /-- Plans by the number of the upload; an upload without plan ends well. -/
  plans : Array UploadPlan
  closeError? : Option String
  held : List (String × Nat)
  /-- Flushes that steps asked for, with their numbers. -/
  flushNumbers : List (Nat × Nat)
  lines : List LogLine
  uploads : List Request
  flushes : List (Nat × Except Failure FlushResult)
  closes : List (Nat × Outcome)

/-- What a step shows: what happened since the last one, and totals. -/
structure StepReport where
  lines : List LogLine
  uploads : List Request
  flushes : List (Nat × Except Failure FlushResult)
  closes : List (Nat × Outcome)
  uploaderCloses : Nat
  destroyed : Nat
  timers : Nat
  pending : Nat

namespace Session

/-- Which calls of the caller's uploader fail at once under some plans. -/
def callFailure (plans : Array UploadPlan) (id : Nat) : Option String :=
  match plans[id]? with
  | some (.fail message) => some message
  | _ => none

def create (publisher : Publisher) (plans : Array UploadPlan) (closeError? : Option String) : Session :=
  ⟨publisher, plans, closeError?, [], [], [], [], [], []⟩

def consumer (session : Session) : Consumer := session.publisher.consumer

def outcomeOf : Option String → Outcome
  | some message => .rejected (.raised message)
  | none => .fulfilled

def feed (session : Session) (event : Consumer.Event) : Session :=
  { session with publisher := (session.publisher.step event).1 }

/-- Carries out the plan of an upload that has begun. -/
def startUpload (session : Session) (id : Nat) : Session :=
  match session.plans[id]?.getD .ok with
  | .ok => session.feed (.settle id .fulfilled)
  | .reject message | .fail message => session.feed (.settle id (outcomeOf (some message)))
  | .hold name => { session with held := (name, id) :: session.held }

/-- The caller's uploader closes as planned, a connection always. -/
def uploaderOutcome (session : Session) : Outcome :=
  match session.publisher.uploader with
  | .own _ => outcomeOf session.closeError?
  | .connection _ => .fulfilled

def note (session : Session) : Effect → Session
  | .log notice => { session with lines := session.lines ++ [session.publisher.line notice] }
  | .upload id _ request => ({ session with uploads := session.uploads ++ [request] }).startUpload id
  | .flushed flush result =>
    match session.flushNumbers.lookup flush.id with
    | some number => { session with flushes := session.flushes ++ [(number, result)] }
    | none => session
  | .closeUploader => session.feed (.uploaderClosed session.uploaderOutcome)
  | .closed call outcome => { session with closes := session.closes ++ [(call + 1, outcome)] }
  | .flushCalled _ | .closeCalled _ | .queued _ | .refused _ | .executed _ | .discarded _ => session

def step (session : Session) (event : Consumer.Event) : Session :=
  let (publisher, effects) := session.publisher.step event
  effects.foldl note { session with publisher }

def publish (session : Session) (submission : Submission) : Nat → Session
  | 0 => session
  | times + 1 => (session.step (.turn [.publish submission])).publish submission times

/-- Jobs until there are none, then a waiting flush, and so on; at most `fuel` of them. -/
def turns : Nat → Session → Session
  | 0, session => session
  | fuel + 1, session =>
    if !session.consumer.jobs.isEmpty then turns fuel (session.step .job)
    else if session.consumer.waiting ≠ [] then turns fuel (session.step .wake)
    else session

def slotsOf (aggregator : Aggregator) : Nat :=
  match aggregator.tally with
  | .summary _ => 1
  | .detailed histogram => histogram.size

def slotsOfTask : Task → Nat
  | .add (.collection collection) => collection.allRecords.length
  | _ => 0

/-- More turns than there can be: each task, flush and upload takes part in fewer than a score of jobs, and
an upload carries at least one summary or one entry of a histogram. -/
def turnBound (consumer : Consumer) : Nat :=
  let aggregators := consumer.aggregation.store.buckets.values.flatMap OrderedMap.values
  let stored := (aggregators.map slotsOf).foldl (· + ·) 0
  let queued := (consumer.queue.toList.map slotsOfTask).foldl (· + ·) 0
  20 * (consumer.jobs.size + consumer.queue.size + consumer.waiting.length + consumer.inFlight.length +
    consumer.unsettled.length + stored + queued + 4)

def settle (session : Session) : Session := turns (turnBound session.consumer) session

def release (session : Session) (name : String) (error? : Option String) : Session :=
  match session.held.lookup name with
  | none => session
  | some id =>
    ({ session with held := session.held.filter (·.1 ≠ name) }).step (.settle id (outcomeOf error?))

/-- The moment at which the timer is due on the clock of a session, which runs delays as they are given. -/
def due? (consumer : Consumer) : Option Binary64 := consumer.timer.due? id consumer.options

/-- Lets each timer that is due until `target` run out when it is due. -/
def tickUntil (target : Binary64) : Nat → Session → Session
  | 0, session => session
  | fuel + 1, session =>
    match due? session.consumer with
    | none => session
    | some due =>
      if due.le target then
        tickUntil target fuel ((session.step (.clock due)).step .fire).settle
      else session

/-- How many times the interval can run out in a span, and the timeout once more. -/
def tickBound (session : Session) (ms : Binary64) : Nat :=
  ((ms / session.consumer.options.publishFrequencyMs).truncate?.getD 0).toNat + 3

def advance (session : Session) (ms : Binary64) : Session :=
  let target := session.consumer.now + ms
  (tickUntil target (session.tickBound ms) session.settle).step (.clock target)

/-- A flush that a step asks for, under the next number. -/
def flush (session : Session) : Session :=
  let number := session.flushNumbers.length + 1
  ({ session with flushNumbers := (session.consumer.nextFlush, number) :: session.flushNumbers }).step
    (.turn [.flush])

def timers (consumer : Consumer) : Nat := if consumer.timer = .off then 0 else 1

def totals (session : Session) : Nat × Nat :=
  match session.publisher.uploader with
  | .own closes => (closes, 0)
  | .connection connection => (0, connection.destroyed)

/-- What happened since the last report. Who waits for a flush or for a shutdown hears of it only when the
session settles. -/
def report (session : Session) (settled : Bool) : Session × StepReport :=
  let (uploaderCloses, destroyed) := session.totals
  ({ session with
      lines := [], uploads := []
      flushes := if settled then [] else session.flushes
      closes := if settled then [] else session.closes },
    { lines := session.lines.mergeSort fun a b => Text.unitsLe a.message b.message
      uploads := session.uploads
      flushes := if settled then session.flushes.mergeSort (fun a b => a.1 ≤ b.1) else []
      closes := if settled then session.closes.mergeSort (fun a b => a.1 ≤ b.1) else []
      uploaderCloses
      destroyed
      timers := timers session.consumer
      pending := session.consumer.aggregation.pending })

def run (session : Session) : SessionStep → Session × StepReport
  | .publish submission times => (session.publish submission times).report false
  | .flush => session.flush.report false
  | .close => (session.step (.turn [.close])).report false
  | .settle => session.settle.report true
  | .release name error? => (session.release name error?).settle.report true
  | .advance ms => (session.advance ms).report true

end Session
end MetricPipeline
