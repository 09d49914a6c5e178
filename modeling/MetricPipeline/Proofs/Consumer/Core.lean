import MetricPipeline.Proofs.Consumer.Footprint

/-! The core of a consumer: what decides which tasks are queued and executed. The rest has to do with uploads
and with those who wait for their ends. What is done to the core depends on the core alone, and all else that
is done leaves the core as it is, but for the end of a shutdown that has waited for all of its flushes. -/

namespace MetricPipeline

/-- An action that can change what is queued and executed while a shutdown is waiting. -/
def Action.steers : Action → Bool
  | .startNext | .release | .recheck _ | .race false | .clearTimeout false | .finishClose false => true
  | _ => false

/-- An action of a shutdown that does not have to wait any more. -/
def Action.Finishes : Action → Prop
  | .race true | .clearTimeout true | .finishClose true => True
  | _ => False

/-- The shutdown without what it waits for. -/
def Closing.core (closing : Closing) : Closing := { closing with waitingFor := [], awaitsUploader := false }

namespace Consumer

open Trace

/-- The jobs that steer. -/
def steering (consumer : Consumer) : List Job := consumer.jobs.toList.filter (·.action.steers)

/-- The consumer without its uploads and without what waits for them. -/
def core (consumer : Consumer) : Consumer :=
  { consumer with
    jobs := ⟨consumer.steering, []⟩
    nextUpload := 0
    unsettled := []
    batches := []
    inFlight := []
    closing := consumer.closing.map Closing.core }

/-- Nothing has been done to the core. -/
structure SameCore (consumer other : Consumer) : Prop where
  options : other.options = consumer.options
  aggregation : other.aggregation = consumer.aggregation
  queue : other.queue = consumer.queue
  running : other.running = consumer.running
  steering : other.steering = consumer.steering
  waiting : other.waiting = consumer.waiting
  nextFlush : other.nextFlush = consumer.nextFlush
  nextClose : other.nextClose = consumer.nextClose
  closed : other.closed = consumer.closed
  closing : other.closing.map Closing.core = consumer.closing.map Closing.core
  timer : other.timer = consumer.timer
  now : other.now = consumer.now

variable {consumer other third : Consumer}

namespace SameCore

theorem refl (consumer : Consumer) : SameCore consumer consumer :=
  ⟨rfl, rfl, rfl, rfl, rfl, rfl, rfl, rfl, rfl, rfl, rfl, rfl⟩

theorem core_eq (h : SameCore consumer other) : other.core = consumer.core := by
  obtain ⟨options, aggregation, queue, running, steering, waiting, nextFlush, nextClose, closed, closing,
    timer, now⟩ := h
  simp only [core, options, aggregation, queue, running, steering, waiting, nextFlush, nextClose, closed,
    closing, timer, now]

theorem of_core_eq (h : other.core = consumer.core) : SameCore consumer other := by
  obtain ⟨options, aggregation, queue, running, jobs, waiting, nextFlush, nextClose, -, -, -, -, closed,
    closing, timer, now⟩ := Consumer.mk.inj h
  exact ⟨options, aggregation, queue, running, congrArg Fifo.front jobs, waiting, nextFlush, nextClose,
    closed, closing, timer, now⟩

theorem symm (h : SameCore consumer other) : SameCore other consumer := of_core_eq h.core_eq.symm

theorem trans (h : SameCore consumer other) (h' : SameCore other third) : SameCore consumer third :=
  of_core_eq (h'.core_eq.trans h.core_eq)

end SameCore

theorem steering_core (consumer : Consumer) : consumer.core.steering = consumer.steering := by
  rw [steering, steering, core]
  simp [Fifo.toList, steering]

theorem core_sameCore (consumer : Consumer) : SameCore consumer consumer.core where
  options := rfl
  aggregation := rfl
  queue := rfl
  running := rfl
  steering := steering_core consumer
  waiting := rfl
  nextFlush := rfl
  nextClose := rfl
  closed := rfl
  closing := Option.map_map ..
  timer := rfl
  now := rfl

theorem core_core (consumer : Consumer) : consumer.core.core = consumer.core :=
  (core_sameCore consumer).core_eq

theorem steering_pop {job : Job} {jobs : Fifo Job} (hpop : consumer.jobs.pop? = some (job, jobs)) :
    consumer.steering = (if job.action.steers then [job] else []) ++ ({ consumer with jobs }).steering := by
  rw [steering, Fifo.toList_of_pop? hpop, List.filter_cons]
  split_ifs <;> rfl

/-- A job that steers is the first one of the core. -/
theorem core_pop {job : Job} {jobs : Fifo Job} (hpop : consumer.jobs.pop? = some (job, jobs))
    (hsteers : job.action.steers = true) :
    consumer.core.jobs.pop? = some (job, ⟨({ consumer with jobs } : Consumer).steering, []⟩) := by
  show Fifo.pop? ⟨consumer.steering, []⟩ = _
  rw [steering_pop hpop, hsteers]
  rfl

theorem core_jobs_eq_nil (hjobs : consumer.jobs.toList = []) : consumer.core.jobs.toList = [] := by
  show consumer.steering ++ [] = []
  rw [List.append_nil, steering, hjobs]
  rfl

theorem steering_later (consumer : Consumer) (delay : Nat) (action : Action) :
    (consumer.later delay action).steering =
      consumer.steering ++ if action.steers then [⟨delay, action⟩] else [] := by
  rw [steering, jobs_later, List.filter_append, steering]
  cases h : action.steers <;> simp [h]

namespace SameCore

theorem later (h : SameCore consumer other) (delay : Nat) (action : Action) :
    SameCore (consumer.later delay action) (other.later delay action) :=
  { h with steering := by rw [steering_later, steering_later, h.steering] }

/-- What does not steer may be put behind the jobs. -/
theorem later_of_not_steers (h : SameCore consumer other) (delay : Nat) {action : Action}
    (hsteers : action.steers = false) : SameCore consumer (other.later delay action) :=
  { h with steering := by rw [steering_later, hsteers, h.steering]; exact List.append_nil _ }

theorem pop_of_not_steers {job : Job} {jobs : Fifo Job} (hpop : consumer.jobs.pop? = some (job, jobs))
    (hsteers : job.action.steers = false) : SameCore consumer { consumer with jobs } :=
  { refl consumer with steering := by rw [steering_pop hpop, hsteers]; rfl }

/-! Calls -/

theorem isFull (h : SameCore consumer other) : other.isFull = consumer.isFull := by
  rw [Consumer.isFull, Consumer.isFull, h.options, h.queue]

theorem enqueue (h : SameCore consumer other) (task : Task) :
    SameCore (consumer.enqueue task).1 (other.enqueue task).1 := by
  have hqueued : SameCore { consumer with queue := consumer.queue.push task }
      { other with queue := other.queue.push task } := { h with queue := congrArg (·.push task) h.queue }
  exact hqueued.later 0 .startNext

theorem publish (h : SameCore consumer other) (submission : Submission) :
    SameCore (consumer.publish submission).1 (other.publish submission).1 ∧
      (other.publish submission).2 = (consumer.publish submission).2 := by
  rw [Consumer.publish, Consumer.publish, h.closed, h.isFull, h.options]
  split_ifs
  · exact ⟨h, rfl⟩
  · exact ⟨h, rfl⟩
  · exact ⟨h.enqueue _, rfl⟩

theorem beginFlush (h : SameCore consumer other) (flush : Flush) :
    SameCore (consumer.beginFlush flush).1 (other.beginFlush flush).1 ∧
      (other.beginFlush flush).2 = (consumer.beginFlush flush).2 := by
  rw [Consumer.beginFlush, Consumer.beginFlush, h.isFull]
  split_ifs
  · exact ⟨{ h with waiting := congrArg (· ++ [flush]) h.waiting }, rfl⟩
  · exact ⟨h.enqueue _, rfl⟩

theorem flush (h : SameCore consumer other) (origin : FlushOrigin) :
    SameCore (consumer.flush origin).1 (other.flush origin).1 ∧
      (other.flush origin).2 = (consumer.flush origin).2 := by
  have hcalled : SameCore { consumer with nextFlush := consumer.nextFlush + 1 }
      { other with nextFlush := consumer.nextFlush + 1 } := { h with nextFlush := rfl }
  obtain ⟨hbegun, heffects⟩ := hcalled.beginFlush ⟨consumer.nextFlush, origin⟩
  rw [flush_eq, flush_eq, h.nextFlush]
  exact ⟨{ hbegun with }, congrArg (.flushCalled ⟨consumer.nextFlush, origin⟩ :: ·) heffects⟩

/-- The shutdown begins to wait. -/
theorem await (h : SameCore consumer other) {call call' : Nat} (hcall : call' = call) :
    SameCore
      { consumer with
        closing := some ⟨call, consumer.inFlight, false, false⟩
        timer := .timeout consumer.now }
      { other with
        closing := some ⟨call', other.inFlight, false, false⟩
        timer := .timeout other.now } :=
  { h with
    closing := by rw [hcall]; rfl
    timer := congrArg Timer.timeout h.now }

theorem close (h : SameCore consumer other) :
    SameCore consumer.close.1 other.close.1 ∧ other.close.2 = consumer.close.2 := by
  cases hc : consumer.closed with
  | true =>
    rw [close_of_closed hc, close_of_closed (h.closed.trans hc), h.nextClose]
    exact ⟨{ h with nextClose := rfl }, rfl⟩
  | false =>
    have hclosed : SameCore
        { consumer with nextClose := consumer.nextClose + 1, closed := true, timer := .off }
        { other with nextClose := other.nextClose + 1, closed := true, timer := .off } :=
      { h with nextClose := congrArg (· + 1) h.nextClose, closed := rfl, timer := rfl }
    obtain ⟨hflushed, heffects⟩ := hclosed.flush .final
    rw [close_of_open hc, close_of_open (h.closed.trans hc)]
    dsimp only
    rw [heffects]
    exact ⟨hflushed.await h.nextClose, congrArg (fun call => Effect.closeCalled call :: _) h.nextClose⟩

theorem call (h : SameCore consumer other) (call : Call) :
    SameCore (consumer.call call).1 (other.call call).1 ∧ (other.call call).2 = (consumer.call call).2 := by
  cases call with
  | publish submission => exact h.publish submission
  | flush => exact h.flush .manual
  | close => exact h.close

theorem callAll (h : SameCore consumer other) (calls : List Call) :
    SameCore (consumer.callAll calls).1 (other.callAll calls).1 ∧
      (other.callAll calls).2 = (consumer.callAll calls).2 := by
  induction calls generalizing consumer other with
  | nil => exact ⟨h, rfl⟩
  | cons first rest ih =>
    obtain ⟨hfirst, heffects⟩ := h.call first
    obtain ⟨hrest, hmore⟩ := ih hfirst
    exact ⟨hrest, congrArg₂ (· ++ ·) heffects hmore⟩

/-! Jobs that steer -/

theorem execute (h : SameCore consumer other) (task : Task) :
    SameCore (consumer.execute task).1 (other.execute task).1 ∧
      (other.execute task).2 = (consumer.execute task).2 := by
  rcases task with (collection | message) | flush
  · have hadded : SameCore { consumer with running := true, aggregation := consumer.aggregation.add collection }
        { other with running := true, aggregation := other.aggregation.add collection } :=
      { h with running := rfl, aggregation := congrArg (·.add collection) h.aggregation }
    exact ⟨hadded.later 0 .release, rfl⟩
  · have hrunning : SameCore { consumer with running := true } { other with running := true } :=
      { h with running := rfl }
    exact ⟨(hrunning.later 2 (.addFailed (.raised message))).later 0 .release, rfl⟩
  · have hdrained : SameCore
        { consumer with running := true, aggregation := consumer.aggregation.drain.2 }
        { other with running := true, aggregation := consumer.aggregation.drain.2 } :=
      { h with running := rfl, aggregation := rfl }
    refine ⟨?_, rfl⟩
    rw [Consumer.execute, Consumer.execute, h.aggregation]
    exact (hdrained.later 2 (.upload flush consumer.aggregation.drain.1)).later 0 .release

theorem startTask (h : SameCore consumer other) :
    SameCore consumer.startTask.1 other.startTask.1 ∧ other.startTask.2 = consumer.startTask.2 := by
  rw [Consumer.startTask, Consumer.startTask, h.queue]
  cases consumer.queue.pop? with
  | none => exact ⟨h, rfl⟩
  | some popped =>
    have hpopped : SameCore { consumer with queue := popped.2 } { other with queue := popped.2 } :=
      { h with queue := rfl }
    exact hpopped.execute popped.1

/-- The shutdowns of both consumers are the same but for what they wait for. -/
theorem closing_cases (h : SameCore consumer other) :
    (consumer.closing = none ∧ other.closing = none) ∨ ∃ closing closing', consumer.closing = some closing ∧
      other.closing = some closing' ∧ closing'.call = closing.call ∧ closing'.raced = closing.raced := by
  have hclosing := h.closing
  cases hc : consumer.closing with
  | none =>
    rw [hc] at hclosing
    exact Or.inl ⟨rfl, Option.map_eq_none_iff.1 hclosing⟩
  | some closing =>
    rw [hc] at hclosing
    obtain ⟨closing', hc', hsame⟩ := Option.map_eq_some_iff.1 hclosing
    have hcall := congrArg Closing.call hsame
    have hraced := congrArg Closing.raced hsame
    exact Or.inr ⟨closing, closing', rfl, hc', hcall, hraced⟩

theorem race (h : SameCore consumer other) (finished : Bool) :
    SameCore (consumer.race finished) (other.race finished) := by
  rcases h.closing_cases with ⟨hc, hc'⟩ | ⟨closing, closing', hc, hc', hcall, hraced⟩
  · rw [Consumer.race, Consumer.race, hc, hc']
    exact h
  · rw [Consumer.race, Consumer.race, hc, hc']
    dsimp only
    rw [hraced]
    split_ifs
    · exact h
    · have hnext : SameCore { consumer with closing := some { closing with raced := true } }
          { other with closing := some { closing' with raced := true } } :=
        { h with closing := by simp [Closing.core, hcall] }
      exact hnext.later 0 (.clearTimeout finished)

theorem discard (h : SameCore consumer other) :
    SameCore consumer.discard.1 other.discard.1 := by
  rw [Consumer.discard, Consumer.discard, h.queue]
  split_ifs
  · exact h
  · exact { h with queue := rfl }

theorem finishClose (h : SameCore consumer other) (finished : Bool) :
    SameCore (consumer.finishClose finished).1 (other.finishClose finished).1 := by
  rcases h.closing_cases with ⟨hc, hc'⟩ | ⟨closing, closing', hc, hc', hcall, hraced⟩
  · rw [Consumer.finishClose, Consumer.finishClose, hc, hc']
    exact h
  · have hdiscard := h.discard
    have howns : other.discard.1.options.ownsUploader = consumer.discard.1.options.ownsUploader :=
      congrArg ConsumerOptions.ownsUploader hdiscard.options
    rw [finishClose_eq hc, finishClose_eq hc']
    dsimp only
    rw [howns]
    split_ifs
    · exact { hdiscard with closing := by simp [Closing.core, hcall, hraced] }
    · exact hdiscard

/-- What a job that steers does to the core, and what it executes, depends on the core alone. -/
theorem perform (h : SameCore consumer other) {action : Action} (hsteers : action.steers = true) :
    SameCore (consumer.perform action).1 (other.perform action).1 ∧
      executed (other.perform action).2 = executed (consumer.perform action).2 := by
  cases action with
  | startNext =>
    rw [Consumer.perform, Consumer.perform, h.running]
    split_ifs
    · exact ⟨h, rfl⟩
    · exact ⟨h.startTask.1, congrArg executed h.startTask.2⟩
  | release =>
    have hreleased : SameCore { consumer with running := false } { other with running := false } :=
      { h with running := rfl }
    exact ⟨hreleased.startTask.1, congrArg executed hreleased.startTask.2⟩
  | recheck flush => exact ⟨(h.beginFlush flush).1, congrArg executed (h.beginFlush flush).2⟩
  | race finished => exact ⟨h.race finished, rfl⟩
  | clearTimeout finished =>
    have hoff : SameCore { consumer with timer := .off } { other with timer := .off } :=
      { h with timer := rfl }
    exact ⟨hoff.later 0 (.finishClose finished), rfl⟩
  | finishClose finished =>
    have hnone : ∀ consumer : Consumer, executed (consumer.finishClose finished).2 = [] := by
      intro consumer
      refine List.filterMap_eq_nil_iff.2 fun effect heffect => ?_
      cases finishClose_shows consumer finished effect heffect with
      | executed hfirst => simp at hfirst
      | _ => rfl
    exact ⟨h.finishClose finished, (hnone other).trans (hnone consumer).symm⟩
  | _ => cases hsteers

theorem runJob {job : Job} {jobs : Fifo Job} (hpop : consumer.jobs.pop? = some (job, jobs))
    (hsteers : job.action.steers = true) :
    SameCore consumer.runJob.1 consumer.core.runJob.1 ∧
      executed consumer.core.runJob.2 = executed consumer.runJob.2 := by
  have hsame := core_sameCore { consumer with jobs }
  have hcore := core_pop hpop hsteers
  obtain ⟨delay, action⟩ := job
  rw [Consumer.runJob, Consumer.runJob, hpop, hcore]
  cases delay with
  | zero => exact hsame.perform hsteers
  | succ delay => exact ⟨hsame.later delay action, rfl⟩

/-! Jobs that do not steer -/

theorem upload (consumer : Consumer) (flush : Flush) (requests : List Request) :
    SameCore consumer (consumer.upload flush requests).1 := by
  obtain ⟨sent, failure, -, -, ⟨-, heq⟩ | ⟨message, -, heq⟩⟩ := upload_cases consumer flush requests
  · rw [heq]
    have hsame : SameCore consumer { consumer with
        nextUpload := consumer.nextUpload + sent.length
        unsettled := consumer.unsettled ++
          List.range' consumer.nextUpload (sent.length - failure.toList.length)
        batches := consumer.batches ++
          [⟨flush, consumer.nextUpload, List.replicate requests.length none⟩] } := { refl consumer with }
    split_ifs
    · exact hsame.later_of_not_steers 0 rfl
    · exact hsame
  · rw [heq]
    refine later_of_not_steers ?_ 1 rfl
    exact { refl consumer with }

theorem reject (consumer : Consumer) (flush : Flush) (error : Failure) :
    SameCore consumer (consumer.reject flush error).1 := by
  unfold Consumer.reject
  split_ifs
  · exact ((refl consumer).later_of_not_steers 0 rfl).later_of_not_steers 0 rfl
  · exact refl consumer

/-- All other jobs leave the core as it is, but for calls, and for a shutdown that does not have to wait. -/
theorem perform_of_not_steers (consumer : Consumer) {action : Action} (hsteers : action.steers = false)
    (hcalls : ∀ calls, action ≠ .calls calls) (hfinishes : ¬action.Finishes) :
    SameCore consumer (consumer.perform action).1 := by
  cases action with
  | addFailed error => exact refl consumer
  | upload flush drained =>
    cases drained with
    | ok requests => exact upload consumer flush requests
    | error error => exact reject consumer flush _
  | arrived flush index outcome =>
    have hsame : SameCore consumer
        { consumer with batches := consumer.batches.map (UploadBatch.arrive flush index outcome) } :=
      { refl consumer with }
    rw [Consumer.perform, Consumer.arrived]
    dsimp only
    split
    · split_ifs
      · exact hsame.later_of_not_steers 0 rfl
      · exact hsame
    · exact hsame
  | report flush =>
    rw [Consumer.perform, Consumer.report]
    split
    · exact refl consumer
    · refine later_of_not_steers ?_ 0 rfl
      exact { refl consumer with }
  | resolve flush result =>
    rw [Consumer.perform, Consumer.resolve]
    split_ifs
    · exact (refl consumer).later_of_not_steers 0 rfl
    · exact refl consumer
  | reject flush error => exact reject consumer flush error
  | untrack flush =>
    have hsame : SameCore consumer
        { consumer with inFlight := consumer.inFlight.filter (· ≠ flush) } := { refl consumer with }
    rw [Consumer.perform]
    rcases untrack_cases consumer flush with heq | heq
    · rw [heq]
      exact hsame
    · rw [heq]
      exact hsame.later_of_not_steers 0 rfl
  | waited flush =>
    rw [Consumer.perform]
    rcases waited_cases consumer flush with ⟨-, heq⟩ | ⟨closing, hc, hcases⟩
    · rw [heq]
      exact refl consumer
    · have hsame : SameCore consumer { consumer with
          closing := some { closing with waitingFor := closing.waitingFor.filter (· ≠ flush) } } :=
        { refl consumer with closing := by rw [hc]; rfl }
      rcases hcases with heq | ⟨-, heq⟩
      · rw [heq]
        exact hsame
      · rw [heq]
        exact hsame.later_of_not_steers 0 rfl
  | flushFailed flush error => exact refl consumer
  | allWaited => exact (refl consumer).later_of_not_steers 0 rfl
  | uploaderClosed outcome => exact refl consumer
  | calls calls => exact absurd rfl (hcalls calls)
  | race finished | clearTimeout finished | finishClose finished =>
    cases finished with
    | true => exact absurd trivial hfinishes
    | false => cases hsteers
  | _ => cases hsteers

/-! Events -/

theorem wake (h : SameCore consumer other) : SameCore consumer.wake other.wake := by
  rw [Consumer.wake, Consumer.wake, h.waiting]
  split
  · exact h
  · next flush waiting _ =>
    have hnext : SameCore { consumer with waiting } { other with waiting } := { h with waiting := rfl }
    exact hnext.later 0 (.recheck flush)

theorem fire (h : SameCore consumer other) :
    SameCore consumer.fire.1 other.fire.1 ∧ other.fire.2 = consumer.fire.2 := by
  rw [Consumer.fire, Consumer.fire, h.timer]
  cases consumer.timer with
  | off => exact ⟨h, rfl⟩
  | interval since =>
    have hnext : SameCore { consumer with timer := .interval consumer.now }
        { other with timer := .interval other.now } :=
      { h with timer := congrArg Timer.interval h.now }
    exact hnext.flush .scheduled
  | timeout since =>
    have hnext : SameCore { consumer with timer := .off } { other with timer := .off } :=
      { h with timer := rfl }
    exact ⟨hnext.later 0 (.race false), rfl⟩

theorem settle (consumer : Consumer) (id : Nat) (outcome : Outcome) :
    SameCore consumer (consumer.settle id outcome) := by
  have hsame : SameCore consumer { consumer with unsettled := consumer.unsettled.filter (· ≠ id) } :=
    { refl consumer with }
  rcases settle_cases consumer id outcome with heq | heq | ⟨batch, -, index, heq⟩
  · rw [heq]
    exact refl consumer
  · rw [heq]
    exact hsame
  · rw [heq]
    exact hsame.later_of_not_steers 0 rfl

theorem endUploaderClose (consumer : Consumer) (outcome : Outcome) :
    SameCore consumer (consumer.endUploaderClose outcome) := by
  rcases endUploaderClose_cases consumer outcome with heq | ⟨closing, hc, heq⟩
  · rw [heq]
    exact refl consumer
  · have hsame : SameCore consumer { consumer with closing := some { closing with awaitsUploader := false } } :=
      { refl consumer with closing := by rw [hc]; rfl }
    rw [heq]
    exact hsame.later_of_not_steers 0 rfl

end SameCore
end Consumer
end MetricPipeline
