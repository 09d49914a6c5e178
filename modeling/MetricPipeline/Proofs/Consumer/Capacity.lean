import MetricPipeline.Proofs.Consumer.Discarded

/-! The queue of a consumer stays within its capacity, and a flush always gets in. Tasks are put into the
queue only after a look at its size, and a task that is started leaves room for the next one. A flush that
finds no room waits for its turn, which comes when there is no job: then nothing is queued, and the flush gets
in before anyone else can. -/

namespace MetricPipeline

namespace Consumer

open Trace

variable {fresh : Aggregation} {size : Int} {trace : List Effect} {consumer other : Consumer} {flush : Flush}

/-! The queue -/

/-- No more tasks are queued than there may be. -/
structure Bounded (size : Int) (consumer : Consumer) : Prop where
  capacity : consumer.options.metricQueueSize.toInt? = some size
  length_le : (consumer.queue.toList.length : Int) ≤ size

namespace Bounded

/-- Tasks can be taken from the front of the queue. -/
theorem shrink (h : Bounded size consumer) (hoptions : other.options = consumer.options)
    (hqueue : other.queue.toList <:+ consumer.queue.toList) : Bounded size other := by
  apply Bounded.mk
  · rw [hoptions]
    exact h.capacity
  · have hlength := hqueue.length_le
    have hle := h.length_le
    omega

theorem congr (h : Bounded size consumer) (hoptions : other.options = consumer.options)
    (hqueue : other.queue = consumer.queue) : Bounded size other :=
  h.shrink hoptions (hqueue ▸ List.suffix_rfl)

/-- Where a queue is not full there is room for one more task. -/
theorem enqueue (h : Bounded size consumer) (hroom : consumer.isFull = false) (task : Task) :
    Bounded size (consumer.enqueue task).1 := by
  have hlt : (consumer.queue.size : Int) < size := by
    by_contra hle
    have hfull := Binary64.le_ofNat_of_toInt?_le h.capacity (Int.not_lt.1 hle)
    rw [← isFull, hroom] at hfull
    cases hfull
  refine ⟨h.capacity, ?_⟩
  show ((consumer.queue.push task).toList.length : Int) ≤ size
  rw [Fifo.toList_push, List.length_append, List.length_singleton, Fifo.length_toList]
  omega

theorem publish (h : Bounded size consumer) (submission : Submission) :
    Bounded size (consumer.publish submission).1 := by
  unfold Consumer.publish
  split_ifs with hclosed hfull
  · exact h
  · exact h
  · exact h.enqueue (by simpa using hfull) _

theorem beginFlush (h : Bounded size consumer) (flush : Flush) :
    Bounded size (consumer.beginFlush flush).1 := by
  unfold Consumer.beginFlush
  split_ifs with hfull
  · exact h.congr rfl rfl
  · exact h.enqueue (by simpa using hfull) _

theorem call_flush (h : Bounded size consumer) (origin : FlushOrigin) :
    Bounded size (consumer.flush origin).1 := by
  have hnext : Bounded size { consumer with nextFlush := consumer.nextFlush + 1 } := h.congr rfl rfl
  rw [flush_eq]
  exact (hnext.beginFlush _).congr rfl rfl

theorem call (h : Bounded size consumer) (call : Call) : Bounded size (consumer.call call).1 := by
  cases call with
  | publish submission => exact h.publish submission
  | flush => exact h.call_flush .manual
  | close =>
    rw [Consumer.call]
    cases hclosed : consumer.closed with
    | true =>
      rw [close_of_closed hclosed]
      exact h.congr rfl rfl
    | false =>
      have hshut : Bounded size
          { consumer with nextClose := consumer.nextClose + 1, closed := true, timer := .off } :=
        h.congr rfl rfl
      rw [close_of_open hclosed]
      exact (hshut.call_flush .final).congr rfl rfl

theorem callAll (h : Bounded size consumer) (calls : List Call) :
    Bounded size (consumer.callAll calls).1 := by
  induction calls generalizing consumer with
  | nil => exact h
  | cons first rest ih => exact ih (h.call first)

theorem perform (h : Bounded size consumer) (action : Action) : Bounded size (consumer.perform action).1 := by
  cases action with
  | recheck flush => exact h.beginFlush flush
  | calls calls => exact h.callAll calls
  | _ => exact h.shrink (perform_options consumer _) (perform_queue consumer (by simp) (by simp))

theorem step (h : Bounded size consumer) (event : Event) : Bounded size (consumer.step event).1 := by
  have houter : event.Outer → Bounded size (consumer.step event).1 := fun houter =>
    h.congr (step_options consumer event) (step_outer consumer houter).2.queue
  cases event with
  | turn calls => exact h.callAll calls
  | job =>
    rw [Consumer.step]
    rcases runJob_cases consumer with ⟨-, heq⟩ | ⟨delay, action, jobs, -, heq⟩ | ⟨action, jobs, -, heq⟩
    · rwa [heq]
    · rw [heq]
      exact h.congr rfl rfl
    · have hpopped : Bounded size { consumer with jobs } := h.congr rfl rfl
      rw [heq]
      exact hpopped.perform action
  | wake =>
    rw [Consumer.step]
    rcases wake_cases consumer with ⟨-, heq⟩ | ⟨flush, waiting, -, heq⟩
    · rwa [heq]
    · rw [heq]
      exact h.congr rfl rfl
  | fire =>
    rw [Consumer.step]
    rcases fire_cases consumer with heq | ⟨_, -, heq⟩ | ⟨_, -, heq⟩
    · rwa [heq]
    · have hset : Bounded size
          { consumer with timer := .interval consumer.now } := h.congr rfl rfl
      rw [heq]
      exact hset.call_flush .scheduled
    · rw [heq]
      exact h.congr rfl rfl
  | _ => exact houter trivial

end Bounded

/-! Turns of flushes that wait -/

/-- The consumer after some events. -/
def after (start : Consumer) (events : List Event) : Consumer :=
  events.foldl (fun consumer event => (consumer.step event).1) start

/-- The flush that an event gives its turn to look for room again. -/
def woken? (consumer : Consumer) : Event → Option Flush
  | .wake => consumer.waiting.head?
  | _ => none

/-- The flushes that were given their turn, in order: one that is given it again is listed again. -/
def wakes (start : Consumer) : List Event → List Flush
  | [] => []
  | event :: events => (start.woken? event).toList ++ wakes (start.step event).1 events

theorem wakes_concat (start : Consumer) (events : List Event) (event : Event) :
    wakes start (events ++ [event]) = wakes start events ++ ((start.after events).woken? event).toList := by
  induction events generalizing start with
  | nil => exact List.append_nil _
  | cons first events ih =>
    rw [List.cons_append, wakes, wakes, ih, List.append_assoc]
    rfl

theorem History.after_eq {start : Consumer} {events : List Event} (h : History start events trace consumer) :
    start.after events = consumer := by
  induction h with
  | start => rfl
  | step _ event _ ih =>
    rw [after, List.foldl_append]
    exact congrArg (fun consumer : Consumer => (consumer.step event).1) ih

theorem History.wakes_step {start : Consumer} {events : List Event} (h : History start events trace consumer)
    (event : Event) :
    wakes start (events ++ [event]) = wakes start events ++ (consumer.woken? event).toList := by
  rw [wakes_concat, h.after_eq]

/-- A flush that looks for room is the next job, and finds it. -/
theorem step_job_of_recheck (hwoken : Woken consumer)
    (hroom : consumer.queue.toList = [] → consumer.isFull = false)
    (hlooks : .recheck flush ∈ actions [] consumer) : (consumer.step .job).2 = [.queued (.drain flush)] := by
  obtain ⟨job, hjob, haction⟩ := List.mem_map.1 hlooks
  cases hpop : consumer.jobs.pop? with
  | none =>
    rw [(Fifo.pop?_eq_none_iff _).1 hpop] at hjob
    cases hjob
  | some popped =>
    obtain ⟨⟨delay, action⟩, jobs⟩ := popped
    have hjobs := Fifo.toList_of_pop? hpop
    rw [hjobs] at hjob
    rcases List.mem_cons.1 hjob with rfl | hrest
    · obtain rfl : action = .recheck flush := haction
      obtain ⟨rfl, hqueue⟩ := hwoken.head _ _ hjobs flush rfl
      have hempty : ({ consumer with jobs }).isFull = false := hroom hqueue
      rw [step, runJob, hpop]
      show (({ consumer with jobs }).beginFlush flush).2 = _
      rw [beginFlush, hempty, if_neg (by simp)]
      rfl
    · have hnone := hwoken.rest hpop job hrest
      rw [haction] at hnone
      cases hnone

/-- A flush that looks for room goes on to look for it, or gets in. -/
theorem step_recheck (hwoken : Woken consumer)
    (hroom : consumer.queue.toList = [] → consumer.isFull = false)
    (hlooks : .recheck flush ∈ actions [] consumer) (event : Event) :
    .recheck flush ∈ actions [] (consumer.step event).1 ∨
      .queued (.drain flush) ∈ (consumer.step event).2 := by
  by_cases hjob : event = .job
  · rw [hjob, step_job_of_recheck hwoken hroom hlooks]
    exact Or.inr List.mem_cons_self
  · exact Or.inl ((step_unheard consumer hjob).adds.mem hlooks)

theorem mem_woken? {event : Event} (h : flush ∈ consumer.woken? event) :
    event = .wake ∧ consumer.waiting.head? = some flush := by
  cases event with
  | wake => exact ⟨rfl, h⟩
  | _ => cases h

/-- What is known of the flushes that were given their turn. -/
structure Turns (start : Consumer) (events : List Event) (trace : List Effect) (consumer : Consumer) :
    Prop where
  nodup : (wakes start events).Nodup
  /-- A flush is looking for room since its turn came, or has found it. -/
  placed : ∀ flush ∈ wakes start events,
    .recheck flush ∈ actions [] consumer ∨ .queued (.drain flush) ∈ trace

/-- No flush waits for another turn. -/
theorem Turns.not_waiting {start : Consumer} {events : List Event} (h : Turns start events trace consumer)
    (hbegun : Begun trace (begun trace [] consumer)) (hflush : flush ∈ wakes start events) :
    flush ∉ consumer.waiting := by
  rcases h.placed flush hflush with hlooks | hqueued
  · exact hbegun.not_waiting_of_recheck hlooks
  · exact (hbegun.not_waiting_of_queued hqueued).1

section

variable {start : Consumer} {options : ConsumerOptions} {now : Binary64} {events : List Event}

theorem Turns.step (hhistory : History start events trace consumer)
    (hbegun : Begun trace (begun trace [] consumer)) (hwoken : Woken consumer)
    (hroom : consumer.queue.toList = [] → consumer.isFull = false) (h : Turns start events trace consumer)
    (event : Event) :
    Turns start (events ++ [event]) (trace ++ (consumer.step event).2) (consumer.step event).1 := by
  have hwakes := hhistory.wakes_step event
  constructor
  · rw [hwakes, List.nodup_append]
    refine ⟨h.nodup, (consumer.woken? event).toList_nodup, ?_⟩
    rintro former hformer flush hflush rfl
    obtain ⟨-, hhead⟩ := mem_woken? (Option.mem_toList.1 hflush)
    exact h.not_waiting hbegun hformer (List.mem_of_head? hhead)
  · intro flush hflush
    rw [hwakes, List.mem_append] at hflush
    rcases hflush with hformer | hnew
    · rcases h.placed flush hformer with hlooks | hqueued
      · exact (step_recheck hwoken hroom hlooks event).imp id (List.mem_append_right _)
      · exact Or.inr (List.mem_append_left _ hqueued)
    · obtain ⟨rfl, hhead⟩ := mem_woken? (Option.mem_toList.1 hnew)
      rw [Consumer.step]
      rcases wake_cases consumer with ⟨hnone, -⟩ | ⟨first, waiting, hwaiting, heq⟩
      · rw [hnone] at hhead
        cases hhead
      · rw [hwaiting] at hhead
        obtain rfl := Option.some.inj hhead
        rw [heq]
        exact Or.inl (mem_actions_later.2 (Or.inr rfl))

/-- An empty queue has room, whatever else is done. -/
theorem Run.room (hsize : options.metricQueueSize.toInt? = some size) (hpos : 0 < size)
    (h : Run (Consumer.create options fresh now) trace consumer) (hqueue : consumer.queue.toList = []) :
    consumer.isFull = false := by
  apply isFull_eq_false _ hpos hqueue
  rw [h.options_eq]
  exact hsize

theorem History.turns (hfresh : fresh.Empties) (hsize : options.metricQueueSize.toInt? = some size)
    (hpos : 0 < size) (h : History (Consumer.create options fresh now) events trace consumer) :
    Turns (Consumer.create options fresh now) events trace consumer := by
  induction h with
  | start => exact ⟨List.nodup_nil, List.forall_mem_nil _⟩
  | step hhistory event henabled ih =>
    obtain ⟨uploaded, hinvariant⟩ := hhistory.invariant hfresh
    exact ih.step hhistory hinvariant.sound.begun (hhistory.run.woken hfresh)
      (hhistory.run.room hsize hpos) event

theorem Run.bounded (hsize : options.metricQueueSize.toInt? = some size) (hpos : 0 < size)
    (h : Run (Consumer.create options fresh now) trace consumer) : Bounded size consumer := by
  induction h with
  | start => exact ⟨hsize, hpos.le⟩
  | step _ event _ ih => exact ih.step event

end

/-- The queue is within its capacity, and no flush has to wait for room more than once. -/
structure InCapacity (size : Int) (start : Consumer) (events : List Event) (trace : List Effect)
    (consumer : Consumer) : Prop where
  length_le : (consumer.queue.toList.length : Int) ≤ size
  queue_eq_nil : consumer.jobs.toList = [] → consumer.queue.toList = []
  /-- A flush that was given its turn is not given it again, and waits no more. -/
  nodup : (wakes start events ++ consumer.waiting).Nodup
  /-- The drain of a flush that was given its turn is in the queue, or gets into it with the next job. -/
  woken : ∀ flush ∈ wakes start events,
    .queued (.drain flush) ∈ trace ∨ (consumer.step .job).2 = [.queued (.drain flush)]
  /-- A flush that was called gets in like this, or waits for its one turn. -/
  called : ∀ flush, .flushCalled flush ∈ trace → .queued (.drain flush) ∈ trace ∨
    (consumer.step .job).2 = [.queued (.drain flush)] ∨ flush ∈ consumer.waiting

/-- Whatever is published, flushed and closed, and whenever timers run out: no more tasks are queued than the
options allow, and a flush that finds no room gets in at its next turn. -/
theorem history_inCapacity (namespaceName : String) (storeOptions : StoreOptions)
    (data values : Option Binary64) (options : ConsumerOptions) (now : Binary64) (size : Int)
    (hsize : options.metricQueueSize.toInt? = some size) (hpos : 0 < size) (events : List Event)
    (trace : List Effect) (consumer : Consumer)
    (hhistory : History (Consumer.create options
      (Aggregation.create namespaceName storeOptions data values) now) events trace consumer) :
    InCapacity size (Consumer.create options
      (Aggregation.create namespaceName storeOptions data values) now) events trace consumer := by
  have hfresh := Aggregation.empties_create namespaceName storeOptions data values
  have hrun := hhistory.run
  obtain ⟨uploaded, hinvariant⟩ := hhistory.invariant hfresh
  have hbegun := hinvariant.sound.begun
  have hturns := hhistory.turns hfresh hsize hpos
  have hgets : ∀ flush, .recheck flush ∈ actions [] consumer →
      (consumer.step .job).2 = [.queued (.drain flush)] := fun flush hlooks =>
    step_job_of_recheck (hrun.woken hfresh) (hrun.room hsize hpos) hlooks
  constructor
  case length_le => exact (hrun.bounded hsize hpos).length_le
  case queue_eq_nil => exact fun hjobs => hinvariant.flow.queue_eq_nil hjobs
  case nodup =>
    have hwaiting : consumer.waiting.Nodup :=
      (List.nodup_append.1 (List.nodup_append.1 hbegun.nodup).1).1
    apply List.nodup_append.2 ⟨hturns.nodup, hwaiting, ?_⟩
    rintro flush hflush other hother rfl
    exact hturns.not_waiting hbegun hflush hother
  case woken =>
    intro flush hflush
    exact (hturns.placed flush hflush).symm.imp id (hgets flush)
  case called =>
    intro flush hcalled
    rcases mem_begun.1 (hrun.allBegun flush hcalled) with hwaits | hlooks | hqueued
    · exact Or.inr (Or.inr hwaits)
    · exact Or.inr (Or.inl (hgets flush hlooks))
    · exact Or.inl hqueued

/-- Two flushes find a queue of one task full. The first one gets in at its turn, before what is published
meanwhile, and the second one still waits. -/
theorem history_inCapacity_two :
    ∃ start events trace consumer,
      start = Consumer.create ⟨false, .ofInt 1, .ofInt 60000, .ofInt 5000, fun _ => none⟩
        (Aggregation.create "App" ⟨[], [.core], none, []⟩ none none) (.ofInt 0) ∧
      History start events trace consumer ∧ InCapacity 1 start events trace consumer ∧
      wakes start events = [⟨0, .manual⟩] ∧ consumer.waiting = [⟨1, .manual⟩] ∧
      queuedDrains trace = [⟨0, .manual⟩] := by
  have hstart : History (Consumer.create ⟨false, .ofInt 1, .ofInt 60000, .ofInt 5000, fun _ => none⟩
      (Aggregation.create "App" ⟨[], [.core], none, []⟩ none none) (.ofInt 0)) [] [] _ := .start
  have hcalled := hstart.step (.turn [.publish (.collection Aggregation.twoCounts), .flush, .flush]) rfl
  have hidle := (hcalled.step .job (by decide +kernel)).step .job (by decide +kernel)
  have hwoken := hidle.step .wake (by decide +kernel)
  have hpublished := hwoken.step (.defer [.publish (.collection Aggregation.twoCounts)]) trivial
  have hqueued := hpublished.step .job (by decide +kernel)
  have hinCapacity := history_inCapacity _ _ _ _ _ _ 1 (by decide +kernel) (by decide) _ _ _ hqueued
  exact ⟨_, _, _, _, rfl, hqueued, hinCapacity, by decide +kernel, by decide +kernel, by decide +kernel⟩

end Consumer
end MetricPipeline
