import MetricPipeline.Proofs.Consumer.Flow

/-! What an operation can bring about, said once for all invariants: which parts of a consumer it leaves
alone, which actions it puts behind the jobs, and which effects it has. -/

namespace MetricPipeline

/-- What performing an action can put into the jobs. -/
inductive Action.Leads : Action → Action → Prop where
  | release {first : Action} (h : first = .startNext ∨ first = .release) : Leads first .release
  | addFailed {first : Action} (h : first = .startNext ∨ first = .release) (error : Failure) :
    Leads first (.addFailed error)
  | upload {first : Action} (h : first = .startNext ∨ first = .release) (flush : Flush)
    (drained : Except AggregationError (List Request)) : Leads first (.upload flush drained)
  | reportEmpty (flush : Flush) (requests : List Request) : Leads (.upload flush (.ok requests)) (.report flush)
  | rejectUpload (flush : Flush) (requests : List Request) (message : String) :
    Leads (.upload flush (.ok requests)) (.reject flush (.raised message))
  | untrackFailed (flush : Flush) (error : AggregationError) :
    Leads (.upload flush (.error error)) (.untrack flush)
  | drainFailed (flush : Flush) (error : AggregationError) :
    Leads (.upload flush (.error error)) (.flushFailed flush (.aggregation error))
  | report (flush : Flush) (index : Nat) (outcome : Outcome) :
    Leads (.arrived flush index outcome) (.report flush)
  | resolve (flush : Flush) (result : FlushResult) : Leads (.report flush) (.resolve flush result)
  | untrackResolved (flush : Flush) (result : FlushResult) : Leads (.resolve flush result) (.untrack flush)
  | untrackRejected (flush : Flush) (error : Failure) : Leads (.reject flush error) (.untrack flush)
  | flushFailed (flush : Flush) (error : Failure) : Leads (.reject flush error) (.flushFailed flush error)
  | waited (flush : Flush) : Leads (.untrack flush) (.waited flush)
  | allWaited (flush : Flush) : Leads (.waited flush) .allWaited
  | race : Leads .allWaited (.race true)
  | clearTimeout (finished : Bool) : Leads (.race finished) (.clearTimeout finished)
  | finishClose (finished : Bool) : Leads (.clearTimeout finished) (.finishClose finished)
  | startFound (flush : Flush) : Leads (.recheck flush) .startNext
  | startCalled (calls : List Call) : Leads (.calls calls) .startNext

/-- Effects that calls of users can have. -/
def Effect.OfCall : Effect → Prop
  | .flushCalled flush => flush.origin ≠ .scheduled
  | .closeCalled _ | .queued _ | .refused _ | .log _ | .closed _ _ => True
  | _ => False

/-- What performing an action can let be seen. -/
inductive Action.Shows : Action → Effect → Prop where
  | executed {first : Action} (h : first = .startNext ∨ first = .release) (task : Task) :
    Shows first (.executed task)
  | addFailed (error : Failure) : Shows (.addFailed error) (.log (.addFailed error))
  | upload (flush : Flush) (requests : List Request) (id : Nat) (request : Request) :
    Shows (.upload flush (.ok requests)) (.upload id flush request)
  | drainFailed (flush : Flush) (error : AggregationError) :
    Shows (.upload flush (.error error)) (.flushed flush (.error (.aggregation error)))
  | report (flush : Flush) (notice : Notice) : Shows (.report flush) (.log notice)
  | resolve (flush : Flush) (result : FlushResult) :
    Shows (.resolve flush result) (.flushed flush (.ok result))
  | reject (flush : Flush) (error : Failure) : Shows (.reject flush error) (.flushed flush (.error error))
  | flushFailed (flush : Flush) (error : Failure) (notice : Notice) :
    Shows (.flushFailed flush error) (.log notice)
  | timedOut (finished : Bool) (notice : Notice) : Shows (.finishClose finished) (.log notice)
  | discarded (finished : Bool) (tasks : List Task) : Shows (.finishClose finished) (.discarded tasks)
  | closeUploader (finished : Bool) : Shows (.finishClose finished) .closeUploader
  | closed (finished : Bool) (call : Nat) : Shows (.finishClose finished) (.closed call .fulfilled)
  | uploaderClosed (outcome : Outcome) (call : Nat) : Shows (.uploaderClosed outcome) (.closed call outcome)
  | queued (flush : Flush) : Shows (.recheck flush) (.queued (.drain flush))
  | calls (calls : List Call) (effect : Effect) (h : effect.OfCall) : Shows (.calls calls) effect

/-- An action that deals with uploads. -/
def Action.Handles : Action → Prop
  | .upload _ (.ok _) | .arrived _ _ _ | .report _ => True
  | _ => False

/-- An action that deals with a shutdown. -/
def Action.Ends : Action → Prop
  | .untrack _ | .waited _ | .race _ | .clearTimeout _ | .finishClose _ | .calls _ => True
  | _ => False

namespace Consumer

/-! What is left alone -/

/-- Nothing has been done to uploads. -/
structure SameUploads (consumer other : Consumer) : Prop where
  options : other.options = consumer.options
  now : other.now = consumer.now
  nextUpload : other.nextUpload = consumer.nextUpload
  unsettled : other.unsettled = consumer.unsettled
  batches : other.batches = consumer.batches

/-- Nothing has been done to what a shutdown reads. -/
structure SameShutdown (consumer other : Consumer) : Prop where
  options : other.options = consumer.options
  now : other.now = consumer.now
  inFlight : other.inFlight = consumer.inFlight
  closed : other.closed = consumer.closed
  closing : other.closing = consumer.closing
  timer : other.timer = consumer.timer

variable {consumer other third : Consumer}

theorem SameUploads.refl (consumer : Consumer) : SameUploads consumer consumer :=
  ⟨rfl, rfl, rfl, rfl, rfl⟩

theorem SameUploads.trans (h : SameUploads consumer other) (h' : SameUploads other third) :
    SameUploads consumer third :=
  ⟨h'.options.trans h.options, h'.now.trans h.now, h'.nextUpload.trans h.nextUpload,
    h'.unsettled.trans h.unsettled, h'.batches.trans h.batches⟩

theorem SameShutdown.refl (consumer : Consumer) : SameShutdown consumer consumer :=
  ⟨rfl, rfl, rfl, rfl, rfl, rfl⟩

theorem SameShutdown.trans (h : SameShutdown consumer other) (h' : SameShutdown other third) :
    SameShutdown consumer third :=
  ⟨h'.options.trans h.options, h'.now.trans h.now, h'.inFlight.trans h.inFlight,
    h'.closed.trans h.closed, h'.closing.trans h.closing, h'.timer.trans h.timer⟩

theorem publish_sameUploads (consumer : Consumer) (submission : Submission) :
    SameUploads consumer (consumer.publish submission).1 := by
  unfold publish
  split_ifs <;> exact ⟨rfl, rfl, rfl, rfl, rfl⟩

theorem beginFlush_sameUploads (consumer : Consumer) (flush : Flush) :
    SameUploads consumer (consumer.beginFlush flush).1 := by
  unfold beginFlush
  split_ifs <;> exact ⟨rfl, rfl, rfl, rfl, rfl⟩

theorem flush_sameUploads (consumer : Consumer) (origin : FlushOrigin) :
    SameUploads consumer (consumer.flush origin).1 := by
  obtain ⟨hoptions, hnow, hnext, hunsettled, hbatches⟩ := beginFlush_sameUploads
    { consumer with nextFlush := consumer.nextFlush + 1 } ⟨consumer.nextFlush, origin⟩
  rw [flush_eq]
  exact ⟨hoptions, hnow, hnext, hunsettled, hbatches⟩

theorem close_sameUploads (consumer : Consumer) : SameUploads consumer consumer.close.1 := by
  cases h : consumer.closed with
  | true =>
    rw [close_of_closed h]
    exact ⟨rfl, rfl, rfl, rfl, rfl⟩
  | false =>
    obtain ⟨hoptions, hnow, hnext, hunsettled, hbatches⟩ := flush_sameUploads
      { consumer with nextClose := consumer.nextClose + 1, closed := true, timer := .off } .final
    rw [close_of_open h]
    exact ⟨hoptions, hnow, hnext, hunsettled, hbatches⟩

theorem callAll_sameUploads (consumer : Consumer) (calls : List Call) :
    SameUploads consumer (consumer.callAll calls).1 := by
  induction calls generalizing consumer with
  | nil => exact .refl consumer
  | cons first rest ih =>
    refine SameUploads.trans ?_ (ih (consumer.call first).1)
    cases first with
    | publish submission => exact publish_sameUploads consumer submission
    | flush => exact flush_sameUploads consumer .manual
    | close => exact close_sameUploads consumer

theorem startTask_sameUploads (consumer : Consumer) : SameUploads consumer consumer.startTask.1 := by
  unfold startTask
  cases consumer.queue.pop? with
  | none => exact .refl consumer
  | some popped => obtain ⟨(collection | message) | flush, queue⟩ := popped <;> exact ⟨rfl, rfl, rfl, rfl, rfl⟩

theorem finishClose_sameUploads (consumer : Consumer) (finished : Bool) :
    SameUploads consumer (consumer.finishClose finished).1 := by
  obtain ⟨queue, closing, heq, -⟩ := finishClose_state consumer finished
  rw [heq]
  exact ⟨rfl, rfl, rfl, rfl, rfl⟩

theorem reject_sameUploads (consumer : Consumer) (flush : Flush) (error : Failure) :
    SameUploads consumer (consumer.reject flush error).1 := by
  unfold reject
  split_ifs <;> exact ⟨rfl, rfl, rfl, rfl, rfl⟩

theorem perform_sameUploads (consumer : Consumer) {action : Action} (h : ¬action.Handles) :
    SameUploads consumer (consumer.perform action).1 := by
  cases action with
  | startNext =>
    rw [perform]
    split_ifs
    · exact .refl consumer
    · exact startTask_sameUploads consumer
  | release =>
    have hreleased : SameUploads consumer { consumer with running := false } := ⟨rfl, rfl, rfl, rfl, rfl⟩
    exact hreleased.trans (startTask_sameUploads _)
  | upload flush drained =>
    cases drained with
    | ok requests => exact absurd trivial h
    | error error => exact reject_sameUploads consumer flush _
  | arrived flush index outcome => exact absurd trivial h
  | report flush => exact absurd trivial h
  | resolve flush result => rw [perform, resolve]; split_ifs <;> exact ⟨rfl, rfl, rfl, rfl, rfl⟩
  | reject flush error => exact reject_sameUploads consumer flush error
  | untrack flush =>
    rw [perform]
    rcases untrack_cases consumer flush with heq | heq <;> (rw [heq]; exact ⟨rfl, rfl, rfl, rfl, rfl⟩)
  | waited flush =>
    rw [perform]
    rcases waited_cases consumer flush with ⟨-, heq⟩ | ⟨closing, -, heq | ⟨-, heq⟩⟩ <;>
      (rw [heq]; exact ⟨rfl, rfl, rfl, rfl, rfl⟩)
  | race finished =>
    rw [perform]
    rcases race_cases consumer finished with heq | ⟨closing, -, heq⟩ <;>
      (rw [heq]; exact ⟨rfl, rfl, rfl, rfl, rfl⟩)
  | finishClose finished => exact finishClose_sameUploads consumer finished
  | recheck flush => exact beginFlush_sameUploads consumer flush
  | calls calls => exact callAll_sameUploads consumer calls
  | _ => exact ⟨rfl, rfl, rfl, rfl, rfl⟩

theorem startTask_sameShutdown (consumer : Consumer) : SameShutdown consumer consumer.startTask.1 := by
  unfold startTask
  cases consumer.queue.pop? with
  | none => exact .refl consumer
  | some popped =>
    obtain ⟨(collection | message) | flush, queue⟩ := popped <;> exact ⟨rfl, rfl, rfl, rfl, rfl, rfl⟩

theorem beginFlush_sameShutdown (consumer : Consumer) (flush : Flush) :
    SameShutdown consumer (consumer.beginFlush flush).1 := by
  unfold beginFlush
  split_ifs <;> exact ⟨rfl, rfl, rfl, rfl, rfl, rfl⟩

theorem publish_sameShutdown (consumer : Consumer) (submission : Submission) :
    SameShutdown consumer (consumer.publish submission).1 := by
  unfold publish
  split_ifs <;> exact ⟨rfl, rfl, rfl, rfl, rfl, rfl⟩

/-- A flush does nothing to a shutdown but that it may be in flight. -/
theorem flush_shutdown (consumer : Consumer) (origin : FlushOrigin) :
    (consumer.flush origin).1.closed = consumer.closed ∧
      (consumer.flush origin).1.closing = consumer.closing ∧
      (consumer.flush origin).1.timer = consumer.timer := by
  have hsame := beginFlush_sameShutdown { consumer with nextFlush := consumer.nextFlush + 1 }
    ⟨consumer.nextFlush, origin⟩
  rw [flush_eq]
  exact ⟨hsame.closed, hsame.closing, hsame.timer⟩

theorem upload_sameShutdown (consumer : Consumer) (flush : Flush) (requests : List Request) :
    SameShutdown consumer (consumer.upload flush requests).1 := by
  unfold upload
  dsimp only
  split
  · exact ⟨rfl, rfl, rfl, rfl, rfl, rfl⟩
  · dsimp only
    split_ifs <;> exact ⟨rfl, rfl, rfl, rfl, rfl, rfl⟩

theorem reject_sameShutdown (consumer : Consumer) (flush : Flush) (error : Failure) :
    SameShutdown consumer (consumer.reject flush error).1 := by
  unfold reject
  split_ifs <;> exact ⟨rfl, rfl, rfl, rfl, rfl, rfl⟩

theorem perform_sameShutdown (consumer : Consumer) {action : Action} (h : ¬action.Ends) :
    SameShutdown consumer (consumer.perform action).1 := by
  cases action with
  | startNext =>
    rw [perform]
    split_ifs
    · exact .refl consumer
    · exact startTask_sameShutdown consumer
  | release =>
    have hreleased : SameShutdown consumer { consumer with running := false } :=
      ⟨rfl, rfl, rfl, rfl, rfl, rfl⟩
    exact hreleased.trans (startTask_sameShutdown _)
  | upload flush drained =>
    cases drained with
    | ok requests => exact upload_sameShutdown consumer flush requests
    | error error => exact reject_sameShutdown consumer flush _
  | arrived flush index outcome =>
    rw [perform, arrived]
    dsimp only
    split <;> (try split_ifs) <;> exact ⟨rfl, rfl, rfl, rfl, rfl, rfl⟩
  | report flush => rw [perform, report]; split <;> exact ⟨rfl, rfl, rfl, rfl, rfl, rfl⟩
  | resolve flush result => rw [perform, resolve]; split_ifs <;> exact ⟨rfl, rfl, rfl, rfl, rfl, rfl⟩
  | reject flush error => exact reject_sameShutdown consumer flush error
  | recheck flush => exact beginFlush_sameShutdown consumer flush
  | untrack _ | waited _ | race _ | clearTimeout _ | finishClose _ | calls _ => exact absurd trivial h
  | _ => exact ⟨rfl, rfl, rfl, rfl, rfl, rfl⟩

/-- No action changes the options. -/
theorem perform_options (consumer : Consumer) (action : Action) :
    (consumer.perform action).1.options = consumer.options := by
  by_cases h : action.Handles
  · refine (perform_sameShutdown consumer fun hends => ?_).options
    cases action <;> simp_all [Action.Handles, Action.Ends]
  · exact (perform_sameUploads consumer h).options

/-! Flushes that wait for room -/

theorem beginFlush_waiting (consumer : Consumer) (flush : Flush) :
    consumer.waiting <+: (consumer.beginFlush flush).1.waiting := by
  unfold beginFlush
  split_ifs
  · exact List.prefix_append _ _
  · exact List.prefix_rfl

theorem flush_waiting (consumer : Consumer) (origin : FlushOrigin) :
    consumer.waiting <+: (consumer.flush origin).1.waiting := by
  rw [flush_eq]
  exact beginFlush_waiting { consumer with nextFlush := consumer.nextFlush + 1 } _

theorem call_waiting (consumer : Consumer) (call : Call) :
    consumer.waiting <+: (consumer.call call).1.waiting := by
  cases call with
  | publish submission =>
    rw [call, publish]
    split_ifs <;> exact List.prefix_rfl
  | flush => exact flush_waiting consumer .manual
  | close =>
    rw [call]
    cases h : consumer.closed with
    | true => rw [close_of_closed h]
    | false =>
      rw [close_of_open h]
      exact flush_waiting { consumer with nextClose := consumer.nextClose + 1, closed := true, timer := .off }
        .final

theorem callAll_waiting (consumer : Consumer) (calls : List Call) :
    consumer.waiting <+: (consumer.callAll calls).1.waiting := by
  induction calls generalizing consumer with
  | nil => exact List.prefix_rfl
  | cons first rest ih => exact (call_waiting consumer first).trans (ih _)

theorem startTask_waiting (consumer : Consumer) : consumer.startTask.1.waiting = consumer.waiting := by
  unfold startTask
  cases consumer.queue.pop? with
  | none => rfl
  | some popped => obtain ⟨(collection | message) | flush, queue⟩ := popped <;> rfl

theorem upload_waiting (consumer : Consumer) (flush : Flush) (requests : List Request) :
    (consumer.upload flush requests).1.waiting = consumer.waiting := by
  unfold upload
  dsimp only
  split
  · rfl
  · dsimp only
    split_ifs <;> rfl

theorem finishClose_waiting (consumer : Consumer) (finished : Bool) :
    (consumer.finishClose finished).1.waiting = consumer.waiting := by
  obtain ⟨queue, closing, heq, -⟩ := finishClose_state consumer finished
  rw [heq]

/-- No job takes a flush from those that wait. -/
theorem perform_waiting (consumer : Consumer) (action : Action) :
    consumer.waiting <+: (consumer.perform action).1.waiting := by
  cases action with
  | startNext =>
    rw [perform]
    split_ifs
    · exact List.prefix_rfl
    · rw [startTask_waiting]
  | release =>
    rw [perform, startTask_waiting]
  | upload flush drained =>
    cases drained with
    | ok requests => rw [perform, upload_waiting]
    | error error =>
      rw [perform, reject]
      split_ifs <;> exact List.prefix_rfl
  | arrived flush index outcome =>
    rw [perform, arrived]
    dsimp only
    split <;> (try split_ifs) <;> exact List.prefix_rfl
  | report flush =>
    rw [perform, report]
    split <;> exact List.prefix_rfl
  | resolve flush result =>
    rw [perform, resolve]
    split_ifs <;> exact List.prefix_rfl
  | reject flush error =>
    rw [perform, reject]
    split_ifs <;> exact List.prefix_rfl
  | untrack flush =>
    rw [perform]
    rcases untrack_cases consumer flush with heq | heq
    · rw [heq]
    · rw [heq]
      exact List.prefix_rfl
  | waited flush =>
    rw [perform]
    rcases waited_cases consumer flush with ⟨-, heq⟩ | ⟨closing, -, heq | ⟨-, heq⟩⟩
    · rw [heq]
    · rw [heq]
    · rw [heq]
      exact List.prefix_rfl
  | race finished =>
    rw [perform]
    rcases race_cases consumer finished with heq | ⟨closing, -, heq⟩
    · rw [heq]
    · rw [heq]
      exact List.prefix_rfl
  | finishClose finished => rw [perform, finishClose_waiting]
  | recheck flush => exact beginFlush_waiting consumer flush
  | calls calls => exact callAll_waiting consumer calls
  | _ => exact List.prefix_rfl

/-! A consumer stays closed -/

theorem call_closed (h : consumer.closed = true) (call : Call) : (consumer.call call).1.closed = true := by
  cases call with
  | publish submission => exact (publish_sameShutdown consumer submission).closed.trans h
  | flush => exact (flush_shutdown consumer .manual).1.trans h
  | close =>
    rw [Consumer.call, close_of_closed h]
    exact h

theorem callAll_closed (h : consumer.closed = true) (calls : List Call) :
    (consumer.callAll calls).1.closed = true := by
  induction calls generalizing consumer with
  | nil => exact h
  | cons first rest ih => exact ih (call_closed h first)

/-- Calls do nothing to a shutdown that is under way. -/
theorem call_closing (h : consumer.closed = true) (call : Call) :
    (consumer.call call).1.closing = consumer.closing := by
  cases call with
  | publish submission => exact (publish_sameShutdown consumer submission).closing
  | flush => exact (flush_shutdown consumer .manual).2.1
  | close => rw [Consumer.call, close_of_closed h]

theorem callAll_closing (h : consumer.closed = true) (calls : List Call) :
    (consumer.callAll calls).1.closing = consumer.closing := by
  induction calls generalizing consumer with
  | nil => rfl
  | cons first rest ih => exact (ih (call_closed h first)).trans (call_closing h first)

/-- Nothing but a call closes a consumer. -/
theorem perform_closed_eq (consumer : Consumer) {action : Action} (h : ∀ calls, action ≠ .calls calls) :
    (consumer.perform action).1.closed = consumer.closed := by
  by_cases hends : action.Ends
  · cases action with
    | untrack flush =>
      rw [perform]
      rcases untrack_cases consumer flush with heq | heq
      · rw [heq]
      · rw [heq]
        rfl
    | waited flush =>
      rw [perform]
      rcases waited_cases consumer flush with ⟨-, heq⟩ | ⟨closing, -, heq | ⟨-, heq⟩⟩
      · rw [heq]
      · rw [heq]
      · rw [heq]
        rfl
    | race finished =>
      rw [perform]
      rcases race_cases consumer finished with heq | ⟨closing, -, heq⟩
      · rw [heq]
      · rw [heq]
        rfl
    | clearTimeout finished => rfl
    | finishClose finished =>
      obtain ⟨queue, closing, heq, -⟩ := finishClose_state consumer finished
      rw [perform, heq]
    | calls calls => exact absurd rfl (h calls)
    | _ => exact absurd hends id
  · exact (perform_sameShutdown consumer hends).closed

theorem perform_closed (h : consumer.closed = true) (action : Action) :
    (consumer.perform action).1.closed = true := by
  cases action with
  | calls calls => exact callAll_closed h calls
  | _ => exact (perform_closed_eq consumer (by simp)).trans h

/-- No event but a call or a job closes a consumer. -/
theorem step_closed_eq (consumer : Consumer) {event : Event} (hturn : ∀ calls, event ≠ .turn calls)
    (hjob : event ≠ .job) : (consumer.step event).1.closed = consumer.closed := by
  cases event with
  | turn calls => exact absurd rfl (hturn calls)
  | defer calls => rfl
  | job => exact absurd rfl hjob
  | wake =>
    rw [step]
    rcases wake_cases consumer with ⟨-, heq⟩ | ⟨flush, waiting, -, heq⟩
    · rw [heq]
    · rw [heq]
      rfl
  | fire =>
    rw [step]
    rcases fire_cases consumer with heq | ⟨_, -, heq⟩ | ⟨_, -, heq⟩
    · rw [heq]
    · rw [heq]
      exact (flush_shutdown _ .scheduled).1
    · rw [heq]
      rfl
  | clock now => rfl
  | settle id outcome =>
    rw [step]
    rcases settle_cases consumer id outcome with heq | heq | ⟨batch, -, index, heq⟩
    · rw [heq]
    · rw [heq]
    · rw [heq]
      rfl
  | uploaderClosed outcome =>
    rw [step]
    rcases endUploaderClose_cases consumer outcome with heq | ⟨closing, -, heq⟩
    · rw [heq]
    · rw [heq]
      rfl

theorem step_closed (h : consumer.closed = true) (event : Event) :
    (consumer.step event).1.closed = true := by
  cases event with
  | turn calls => exact callAll_closed h calls
  | job =>
    rw [step]
    rcases runJob_cases consumer with ⟨-, heq⟩ | ⟨delay, action, jobs, -, heq⟩ | ⟨action, jobs, -, heq⟩
    · rwa [heq]
    · rw [heq]
      exact h
    · rw [heq]
      refine perform_closed ?_ action
      exact h
  | _ => exact (step_closed_eq consumer (by simp) (by simp)).trans h

/-! Jobs -/

/-- What is put behind the jobs is of one kind. -/
def Adds (kind : Action → Prop) (consumer other : Consumer) : Prop :=
  ∃ new, other.jobs.toList = consumer.jobs.toList ++ new ∧ ∀ job ∈ new, kind job.action

namespace Adds

variable {kind : Action → Prop}

theorem of_jobs_eq (h : other.jobs = consumer.jobs) : Adds kind consumer other :=
  ⟨[], by rw [h, List.append_nil], List.forall_mem_nil _⟩

theorem refl (kind : Action → Prop) (consumer : Consumer) : Adds kind consumer consumer := of_jobs_eq rfl

theorem later (h : Adds kind consumer other) (delay : Nat) {action : Action} (haction : kind action) :
    Adds kind consumer (other.later delay action) := by
  obtain ⟨new, hnew, hkind⟩ := h
  refine ⟨new ++ [⟨delay, action⟩], ?_, ?_⟩
  · rw [Consumer.later, Fifo.toList_push, hnew, List.append_assoc]
  · intro job hjob
    rcases List.mem_append.1 hjob with hjob | hjob
    · exact hkind job hjob
    · rwa [List.mem_singleton.1 hjob]

theorem trans (h : Adds kind consumer other) (h' : Adds kind other third) : Adds kind consumer third := by
  obtain ⟨new, hnew, hkind⟩ := h
  obtain ⟨more, hmore, hkind'⟩ := h'
  exact ⟨new ++ more, by rw [hmore, hnew, List.append_assoc], List.forall_mem_append.2 ⟨hkind, hkind'⟩⟩

theorem mem (h : Adds kind consumer other) {active : List Action} {action : Action}
    (haction : action ∈ actions active consumer) : action ∈ actions active other := by
  obtain ⟨new, hnew, -⟩ := h
  rw [actions, hnew, List.map_append, ← List.append_assoc]
  exact List.mem_append_left _ haction

theorem cases (h : Adds kind consumer other) {active : List Action} {action : Action}
    (haction : action ∈ actions active other) : action ∈ actions active consumer ∨ kind action := by
  obtain ⟨new, hnew, hkind⟩ := h
  rw [actions, hnew, List.map_append, ← List.append_assoc] at haction
  refine (List.mem_append.1 haction).imp id fun hmem => ?_
  obtain ⟨job, hjob, rfl⟩ := List.mem_map.1 hmem
  exact hkind job hjob

end Adds

theorem enqueue_adds {kind : Action → Prop} (consumer : Consumer) (task : Task) (h : kind .startNext) :
    Adds kind consumer (consumer.enqueue task).1 := by
  have hqueued : Adds kind consumer { consumer with queue := consumer.queue.push task } :=
    .of_jobs_eq rfl
  exact hqueued.later 0 h

theorem beginFlush_adds {kind : Action → Prop} (consumer : Consumer) (flush : Flush)
    (h : kind .startNext) : Adds kind consumer (consumer.beginFlush flush).1 := by
  unfold beginFlush
  split_ifs
  · exact .of_jobs_eq rfl
  · exact enqueue_adds consumer _ h

theorem flush_adds {kind : Action → Prop} (consumer : Consumer) (origin : FlushOrigin)
    (h : kind .startNext) : Adds kind consumer (consumer.flush origin).1 := by
  rw [flush_eq]
  exact beginFlush_adds { consumer with nextFlush := consumer.nextFlush + 1 } _ h

theorem call_adds {kind : Action → Prop} (consumer : Consumer) (call : Call) (h : kind .startNext) :
    Adds kind consumer (consumer.call call).1 := by
  cases call with
  | publish submission =>
    rw [call, publish]
    split_ifs
    · exact .refl _ consumer
    · exact .refl _ consumer
    · exact enqueue_adds consumer _ h
  | flush => exact flush_adds consumer .manual h
  | close =>
    rw [call]
    cases hclosed : consumer.closed with
    | true =>
      rw [close_of_closed hclosed]
      exact .of_jobs_eq rfl
    | false =>
      rw [close_of_open hclosed]
      exact flush_adds { consumer with nextClose := consumer.nextClose + 1, closed := true, timer := .off }
        .final h

theorem callAll_adds {kind : Action → Prop} (consumer : Consumer) (calls : List Call)
    (h : kind .startNext) : Adds kind consumer (consumer.callAll calls).1 := by
  induction calls generalizing consumer with
  | nil => exact .refl _ consumer
  | cons first rest ih => exact (call_adds consumer first h).trans (ih _)

theorem startTask_adds {kind : Action → Prop} (consumer : Consumer) (hrelease : kind .release)
    (hfailed : ∀ error, kind (.addFailed error)) (hupload : ∀ flush drained, kind (.upload flush drained)) :
    Adds kind consumer consumer.startTask.1 := by
  unfold startTask
  cases consumer.queue.pop? with
  | none => exact .refl _ consumer
  | some popped =>
    obtain ⟨(collection | message) | flush, queue⟩ := popped
    · exact Adds.later (Adds.of_jobs_eq rfl) 0 hrelease
    · exact Adds.later (Adds.later (Adds.of_jobs_eq rfl) 2 (hfailed _)) 0 hrelease
    · exact Adds.later (Adds.later (Adds.of_jobs_eq rfl) 2 (hupload _ _)) 0 hrelease

theorem reject_adds {kind : Action → Prop} (consumer : Consumer) (flush : Flush) (error : Failure)
    (huntrack : kind (.untrack flush)) (hfailed : kind (.flushFailed flush error)) :
    Adds kind consumer (consumer.reject flush error).1 := by
  unfold reject
  split_ifs
  · exact ((Adds.refl _ consumer).later 0 huntrack).later 0 hfailed
  · exact .refl _ consumer

theorem upload_adds {kind : Action → Prop} (consumer : Consumer) (flush : Flush) (requests : List Request)
    (hreport : kind (.report flush)) (hreject : ∀ message, kind (.reject flush (.raised message))) :
    Adds kind consumer (consumer.upload flush requests).1 := by
  obtain ⟨sent, failure, -, -, ⟨-, heq⟩ | ⟨message, -, heq⟩⟩ := upload_cases consumer flush requests
  · rw [heq]
    split_ifs
    · exact Adds.later (Adds.of_jobs_eq rfl) 0 hreport
    · exact .of_jobs_eq rfl
  · rw [heq]
    exact Adds.later (Adds.of_jobs_eq rfl) 1 (hreject message)

theorem finishClose_jobs (consumer : Consumer) (finished : Bool) :
    (consumer.finishClose finished).1.jobs = consumer.jobs := by
  obtain ⟨queue, closing, heq, -⟩ := finishClose_state consumer finished
  rw [heq]

/-- An action puts nothing behind the jobs but what it leads to. -/
theorem perform_adds (consumer : Consumer) (action : Action) :
    Adds action.Leads consumer (consumer.perform action).1 := by
  cases action with
  | startNext =>
    rw [perform]
    split_ifs
    · exact .refl _ consumer
    · exact startTask_adds consumer (.release (Or.inl rfl)) (.addFailed (Or.inl rfl))
        (.upload (Or.inl rfl))
  | release =>
    exact startTask_adds { consumer with running := false } (.release (Or.inr rfl))
      (.addFailed (Or.inr rfl)) (.upload (Or.inr rfl))
  | upload flush drained =>
    cases drained with
    | ok requests => exact upload_adds consumer flush requests (.reportEmpty _ _) (.rejectUpload _ _)
    | error error => exact reject_adds consumer flush _ (.untrackFailed _ _) (.drainFailed _ _)
  | arrived flush index outcome =>
    rw [perform, arrived]
    dsimp only
    split
    · split_ifs
      · exact Adds.later (Adds.of_jobs_eq rfl) 0 (.report _ _ _)
      · exact .of_jobs_eq rfl
    · exact .of_jobs_eq rfl
  | report flush =>
    rw [perform, report]
    split
    · exact .refl _ consumer
    · exact Adds.later (Adds.of_jobs_eq rfl) 0 (.resolve _ _)
  | resolve flush result =>
    rw [perform, resolve]
    split_ifs
    · exact (Adds.refl _ consumer).later 0 (.untrackResolved _ _)
    · exact .refl _ consumer
  | reject flush error => exact reject_adds consumer flush error (.untrackRejected _ _) (.flushFailed _ _)
  | untrack flush =>
    rw [perform]
    rcases untrack_cases consumer flush with heq | heq
    · rw [heq]
      exact .of_jobs_eq rfl
    · rw [heq]
      exact Adds.later (Adds.of_jobs_eq rfl) 0 (.waited _)
  | waited flush =>
    rw [perform]
    rcases waited_cases consumer flush with ⟨-, heq⟩ | ⟨closing, -, heq | ⟨-, heq⟩⟩
    · rw [heq]
      exact .refl _ consumer
    · rw [heq]
      exact .of_jobs_eq rfl
    · rw [heq]
      exact Adds.later (Adds.of_jobs_eq rfl) 0 (.allWaited _)
  | allWaited => exact (Adds.refl _ consumer).later 0 .race
  | race finished =>
    rw [perform]
    rcases race_cases consumer finished with heq | ⟨closing, -, heq⟩
    · rw [heq]
      exact .refl _ consumer
    · rw [heq]
      exact Adds.later (Adds.of_jobs_eq rfl) 0 (.clearTimeout _)
  | clearTimeout finished => exact Adds.later (Adds.of_jobs_eq rfl) 0 (.finishClose _)
  | finishClose finished => exact .of_jobs_eq (finishClose_jobs consumer finished)
  | recheck flush => exact beginFlush_adds consumer flush (.startFound _)
  | calls calls => exact callAll_adds consumer calls (.startCalled _)
  | _ => exact .refl _ consumer

/-! Effects -/

theorem beginFlush_effects (consumer : Consumer) (flush : Flush) :
    ∀ effect ∈ (consumer.beginFlush flush).2, effect = .queued (.drain flush) := by
  unfold beginFlush
  split_ifs <;> simp [enqueue]

theorem flush_effects (consumer : Consumer) (origin : FlushOrigin) :
    ∀ effect ∈ (consumer.flush origin).2, effect = .flushCalled ⟨consumer.nextFlush, origin⟩ ∨
      effect = .queued (.drain ⟨consumer.nextFlush, origin⟩) := by
  rw [flush_eq]
  exact List.forall_mem_cons.2 ⟨Or.inl rfl, fun effect he => Or.inr (beginFlush_effects _ _ effect he)⟩

theorem flush_ofCall (consumer : Consumer) {origin : FlushOrigin} (h : origin ≠ .scheduled) :
    ∀ effect ∈ (consumer.flush origin).2, effect.OfCall := by
  intro effect he
  rcases flush_effects consumer origin effect he with rfl | rfl
  · exact h
  · trivial

/-- A timer that runs out can be seen only by the flush that it calls. -/
theorem fire_effects (consumer : Consumer) :
    ∀ effect ∈ consumer.fire.2, effect = .flushCalled ⟨consumer.nextFlush, .scheduled⟩ ∨
      effect = .queued (.drain ⟨consumer.nextFlush, .scheduled⟩) := by
  rcases fire_cases consumer with heq | ⟨_, -, heq⟩ | ⟨_, -, heq⟩
  · rw [heq]
    exact List.forall_mem_nil _
  · rw [heq]
    exact flush_effects _ .scheduled
  · rw [heq]
    exact List.forall_mem_nil _

theorem call_ofCall (consumer : Consumer) (call : Call) :
    ∀ effect ∈ (consumer.call call).2, effect.OfCall := by
  cases call with
  | publish submission =>
    rw [call, publish]
    split_ifs <;> simp [enqueue, Effect.OfCall]
  | flush => exact flush_ofCall consumer (by simp)
  | close =>
    rw [call]
    cases h : consumer.closed with
    | true =>
      rw [close_of_closed h]
      simp [Effect.OfCall]
    | false =>
      rw [close_of_open h]
      exact List.forall_mem_cons.2 ⟨trivial, flush_ofCall _ (by simp)⟩

theorem callAll_ofCall (consumer : Consumer) (calls : List Call) :
    ∀ effect ∈ (consumer.callAll calls).2, effect.OfCall := by
  induction calls generalizing consumer with
  | nil => simp [callAll]
  | cons first rest ih => exact List.forall_mem_append.2 ⟨call_ofCall consumer first, ih _⟩

theorem startTask_effects (consumer : Consumer) :
    ∀ effect ∈ consumer.startTask.2, ∃ task, effect = .executed task := by
  unfold startTask
  cases consumer.queue.pop? with
  | none => simp
  | some popped => obtain ⟨(collection | message) | flush, queue⟩ := popped <;> simp [execute]

theorem finishClose_shows (consumer : Consumer) (finished : Bool) :
    ∀ effect ∈ (consumer.finishClose finished).2, (Action.finishClose finished).Shows effect := by
  cases h : consumer.closing with
  | none => simp [finishClose, h]
  | some closing =>
    rw [finishClose_eq h]
    refine List.forall_mem_append.2 ⟨List.forall_mem_append.2 ⟨?_, ?_⟩, ?_⟩
    · split_ifs
      · simp
      · exact List.forall_mem_singleton.2 (.timedOut _ _)
    · unfold discard
      split_ifs
      · simp
      · exact List.forall_mem_singleton.2 (.discarded _ _)
    · split_ifs
      · exact List.forall_mem_singleton.2 (.closeUploader _)
      · exact List.forall_mem_singleton.2 (.closed _ _)

theorem perform_shows (consumer : Consumer) (action : Action) :
    ∀ effect ∈ (consumer.perform action).2, action.Shows effect := by
  cases action with
  | startNext =>
    rw [perform]
    split_ifs
    · simp
    · intro effect he
      obtain ⟨task, rfl⟩ := startTask_effects consumer effect he
      exact .executed (Or.inl rfl) task
  | release =>
    intro effect he
    obtain ⟨task, rfl⟩ := startTask_effects { consumer with running := false } effect he
    exact .executed (Or.inr rfl) task
  | addFailed error => exact List.forall_mem_singleton.2 (.addFailed _)
  | upload flush drained =>
    cases drained with
    | ok requests =>
      obtain ⟨sent, -, -, heffects, -⟩ := upload_cases consumer flush requests
      rw [perform, heffects]
      intro effect he
      obtain ⟨x, -, rfl⟩ := List.mem_map.1 he
      exact .upload _ _ _ _
    | error error => exact List.forall_mem_singleton.2 (.drainFailed _ _)
  | report flush =>
    rw [perform, report]
    split
    · simp
    · intro effect he
      obtain ⟨notice, rfl⟩ := noticeOf_logs _ effect he
      exact .report _ _
  | resolve flush result => exact List.forall_mem_singleton.2 (.resolve _ _)
  | reject flush error => exact List.forall_mem_singleton.2 (.reject _ _)
  | flushFailed flush error =>
    rw [perform, flushFailed]
    cases flush.origin with
    | manual => simp
    | scheduled => exact List.forall_mem_singleton.2 (.flushFailed _ _ _)
    | final => exact List.forall_mem_singleton.2 (.flushFailed _ _ _)
  | finishClose finished => exact finishClose_shows consumer finished
  | uploaderClosed outcome =>
    rw [perform, uploaderClosed]
    split
    · simp
    · exact List.forall_mem_singleton.2 (.uploaderClosed _ _)
  | recheck flush =>
    intro effect he
    rw [beginFlush_effects consumer flush effect he]
    exact .queued flush
  | calls calls => exact fun effect he => .calls calls effect (callAll_ofCall consumer calls effect he)
  | _ => simp [perform]

/-- What can be seen of a step is of a call, the call of a flush, or what a job lets be seen. -/
theorem step_shows {event : Event} {effect : Effect} (h : effect ∈ (consumer.step event).2) :
    effect.OfCall ∨ (∃ flush, effect = .flushCalled flush) ∨
      ∃ action ∈ actions [] consumer, action.Shows effect := by
  cases event with
  | turn calls => exact Or.inl (callAll_ofCall consumer calls effect h)
  | job =>
    obtain ⟨action, jobs, hpop, heq⟩ := runJob_of_effect h
    rw [step, heq] at h
    exact Or.inr (Or.inr ⟨action, mem_actions_of_pop hpop, perform_shows _ action effect h⟩)
  | fire =>
    rcases fire_effects consumer effect h with rfl | rfl
    · exact Or.inr (Or.inl ⟨_, rfl⟩)
    · exact Or.inl trivial
  | _ => cases h

end Consumer
end MetricPipeline
