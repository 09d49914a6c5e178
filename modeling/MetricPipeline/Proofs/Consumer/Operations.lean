import MetricPipeline.Proofs.Consumer.Run

/-! What each operation comes to, case by case. The invariants of a consumer are proved from these cases. -/

namespace MetricPipeline.Consumer

/-! Jobs -/

/-- The action under way and those of the jobs. -/
def actions (active : List Action) (consumer : Consumer) : List Action :=
  active ++ consumer.jobs.toList.map Job.action

theorem jobs_later (consumer : Consumer) (delay : Nat) (action : Action) :
    (consumer.later delay action).jobs.toList = consumer.jobs.toList ++ [⟨delay, action⟩] :=
  Fifo.toList_push _ _

theorem actions_later (active : List Action) (consumer : Consumer) (delay : Nat) (action : Action) :
    actions active (consumer.later delay action) = actions active consumer ++ [action] := by
  rw [actions, jobs_later, List.map_append, ← List.append_assoc]
  rfl

theorem mem_actions_later {active : List Action} {consumer : Consumer} {delay : Nat}
    {action next : Action} : action ∈ actions active (consumer.later delay next) ↔
      action ∈ actions active consumer ∨ action = next := by
  rw [actions_later, List.mem_append, List.mem_singleton]

/-- The job under way is taken from the jobs. -/
theorem actions_pop {consumer : Consumer} {delay : Nat} {action : Action} {jobs : Fifo Job}
    (hpop : consumer.jobs.pop? = some (⟨delay, action⟩, jobs)) :
    actions [action] { consumer with jobs } = actions [] consumer := by
  rw [actions, actions, Fifo.toList_of_pop? hpop]
  rfl

theorem mem_actions_of_pop {consumer : Consumer} {delay : Nat} {action : Action} {jobs : Fifo Job}
    (hpop : consumer.jobs.pop? = some (⟨delay, action⟩, jobs)) : action ∈ actions [] consumer := by
  rw [← actions_pop hpop]
  exact List.mem_cons_self

/-- A job that has to wait is put back. -/
theorem actions_rotate {consumer : Consumer} {delay : Nat} {action : Action} {jobs : Fifo Job}
    (hpop : consumer.jobs.pop? = some (⟨delay + 1, action⟩, jobs)) :
    (actions [] (({ consumer with jobs }).later delay action)).Perm (actions [] consumer) := by
  rw [actions_later, ← actions_pop hpop]
  exact List.perm_append_singleton _ _

/-! Calls and uploads -/

/-- A call of flush: the drain is queued or waits, and a tracked flush is in flight from now on. -/
theorem flush_eq (consumer : Consumer) (origin : FlushOrigin) :
    let flush : Flush := ⟨consumer.nextFlush, origin⟩
    let begun := ({ consumer with nextFlush := consumer.nextFlush + 1 }).beginFlush flush
    consumer.flush origin =
      ({ begun.1 with
          inFlight := if flush.tracked then begun.1.inFlight ++ [flush] else begun.1.inFlight },
        .flushCalled flush :: begun.2) := by
  intro flush begun
  show ((if flush.tracked then { begun.1 with inFlight := begun.1.inFlight ++ [flush] } else begun.1),
    Effect.flushCalled flush :: begun.2) = _
  split_ifs <;> rfl

theorem close_of_closed {consumer : Consumer} (h : consumer.closed = true) :
    consumer.close = ({ consumer with nextClose := consumer.nextClose + 1 },
      [.closeCalled consumer.nextClose, .closed consumer.nextClose .fulfilled]) :=
  if_pos h

theorem close_of_open {consumer : Consumer} (h : consumer.closed = false) :
    let flushed := ({ consumer with
      nextClose := consumer.nextClose + 1, closed := true, timer := .off }).flush .final
    consumer.close =
      ({ flushed.1 with
          closing := some ⟨consumer.nextClose, flushed.1.inFlight, false, false⟩
          timer := .timeout flushed.1.now },
        .closeCalled consumer.nextClose :: flushed.2) :=
  if_neg (by simp [h])

/-- The uploader is called for each request in turn, up to the first call that fails. -/
theorem callUploads_eq (callFailure : Nat → Option String) (flush : Flush) (id : Nat)
    (requests : List Request) :
    ∃ sent failure, Passed callFailure id requests sent failure ∧
      callUploads callFailure flush id requests =
        (sent.map fun x => .upload x.2 flush x.1, sent.length - failure.toList.length, failure) := by
  induction requests generalizing id with
  | nil => exact ⟨_, _, .whole (by simp), rfl⟩
  | cons request rest ih =>
    cases hcall : callFailure id with
    | some message =>
      refine ⟨_, _, .cut 0 message (by simp) (by simp) hcall, ?_⟩
      rw [callUploads, hcall]
      rfl
    | none =>
      obtain ⟨sent, failure, hpassed, heq⟩ := ih (id + 1)
      refine ⟨(request, id) :: sent, failure, hpassed.cons hcall, ?_⟩
      have hle := hpassed.length_failure_le
      rw [callUploads, hcall, heq]
      simp only [List.map_cons, List.length_cons, Prod.mk.injEq, true_and, and_true]
      omega

/-- A drain whose calls go well is uploaded as a batch, which is reported at once when it is empty; else the
flush is rejected. -/
theorem upload_cases (consumer : Consumer) (flush : Flush) (requests : List Request) :
    ∃ sent failure, Passed consumer.options.callFailure consumer.nextUpload requests sent failure ∧
      let uploading : Consumer := { consumer with
        nextUpload := consumer.nextUpload + sent.length
        unsettled := consumer.unsettled ++
          List.range' consumer.nextUpload (sent.length - failure.toList.length) }
      let batched : Consumer := { uploading with
        batches := consumer.batches ++
          [⟨flush, consumer.nextUpload, List.replicate requests.length none⟩] }
      (consumer.upload flush requests).2 = (sent.map fun x => .upload x.2 flush x.1) ∧
      ((failure = none ∧ (consumer.upload flush requests).1 =
          if requests.length = 0 then batched.later 0 (.report flush) else batched) ∨
        ∃ message, failure = some message ∧
          (consumer.upload flush requests).1 = uploading.later 1 (.reject flush (.raised message))) := by
  obtain ⟨sent, failure, hpassed, heq⟩ :=
    callUploads_eq consumer.options.callFailure flush consumer.nextUpload requests
  refine ⟨sent, failure, hpassed, ?_⟩
  rw [upload, heq]
  cases failure with
  | none =>
    have hlength : sent.length = requests.length := hpassed.length_eq
    refine ⟨rfl, Or.inl ⟨rfl, ?_⟩⟩
    simp only [List.length_map, Option.toList_none, List.length_nil, Nat.sub_zero, hlength]
  | some message =>
    refine ⟨rfl, Or.inr ⟨message, rfl, ?_⟩⟩
    simp only [List.length_map]

/-- A report of uploads is a line in the log, or nothing. -/
theorem noticeOf_logs (outcomes : List (Option Outcome)) :
    ∀ effect ∈ noticeOf outcomes, ∃ notice, effect = .log notice := by
  unfold noticeOf
  split
  · exact List.forall_mem_singleton.2 ⟨_, rfl⟩
  · split_ifs
    · exact List.forall_mem_nil _
    · exact List.forall_mem_singleton.2 ⟨_, rfl⟩

/-- The end of a shutdown: what it warns of, what it discards, and what ends it. -/
theorem finishClose_eq {consumer : Consumer} {closing : Closing} (h : consumer.closing = some closing)
    (finished : Bool) :
    consumer.finishClose finished =
      (if consumer.discard.1.options.ownsUploader then
        { consumer.discard.1 with closing := some { closing with awaitsUploader := true } }
        else consumer.discard.1,
      (if finished then [] else
        [.log (.timedOut consumer.options.shutdownTimeoutMs consumer.inFlight.length)]) ++
        consumer.discard.2 ++
        [if consumer.discard.1.options.ownsUploader then .closeUploader
          else .closed closing.call .fulfilled]) := by
  unfold finishClose
  rw [h]
  dsimp only
  split_ifs <;> rfl

/-! The end of a flush and of a shutdown -/

/-- A flush that has ended is told to the shutdown that waits for it. -/
theorem untrack_cases (consumer : Consumer) (flush : Flush) :
    let untracked : Consumer := { consumer with inFlight := consumer.inFlight.filter (· ≠ flush) }
    consumer.untrack flush = untracked ∨
      consumer.untrack flush = untracked.later 0 (.waited flush) := by
  intro untracked
  unfold untrack
  dsimp only
  split
  · split_ifs
    · exact Or.inr rfl
    · exact Or.inl rfl
  · exact Or.inl rfl

/-- A shutdown waits for one flush less, and ends its wait when there is none left. -/
theorem waited_cases (consumer : Consumer) (flush : Flush) :
    (consumer.closing = none ∧ consumer.waited flush = consumer) ∨
      ∃ closing, consumer.closing = some closing ∧
        let waitingFor := closing.waitingFor.filter (· ≠ flush)
        let next : Consumer := { consumer with closing := some { closing with waitingFor } }
        consumer.waited flush = next ∨
          waitingFor = [] ∧ consumer.waited flush = next.later 0 .allWaited := by
  cases h : consumer.closing with
  | none =>
    refine Or.inl ⟨rfl, ?_⟩
    rw [waited, h]
  | some closing =>
    refine Or.inr ⟨closing, rfl, ?_⟩
    rw [waited, h]
    dsimp only
    split_ifs with hnone
    · exact Or.inr ⟨hnone, rfl⟩
    · exact Or.inl rfl

/-- Only the first end of the wait counts. -/
theorem race_cases (consumer : Consumer) (finished : Bool) :
    consumer.race finished = consumer ∨
      ∃ closing, consumer.closing = some closing ∧ consumer.race finished =
        ({ consumer with closing := some { closing with raced := true } }).later 0
          (.clearTimeout finished) := by
  cases h : consumer.closing with
  | none =>
    refine Or.inl ?_
    rw [race, h]
  | some closing =>
    rw [race, h]
    dsimp only
    split_ifs
    · exact Or.inl rfl
    · exact Or.inr ⟨closing, rfl, rfl⟩

theorem discard_cases (consumer : Consumer) :
    consumer.discard = (consumer, []) ∨
      consumer.discard = ({ consumer with queue := .empty }, [.discarded consumer.queue.toList]) := by
  unfold discard
  split_ifs
  · exact Or.inl rfl
  · exact Or.inr rfl

/-- The end of a shutdown clears the queue, and notes that the uploader is closing. -/
theorem finishClose_state (consumer : Consumer) (finished : Bool) : ∃ queue closing,
    (consumer.finishClose finished).1 = { consumer with queue, closing } ∧
      (queue = consumer.queue ∨ queue = .empty) ∧
      closing.map Closing.waitingFor = consumer.closing.map Closing.waitingFor := by
  obtain ⟨queue, hdiscard, hqueue⟩ : ∃ queue, consumer.discard.1 = { consumer with queue } ∧
      (queue = consumer.queue ∨ queue = .empty) := by
    rcases discard_cases consumer with h | h
    · exact ⟨consumer.queue, by rw [h], Or.inl rfl⟩
    · exact ⟨.empty, by rw [h], Or.inr rfl⟩
  cases h : consumer.closing with
  | none =>
    have hnone : consumer.finishClose finished = (consumer, []) := by rw [finishClose, h]
    refine ⟨consumer.queue, consumer.closing, ?_, Or.inl rfl, by rw [h]⟩
    rw [hnone]
  | some closing =>
    rw [finishClose_eq h]
    dsimp only
    rw [hdiscard]
    split_ifs
    · exact ⟨queue, some { closing with awaitsUploader := true }, rfl, hqueue, rfl⟩
    · exact ⟨queue, consumer.closing, rfl, hqueue, by rw [h]⟩

/-! Events -/

/-- The first job is put back, or performed. -/
theorem runJob_cases (consumer : Consumer) :
    (consumer.jobs.toList = [] ∧ consumer.runJob = (consumer, [])) ∨
      (∃ delay action jobs, consumer.jobs.pop? = some (⟨delay + 1, action⟩, jobs) ∧
        consumer.runJob = (({ consumer with jobs }).later delay action, [])) ∨
      ∃ action jobs, consumer.jobs.pop? = some (⟨0, action⟩, jobs) ∧
        consumer.runJob = ({ consumer with jobs }).perform action := by
  unfold runJob
  split
  · next h => exact Or.inl ⟨(Fifo.pop?_eq_none_iff _).1 h, rfl⟩
  · next delay action jobs h => exact Or.inr (Or.inl ⟨delay, action, jobs, h, rfl⟩)
  · next action jobs h => exact Or.inr (Or.inr ⟨action, jobs, h, rfl⟩)

/-- A job with an effect is performed. -/
theorem runJob_of_effect {consumer : Consumer} {effect : Effect} (h : effect ∈ consumer.runJob.2) :
    ∃ action jobs, consumer.jobs.pop? = some (⟨0, action⟩, jobs) ∧
      consumer.runJob = ({ consumer with jobs }).perform action := by
  rcases runJob_cases consumer with ⟨-, heq⟩ | ⟨delay, action, jobs, -, heq⟩ | hperformed
  · rw [heq] at h
    cases h
  · rw [heq] at h
    cases h
  · exact hperformed

theorem wake_cases (consumer : Consumer) :
    (consumer.waiting = [] ∧ consumer.wake = consumer) ∨
      ∃ flush waiting, consumer.waiting = flush :: waiting ∧
        consumer.wake = ({ consumer with waiting }).later 0 (.recheck flush) := by
  unfold wake
  split
  · next h => exact Or.inl ⟨h, rfl⟩
  · next flush waiting h => exact Or.inr ⟨flush, waiting, h, rfl⟩

/-- The interval starts over and flushes, and the timeout ends a wait. -/
theorem fire_cases (consumer : Consumer) :
    consumer.fire = (consumer, []) ∨
      (∃ since, consumer.timer = .interval since ∧
        consumer.fire = ({ consumer with timer := .interval consumer.now }).flush .scheduled) ∨
      ∃ since, consumer.timer = .timeout since ∧
        consumer.fire = (({ consumer with timer := .off }).later 0 (.race false), []) := by
  unfold fire
  split
  · exact Or.inl rfl
  · next since h => exact Or.inr (Or.inl ⟨since, h, rfl⟩)
  · next since h => exact Or.inr (Or.inr ⟨since, h, rfl⟩)

/-- An upload that has not ended ends, and a flush may hear of it. -/
theorem settle_cases (consumer : Consumer) (id : Nat) (outcome : Outcome) :
    let settled : Consumer := { consumer with unsettled := consumer.unsettled.filter (· ≠ id) }
    consumer.settle id outcome = consumer ∨ consumer.settle id outcome = settled ∨
      ∃ batch ∈ consumer.batches, ∃ index,
        consumer.settle id outcome = settled.later 0 (.arrived batch.flush index outcome) := by
  intro settled
  unfold settle
  split_ifs
  · refine Or.inr ?_
    dsimp only
    split
    · next batch hbatch => exact Or.inr ⟨batch, List.mem_of_find?_eq_some hbatch, _, rfl⟩
    · exact Or.inl rfl
  · exact Or.inl rfl

theorem endUploaderClose_cases (consumer : Consumer) (outcome : Outcome) :
    consumer.endUploaderClose outcome = consumer ∨
      ∃ closing, consumer.closing = some closing ∧ consumer.endUploaderClose outcome =
        ({ consumer with closing := some { closing with awaitsUploader := false } }).later 0
          (.uploaderClosed outcome) := by
  cases h : consumer.closing with
  | none =>
    refine Or.inl ?_
    rw [endUploaderClose, h]
  | some closing =>
    rw [endUploaderClose, h]
    dsimp only
    split_ifs
    · exact Or.inr ⟨closing, rfl, rfl⟩
    · exact Or.inl rfl

end MetricPipeline.Consumer
