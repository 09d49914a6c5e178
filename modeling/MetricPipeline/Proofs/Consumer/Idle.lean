import MetricPipeline.Proofs.Binary64.Order
import MetricPipeline.Proofs.Consumer.Steps

/-! A consumer that is left alone comes to rest. Jobs and flushes that wait have a cost, which every job makes
less; only the search for room in a queue could go on for ever, and a flush that is woken finds the queue
empty. -/

namespace MetricPipeline

/-- An upper bound for the jobs that an action brings about, itself among them. -/
def Action.cost : Action → Nat
  | .startNext | .release | .addFailed _ | .flushFailed _ _ | .uploaderClosed _ | .finishClose _ => 1
  | .clearTimeout _ => 2
  | .race _ => 3
  | .allWaited => 4
  | .waited _ => 5
  | .untrack _ => 6
  | .resolve _ _ => 7
  | .report _ | .reject _ _ => 8
  | .arrived _ _ _ => 9
  | .upload _ _ => 10
  | .recheck _ => 15
  | .calls made => 1 + 16 * made.length

theorem Action.cost_pos (action : Action) : 0 < action.cost := by
  cases action <;> simp [Action.cost]

/-- A job that is put back comes to its turn once more for each delay. -/
def Job.cost (job : Job) : Nat := job.delay + job.action.cost

namespace Consumer

variable {trace : List Effect} {consumer other : Consumer}

/-- An upper bound for what jobs, queued tasks and flushes that wait bring about. -/
def costOf (jobs : List Job) (queue : List Task) (waiting : List Flush) : Nat :=
  (jobs.map Job.cost).sum + 13 * queue.length + 16 * waiting.length

/-- An upper bound for the jobs that are still to be done when nothing happens from outside. -/
def cost (consumer : Consumer) : Nat :=
  costOf consumer.jobs.toList consumer.queue.toList consumer.waiting

theorem costOf_cons_job (job : Job) (jobs : List Job) (queue : List Task) (waiting : List Flush) :
    costOf (job :: jobs) queue waiting = costOf jobs queue waiting + job.cost := by
  rw [costOf, costOf, List.map_cons, List.sum_cons]
  omega

theorem costOf_concat_job (jobs : List Job) (job : Job) (queue : List Task) (waiting : List Flush) :
    costOf (jobs ++ [job]) queue waiting = costOf jobs queue waiting + job.cost := by
  rw [costOf, costOf, List.map_append, List.sum_append, List.map_singleton, List.sum_singleton]
  omega

theorem costOf_cons_task (jobs : List Job) (task : Task) (queue : List Task) (waiting : List Flush) :
    costOf jobs (task :: queue) waiting = costOf jobs queue waiting + 13 := by
  rw [costOf, costOf, List.length_cons]
  omega

theorem costOf_concat_task (jobs : List Job) (queue : List Task) (task : Task) (waiting : List Flush) :
    costOf jobs (queue ++ [task]) waiting = costOf jobs queue waiting + 13 := by
  rw [costOf, costOf, List.length_append, List.length_singleton]
  omega

theorem costOf_cons_waiting (jobs : List Job) (queue : List Task) (flush : Flush) (waiting : List Flush) :
    costOf jobs queue (flush :: waiting) = costOf jobs queue waiting + 16 := by
  rw [costOf, costOf, List.length_cons]
  omega

theorem costOf_concat_waiting (jobs : List Job) (queue : List Task) (waiting : List Flush) (flush : Flush) :
    costOf jobs queue (waiting ++ [flush]) = costOf jobs queue waiting + 16 := by
  rw [costOf, costOf, List.length_append, List.length_singleton]
  omega

theorem costOf_empty_queue_le (jobs : List Job) (queue : List Task) (waiting : List Flush) :
    costOf jobs [] waiting ≤ costOf jobs queue waiting := by
  rw [costOf, costOf, List.length_nil]
  omega

theorem cost_later (consumer : Consumer) (delay : Nat) (action : Action) :
    (consumer.later delay action).cost = consumer.cost + (delay + action.cost) := by
  rw [cost, jobs_later]
  exact costOf_concat_job _ _ _ _

theorem cost_enqueue (consumer : Consumer) (task : Task) :
    (consumer.enqueue task).1.cost = consumer.cost + 14 := by
  have hpushed : ({ consumer with queue := consumer.queue.push task }).cost = consumer.cost + 13 := by
    show costOf _ (consumer.queue.push task).toList _ = _
    rw [Fifo.toList_push]
    exact costOf_concat_task _ _ _ _
  show (({ consumer with queue := consumer.queue.push task }).later 0 .startNext).cost = _
  rw [cost_later, hpushed]
  rfl

theorem cost_beginFlush_le (consumer : Consumer) (flush : Flush) :
    (consumer.beginFlush flush).1.cost ≤ consumer.cost + 16 := by
  unfold beginFlush
  split_ifs
  · exact le_of_eq (costOf_concat_waiting _ _ _ _)
  · rw [cost_enqueue]
    omega

theorem cost_flush_le (consumer : Consumer) (origin : FlushOrigin) :
    (consumer.flush origin).1.cost ≤ consumer.cost + 16 := by
  rw [flush_eq]
  exact cost_beginFlush_le { consumer with nextFlush := consumer.nextFlush + 1 } _

theorem cost_call_le (consumer : Consumer) (call : Call) :
    (consumer.call call).1.cost ≤ consumer.cost + 16 := by
  cases call with
  | publish submission =>
    rw [call, publish]
    split_ifs
    · exact Nat.le_add_right _ _
    · exact Nat.le_add_right _ _
    · rw [cost_enqueue]
      omega
  | flush => exact cost_flush_le consumer .manual
  | close =>
    rw [call]
    cases h : consumer.closed with
    | true =>
      rw [close_of_closed h]
      exact Nat.le_add_right _ _
    | false =>
      rw [close_of_open h]
      exact cost_flush_le
        { consumer with nextClose := consumer.nextClose + 1, closed := true, timer := .off } .final

theorem cost_callAll_le (consumer : Consumer) (calls : List Call) :
    (consumer.callAll calls).1.cost ≤ consumer.cost + 16 * calls.length := by
  induction calls generalizing consumer with
  | nil => exact Nat.le_add_right _ _
  | cons first rest ih =>
    have hfirst := cost_call_le consumer first
    have hrest := ih (consumer.call first).1
    rw [List.length_cons]
    show ((consumer.call first).1.callAll rest).1.cost ≤ _
    omega

/-- What a task brings about costs no more than the task. -/
theorem cost_startTask_le (consumer : Consumer) : consumer.startTask.1.cost ≤ consumer.cost := by
  unfold startTask
  cases hpop : consumer.queue.pop? with
  | none => exact le_rfl
  | some popped =>
    obtain ⟨task, queue⟩ := popped
    let popped : Consumer := { consumer with queue }
    have hpopped : consumer.cost = popped.cost + 13 := by
      rw [cost, Fifo.toList_of_pop? hpop]
      exact costOf_cons_task _ _ _ _
    obtain (collection | message) | flush := task
    · have hcost := cost_later
        { popped with running := true, aggregation := consumer.aggregation.add collection } 0 .release
      rw [hpopped]
      exact hcost.le.trans (Nat.add_le_add_left (by simp [Action.cost]) _)
    · have hfailed := cost_later { popped with running := true } 2 (.addFailed (.raised message))
      have hcost := cost_later (Consumer.later { popped with running := true } 2
        (.addFailed (.raised message))) 0 .release
      rw [hfailed, Nat.add_assoc] at hcost
      rw [hpopped]
      exact hcost.le.trans (Nat.add_le_add_left (by simp [Action.cost]) _)
    · let drained : Consumer :=
        { popped with running := true, aggregation := consumer.aggregation.drain.2 }
      have hupload := cost_later drained 2 (.upload flush consumer.aggregation.drain.1)
      have hcost := cost_later (drained.later 2 (.upload flush consumer.aggregation.drain.1)) 0 .release
      rw [hupload, Nat.add_assoc] at hcost
      rw [hpopped]
      exact hcost.le.trans (Nat.add_le_add_left (by simp [Action.cost]) _)

theorem cost_reject_le (consumer : Consumer) (flush : Flush) (error : Failure) :
    (consumer.reject flush error).1.cost ≤ consumer.cost + 7 := by
  unfold reject
  split_ifs
  · rw [cost_later, cost_later, Nat.add_assoc]
    exact Nat.add_le_add_left (by simp [Action.cost]) _
  · exact Nat.le_add_right _ _

theorem cost_upload_le (consumer : Consumer) (flush : Flush) (requests : List Request) :
    (consumer.upload flush requests).1.cost ≤ consumer.cost + 9 := by
  obtain ⟨sent, failure, -, -, ⟨-, heq⟩ | ⟨message, -, heq⟩⟩ := upload_cases consumer flush requests
  · rw [heq]
    split_ifs
    · rw [cost_later]
      exact Nat.add_le_add_left (by simp [Action.cost]) consumer.cost
    · exact Nat.le_add_right consumer.cost _
  · rw [heq, cost_later]
    exact Nat.add_le_add_left (by simp [Action.cost]) consumer.cost

theorem cost_finishClose_le (consumer : Consumer) (finished : Bool) :
    (consumer.finishClose finished).1.cost ≤ consumer.cost := by
  obtain ⟨queue, closing, heq, rfl | rfl, -⟩ := finishClose_state consumer finished
  · rw [heq]
    exact le_rfl
  · rw [heq]
    exact costOf_empty_queue_le _ _ _

/-- An action costs more than what it brings about, but for a search that finds no room. -/
theorem cost_perform_lt (consumer : Consumer) {action : Action}
    (hroom : ∀ flush, action = .recheck flush → consumer.isFull = false) :
    (consumer.perform action).1.cost < consumer.cost + action.cost := by
  have hless : ∀ {n m : Nat}, n < m → consumer.cost + n < consumer.cost + m := fun h =>
    Nat.add_lt_add_left h _
  cases action with
  | startNext =>
    rw [perform]
    split_ifs
    · exact hless (Action.cost_pos _)
    · exact Nat.lt_succ_of_le (cost_startTask_le consumer)
  | release => exact Nat.lt_succ_of_le (cost_startTask_le { consumer with running := false })
  | addFailed error => exact hless (Action.cost_pos _)
  | upload flush drained =>
    cases drained with
    | ok requests => exact Nat.lt_succ_of_le (cost_upload_le consumer flush requests)
    | error error =>
      exact (cost_reject_le consumer flush (.aggregation error)).trans_lt (hless (by simp [Action.cost]))
  | arrived flush index outcome =>
    rw [perform, arrived]
    dsimp only
    split
    · split_ifs
      · rw [cost_later]
        exact hless (by simp [Action.cost])
      · exact hless (Action.cost_pos _)
    · exact hless (Action.cost_pos _)
  | report flush =>
    rw [perform, report]
    split
    · exact hless (Action.cost_pos _)
    · rw [cost_later]
      exact hless (by simp [Action.cost])
  | resolve flush result =>
    rw [perform, resolve]
    split_ifs
    · rw [cost_later]
      exact hless (by simp [Action.cost])
    · exact hless (Action.cost_pos _)
  | reject flush error => exact Nat.lt_succ_of_le (cost_reject_le consumer flush error)
  | untrack flush =>
    rw [perform]
    rcases untrack_cases consumer flush with heq | heq
    · rw [heq]
      exact hless (Action.cost_pos _)
    · rw [heq, cost_later]
      exact hless (by simp [Action.cost])
  | flushFailed flush error => exact hless (Action.cost_pos _)
  | waited flush =>
    rw [perform]
    rcases waited_cases consumer flush with ⟨-, heq⟩ | ⟨closing, -, heq | ⟨-, heq⟩⟩
    · rw [heq]
      exact hless (Action.cost_pos _)
    · rw [heq]
      exact hless (Action.cost_pos _)
    · rw [heq, cost_later]
      exact hless (by simp [Action.cost])
  | allWaited =>
    rw [perform, cost_later]
    exact hless (by simp [Action.cost])
  | race finished =>
    rw [perform]
    rcases race_cases consumer finished with heq | ⟨closing, -, heq⟩
    · rw [heq]
      exact hless (Action.cost_pos _)
    · rw [heq, cost_later]
      exact hless (by simp [Action.cost])
  | clearTimeout finished =>
    rw [perform, cost_later]
    exact hless (by simp [Action.cost])
  | finishClose finished => exact Nat.lt_succ_of_le (cost_finishClose_le consumer finished)
  | uploaderClosed outcome => exact hless (Action.cost_pos _)
  | recheck flush =>
    -- without room the flush would wait again, at the cost of being woken once more
    rw [perform, beginFlush, hroom flush rfl, if_neg (by simp), cost_enqueue]
    exact hless (by simp [Action.cost])
  | calls calls =>
    refine (cost_callAll_le consumer calls).trans_lt (hless ?_)
    rw [Action.cost]
    omega

/-! A flush that is woken -/

/-- A flush looks for room as the next job, when the queue is empty. -/
structure Woken (consumer : Consumer) : Prop where
  head : ∀ job rest, consumer.jobs.toList = job :: rest → ∀ flush, job.action = .recheck flush →
    job.delay = 0 ∧ consumer.queue.toList = []
  tail : ∀ job ∈ consumer.jobs.toList.tail, job.action.recheck? = none

namespace Woken

/-- No flush looks for room. -/
theorem of_none (h : ∀ job ∈ consumer.jobs.toList, job.action.recheck? = none) : Woken consumer := by
  refine ⟨fun job rest hjobs flush hflush => ?_, fun job hjob => h job (List.mem_of_mem_tail hjob)⟩
  have hnone := h job (by rw [hjobs]; exact List.mem_cons_self)
  rw [hflush] at hnone
  cases hnone

/-- Where there was no job, or none that looks for room, the new ones are enough to look at. -/
theorem of_adds (h : ∀ job ∈ consumer.jobs.toList, job.action.recheck? = none)
    (hadds : Adds (·.recheck? = none) consumer other) : Woken other := by
  obtain ⟨new, hnew, hkind⟩ := hadds
  refine of_none ?_
  rw [hnew]
  exact List.forall_mem_append.2 ⟨h, hkind⟩

/-- Other jobs can be put behind. -/
theorem adds (h : Woken consumer) (hadds : Adds (·.recheck? = none) consumer other)
    (hqueue : other.queue = consumer.queue) : Woken other := by
  obtain ⟨new, hnew, hkind⟩ := hadds
  cases hjobs : consumer.jobs.toList with
  | nil =>
    refine of_none ?_
    rw [hnew, hjobs]
    exact hkind
  | cons first rest =>
    refine ⟨fun job latter heq => ?_, ?_⟩
    · rw [hnew, hjobs] at heq
      rw [← (List.cons.inj heq).1, hqueue]
      exact h.head first rest hjobs
    · rw [hnew, hjobs]
      refine List.forall_mem_append.2 ⟨?_, hkind⟩
      have htail := h.tail
      rwa [hjobs] at htail

/-- Behind the first job none looks for room. -/
theorem rest (h : Woken consumer) {job : Job} {jobs : Fifo Job} (hpop : consumer.jobs.pop? = some (job, jobs)) :
    ∀ job ∈ jobs.toList, job.action.recheck? = none := by
  have htail := h.tail
  rwa [Fifo.toList_of_pop? hpop] at htail

/-- A job leaves none that looks for room. -/
theorem none_of_runJob (h : Woken consumer) :
    ∀ job ∈ consumer.runJob.1.jobs.toList, job.action.recheck? = none := by
  rcases runJob_cases consumer with ⟨hnone, heq⟩ | ⟨delay, action, jobs, hpop, heq⟩ | ⟨action, jobs, hpop, heq⟩
  · rw [heq, hnone]
    exact List.forall_mem_nil _
  · -- a flush that looks for room does so at once, so it is not what is put back
    have hhead := h.head _ _ (Fifo.toList_of_pop? hpop)
    rw [heq, jobs_later]
    refine List.forall_mem_append.2 ⟨h.rest hpop, List.forall_mem_singleton.2 ?_⟩
    cases action with
    | recheck flush => exact absurd (hhead flush rfl).1 (Nat.succ_ne_zero delay)
    | _ => rfl
  · obtain ⟨new, hnew, hkind⟩ := perform_adds { consumer with jobs } action
    rw [heq, hnew]
    refine List.forall_mem_append.2 ⟨h.rest hpop, fun job hjob => ?_⟩
    have hleads := hkind job hjob
    generalize job.action = next at hleads
    cases hleads <;> rfl

theorem step {fresh : Aggregation} {ended : List (Nat × Outcome)} {uploaded : List Drained}
    (hinvariant : Invariant fresh ended trace uploaded consumer) (h : Woken consumer) {event : Event}
    (henabled : consumer.Enabled event) : Woken (consumer.step event).1 := by
  have hstart : Action.startNext.recheck? = none := rfl
  have hidle : consumer.jobs.toList = [] → ∀ job ∈ consumer.jobs.toList, job.action.recheck? = none :=
    fun hjobs job hmem => absurd (hjobs ▸ hmem) List.not_mem_nil
  cases event with
  | turn calls => exact of_adds (hidle henabled) (callAll_adds consumer calls hstart)
  | defer calls => exact h.adds ((Adds.refl _ consumer).later 0 rfl) rfl
  | job => exact of_none h.none_of_runJob
  | wake =>
    have hqueue := hinvariant.flow.queue_eq_nil henabled.1
    rw [Consumer.step]
    rcases wake_cases consumer with ⟨-, heq⟩ | ⟨flush, waiting, -, heq⟩
    · rwa [heq]
    · have hjobs : (({ consumer with waiting }).later 0 (.recheck flush)).jobs.toList =
          [⟨0, .recheck flush⟩] := by
        rw [jobs_later, henabled.1]
        rfl
      rw [heq]
      refine ⟨fun job rest heq other hother => ?_, ?_⟩
      · rw [hjobs] at heq
        rw [← (List.cons.inj heq).1]
        exact ⟨rfl, hqueue⟩
      · rw [hjobs]
        exact List.forall_mem_nil _
  | fire =>
    rw [Consumer.step]
    rcases fire_cases consumer with heq | ⟨_, -, heq⟩ | ⟨_, -, heq⟩
    · rwa [heq]
    · rw [heq]
      refine of_adds ?_ (flush_adds _ .scheduled hstart)
      exact hidle henabled.1
    · have hoff : Adds (·.recheck? = none) consumer { consumer with timer := .off } := .of_jobs_eq rfl
      rw [heq]
      exact of_adds (hidle henabled.1) (hoff.later 0 rfl)
  | clock now => exact ⟨h.head, h.tail⟩
  | settle id outcome =>
    have hsettled : Adds (·.recheck? = none) consumer
        { consumer with unsettled := consumer.unsettled.filter (· ≠ id) } := .of_jobs_eq rfl
    rw [Consumer.step]
    rcases settle_cases consumer id outcome with heq | heq | ⟨batch, -, index, heq⟩
    · rwa [heq]
    · rw [heq]
      exact h.adds hsettled rfl
    · rw [heq]
      exact h.adds (hsettled.later 0 rfl) rfl
  | uploaderClosed outcome =>
    rw [Consumer.step]
    rcases endUploaderClose_cases consumer outcome with heq | ⟨closing, -, heq⟩
    · rwa [heq]
    · have hended : Adds (·.recheck? = none) consumer
          { consumer with closing := some { closing with awaitsUploader := false } } := .of_jobs_eq rfl
      rw [heq]
      exact h.adds (hended.later 0 rfl) rfl

end Woken

theorem Run.woken {fresh : Aggregation} (hfresh : fresh.Empties) {options : ConsumerOptions}
    {now : Binary64} (h : Run (Consumer.create options fresh now) trace consumer) : Woken consumer := by
  induction h with
  | start => exact .of_none fun _ hmem => absurd hmem List.not_mem_nil
  | step hrun event henabled ih =>
    obtain ⟨ended, uploaded, hinvariant⟩ := hrun.invariant hfresh
    exact ih.step hinvariant henabled

/-! Rest -/

/-- Nothing is left to do but for what comes from outside. -/
def Idle (consumer : Consumer) : Prop := consumer.jobs.toList = [] ∧ consumer.waiting = []

/-- What happens by itself. -/
def Event.Internal : Event → Prop
  | .job | .wake => True
  | _ => False

/-- Each job, and each flush that is woken, makes the cost less. -/
theorem cost_step_lt (h : Woken consumer) (hroom : consumer.queue.toList = [] → consumer.isFull = false)
    {event : Event} (hinternal : event.Internal) (henabled : consumer.Enabled event) :
    (consumer.step event).1.cost < consumer.cost := by
  cases event with
  | job =>
    have hpopped : ∀ {job : Job} {jobs : Fifo Job}, consumer.jobs.pop? = some (job, jobs) →
        consumer.cost = ({ consumer with jobs }).cost + job.cost := by
      intro job jobs hpop
      rw [cost, Fifo.toList_of_pop? hpop]
      exact costOf_cons_job _ _ _ _
    rw [step]
    rcases runJob_cases consumer with ⟨hnone, -⟩ | ⟨delay, action, jobs, hpop, heq⟩ | ⟨action, jobs, hpop, heq⟩
    · exact absurd hnone henabled
    · rw [heq, cost_later, hpopped hpop, Job.cost]
      exact Nat.add_lt_add_left (Nat.add_lt_add_right (Nat.lt_succ_self delay) _) _
    · have hlt : (({ consumer with jobs }).perform action).1.cost <
          ({ consumer with jobs }).cost + action.cost := by
        refine cost_perform_lt _ ?_
        rintro flush rfl
        exact hroom (h.head _ _ (Fifo.toList_of_pop? hpop) flush rfl).2
      rw [heq, hpopped hpop, Job.cost, Nat.zero_add]
      exact hlt
  | wake =>
    rw [step]
    rcases wake_cases consumer with ⟨hnone, -⟩ | ⟨flush, waiting, hwaiting, heq⟩
    · exact absurd hnone henabled.2
    · have hwoken : consumer.cost = ({ consumer with waiting }).cost + 16 := by
        rw [cost, hwaiting]
        exact costOf_cons_waiting _ _ _ _
      rw [heq, cost_later, hwoken]
      exact Nat.add_lt_add_left (Nat.lt_succ_self 15) _
  | _ => exact absurd hinternal id

/-- An empty queue has room for a task. -/
theorem isFull_eq_false {size : Int} (hsize : consumer.options.metricQueueSize.toInt? = some size)
    (hpos : 0 < size) (hqueue : consumer.queue.toList = []) : consumer.isFull = false := by
  have hlength : consumer.queue.size = 0 := by rw [← Fifo.length_toList, hqueue, List.length_nil]
  rw [isFull, hlength]
  exact Binary64.le_zero_of_toInt?_pos hsize hpos

/-- Something can happen by itself until nothing is left to do. -/
theorem exists_internal (h : ¬consumer.Idle) : ∃ event : Event, event.Internal ∧ consumer.Enabled event := by
  by_cases hjobs : consumer.jobs.toList = []
  · exact ⟨.wake, trivial, hjobs, fun hwaiting => h ⟨hjobs, hwaiting⟩⟩
  · exact ⟨.job, trivial, hjobs⟩

/-- A consumer that is left alone comes to rest. -/
theorem Run.idle {fresh : Aggregation} (hfresh : fresh.Empties) {options : ConsumerOptions} {size : Int}
    (hsize : options.metricQueueSize.toInt? = some size) (hpos : 0 < size) {now : Binary64}
    (h : Run (Consumer.create options fresh now) trace consumer) :
    ∃ events trace' last, (∀ event ∈ events, event.Internal) ∧ History consumer events trace' last ∧
      last.Idle := by
  induction hcost : consumer.cost using Nat.strong_induction_on generalizing trace consumer with
  | _ cost ih =>
    by_cases hidle : consumer.Idle
    · exact ⟨[], [], consumer, List.forall_mem_nil _, .start, hidle⟩
    · obtain ⟨event, hinternal, henabled⟩ := exists_internal hidle
      have hroom : consumer.queue.toList = [] → consumer.isFull = false :=
        isFull_eq_false (by rw [h.options_eq]; exact hsize) hpos
      have hlt := cost_step_lt (h.woken hfresh) hroom hinternal henabled
      obtain ⟨events, trace', last, hevents, hlast, hrest⟩ := ih _ (hcost ▸ hlt) (h.step event henabled) rfl
      have hfirst : History consumer [event] (consumer.step event).2 (consumer.step event).1 :=
        History.start.step event henabled
      exact ⟨[event] ++ events, _, last, List.forall_mem_append.2 ⟨by simpa using hinternal, hevents⟩,
        hfirst.trans hlast, hrest⟩

end Consumer
end MetricPipeline
