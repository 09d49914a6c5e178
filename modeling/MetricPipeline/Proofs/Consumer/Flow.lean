import MetricPipeline.Proofs.Consumer.Operations

/-! What flows through a consumer. The queue holds what entered it and was neither executed nor discarded;
the aggregation holds the collections since the last executed drain; and the drains that are not uploaded
yet stand in the jobs in their order. A drain waits for two more rounds of jobs, so this order is that of
the jobs only after sorting them by the rounds they still wait for. -/

namespace MetricPipeline

namespace Aggregation

/-- An aggregation whose drains, after any collections were added to it, succeed and bring it back. -/
def Empties (fresh : Aggregation) : Prop :=
  ∀ collections : List Collection, ∃ requests,
    (fresh.after (collections.map .add)).drain = (.ok requests, fresh)

theorem empties_create (namespaceName : String) (options : StoreOptions)
    (data values : Option Binary64) : (create namespaceName options data values).Empties := by
  intro collections
  obtain ⟨requests, hrequests⟩ :=
    exists_drain_holding namespaceName options (.create data values) collections
  refine ⟨requests, ?_⟩
  rw [after_create, sinceDrain_map_add]
  exact hrequests

theorem Empties.drain_eq {fresh : Aggregation} (h : fresh.Empties) (drained : Drained) :
    (fresh.after (drained.collections.map .add)).drain = (.ok (drained.requests fresh), fresh) := by
  obtain ⟨requests, hrequests⟩ := h drained.collections
  rw [Drained.requests, hrequests]

end Aggregation

/-- The drain whose requests an action passes to the uploader. -/
def Action.upload? : Action → Option (Flush × Except AggregationError (List Request))
  | .upload flush drained => some (flush, drained)
  | _ => none

namespace Drained

def pendingUpload (fresh : Aggregation) (drained : Drained) :
    Flush × Except AggregationError (List Request) :=
  (drained.flush, .ok (drained.requests fresh))

/-- The requests of a drain, each with the flush it is of. -/
def uploads (fresh : Aggregation) (drained : Drained) : List (Flush × Request) :=
  (drained.requests fresh).map (drained.flush, ·)

end Drained

/-- Effects that do not tell of the queue. -/
def Effect.OffQueue : Effect → Prop
  | .queued _ | .executed _ | .discarded _ => False
  | _ => True

/-- Effects that tell neither of the queue nor of an upload. -/
def Effect.Idle : Effect → Prop
  | .queued _ | .executed _ | .discarded _ | .upload _ _ _ => False
  | _ => True

theorem Effect.Idle.offQueue {effect : Effect} (h : effect.Idle) : effect.OffQueue := by
  cases effect <;> simp_all [Effect.Idle, Effect.OffQueue]

namespace Trace

theorem executed_append_of_offQueue (trace : List Effect) {effects : List Effect}
    (h : ∀ effect ∈ effects, effect.OffQueue) : executed (trace ++ effects) = executed trace := by
  have hnil : executed effects = [] := by
    rw [executed, List.filterMap_eq_nil_iff]
    intro effect he
    have := h effect he
    cases effect <;> simp_all [Effect.OffQueue]
  rw [executed_append, hnil, List.append_nil]

theorem keep_of_offQueue (tasks : List Task) {effect : Effect} (h : effect.OffQueue) :
    keep tasks effect = tasks := by
  cases effect <;> simp_all [Effect.OffQueue, keep]

theorem kept_append_of_offQueue (trace : List Effect) {effects : List Effect}
    (h : ∀ effect ∈ effects, effect.OffQueue) : kept (trace ++ effects) = kept trace := by
  induction effects using List.reverseRecOn with
  | nil => rw [List.append_nil]
  | append_singleton effects effect ih =>
    rw [← List.append_assoc, kept_concat, keep_of_offQueue _ (h effect (by simp)),
      ih fun e he => h e (List.mem_append_left _ he)]

theorem sent_append_of_idle (trace : List Effect) {effects : List Effect}
    (h : ∀ effect ∈ effects, effect.Idle) : sent (trace ++ effects) = sent trace := by
  have hnil : sent effects = [] := by
    rw [sent, List.filterMap_eq_nil_iff]
    intro effect he
    have := h effect he
    cases effect <;> simp_all [Effect.Idle]
  rw [sent_append, hnil, List.append_nil]

end Trace

namespace Consumer

open Trace

/-- The uploads in jobs that wait for a number of rounds. -/
def uploadsOfDelay (jobs : List Job) (delay : Nat) :
    List (Flush × Except AggregationError (List Request)) :=
  (jobs.filter fun job => job.delay = delay).filterMap fun job => job.action.upload?

/-- The uploads in an action under way and in jobs, in the order in which they will be started. -/
def pendingUploads (active : List Action) (jobs : List Job) :
    List (Flush × Except AggregationError (List Request)) :=
  active.filterMap Action.upload? ++ uploadsOfDelay jobs 0 ++ uploadsOfDelay jobs 1 ++
    uploadsOfDelay jobs 2

theorem uploadsOfDelay_concat (jobs : List Job) (job : Job) (delay : Nat) :
    uploadsOfDelay (jobs ++ [job]) delay =
      uploadsOfDelay jobs delay ++ if job.delay = delay then job.action.upload?.toList else [] := by
  rw [uploadsOfDelay, List.filter_append, List.filterMap_append, ← uploadsOfDelay]
  split_ifs with h
  · cases hu : job.action.upload? <;> simp [h, hu]
  · simp [h]

theorem uploadsOfDelay_cons (job : Job) (jobs : List Job) (delay : Nat) :
    uploadsOfDelay (job :: jobs) delay =
      (if job.delay = delay then job.action.upload?.toList else []) ++ uploadsOfDelay jobs delay := by
  unfold uploadsOfDelay
  by_cases h : job.delay = delay
  · cases hu : job.action.upload? <;> simp [h, hu]
  · simp [h]

theorem pendingUploads_push {action : Action} (h : action.upload? = none) (active : List Action)
    (jobs : List Job) (delay : Nat) :
    pendingUploads active (jobs ++ [⟨delay, action⟩]) = pendingUploads active jobs := by
  simp [pendingUploads, uploadsOfDelay_concat, h]

theorem pendingUploads_push_upload (active : List Action) (jobs : List Job) (flush : Flush)
    (drained : Except AggregationError (List Request)) :
    pendingUploads active (jobs ++ [⟨2, .upload flush drained⟩]) =
      pendingUploads active jobs ++ [(flush, drained)] := by
  simp [pendingUploads, uploadsOfDelay_concat, Action.upload?]

/-- A job that is put back stays in its place among the uploads. -/
theorem pendingUploads_rotate {delay : Nat} (h : delay + 1 ≤ 2) (action : Action) (jobs : List Job) :
    pendingUploads [] (jobs ++ [⟨delay, action⟩]) = pendingUploads [] (⟨delay + 1, action⟩ :: jobs) := by
  have hcases : delay = 0 ∨ delay = 1 := by omega
  rcases hcases with rfl | rfl <;> simp [pendingUploads, uploadsOfDelay_concat, uploadsOfDelay_cons]

theorem pendingUploads_pop (action : Action) (jobs : List Job) :
    pendingUploads [] (⟨0, action⟩ :: jobs) = pendingUploads [action] jobs := by
  cases hu : action.upload? <;> simp [pendingUploads, uploadsOfDelay_cons, hu]

/-- How queue, aggregation and jobs follow from a trace, with the drains that were uploaded. -/
structure Flow (fresh : Aggregation) (trace : List Effect) (uploaded : List Drained)
    (active : List Action) (consumer : Consumer) : Prop where
  tasks : kept trace = executed trace ++ consumer.queue.toList
  aggregation : consumer.aggregation =
    fresh.after ((Progress.ofTasks (executed trace)).pending.map .add)
  drains : ∃ pending, (Progress.ofTasks (executed trace)).drains = uploaded ++ pending ∧
    pendingUploads active consumer.jobs.toList = pending.map (Drained.pendingUpload fresh)
  sent : ∃ pieces, List.Forall₂ (Drained.Sends consumer.options.callFailure fresh) uploaded pieces ∧
    sent trace = pieces.flatten
  delays : ∀ job ∈ consumer.jobs.toList, job.delay ≤ 2
  running : consumer.running = true → .release ∈ actions active consumer
  starts : consumer.queue.toList ≠ [] →
    .release ∈ actions active consumer ∨ .startNext ∈ actions active consumer

namespace Flow

variable {fresh : Aggregation} {trace : List Effect} {uploaded : List Drained}
  {active : List Action} {consumer other : Consumer}

theorem start (options : ConsumerOptions) (now : Binary64) :
    Flow fresh [] [] [] (Consumer.create options fresh now) where
  tasks := rfl
  aggregation := rfl
  drains := ⟨[], rfl, rfl⟩
  sent := ⟨[], .nil, rfl⟩
  delays _ h := absurd h List.not_mem_nil
  running h := absurd h Bool.false_ne_true
  starts h := absurd rfl h

/-- Nothing but queue, aggregation and jobs matters. -/
theorem congr (h : Flow fresh trace uploaded active consumer) (hqueue : other.queue = consumer.queue)
    (haggregation : other.aggregation = consumer.aggregation) (hjobs : other.jobs = consumer.jobs)
    (hrunning : other.running = consumer.running) (hoptions : other.options = consumer.options) :
    Flow fresh trace uploaded active other := by
  have hactions : actions active other = actions active consumer := by rw [actions, actions, hjobs]
  constructor
  · rw [hqueue]; exact h.tasks
  · rw [haggregation]; exact h.aggregation
  · rw [hjobs]; exact h.drains
  · rw [hoptions]; exact h.sent
  · rw [hjobs]; exact h.delays
  · rw [hrunning, hactions]; exact h.running
  · rw [hqueue, hactions]; exact h.starts

theorem offQueue (h : Flow fresh trace uploaded active consumer) {effects : List Effect}
    (hoff : ∀ effect ∈ effects, effect.OffQueue) (uploaded' : List Drained) (active' : List Action)
    (hdrains : ∃ pending, (Progress.ofTasks (executed trace)).drains = uploaded' ++ pending ∧
      pendingUploads active' consumer.jobs.toList = pending.map (Drained.pendingUpload fresh))
    (hsent : ∃ pieces, List.Forall₂ (Drained.Sends consumer.options.callFailure fresh) uploaded' pieces ∧
      Trace.sent (trace ++ effects) = pieces.flatten)
    (hrunning : consumer.running = true → .release ∈ actions active' consumer)
    (hstarts : consumer.queue.toList ≠ [] →
      .release ∈ actions active' consumer ∨ .startNext ∈ actions active' consumer) :
    Flow fresh (trace ++ effects) uploaded' active' consumer := by
  have hexecuted := executed_append_of_offQueue trace hoff
  constructor
  · rw [kept_append_of_offQueue trace hoff, hexecuted]; exact h.tasks
  · rw [hexecuted]; exact h.aggregation
  · rw [hexecuted]; exact hdrains
  · exact hsent
  · exact h.delays
  · exact hrunning
  · exact hstarts

theorem idle (h : Flow fresh trace uploaded active consumer) {effects : List Effect}
    (hidle : ∀ effect ∈ effects, effect.Idle) :
    Flow fresh (trace ++ effects) uploaded active consumer :=
  h.offQueue (fun effect he => (hidle effect he).offQueue) uploaded active h.drains
    (by rw [sent_append_of_idle trace hidle]; exact h.sent) h.running h.starts

theorem later (h : Flow fresh trace uploaded active consumer) (delay : Nat) (action : Action)
    (hdelay : delay ≤ 2) (haction : action.upload? = none) :
    Flow fresh trace uploaded active (consumer.later delay action) := by
  have hjobs := jobs_later consumer delay action
  have hactions := actions_later active consumer delay action
  refine ⟨h.tasks, h.aggregation, ?_, h.sent, ?_, ?_, ?_⟩
  · rw [hjobs, pendingUploads_push haction]
    exact h.drains
  · intro job hjob
    rw [hjobs, List.mem_append, List.mem_singleton] at hjob
    rcases hjob with hjob | rfl
    · exact h.delays job hjob
    · exact hdelay
  · intro hrunning
    rw [hactions]
    exact List.mem_append_left _ (h.running hrunning)
  · intro hqueue
    rw [hactions]
    exact (h.starts hqueue).imp (List.mem_append_left _) (List.mem_append_left _)

theorem enqueue (h : Flow fresh trace uploaded active consumer) (task : Task) :
    Flow fresh (trace ++ (consumer.enqueue task).2) uploaded active (consumer.enqueue task).1 := by
  have hlater := h.later 0 .startNext (Nat.zero_le 2) rfl
  have hexecuted : executed (trace ++ [.queued task]) = executed trace := by
    rw [executed_append]
    exact List.append_nil _
  constructor
  · show kept (trace ++ [.queued task]) =
      executed (trace ++ [.queued task]) ++ (consumer.queue.push task).toList
    rw [kept_concat, keep, hexecuted, Fifo.toList_push, h.tasks, List.append_assoc]
  · show _ = fresh.after ((Progress.ofTasks (executed (trace ++ [.queued task]))).pending.map .add)
    rw [hexecuted]
    exact h.aggregation
  · show ∃ pending, (Progress.ofTasks (executed (trace ++ [.queued task]))).drains = _ ∧ _
    rw [hexecuted]
    exact hlater.drains
  · show ∃ pieces, _ ∧ Trace.sent (trace ++ [.queued task]) = _
    rw [sent_append]
    exact h.sent.imp fun _ hp => ⟨hp.1, (List.append_nil _).trans hp.2⟩
  · exact hlater.delays
  · exact hlater.running
  · intro _
    refine Or.inr ?_
    show Action.startNext ∈ active ++ (consumer.jobs.push ⟨0, .startNext⟩).toList.map Job.action
    simp

theorem ofTasks_executed (trace : List Effect) (task : Task) :
    Progress.ofTasks (executed (trace ++ [.executed task])) =
      (Progress.ofTasks (executed trace)).next task := by
  rw [executed_append]
  exact Progress.ofTasks_concat _ _

theorem drains_of_upload?_eq_none {action : Action} (h : Flow fresh trace uploaded [action] consumer)
    (hupload : action.upload? = none) :
    ∃ pending, (Progress.ofTasks (executed trace)).drains = uploaded ++ pending ∧
      pendingUploads [] consumer.jobs.toList = pending.map (Drained.pendingUpload fresh) := by
  have hsame : pendingUploads [action] consumer.jobs.toList =
      pendingUploads [] consumer.jobs.toList := by
    simp [pendingUploads, hupload]
  rw [← hsame]
  exact h.drains

/-- A task that has been executed is followed by its release. -/
theorem released (h : Flow fresh trace uploaded active consumer) {task : Task} {queue : Fifo Task}
    (hpop : consumer.queue.pop? = some (task, queue)) (hqueue : other.queue = queue)
    (hoptions : other.options = consumer.options) (haggregation : other.aggregation = fresh.after
      (((Progress.ofTasks (executed trace)).next task).pending.map .add))
    (hdrains : ∃ pending, ((Progress.ofTasks (executed trace)).next task).drains = uploaded ++ pending ∧
      pendingUploads [] other.jobs.toList = pending.map (Drained.pendingUpload fresh))
    (hdelays : ∀ job ∈ other.jobs.toList, job.delay ≤ 2) :
    Flow fresh (trace ++ [.executed task]) uploaded [] (other.later 0 .release) := by
  constructor
  · have hkept : kept (trace ++ [.executed task]) = kept trace := kept_concat trace (.executed task)
    have hexecuted : executed (trace ++ [.executed task]) = executed trace ++ [task] :=
      executed_append trace [.executed task]
    show _ = _ ++ other.queue.toList
    rw [hkept, hexecuted, h.tasks, Fifo.toList_of_pop? hpop, hqueue, List.append_assoc]
    rfl
  · rw [ofTasks_executed]
    exact haggregation
  · rw [ofTasks_executed, jobs_later, pendingUploads_push rfl]
    exact hdrains
  · show ∃ pieces, List.Forall₂ (Drained.Sends other.options.callFailure fresh) uploaded pieces ∧ _
    rw [sent_append, hoptions]
    exact h.sent.imp fun _ hp => ⟨hp.1, (List.append_nil _).trans hp.2⟩
  · intro job hjob
    rw [jobs_later, List.mem_append, List.mem_singleton] at hjob
    rcases hjob with hjob | rfl
    · exact hdelays job hjob
    · exact Nat.zero_le _
  · intro _
    rw [actions, jobs_later]
    simp
  · intro _
    rw [actions, jobs_later]
    simp

theorem execute (hfresh : fresh.Empties) {action : Action}
    (h : Flow fresh trace uploaded [action] consumer) (hupload : action.upload? = none) {task : Task}
    {queue : Fifo Task} (hpop : consumer.queue.pop? = some (task, queue)) :
    Flow fresh (trace ++ (Consumer.execute { consumer with queue } task).2) uploaded []
      (Consumer.execute { consumer with queue } task).1 := by
  have hdrains := h.drains_of_upload?_eq_none hupload
  rcases task with (collection | message) | flush
  · refine h.released hpop rfl rfl ?_ hdrains h.delays
    show consumer.aggregation.add collection = _
    rw [Progress.next, List.map_append, List.map_singleton, Aggregation.after_concat, h.aggregation]
    rfl
  · have hlater := h.later 2 (.addFailed (.raised message)) le_rfl rfl
    refine h.released hpop rfl rfl h.aggregation ?_ hlater.delays
    show ∃ pending, _ ∧
      pendingUploads [] (consumer.later 2 (.addFailed (.raised message))).jobs.toList = _
    rw [jobs_later, pendingUploads_push rfl]
    exact hdrains
  · let drained : Drained := ⟨flush, (Progress.ofTasks (executed trace)).pending⟩
    have hdrain : consumer.aggregation.drain = (.ok (drained.requests fresh), fresh) := by
      rw [h.aggregation]
      exact hfresh.drain_eq drained
    have hjobs := jobs_later consumer 2 (.upload flush consumer.aggregation.drain.1)
    obtain ⟨pending, hpending, huploads⟩ := hdrains
    refine h.released hpop rfl rfl ?_ ⟨pending ++ [drained], ?_, ?_⟩ ?_
    · show consumer.aggregation.drain.2 = _
      rw [hdrain]
      rfl
    · rw [Progress.next, hpending, List.append_assoc]
    · show pendingUploads [] (consumer.later 2 (.upload flush consumer.aggregation.drain.1)).jobs.toList = _
      rw [hjobs, pendingUploads_push_upload, huploads, hdrain, List.map_append]
      rfl
    · intro job hjob
      change job ∈ (consumer.later 2 (.upload flush consumer.aggregation.drain.1)).jobs.toList at hjob
      rw [hjobs, List.mem_append, List.mem_singleton] at hjob
      rcases hjob with hjob | rfl
      · exact h.delays job hjob
      · exact le_rfl

/-- The action under way is over. -/
theorem finish {action : Action} (h : Flow fresh trace uploaded [action] consumer)
    (hupload : action.upload? = none)
    (hstart : action = .startNext → consumer.running = true ∨ consumer.queue.toList = [])
    (hrelease : action = .release → consumer.running = false ∧ consumer.queue.toList = []) :
    Flow fresh trace uploaded [] consumer := by
  have hrunning : consumer.running = true → .release ∈ actions [] consumer := by
    intro hr
    rcases List.mem_cons.1 (h.running hr) with heq | hmem
    · rw [(hrelease heq.symm).1] at hr
      cases hr
    · exact hmem
  refine ⟨h.tasks, h.aggregation, h.drains_of_upload?_eq_none hupload, h.sent, h.delays, hrunning, ?_⟩
  intro hqueue
  rcases h.starts hqueue with hmem | hmem
  · rcases List.mem_cons.1 hmem with heq | hmem
    · exact absurd (hrelease heq.symm).2 hqueue
    · exact Or.inl hmem
  · rcases List.mem_cons.1 hmem with heq | hmem
    · exact Or.inl (hrunning ((hstart heq.symm).resolve_right hqueue))
    · exact Or.inr hmem

/-- The next task is started when none is running. -/
theorem startTask (hfresh : fresh.Empties) {action : Action}
    (h : Flow fresh trace uploaded [action] consumer) (hupload : action.upload? = none)
    (hidle : consumer.running = false) :
    Flow fresh (trace ++ consumer.startTask.2) uploaded [] consumer.startTask.1 := by
  unfold Consumer.startTask
  cases hpop : consumer.queue.pop? with
  | none =>
    have hqueue := (Fifo.pop?_eq_none_iff _).1 hpop
    show Flow fresh (trace ++ []) uploaded [] consumer
    rw [List.append_nil]
    exact h.finish hupload (fun _ => Or.inr hqueue) fun _ => ⟨hidle, hqueue⟩
  | some popped =>
    exact h.execute hfresh hupload hpop

/-! Calls -/

theorem publish (h : Flow fresh trace uploaded active consumer) (submission : Submission) :
    Flow fresh (trace ++ (consumer.publish submission).2) uploaded active
      (consumer.publish submission).1 := by
  unfold Consumer.publish
  split_ifs
  · exact h.idle (by simp [Effect.Idle])
  · exact h.idle (by simp [Effect.Idle])
  · exact h.enqueue _

theorem beginFlush (h : Flow fresh trace uploaded active consumer) (flush : Flush) :
    Flow fresh (trace ++ (consumer.beginFlush flush).2) uploaded active
      (consumer.beginFlush flush).1 := by
  unfold Consumer.beginFlush
  split_ifs
  · rw [List.append_nil]
    exact h.congr rfl rfl rfl rfl rfl
  · exact h.enqueue _

theorem flush (h : Flow fresh trace uploaded active consumer) (origin : FlushOrigin) :
    Flow fresh (trace ++ (consumer.flush origin).2) uploaded active (consumer.flush origin).1 := by
  let flush : Flush := ⟨consumer.nextFlush, origin⟩
  let called : Consumer := { consumer with nextFlush := consumer.nextFlush + 1 }
  have hcalled : Flow fresh (trace ++ [.flushCalled flush]) uploaded active called :=
    (h.idle (by simp [Effect.Idle])).congr rfl rfl rfl rfl rfl
  have hbegun := hcalled.beginFlush flush
  rw [List.append_assoc] at hbegun
  rw [flush_eq]
  exact hbegun.congr rfl rfl rfl rfl rfl

theorem close (h : Flow fresh trace uploaded active consumer) :
    Flow fresh (trace ++ consumer.close.2) uploaded active consumer.close.1 := by
  cases hc : consumer.closed with
  | true =>
    rw [close_of_closed hc]
    exact (h.idle (by simp [Effect.Idle])).congr rfl rfl rfl rfl rfl
  | false =>
    rw [close_of_open hc]
    let closed : Consumer :=
      { consumer with nextClose := consumer.nextClose + 1, closed := true, timer := .off }
    have hclosed : Flow fresh (trace ++ [.closeCalled consumer.nextClose]) uploaded active closed :=
      (h.idle (by simp [Effect.Idle])).congr rfl rfl rfl rfl rfl
    have hflushed := hclosed.flush .final
    rw [List.append_assoc] at hflushed
    exact hflushed.congr rfl rfl rfl rfl rfl

theorem call (h : Flow fresh trace uploaded active consumer) (call : Call) :
    Flow fresh (trace ++ (consumer.call call).2) uploaded active (consumer.call call).1 := by
  cases call with
  | publish submission => exact h.publish submission
  | flush => exact h.flush .manual
  | close => exact h.close

theorem callAll (h : Flow fresh trace uploaded active consumer) (calls : List Call) :
    Flow fresh (trace ++ (consumer.callAll calls).2) uploaded active (consumer.callAll calls).1 := by
  induction calls generalizing trace consumer with
  | nil =>
    show Flow fresh (trace ++ []) uploaded active consumer
    rwa [List.append_nil]
  | cons first rest ih =>
    have hrest := ih (h.call first)
    rwa [List.append_assoc] at hrest

/-! Jobs and events -/

/-- No drain has failed. -/
theorem not_upload_error {flush : Flush} {error : AggregationError} :
    ¬Flow fresh trace uploaded [.upload flush (.error error)] consumer := by
  intro h
  obtain ⟨pending, -, hpending⟩ := h.drains
  have hcons : pendingUploads [.upload flush (.error error)] consumer.jobs.toList =
      (flush, .error error) :: pendingUploads [] consumer.jobs.toList := rfl
  rw [hcons] at hpending
  obtain ⟨drained, rest, -, hdrained, -⟩ := List.map_eq_cons_iff.1 hpending.symm
  cases (Prod.mk.inj hdrained).2

/-- The upload under way is that of the first drain that is not uploaded. -/
theorem upload {flush : Flush} {requests : List Request}
    (h : Flow fresh trace uploaded [.upload flush (.ok requests)] consumer) :
    ∃ drained : Drained, drained.flush = flush ∧ drained.requests fresh = requests ∧
      Flow fresh (trace ++ (consumer.upload flush requests).2) (uploaded ++ [drained]) []
        (consumer.upload flush requests).1 := by
  obtain ⟨pending, hdrains, hpending⟩ := h.drains
  have hcons : pendingUploads [.upload flush (.ok requests)] consumer.jobs.toList =
      (flush, .ok requests) :: pendingUploads [] consumer.jobs.toList := rfl
  rw [hcons] at hpending
  obtain ⟨drained, rest, rfl, hdrained, hrest⟩ := List.map_eq_cons_iff.1 hpending.symm
  obtain ⟨rfl, hrequests⟩ := Prod.mk.inj hdrained
  obtain rfl : drained.requests fresh = requests := Except.ok.inj hrequests
  obtain ⟨sent, failure, hpassed, heffects, hcases⟩ :=
    upload_cases consumer drained.flush (drained.requests fresh)
  have hoff : ∀ effect ∈ (consumer.upload drained.flush (drained.requests fresh)).2,
      effect.OffQueue := by
    intro effect he
    rw [heffects] at he
    obtain ⟨x, -, rfl⟩ := List.mem_map.1 he
    trivial
  obtain ⟨pieces, hpieces, hflatten⟩ := h.sent
  have huploading := h.offQueue hoff (uploaded ++ [drained]) []
    ⟨rest, by rw [hdrains, List.append_assoc, List.singleton_append], hrest.symm⟩
    ⟨pieces ++ [sent.map (drained.flush, ·)],
      List.rel_append hpieces (.cons ⟨_, _, _, hpassed, rfl⟩ .nil),
      by rw [sent_append, heffects, sent_map_upload, hflatten, List.flatten_append, List.flatten_singleton]⟩
    (fun hr => (List.mem_cons.1 (h.running hr)).resolve_left (by simp))
    (fun hq => (h.starts hq).imp (fun hs => (List.mem_cons.1 hs).resolve_left (by simp))
      fun hs => (List.mem_cons.1 hs).resolve_left (by simp))
  refine ⟨drained, rfl, rfl, ?_⟩
  rcases hcases with ⟨-, heq⟩ | ⟨message, -, heq⟩
  · rw [heq]
    split_ifs
    · refine Flow.later ?_ 0 (.report drained.flush) (Nat.zero_le 2) rfl
      exact huploading.congr rfl rfl rfl rfl rfl
    · exact huploading.congr rfl rfl rfl rfl rfl
  · rw [heq]
    refine Flow.later ?_ 1 (.reject drained.flush (.raised message)) (by omega) rfl
    exact huploading.congr rfl rfl rfl rfl rfl

/-- Where no call of the uploader fails at once, all requests of the drains are uploaded. -/
theorem uploads (h : Flow fresh trace uploaded active consumer)
    (hcalls : ∀ id, consumer.options.callFailure id = none) :
    Trace.uploads trace = uploaded.flatMap (Drained.uploads fresh) := by
  obtain ⟨pieces, hpieces, hflatten⟩ := h.sent
  rw [uploads_eq, hflatten]
  clear h hflatten
  induction hpieces with
  | nil => rfl
  | cons hsends _ ih =>
    obtain ⟨first, passed, failure, hpassed, rfl⟩ := hsends
    obtain rfl := hpassed.failure_eq_none fun x _ => hcalls x.2
    rw [List.flatten_cons, List.map_append, List.flatMap_cons, ih, Drained.uploads,
      ← hpassed.map_fst, List.map_map, List.map_map]
    rfl

theorem discard (h : Flow fresh trace uploaded active consumer) :
    Flow fresh (trace ++ consumer.discard.2) uploaded active consumer.discard.1 := by
  unfold Consumer.discard
  split_ifs
  · rwa [List.append_nil]
  · have hexecuted : executed (trace ++ [.discarded consumer.queue.toList]) = executed trace := by
      rw [executed_append]
      exact List.append_nil _
    constructor
    · show kept (trace ++ [.discarded consumer.queue.toList]) =
        executed (trace ++ [.discarded consumer.queue.toList]) ++ []
      rw [kept_concat, keep, h.tasks, hexecuted, List.length_append, Nat.add_sub_cancel,
        List.take_left', List.append_nil]
      rfl
    · rw [hexecuted]
      exact h.aggregation
    · rw [hexecuted]
      exact h.drains
    · rw [sent_append]
      exact h.sent.imp fun _ hp => ⟨hp.1, (List.append_nil _).trans hp.2⟩
    · exact h.delays
    · exact h.running
    · exact fun hqueue => absurd rfl hqueue

theorem finishClose (h : Flow fresh trace uploaded active consumer) (finished : Bool) :
    Flow fresh (trace ++ (consumer.finishClose finished).2) uploaded active
      (consumer.finishClose finished).1 := by
  cases hc : consumer.closing with
  | none =>
    have hnone : consumer.finishClose finished = (consumer, []) := by rw [Consumer.finishClose, hc]
    rw [hnone, List.append_nil]
    exact h
  | some closing =>
    have hwarned : Flow fresh (trace ++ if finished then [] else
        [.log (.timedOut consumer.options.shutdownTimeoutMs consumer.inFlight.length)]) uploaded active
          consumer :=
      h.idle (by split_ifs <;> simp [Effect.Idle])
    have hlast : ∀ effect ∈ [if consumer.discard.1.options.ownsUploader then Effect.closeUploader
        else .closed closing.call .fulfilled], effect.Idle := by
      split_ifs <;> simp [Effect.Idle]
    rw [finishClose_eq hc, ← List.append_assoc, ← List.append_assoc]
    exact (hwarned.discard.idle hlast).congr (by split_ifs <;> rfl) (by split_ifs <;> rfl)
      (by split_ifs <;> rfl) (by split_ifs <;> rfl) (by split_ifs <;> rfl)

theorem arrived (h : Flow fresh trace uploaded active consumer) (flush : Flush) (index : Nat)
    (outcome : Outcome) : Flow fresh trace uploaded active (consumer.arrived flush index outcome) := by
  have hnoted : Flow fresh trace uploaded active
      { consumer with batches := consumer.batches.map (UploadBatch.arrive flush index outcome) } :=
    h.congr rfl rfl rfl rfl rfl
  unfold Consumer.arrived
  dsimp only
  split
  · split_ifs
    · exact hnoted.later 0 (.report flush) (Nat.zero_le 2) rfl
    · exact hnoted
  · exact hnoted

theorem report (h : Flow fresh trace uploaded active consumer) (flush : Flush) :
    Flow fresh (trace ++ (consumer.report flush).2) uploaded active (consumer.report flush).1 := by
  unfold Consumer.report
  split
  · rwa [List.append_nil]
  · next batch _ =>
    have hidle : ∀ effect ∈ noticeOf batch.outcomes, effect.Idle := by
      intro effect he
      obtain ⟨notice, rfl⟩ := noticeOf_logs batch.outcomes effect he
      trivial
    refine Flow.later ?_ 0 (.resolve flush _) (Nat.zero_le 2) rfl
    exact (h.idle hidle).congr rfl rfl rfl rfl rfl

theorem resolve (h : Flow fresh trace uploaded active consumer) (flush : Flush) (result : FlushResult) :
    Flow fresh (trace ++ (consumer.resolve flush result).2) uploaded active
      (consumer.resolve flush result).1 := by
  have hresolved : Flow fresh (trace ++ [.flushed flush (.ok result)]) uploaded active consumer :=
    h.idle (by simp [Effect.Idle])
  unfold Consumer.resolve
  split_ifs
  · exact hresolved.later 0 (.untrack flush) (Nat.zero_le 2) rfl
  · exact hresolved

theorem reject (h : Flow fresh trace uploaded active consumer) (flush : Flush) (error : Failure) :
    Flow fresh (trace ++ (consumer.reject flush error).2) uploaded active
      (consumer.reject flush error).1 := by
  have hrejected : Flow fresh (trace ++ [.flushed flush (.error error)]) uploaded active consumer :=
    h.idle (by simp [Effect.Idle])
  unfold Consumer.reject
  split_ifs
  · exact (hrejected.later 0 (.untrack flush) (Nat.zero_le 2) rfl).later 0 (.flushFailed flush error)
      (Nat.zero_le 2) rfl
  · exact hrejected

theorem untrack (h : Flow fresh trace uploaded active consumer) (flush : Flush) :
    Flow fresh trace uploaded active (consumer.untrack flush) := by
  have huntracked : Flow fresh trace uploaded active
      { consumer with inFlight := consumer.inFlight.filter (· ≠ flush) } := h.congr rfl rfl rfl rfl rfl
  rcases untrack_cases consumer flush with heq | heq
  · rw [heq]
    exact huntracked
  · rw [heq]
    exact huntracked.later 0 (.waited flush) (Nat.zero_le 2) rfl

theorem waited (h : Flow fresh trace uploaded active consumer) (flush : Flush) :
    Flow fresh trace uploaded active (consumer.waited flush) := by
  rcases waited_cases consumer flush with ⟨-, heq⟩ | ⟨closing, -, heq | ⟨-, heq⟩⟩
  · rwa [heq]
  · rw [heq]
    exact h.congr rfl rfl rfl rfl rfl
  · rw [heq]
    refine Flow.later ?_ 0 .allWaited (Nat.zero_le 2) rfl
    exact h.congr rfl rfl rfl rfl rfl

theorem race (h : Flow fresh trace uploaded active consumer) (finished : Bool) :
    Flow fresh trace uploaded active (consumer.race finished) := by
  rcases race_cases consumer finished with heq | ⟨closing, -, heq⟩
  · rwa [heq]
  · rw [heq]
    refine Flow.later ?_ 0 (.clearTimeout finished) (Nat.zero_le 2) rfl
    exact h.congr rfl rfl rfl rfl rfl

/-- Actions other than uploads leave the drains that are to be uploaded as they are. -/
theorem perform (hfresh : fresh.Empties) {action : Action} (hupload : action.upload? = none)
    (h : Flow fresh trace uploaded [action] consumer) :
    Flow fresh (trace ++ (consumer.perform action).2) uploaded [] (consumer.perform action).1 := by
  have hover : action ≠ .startNext → action ≠ .release → Flow fresh trace uploaded [] consumer :=
    fun hstart hrelease => h.finish hupload (fun heq => absurd heq hstart) fun heq => absurd heq hrelease
  cases action with
  | startNext =>
    rw [Consumer.perform]
    cases hrunning : consumer.running with
    | true =>
      rw [if_pos rfl, List.append_nil]
      exact h.finish rfl (fun _ => Or.inl hrunning) fun heq => by cases heq
    | false =>
      rw [if_neg Bool.false_ne_true]
      exact h.startTask hfresh rfl hrunning
  | release =>
    have hreleased : Flow fresh trace uploaded [.release] { consumer with running := false } :=
      ⟨h.tasks, h.aggregation, h.drains, h.sent, h.delays, fun hr => absurd hr Bool.false_ne_true,
        h.starts⟩
    exact hreleased.startTask hfresh rfl rfl
  | addFailed error => exact (hover nofun nofun).idle (by simp [Consumer.perform, Effect.Idle])
  | upload flush drained => cases hupload
  | arrived flush index outcome =>
    rw [Consumer.perform, List.append_nil]
    exact (hover nofun nofun).arrived flush index outcome
  | report flush => exact (hover nofun nofun).report flush
  | resolve flush result => exact (hover nofun nofun).resolve flush result
  | reject flush error => exact (hover nofun nofun).reject flush error
  | untrack flush =>
    rw [Consumer.perform, List.append_nil]
    exact (hover nofun nofun).untrack flush
  | flushFailed flush error =>
    refine (hover nofun nofun).idle ?_
    rw [Consumer.perform, Consumer.flushFailed]
    cases flush.origin <;> simp [Effect.Idle]
  | waited flush =>
    rw [Consumer.perform, List.append_nil]
    exact (hover nofun nofun).waited flush
  | allWaited =>
    rw [Consumer.perform, List.append_nil]
    exact (hover nofun nofun).later 0 (.race true) (Nat.zero_le 2) rfl
  | race finished =>
    rw [Consumer.perform, List.append_nil]
    exact (hover nofun nofun).race finished
  | clearTimeout finished =>
    rw [Consumer.perform, List.append_nil]
    refine Flow.later ?_ 0 (.finishClose finished) (Nat.zero_le 2) rfl
    exact (hover nofun nofun).congr rfl rfl rfl rfl rfl
  | finishClose finished => exact (hover nofun nofun).finishClose finished
  | uploaderClosed outcome =>
    refine (hover nofun nofun).idle ?_
    rw [Consumer.perform, Consumer.uploaderClosed]
    split <;> simp [Effect.Idle]
  | recheck flush => exact (hover nofun nofun).beginFlush flush
  | calls calls => exact (hover nofun nofun).callAll calls

/-- The job under way is taken from the jobs. -/
theorem pop (h : Flow fresh trace uploaded [] consumer) {action : Action} {jobs : Fifo Job}
    (hpop : consumer.jobs.pop? = some (⟨0, action⟩, jobs)) :
    Flow fresh trace uploaded [action] { consumer with jobs } := by
  have hjobs := Fifo.toList_of_pop? hpop
  have hactions := actions_pop hpop
  refine ⟨h.tasks, h.aggregation, ?_, h.sent, ?_, ?_, ?_⟩
  · have hdrains := h.drains
    rwa [hjobs, pendingUploads_pop] at hdrains
  · intro job hjob
    refine h.delays job ?_
    rw [hjobs]
    exact List.mem_cons_of_mem _ hjob
  · rw [hactions]
    exact h.running
  · rw [hactions]
    exact h.starts

/-- A job that has to wait is put back. -/
theorem rotate (h : Flow fresh trace uploaded [] consumer) {delay : Nat} {action : Action}
    {jobs : Fifo Job} (hpop : consumer.jobs.pop? = some (⟨delay + 1, action⟩, jobs)) :
    Flow fresh trace uploaded [] (({ consumer with jobs }).later delay action) := by
  have hjobs := Fifo.toList_of_pop? hpop
  have hlater := jobs_later { consumer with jobs } delay action
  have hdelay : delay + 1 ≤ 2 := by
    refine h.delays ⟨delay + 1, action⟩ ?_
    rw [hjobs]
    exact List.mem_cons_self
  have hactions := actions_rotate hpop
  refine ⟨h.tasks, h.aggregation, ?_, h.sent, ?_, fun hr => hactions.mem_iff.2 (h.running hr), fun hq =>
    (h.starts hq).imp hactions.mem_iff.2 hactions.mem_iff.2⟩
  · have hdrains := h.drains
    rwa [hjobs, ← pendingUploads_rotate hdelay, ← hlater] at hdrains
  · intro job hjob
    rw [hlater, List.mem_append, List.mem_singleton] at hjob
    rcases hjob with hjob | rfl
    · refine h.delays job ?_
      rw [hjobs]
      exact List.mem_cons_of_mem _ hjob
    · exact Nat.le_of_succ_le hdelay

/-- A drain was executed before it was uploaded. -/
theorem executed_of_uploaded (h : Flow fresh trace uploaded active consumer) {flush : Flush}
    (hflush : flush ∈ uploaded.map Drained.flush) : .drain flush ∈ executed trace := by
  obtain ⟨pending, hdrains, -⟩ := h.drains
  rw [← Progress.mem_drains_iff, hdrains, List.map_append]
  exact List.mem_append_left _ hflush

/-- The queue is empty when there is no job. -/
theorem queue_eq_nil (h : Flow fresh trace uploaded [] consumer) (hjobs : consumer.jobs.toList = []) :
    consumer.queue.toList = [] := by
  by_contra hqueue
  have hnone : actions [] consumer = [] := by rw [actions, hjobs]; rfl
  rcases h.starts hqueue with hmem | hmem
  · rw [hnone] at hmem
    cases hmem
  · rw [hnone] at hmem
    cases hmem

theorem wake (h : Flow fresh trace uploaded active consumer) :
    Flow fresh trace uploaded active consumer.wake := by
  rcases wake_cases consumer with ⟨-, heq⟩ | ⟨flush, waiting, -, heq⟩
  · rwa [heq]
  · rw [heq]
    refine Flow.later ?_ 0 (.recheck flush) (Nat.zero_le 2) rfl
    exact h.congr rfl rfl rfl rfl rfl

theorem fire (h : Flow fresh trace uploaded active consumer) :
    Flow fresh (trace ++ consumer.fire.2) uploaded active consumer.fire.1 := by
  rcases fire_cases consumer with heq | ⟨_, -, heq⟩ | ⟨_, -, heq⟩
  · rwa [heq, List.append_nil]
  · rw [heq]
    refine Flow.flush ?_ .scheduled
    exact h.congr rfl rfl rfl rfl rfl
  · rw [heq, List.append_nil]
    refine Flow.later ?_ 0 (.race false) (Nat.zero_le 2) rfl
    exact h.congr rfl rfl rfl rfl rfl

theorem settle (h : Flow fresh trace uploaded active consumer) (id : Nat) (outcome : Outcome) :
    Flow fresh trace uploaded active (consumer.settle id outcome) := by
  rcases settle_cases consumer id outcome with heq | heq | ⟨batch, -, index, heq⟩
  · rwa [heq]
  · rw [heq]
    exact h.congr rfl rfl rfl rfl rfl
  · rw [heq]
    refine Flow.later ?_ 0 (.arrived batch.flush index outcome) (Nat.zero_le 2) rfl
    exact h.congr rfl rfl rfl rfl rfl

theorem endUploaderClose (h : Flow fresh trace uploaded active consumer) (outcome : Outcome) :
    Flow fresh trace uploaded active (consumer.endUploaderClose outcome) := by
  rcases endUploaderClose_cases consumer outcome with heq | ⟨closing, -, heq⟩
  · rwa [heq]
  · rw [heq]
    refine Flow.later ?_ 0 (.uploaderClosed outcome) (Nat.zero_le 2) rfl
    exact h.congr rfl rfl rfl rfl rfl

end Flow
end Consumer
end MetricPipeline
