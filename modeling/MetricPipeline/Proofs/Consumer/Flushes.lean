import MetricPipeline.Proofs.Consumer.Begun

/-! Where flushes can be. A flush is reported only after its drain was uploaded, and a shutdown ends its wait
only after a final drain was executed or when nothing is queued. From then on the queue can hold nothing but
drains, so a shutdown discards nothing else. -/

namespace MetricPipeline.Consumer

open Trace

/-- Nothing is added any more, and nothing that was added is still queued. -/
def Settling (consumer : Consumer) : Prop :=
  consumer.closed = true ∧ ∀ task ∈ consumer.queue.toList, task.IsDrain

/-- What must have happened before an action can stand in the jobs. -/
def Allowed (trace : List Effect) (uploaded : List Drained) (settling : Prop) : Action → Prop
  | .arrived flush _ _ | .report flush | .resolve flush _ | .reject flush _ =>
    flush ∈ uploaded.map Drained.flush
  | .untrack flush | .waited flush => .drain flush ∈ executed trace
  | .allWaited | .race _ | .clearTimeout _ | .finishClose _ => settling
  | .startNext | .release | .addFailed _ | .upload _ _ | .flushFailed _ _ | .uploaderClosed _
  | .recheck _ | .calls _ => True

theorem Allowed.mono {trace trace' : List Effect} {uploaded uploaded' : List Drained}
    {settling settling' : Prop} {action : Action} (h : Allowed trace uploaded settling action)
    (htrace : trace <+: trace') (huploaded : uploaded <+: uploaded') (hsettling : settling → settling') :
    Allowed trace' uploaded' settling' action := by
  obtain ⟨effects, rfl⟩ := htrace
  obtain ⟨more, rfl⟩ := huploaded
  cases action <;> simp_all [Allowed, executed_append]

/-- What holds of the flushes of a consumer after a trace. -/
structure Sound (trace : List Effect) (uploaded : List Drained) (active : List Action)
    (consumer : Consumer) : Prop where
  orderly : Orderly trace
  fresh : ∀ flush, .flushCalled flush ∈ trace → flush.id < consumer.nextFlush
  begun : Begun trace (begun trace active consumer)
  final : ∀ flush, .flushCalled flush ∈ trace → flush.origin = .final → consumer.closed = true
  closing : ∀ closing, consumer.closing = some closing → consumer.closed = true ∧
    ((∃ flush ∈ closing.waitingFor, flush.origin = .final) ∨
      ∃ flush, .drain flush ∈ executed trace ∧ flush.origin = .final)
  timeout : ∀ since, consumer.timer = .timeout since → consumer.closed = true
  batches : ∀ batch ∈ consumer.batches, batch.flush ∈ uploaded.map Drained.flush
  jobs : ∀ action ∈ actions active consumer, Allowed trace uploaded consumer.Settling action

namespace Sound

variable {trace : List Effect} {uploaded : List Drained} {active : List Action} {consumer : Consumer}

theorem start (options : ConsumerOptions) (aggregation : Aggregation) (now : Binary64) :
    Sound [] [] [] (Consumer.create options aggregation now) where
  orderly := .nil
  fresh _ h := absurd h List.not_mem_nil
  begun := ⟨fun _ h => absurd h List.not_mem_nil, List.nodup_nil⟩
  final _ h := absurd h List.not_mem_nil
  closing _ h := by cases h
  timeout _ h := by cases h
  batches _ h := absurd h List.not_mem_nil
  jobs _ h := absurd h List.not_mem_nil

theorem neutral (h : Sound trace uploaded active consumer) {effects : List Effect}
    (heffects : ∀ effect ∈ effects, Neutral effect) :
    Sound (trace ++ effects) uploaded active consumer := by
  have hcalled : ∀ flush, .flushCalled flush ∈ trace ++ effects → .flushCalled flush ∈ trace := by
    intro flush hflush
    rcases List.mem_append.1 hflush with hflush | hflush
    · exact hflush
    · exact absurd (heffects _ hflush) id
  refine ⟨h.orderly.neutral_append heffects, fun flush hf => h.fresh flush (hcalled flush hf),
    h.begun.neutral heffects, fun flush hf => h.final flush (hcalled flush hf), ?_, h.timeout, h.batches,
    fun action ha => (h.jobs action ha).mono (List.prefix_append _ _) List.prefix_rfl id⟩
  intro closing hclosing
  obtain ⟨hclosed, hfinal⟩ := h.closing closing hclosing
  refine ⟨hclosed, hfinal.imp id ?_⟩
  rintro ⟨flush, hflush, horigin⟩
  exact ⟨flush, by rw [executed_append]; exact List.mem_append_left _ hflush, horigin⟩

/-- An action other than the search for room is put behind the jobs. -/
theorem later (h : Sound trace uploaded active consumer) (delay : Nat) (action : Action)
    (hrecheck : action.recheck? = none) (hallowed : Allowed trace uploaded consumer.Settling action) :
    Sound trace uploaded active (consumer.later delay action) := by
  refine ⟨h.orderly, h.fresh, h.begun.later delay action hrecheck, h.final, h.closing, h.timeout, h.batches, ?_⟩
  intro other hother
  rcases mem_actions_later.1 hother with hold | rfl
  · exact h.jobs other hold
  · exact hallowed

/-- A task enters the queue, a drain if the consumer is closed. -/
theorem enqueue (h : Sound trace uploaded active consumer) {task : Task}
    (hcalled : ∀ flush, task = .drain flush → .flushCalled flush ∈ trace)
    (hbegun : Begun (trace ++ [.queued task]) (Consumer.begun (trace ++ [.queued task]) active consumer))
    (hclosed : task.IsDrain ∨ consumer.closed = false) :
    Sound (trace ++ (consumer.enqueue task).2) uploaded active (consumer.enqueue task).1 := by
  have hfinal : task.IsDrain ∨ ∀ flush, .drain flush ∈ kept trace → flush.origin ≠ .final := by
    refine hclosed.imp id fun hopen flush hflush horigin => ?_
    rw [h.final flush (h.orderly.called flush hflush) horigin] at hopen
    cases hopen
  have hmem : ∀ flush, .flushCalled flush ∈ trace ++ [.queued task] → .flushCalled flush ∈ trace := by
    intro flush hflush
    simpa using hflush
  have hexecuted : executed (trace ++ [.queued task]) = executed trace := by
    rw [executed_append]
    exact List.append_nil _
  have hsettling : consumer.Settling → (consumer.enqueue task).1.Settling := by
    rintro ⟨hc, hdrains⟩
    refine ⟨hc, fun other hother => ?_⟩
    change other ∈ (consumer.queue.push task).toList at hother
    rw [Fifo.toList_push, List.mem_append, List.mem_singleton] at hother
    rcases hother with hother | rfl
    · exact hdrains other hother
    · exact hclosed.resolve_right (by simp [hc])
  refine ⟨h.orderly.queue hcalled hfinal, fun flush hf => h.fresh flush (hmem flush hf),
    hbegun.later 0 .startNext rfl, fun flush hf => h.final flush (hmem flush hf), ?_, h.timeout, h.batches, ?_⟩
  · show ∀ closing, consumer.closing = some closing → _ ∧ (_ ∨ ∃ flush,
      .drain flush ∈ executed (trace ++ [.queued task]) ∧ _)
    rw [hexecuted]
    exact h.closing
  · intro action haction
    have hstart := h.later 0 .startNext rfl trivial
    exact (hstart.jobs action haction).mono (List.prefix_append _ _) List.prefix_rfl hsettling

/-! Calls -/

theorem publish (h : Sound trace uploaded active consumer) (submission : Submission) :
    Sound (trace ++ (consumer.publish submission).2) uploaded active
      (consumer.publish submission).1 := by
  unfold Consumer.publish
  split_ifs with hclosed
  · exact h.neutral (by simp [Neutral])
  · exact h.neutral (by simp [Neutral])
  · exact h.enqueue (fun _ heq => by cases heq) (h.begun.grow rfl) (Or.inr (by simpa using hclosed))

theorem beginFlush (h : Sound trace uploaded active consumer) (flush : Flush)
    (hcalled : .flushCalled flush ∈ trace) (hnew : flush ∉ Consumer.begun trace active consumer) :
    Sound (trace ++ (consumer.beginFlush flush).2) uploaded active (consumer.beginFlush flush).1 := by
  unfold Consumer.beginFlush
  split_ifs
  · rw [List.append_nil]
    exact ⟨h.orderly, h.fresh, h.begun.wait hcalled hnew, h.final, h.closing, h.timeout, h.batches,
      h.jobs⟩
  · refine h.enqueue (fun other heq => ?_) (h.begun.queue hcalled hnew) (Or.inl trivial)
    rw [← Task.drain.inj heq]
    exact hcalled

/-- The call of a flush under the next number. -/
theorem call_flush (h : Sound trace uploaded active consumer) {origin : FlushOrigin}
    (hfinal : origin = .final → consumer.closed = true) :
    Sound (trace ++ [.flushCalled ⟨consumer.nextFlush, origin⟩]) uploaded active
      { consumer with nextFlush := consumer.nextFlush + 1 } := by
  have hnew : .flushCalled ⟨consumer.nextFlush, origin⟩ ∉ trace :=
    fun hmem => absurd (h.fresh _ hmem) (Nat.lt_irrefl _)
  have hcases : ∀ flush, .flushCalled flush ∈ trace ++ [.flushCalled ⟨consumer.nextFlush, origin⟩] →
      .flushCalled flush ∈ trace ∨ flush = ⟨consumer.nextFlush, origin⟩ := by
    intro flush hflush
    simpa using hflush
  have hexecuted : executed (trace ++ [.flushCalled ⟨consumer.nextFlush, origin⟩]) =
      executed trace := by
    rw [executed_append]
    exact List.append_nil _
  refine ⟨h.orderly.call hnew, ?_, h.begun.grow rfl, ?_, ?_, h.timeout, h.batches, ?_⟩
  · intro flush hflush
    rcases hcases flush hflush with hflush | rfl
    · exact Nat.lt_succ_of_lt (h.fresh flush hflush)
    · exact Nat.lt_succ_self _
  · intro flush hflush horigin
    rcases hcases flush hflush with hflush | rfl
    · exact h.final flush hflush horigin
    · exact hfinal horigin
  · rw [hexecuted]
    exact h.closing
  · intro action haction
    exact (h.jobs action haction).mono (List.prefix_append _ _) List.prefix_rfl id

theorem flush (h : Sound trace uploaded active consumer) (origin : FlushOrigin)
    (hfinal : origin = .final → consumer.closed = true) :
    Sound (trace ++ (consumer.flush origin).2) uploaded active (consumer.flush origin).1 := by
  have hcalled := h.call_flush hfinal
  have hnew : ⟨consumer.nextFlush, origin⟩ ∉ Consumer.begun trace active consumer :=
    fun hmem => absurd (h.fresh _ (h.begun.called _ hmem)) (Nat.lt_irrefl _)
  have hbegun := hcalled.beginFlush ⟨consumer.nextFlush, origin⟩ (by simp)
    (by rwa [begun_append _ _ _ rfl])
  rw [List.append_assoc] at hbegun
  rw [flush_eq]
  exact ⟨hbegun.orderly, hbegun.fresh, hbegun.begun, hbegun.final, hbegun.closing, hbegun.timeout,
    hbegun.batches, hbegun.jobs⟩

/-- A shutdown waits for its own flush, which is a final one. -/
theorem close (h : Sound trace uploaded active consumer) :
    Sound (trace ++ consumer.close.2) uploaded active consumer.close.1 := by
  cases hc : consumer.closed with
  | true =>
    have hneutral : ∀ effect ∈ [Effect.closeCalled consumer.nextClose,
        .closed consumer.nextClose .fulfilled], Neutral effect := by simp [Neutral]
    have hcalled := h.neutral hneutral
    rw [close_of_closed hc]
    exact ⟨hcalled.orderly, hcalled.fresh, hcalled.begun, hcalled.final, hcalled.closing,
      hcalled.timeout, hcalled.batches, hcalled.jobs⟩
  | false =>
    let closed : Consumer :=
      { consumer with nextClose := consumer.nextClose + 1, closed := true, timer := .off }
    have hneutral : ∀ effect ∈ [Effect.closeCalled consumer.nextClose], Neutral effect := by
      simp [Neutral]
    have hcalled := h.neutral hneutral
    have hclosed : Sound (trace ++ [.closeCalled consumer.nextClose]) uploaded active closed := by
      refine ⟨hcalled.orderly, hcalled.fresh, hcalled.begun, fun _ _ _ => rfl, ?_,
        (fun _ hnever => by cases hnever),
        hcalled.batches, fun action haction => ?_⟩
      · exact fun closing hclosing => ⟨rfl, (hcalled.closing closing hclosing).2⟩
      · exact (hcalled.jobs action haction).mono List.prefix_rfl List.prefix_rfl fun hs => ⟨rfl, hs.2⟩
    have hflushed := hclosed.flush .final fun _ => rfl
    rw [List.append_assoc] at hflushed
    have hstill : (closed.flush .final).1.closed = true := by
      refine hflushed.final ⟨closed.nextFlush, .final⟩ ?_ rfl
      rw [flush_eq]
      simp
    have hmem : ⟨closed.nextFlush, .final⟩ ∈ (closed.flush .final).1.inFlight := by
      rw [flush_eq]
      exact List.mem_append_right _ List.mem_cons_self
    rw [close_of_open hc]
    change Sound (trace ++ .closeCalled consumer.nextClose :: (closed.flush .final).2) _ _
      { (closed.flush .final).1 with closing := _, timer := _ }
    generalize closed.flush .final = flushed at hflushed hstill hmem ⊢
    refine ⟨hflushed.orderly, hflushed.fresh, hflushed.begun, hflushed.final, ?_, fun _ _ => hstill,
      hflushed.batches, hflushed.jobs⟩
    intro closing hclosing
    rw [← Option.some.inj hclosing]
    exact ⟨hstill, Or.inl ⟨_, hmem, rfl⟩⟩

theorem call (h : Sound trace uploaded active consumer) (call : Call) :
    Sound (trace ++ (consumer.call call).2) uploaded active (consumer.call call).1 := by
  cases call with
  | publish submission => exact h.publish submission
  | flush => exact h.flush .manual (fun heq => by cases heq)
  | close => exact h.close

theorem callAll (h : Sound trace uploaded active consumer) (calls : List Call) :
    Sound (trace ++ (consumer.callAll calls).2) uploaded active (consumer.callAll calls).1 := by
  induction calls generalizing trace consumer with
  | nil =>
    show Sound (trace ++ []) uploaded active consumer
    rwa [List.append_nil]
  | cons first rest ih =>
    have hrest := ih (h.call first)
    rwa [List.append_assoc] at hrest

/-! Tasks and uploads -/

theorem finish (h : Sound trace uploaded active consumer) : Sound trace uploaded [] consumer :=
  ⟨h.orderly, h.fresh, h.begun.finish, h.final, h.closing, h.timeout, h.batches,
    fun action haction => h.jobs action (List.mem_append_right _ haction)⟩

theorem execute (h : Sound trace uploaded active consumer) {task : Task} {queue : Fifo Task}
    (hpop : consumer.queue.pop? = some (task, queue)) :
    Sound (trace ++ (Consumer.execute { consumer with queue } task).2) uploaded active
      (Consumer.execute { consumer with queue } task).1 := by
  have hsettling : consumer.Settling → ∀ other ∈ queue.toList, other.IsDrain := by
    intro hs other hother
    refine hs.2 other ?_
    rw [Fifo.toList_of_pop? hpop]
    exact List.mem_cons_of_mem _ hother
  have hstarted : ∀ aggregation : Aggregation, Sound trace uploaded active
      { consumer with queue := queue, running := true, aggregation := aggregation } :=
    fun aggregation => ⟨h.orderly, h.fresh, h.begun, h.final, h.closing, h.timeout, h.batches,
      fun action haction => (h.jobs action haction).mono List.prefix_rfl List.prefix_rfl
        fun hs => ⟨hs.1, hsettling hs⟩⟩
  have hneutral : ∀ effect ∈ [Effect.executed task], Neutral effect := by simp [Neutral]
  rcases task with (collection | message) | flush
  · exact ((hstarted (consumer.aggregation.add collection)).later 0 .release rfl trivial).neutral hneutral
  · exact (((hstarted consumer.aggregation).later 2 (.addFailed (.raised message)) rfl trivial).later 0
      .release rfl trivial).neutral hneutral
  · exact (((hstarted consumer.aggregation.drain.2).later 2 (.upload flush consumer.aggregation.drain.1)
      rfl trivial).later 0 .release rfl trivial).neutral hneutral

theorem startTask (h : Sound trace uploaded active consumer) :
    Sound (trace ++ consumer.startTask.2) uploaded active consumer.startTask.1 := by
  unfold Consumer.startTask
  cases hpop : consumer.queue.pop? with
  | none =>
    show Sound (trace ++ []) uploaded active consumer
    rwa [List.append_nil]
  | some popped => exact h.execute hpop

theorem upload (h : Sound trace uploaded active consumer) (drained : Drained)
    (requests : List Request) :
    Sound (trace ++ (consumer.upload drained.flush requests).2) (uploaded ++ [drained]) active
      (consumer.upload drained.flush requests).1 := by
  obtain ⟨sent, failure, -, heffects, hcases⟩ := upload_cases consumer drained.flush requests
  have hneutral : ∀ effect ∈ (consumer.upload drained.flush requests).2, Neutral effect := by
    intro effect he
    rw [heffects] at he
    obtain ⟨x, -, rfl⟩ := List.mem_map.1 he
    trivial
  have hmem : drained.flush ∈ (uploaded ++ [drained]).map Drained.flush := by simp
  have hgrown : ∀ batches : List UploadBatch,
      (∀ batch ∈ batches, batch ∈ consumer.batches ∨ batch.flush = drained.flush) →
      Sound trace (uploaded ++ [drained]) active { consumer with
        nextUpload := consumer.nextUpload + sent.length
        unsettled := consumer.unsettled ++
          List.range' consumer.nextUpload (sent.length - failure.toList.length)
        batches := batches } := by
    intro batches hbatches
    refine ⟨h.orderly, h.fresh, h.begun, h.final, h.closing, h.timeout, fun batch hbatch => ?_, ?_⟩
    · rcases hbatches batch hbatch with hold | hnew
      · rw [List.map_append]
        exact List.mem_append_left _ (h.batches batch hold)
      · rwa [hnew]
    · intro action haction
      exact (h.jobs action haction).mono List.prefix_rfl (List.prefix_append _ _) id
  refine neutral ?_ hneutral
  rcases hcases with ⟨-, heq⟩ | ⟨message, -, heq⟩
  · have hbatched := hgrown
      (consumer.batches ++ [⟨drained.flush, consumer.nextUpload, List.replicate requests.length none⟩])
      fun batch hbatch => (List.mem_append.1 hbatch).imp id fun hnew => by
        rw [List.mem_singleton.1 hnew]
    rw [heq]
    split_ifs
    · exact hbatched.later 0 (.report drained.flush) rfl hmem
    · exact hbatched
  · rw [heq]
    exact (hgrown consumer.batches fun _ hbatch => Or.inl hbatch).later 1
      (.reject drained.flush (.raised message)) rfl hmem

theorem arrived (h : Sound trace uploaded active consumer) {flush : Flush}
    (hflush : flush ∈ uploaded.map Drained.flush) (index : Nat) (outcome : Outcome) :
    Sound trace uploaded active (consumer.arrived flush index outcome) := by
  have hnoted : Sound trace uploaded active
      { consumer with batches := consumer.batches.map (UploadBatch.arrive flush index outcome) } := by
    refine ⟨h.orderly, h.fresh, h.begun, h.final, h.closing, h.timeout, ?_, h.jobs⟩
    intro batch hbatch
    obtain ⟨other, hother, rfl⟩ := List.mem_map.1 hbatch
    have hsame : (UploadBatch.arrive flush index outcome other).flush = other.flush := by
      rw [UploadBatch.arrive]
      split_ifs <;> rfl
    rw [hsame]
    exact h.batches other hother
  unfold Consumer.arrived
  dsimp only
  split
  · split_ifs
    · exact hnoted.later 0 (.report flush) rfl hflush
    · exact hnoted
  · exact hnoted

theorem report (h : Sound trace uploaded active consumer) {flush : Flush}
    (hflush : flush ∈ uploaded.map Drained.flush) :
    Sound (trace ++ (consumer.report flush).2) uploaded active (consumer.report flush).1 := by
  unfold Consumer.report
  split
  · rwa [List.append_nil]
  · next batch _ =>
    have hneutral : ∀ effect ∈ noticeOf batch.outcomes, Neutral effect := by
      intro effect he
      obtain ⟨notice, rfl⟩ := noticeOf_logs batch.outcomes effect he
      trivial
    have hreported : Sound trace uploaded active
        { consumer with batches := consumer.batches.filter (·.flush ≠ flush) } :=
      ⟨h.orderly, h.fresh, h.begun, h.final, h.closing, h.timeout,
        fun other hother => h.batches other (List.mem_filter.1 hother).1, h.jobs⟩
    exact (hreported.later 0 (.resolve flush _) rfl hflush).neutral hneutral

/-! The end of a flush and of a shutdown -/

theorem resolve (h : Sound trace uploaded active consumer) {flush : Flush}
    (hflush : .drain flush ∈ executed trace) (result : FlushResult) :
    Sound (trace ++ (consumer.resolve flush result).2) uploaded active
      (consumer.resolve flush result).1 := by
  unfold Consumer.resolve
  split_ifs
  · exact (h.later 0 (.untrack flush) rfl hflush).neutral (by simp [Neutral])
  · exact h.neutral (by simp [Neutral])

theorem reject (h : Sound trace uploaded active consumer) {flush : Flush}
    (hflush : .drain flush ∈ executed trace) (error : Failure) :
    Sound (trace ++ (consumer.reject flush error).2) uploaded active
      (consumer.reject flush error).1 := by
  unfold Consumer.reject
  split_ifs
  · exact ((h.later 0 (.untrack flush) rfl hflush).later 0 (.flushFailed flush error) rfl trivial).neutral
      (by simp [Neutral])
  · exact h.neutral (by simp [Neutral])

theorem untrack (h : Sound trace uploaded active consumer) {flush : Flush}
    (hflush : .drain flush ∈ executed trace) :
    Sound trace uploaded active (consumer.untrack flush) := by
  have huntracked : Sound trace uploaded active
      { consumer with inFlight := consumer.inFlight.filter (· ≠ flush) } :=
    ⟨h.orderly, h.fresh, h.begun, h.final, h.closing, h.timeout, h.batches, h.jobs⟩
  rcases untrack_cases consumer flush with heq | heq
  · rw [heq]
    exact huntracked
  · rw [heq]
    exact huntracked.later 0 (.waited flush) rfl hflush

/-- Behind an executed final drain the queue can hold nothing but drains. -/
theorem settling_of_executed (h : Sound trace uploaded active consumer)
    (htasks : kept trace = executed trace ++ consumer.queue.toList) (hclosed : consumer.closed = true)
    {flush : Flush} (hflush : .drain flush ∈ executed trace) (horigin : flush.origin = .final) :
    consumer.Settling := by
  refine ⟨hclosed, fun task htask => ?_⟩
  obtain ⟨earlier, later, hexecuted⟩ := List.append_of_mem hflush
  rw [hexecuted, List.append_assoc, List.cons_append] at htasks
  exact h.orderly.final flush earlier _ htasks horigin task (List.mem_append_right _ htask)

theorem waited (h : Sound trace uploaded active consumer)
    (htasks : kept trace = executed trace ++ consumer.queue.toList) {flush : Flush}
    (hflush : .drain flush ∈ executed trace) :
    Sound trace uploaded active (consumer.waited flush) := by
  rcases waited_cases consumer flush with ⟨-, heq⟩ | ⟨closing, hclosing, hcases⟩
  · rwa [heq]
  · obtain ⟨hclosed, hwaits⟩ := h.closing closing hclosing
    have hfinal : (∃ other ∈ closing.waitingFor.filter (· ≠ flush), other.origin = .final) ∨
        ∃ other, .drain other ∈ executed trace ∧ other.origin = .final := by
      rcases hwaits with ⟨other, hother, horigin⟩ | hexecuted
      · by_cases heq : other = flush
        · exact Or.inr ⟨flush, hflush, heq ▸ horigin⟩
        · exact Or.inl ⟨other, List.mem_filter.2 ⟨hother, decide_eq_true heq⟩, horigin⟩
      · exact Or.inr hexecuted
    have hwaited : Sound trace uploaded active { consumer with
        closing := some { closing with waitingFor := closing.waitingFor.filter (· ≠ flush) } } := by
      refine ⟨h.orderly, h.fresh, h.begun, h.final, ?_, h.timeout, h.batches, h.jobs⟩
      intro other hother
      rw [← Option.some.inj hother]
      exact ⟨hclosed, hfinal⟩
    rcases hcases with heq | ⟨hnone, heq⟩
    · rw [heq]
      exact hwaited
    · obtain ⟨final, hexecuted, horigin⟩ := hfinal.resolve_left (by rw [hnone]; simp)
      rw [heq]
      exact hwaited.later 0 .allWaited rfl (h.settling_of_executed htasks hclosed hexecuted horigin)

/-- Nothing but the bookkeeping of a shutdown changes, not the flushes that it waits for. -/
theorem reclose (h : Sound trace uploaded active consumer) {closing : Closing} (closing' : Closing)
    (hclosing : consumer.closing = some closing) (hwaitingFor : closing'.waitingFor = closing.waitingFor) :
    Sound trace uploaded active { consumer with closing := some closing' } := by
  refine ⟨h.orderly, h.fresh, h.begun, h.final, ?_, h.timeout, h.batches, h.jobs⟩
  intro other hother
  rw [← Option.some.inj hother, hwaitingFor]
  exact h.closing closing hclosing

theorem race (h : Sound trace uploaded active consumer) (hsettling : consumer.Settling)
    (finished : Bool) : Sound trace uploaded active (consumer.race finished) := by
  rcases race_cases consumer finished with heq | ⟨closing, hclosing, heq⟩
  · rwa [heq]
  · rw [heq]
    exact (h.reclose { closing with raced := true } hclosing rfl).later 0 (.clearTimeout finished) rfl
      hsettling

theorem discard (h : Sound trace uploaded active consumer)
    (htasks : kept trace = executed trace ++ consumer.queue.toList) (hsettling : consumer.Settling) :
    Sound (trace ++ consumer.discard.2) uploaded active consumer.discard.1 := by
  unfold Consumer.discard
  split_ifs
  · rwa [List.append_nil]
  · have hexecuted : executed (trace ++ [.discarded consumer.queue.toList]) = executed trace := by
      rw [executed_append]
      exact List.append_nil _
    refine ⟨h.orderly.discard htasks hsettling.2, fun flush hf => h.fresh flush (by simpa using hf),
      h.begun.grow rfl,
      fun flush hf => h.final flush (by simpa using hf), ?_, h.timeout, h.batches, ?_⟩
    · rw [hexecuted]
      exact h.closing
    · intro action haction
      refine (h.jobs action haction).mono (List.prefix_append _ _) List.prefix_rfl fun hs => ⟨hs.1, ?_⟩
      exact fun task htask => absurd htask List.not_mem_nil

theorem finishClose (h : Sound trace uploaded active consumer)
    (htasks : kept trace = executed trace ++ consumer.queue.toList) (hsettling : consumer.Settling)
    (finished : Bool) :
    Sound (trace ++ (consumer.finishClose finished).2) uploaded active
      (consumer.finishClose finished).1 := by
  cases hc : consumer.closing with
  | none =>
    have hnone : consumer.finishClose finished = (consumer, []) := by rw [Consumer.finishClose, hc]
    rw [hnone, List.append_nil]
    exact h
  | some closing =>
    let warning : List Effect := if finished then [] else
      [.log (.timedOut consumer.options.shutdownTimeoutMs consumer.inFlight.length)]
    have hidle : ∀ effect ∈ warning, effect.Idle := by
      show ∀ effect ∈ ite _ _ _, _
      split_ifs <;> simp [Effect.Idle]
    have hneutral : ∀ effect ∈ warning, Neutral effect := by
      show ∀ effect ∈ ite _ _ _, _
      split_ifs <;> simp [Neutral]
    have hoff : ∀ effect ∈ warning, effect.OffQueue := fun effect he => (hidle effect he).offQueue
    rw [← kept_append_of_offQueue trace hoff, ← executed_append_of_offQueue trace hoff] at htasks
    have hdiscarded := (h.neutral hneutral).discard htasks hsettling
    have hlast : ∀ effect ∈ [if consumer.discard.1.options.ownsUploader then Effect.closeUploader
        else .closed closing.call .fulfilled], Neutral effect := by
      split_ifs <;> simp [Neutral]
    have hended := hdiscarded.neutral hlast
    have hclosing : consumer.discard.1.closing = some closing := by
      unfold Consumer.discard
      split_ifs <;> exact hc
    rw [finishClose_eq hc, ← List.append_assoc, ← List.append_assoc]
    cases howns : consumer.discard.1.options.ownsUploader with
    | true =>
      rw [howns] at hended
      exact hended.reclose { closing with awaitsUploader := true } hclosing rfl
    | false =>
      rw [howns] at hended
      exact hended

/-! Jobs and events -/

/-- What is allowed of an action other than an upload is what it needs. -/
theorem perform {fresh : Aggregation} {action : Action} (hupload : action.upload? = none)
    (hflow : Flow fresh trace uploaded [action] consumer) (h : Sound trace uploaded [action] consumer) :
    Sound (trace ++ (consumer.perform action).2) uploaded [] (consumer.perform action).1 := by
  have hallowed : Allowed trace uploaded consumer.Settling action := h.jobs action List.mem_cons_self
  have hover := h.finish
  cases action with
  | startNext =>
    rw [Consumer.perform]
    split_ifs
    · rwa [List.append_nil]
    · exact hover.startTask
  | release =>
    have hreleased : Sound trace uploaded [] { consumer with running := false } :=
      ⟨hover.orderly, hover.fresh, hover.begun, hover.final, hover.closing, hover.timeout,
        hover.batches, hover.jobs⟩
    exact hreleased.startTask
  | addFailed error => exact hover.neutral (by simp [Consumer.perform, Neutral])
  | upload flush drained => cases hupload
  | arrived flush index outcome =>
    rw [Consumer.perform, List.append_nil]
    exact hover.arrived hallowed index outcome
  | report flush => exact hover.report hallowed
  | resolve flush result => exact hover.resolve (hflow.executed_of_uploaded hallowed) result
  | reject flush error => exact hover.reject (hflow.executed_of_uploaded hallowed) error
  | untrack flush =>
    rw [Consumer.perform, List.append_nil]
    exact hover.untrack hallowed
  | flushFailed flush error =>
    refine hover.neutral ?_
    rw [Consumer.perform, Consumer.flushFailed]
    cases flush.origin <;> simp [Neutral]
  | waited flush =>
    rw [Consumer.perform, List.append_nil]
    exact hover.waited hflow.tasks hallowed
  | allWaited =>
    rw [Consumer.perform, List.append_nil]
    exact hover.later 0 (.race true) rfl hallowed
  | race finished =>
    rw [Consumer.perform, List.append_nil]
    exact hover.race hallowed finished
  | clearTimeout finished =>
    have hcleared : Sound trace uploaded [] { consumer with timer := .off } :=
      ⟨hover.orderly, hover.fresh, hover.begun, hover.final, hover.closing,
        (fun _ hnever => by cases hnever), hover.batches, hover.jobs⟩
    rw [Consumer.perform, List.append_nil]
    exact hcleared.later 0 (.finishClose finished) rfl hallowed
  | finishClose finished => exact hover.finishClose hflow.tasks hallowed finished
  | uploaderClosed outcome =>
    refine hover.neutral ?_
    rw [Consumer.perform, Consumer.uploaderClosed]
    split <;> simp [Neutral]
  | recheck flush =>
    obtain ⟨hcalled, hnew⟩ := h.begun.recheck
    exact hover.beginFlush flush hcalled hnew
  | calls calls => exact hover.callAll calls

theorem pop (h : Sound trace uploaded [] consumer) {action : Action} {jobs : Fifo Job}
    (hpop : consumer.jobs.pop? = some (⟨0, action⟩, jobs)) :
    Sound trace uploaded [action] { consumer with jobs } := by
  refine ⟨h.orderly, h.fresh, h.begun.pop hpop, h.final, h.closing, h.timeout, h.batches, ?_⟩
  rw [actions_pop hpop]
  exact h.jobs

theorem rotate (h : Sound trace uploaded [] consumer) {delay : Nat} {action : Action} {jobs : Fifo Job}
    (hpop : consumer.jobs.pop? = some (⟨delay + 1, action⟩, jobs)) :
    Sound trace uploaded [] (({ consumer with jobs }).later delay action) := by
  refine ⟨h.orderly, h.fresh, h.begun.rotate hpop, h.final, h.closing, h.timeout, h.batches, ?_⟩
  exact fun other hother => h.jobs other ((actions_rotate hpop).mem_iff.1 hother)

theorem wake (h : Sound trace uploaded active consumer) : Sound trace uploaded active consumer.wake := by
  rcases wake_cases consumer with ⟨-, heq⟩ | ⟨flush, waiting, hwaiting, heq⟩
  · rwa [heq]
  · rw [heq]
    refine ⟨h.orderly, h.fresh, h.begun.wake hwaiting, h.final, h.closing, h.timeout, h.batches, ?_⟩
    intro action haction
    rcases mem_actions_later.1 haction with hold | rfl
    · exact h.jobs action hold
    · trivial

/-- The timer of a shutdown runs out only when nothing is queued. -/
theorem fire (h : Sound trace uploaded active consumer) (hqueue : consumer.queue.toList = []) :
    Sound (trace ++ consumer.fire.2) uploaded active consumer.fire.1 := by
  have hset : ∀ timer : Timer, (∀ since, timer ≠ .timeout since) →
      Sound trace uploaded active { consumer with timer := timer } := fun timer htimer =>
    ⟨h.orderly, h.fresh, h.begun, h.final, h.closing, fun since hsince => absurd hsince (htimer since), h.batches,
      h.jobs⟩
  rcases fire_cases consumer with heq | ⟨_, -, heq⟩ | ⟨since, htimer, heq⟩
  · rwa [heq, List.append_nil]
  · rw [heq]
    exact (hset _ (by simp)).flush .scheduled (by simp)
  · rw [heq, List.append_nil]
    refine (hset .off (by simp)).later 0 (.race false) rfl ⟨h.timeout since htimer, fun task htask => ?_⟩
    rw [show consumer.queue.toList = [] from hqueue] at htask
    cases htask

theorem settle (h : Sound trace uploaded active consumer) (id : Nat) (outcome : Outcome) :
    Sound trace uploaded active (consumer.settle id outcome) := by
  have hended : Sound trace uploaded active
      { consumer with unsettled := consumer.unsettled.filter (· ≠ id) } :=
    ⟨h.orderly, h.fresh, h.begun, h.final, h.closing, h.timeout, h.batches, h.jobs⟩
  rcases settle_cases consumer id outcome with heq | heq | ⟨batch, hbatch, index, heq⟩
  · rwa [heq]
  · rw [heq]
    exact hended
  · rw [heq]
    exact hended.later 0 (.arrived batch.flush index outcome) rfl (h.batches batch hbatch)

theorem endUploaderClose (h : Sound trace uploaded active consumer) (outcome : Outcome) :
    Sound trace uploaded active (consumer.endUploaderClose outcome) := by
  rcases endUploaderClose_cases consumer outcome with heq | ⟨closing, hclosing, heq⟩
  · rwa [heq]
  · rw [heq]
    exact (h.reclose { closing with awaitsUploader := false } hclosing rfl).later 0
      (.uploaderClosed outcome) rfl trivial

end Sound
end MetricPipeline.Consumer
