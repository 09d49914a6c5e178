import MetricPipeline.Proofs.Consumer.Delivery
import MetricPipeline.Proofs.Consumer.Late
import MetricPipeline.Proofs.Consumer.Settlement

/-! What a shutdown discards. Only flushes that a user called after close can lose their drains, and then they
are never answered. Every other flush is answered when nothing is left to do and all uploads have ended. -/

namespace MetricPipeline

namespace Trace

/-- The flush was called after the first call of close. -/
def CalledLate (trace : List Effect) (flush : Flush) : Prop :=
  ∃ before after, trace = before ++ .closeCalled 0 :: after ∧ .flushCalled flush ∈ after

/-- The final flush marks where close was called first: flushes called before have smaller numbers, and those
with greater numbers are of users. -/
structure Mark (last : Flush) (trace : List Effect) : Prop where
  called : .flushCalled last ∈ trace
  split : ∃ before after, trace = before ++ .closeCalled 0 :: after ∧
    ∀ flush, .flushCalled flush ∈ before → flush.id < last.id
  manual : ∀ flush, .flushCalled flush ∈ trace → last.id < flush.id → flush.origin = .manual
  final : ∀ flush, .flushCalled flush ∈ trace → flush.origin = .final → flush = last

variable {last flush : Flush} {trace effects : List Effect} {tasks : List Task} {task : Task}

namespace Mark

theorem append (h : Mark last trace)
    (heffects : ∀ flush, .flushCalled flush ∈ effects → last.id < flush.id ∧ flush.origin = .manual) :
    Mark last (trace ++ effects) := by
  obtain ⟨before, after, htrace, hbefore⟩ := h.split
  refine ⟨List.mem_append_left _ h.called, ⟨before, after ++ effects, ?_, hbefore⟩, fun flush hmem hlater => ?_,
    fun flush hmem hfinal => ?_⟩
  · rw [htrace, List.append_assoc, List.cons_append]
  · rcases List.mem_append.1 hmem with hmem | hmem
    · exact h.manual flush hmem hlater
    · exact (heffects flush hmem).2
  · rcases List.mem_append.1 hmem with hmem | hmem
    · exact h.final flush hmem hfinal
    · rw [(heffects flush hmem).2] at hfinal
      cases hfinal

theorem calledLate (h : Mark last trace) (hmem : .flushCalled flush ∈ trace) (hlater : last.id < flush.id) :
    CalledLate trace flush := by
  obtain ⟨before, after, htrace, hbefore⟩ := h.split
  refine ⟨before, after, htrace, ?_⟩
  rw [htrace] at hmem
  rcases List.mem_append.1 hmem with hmem | hmem
  · exact absurd (hbefore flush hmem) (Nat.not_lt.2 hlater.le)
  · exact (List.mem_cons.1 hmem).resolve_left (by simp)

end Mark

/-- The flushes whose drains were discarded. -/
def discardedFlushes (trace : List Effect) : List Flush :=
  trace.flatMap fun
    | .discarded tasks => tasks.filterMap Task.flush?
    | _ => []

theorem mem_discardedFlushes :
    flush ∈ discardedFlushes trace ↔ ∃ tasks, .discarded tasks ∈ trace ∧ .drain flush ∈ tasks := by
  rw [discardedFlushes, List.mem_flatMap]
  constructor
  · rintro ⟨effect, heffect, hflush⟩
    cases effect with
    | discarded tasks =>
      obtain ⟨task, htask, hsome⟩ := List.mem_filterMap.1 hflush
      cases task with
      | add submission => cases hsome
      | drain other => exact ⟨tasks, heffect, Option.some.inj hsome ▸ htask⟩
    | _ => cases hflush
  · rintro ⟨tasks, hdiscarded, hmem⟩
    exact ⟨_, hdiscarded, List.mem_filterMap.2 ⟨_, hmem, rfl⟩⟩

/-! What becomes of tasks -/

theorem Orderly.queued_of_discarded (h : Orderly trace) (hdiscarded : flush ∈ discardedFlushes trace) :
    flush ∈ queuedDrains trace := by
  obtain ⟨tasks, hdiscarded, hmem⟩ := mem_discardedFlushes.1 hdiscarded
  obtain ⟨before, after, rfl⟩ := List.append_of_mem hdiscarded
  rw [queuedDrains_append]
  refine List.mem_append_left _ ((drains_kept_sublist before).subset ?_)
  refine List.mem_filterMap.2 ⟨.drain flush, ?_, rfl⟩
  rw [(h.discarded before tasks after rfl).1]
  exact List.mem_append_right _ hmem

/-- What entered the queue was kept or discarded. -/
theorem Orderly.kept_or_discarded (h : Orderly trace) (hqueued : .queued task ∈ trace) :
    task ∈ kept trace ∨ ∃ tasks, .discarded tasks ∈ trace ∧ task ∈ tasks := by
  have hdiscards := fun before removed after heq => (h.discarded before removed after heq).1
  clear h
  induction trace using List.reverseRecOn with
  | nil => cases hqueued
  | append_singleton trace effect ih =>
    have hbefore : .queued task ∈ trace →
        task ∈ kept trace ∨ ∃ tasks, .discarded tasks ∈ trace ++ [effect] ∧ task ∈ tasks := by
      intro hmem
      have hcases := ih hmem fun before removed after heq => hdiscards before removed (after ++ [effect]) (by
        rw [heq, List.append_assoc, List.cons_append])
      exact hcases.imp_right fun ⟨tasks, hdiscarded, htask⟩ =>
        ⟨tasks, List.mem_append_left _ hdiscarded, htask⟩
    rw [kept_concat]
    rcases List.mem_append.1 hqueued with hmem | hmem
    · cases effect with
      | queued other => exact (hbefore hmem).imp_left fun hkept => List.mem_append_left _ hkept
      | discarded removed =>
        rcases hbefore hmem with hkept | hdiscarded
        · rw [hdiscards trace removed [] rfl, kept_concat] at hkept
          exact (List.mem_append.1 hkept).imp_right fun htask => ⟨removed, List.mem_concat_self, htask⟩
        · exact Or.inr hdiscarded
      | _ => exact hbefore hmem
    · rw [← List.mem_singleton.1 hmem]
      exact Or.inl List.mem_concat_self

/-- A drain that is kept no more never enters the queue again. -/
theorem not_kept_append (hqueued : flush ∈ queuedDrains trace) (hkept : .drain flush ∉ kept trace)
    (hnodup : (queuedDrains (trace ++ effects)).Nodup) : .drain flush ∉ kept (trace ++ effects) := by
  induction effects using List.reverseRecOn with
  | nil => rwa [List.append_nil]
  | append_singleton effects effect ih =>
    rw [← List.append_assoc, queuedDrains_append] at hnodup
    have hbefore := ih (List.nodup_append.1 hnodup).1
    rw [← List.append_assoc, kept_concat]
    cases effect with
    | queued task =>
      refine List.not_mem_append hbefore fun hmem => ?_
      have hagain : flush ∈ queuedDrains [.queued task] := by
        rw [← List.mem_singleton.1 hmem]
        exact List.mem_cons_self
      have hthere : flush ∈ queuedDrains (trace ++ effects) := by
        rw [queuedDrains_append]
        exact List.mem_append_left _ hqueued
      exact (List.nodup_append.1 hnodup).2.2 flush hthere flush hagain rfl
    | discarded removed => exact fun hmem => hbefore (List.mem_of_mem_take hmem)
    | _ => exact hbefore

theorem Orderly.not_kept_of_discarded (h : Orderly trace) (hnodup : (queuedDrains trace).Nodup)
    (hdiscarded : flush ∈ discardedFlushes trace) : .drain flush ∉ kept trace := by
  obtain ⟨tasks, hdiscarded, hmem⟩ := mem_discardedFlushes.1 hdiscarded
  obtain ⟨before, after, rfl⟩ := List.append_of_mem hdiscarded
  have hkept := (h.discarded before tasks after rfl).1
  rw [← List.singleton_append, ← List.append_assoc] at hnodup ⊢
  have hfront : (queuedDrains before).Nodup := by
    rw [queuedDrains_append, queuedDrains_append, List.append_assoc] at hnodup
    exact (List.nodup_append.1 hnodup).1
  have htaken : flush ∈ tasks.filterMap Task.flush? := List.mem_filterMap.2 ⟨_, hmem, rfl⟩
  have hflushes := hfront.sublist (drains_kept_sublist before)
  rw [hkept, List.filterMap_append] at hflushes
  refine not_kept_append ?_ (fun hstill => ?_) hnodup
  · rw [queuedDrains_append]
    refine List.mem_append_left _ ((drains_kept_sublist before).subset ?_)
    rw [hkept, List.filterMap_append]
    exact List.mem_append_right _ htaken
  · have hleft : flush ∈ (kept (before ++ [.discarded tasks])).filterMap Task.flush? :=
      List.mem_filterMap.2 ⟨_, hstill, rfl⟩
    exact (List.nodup_append.1 hflushes).2.2 flush hleft flush htaken rfl

end Trace

namespace Consumer

open Trace

variable {fresh : Aggregation} {options : ConsumerOptions} {now : Binary64} {ended : List (Nat × Outcome)}
  {uploaded : List Drained} {trace effects : List Effect} {active active' : List Action} {action : Action}
  {last flush : Flush} {tasks : List Task} {consumer other : Consumer}

/-! Closing -/

/-- The interval is stopped when a consumer is closed. -/
theorem Run.not_interval (h : Run (Consumer.create options fresh now) trace consumer)
    (hclosed : consumer.closed = true) (since : Binary64) : consumer.timer ≠ .interval since := by
  obtain ⟨events, hevents⟩ := h.history
  obtain ⟨before, event, after, former, trace₁, trace₂, rfl, rfl, hbefore, hopen, henabled, hcloses, hafter⟩ :=
    hevents.exists_closing rfl hclosed
  have htracking := (hbefore.tracking_of_open hopen (former.now + Timer.delay former.options.shutdownTimeoutMs)).step
    henabled fun _ _ => rfl
  intro hsince
  have hstill := (hafter.tracking_of_closed hcloses htracking).2.interval since hsince
  rw [hclosed] at hstill
  cases hstill

theorem finishClose_discards {finished : Bool} (h : .discarded tasks ∈ (consumer.finishClose finished).2) :
    tasks = consumer.queue.toList := by
  cases hclosing : consumer.closing with
  | none => simp [finishClose, hclosing] at h
  | some closing =>
    have hwarning : .discarded tasks ∉ (if finished then [] else
        [Effect.log (.timedOut consumer.options.shutdownTimeoutMs consumer.inFlight.length)]) := by
      split_ifs <;> simp
    have hlast : .discarded tasks ∉ [if consumer.discard.1.options.ownsUploader then
        Effect.closeUploader else .closed closing.call .fulfilled] := by
      split_ifs <;> simp
    rw [finishClose_eq hclosing] at h
    have hmem := (List.mem_append.1 ((List.mem_append.1 h).resolve_right hlast)).resolve_left hwarning
    rcases discard_cases consumer with heq | heq
    · rw [heq] at hmem
      cases hmem
    · rw [heq] at hmem
      exact Effect.discarded.inj (List.mem_singleton.1 hmem)

/-- Only the end of a shutdown discards, and it discards what is queued. -/
theorem step_discards {event : Event} (h : .discarded tasks ∈ (consumer.step event).2) :
    tasks = consumer.queue.toList ∧ ∃ finished, .finishClose finished ∈ actions [] consumer := by
  cases event with
  | turn calls => exact absurd (callAll_ofCall consumer calls _ h) id
  | job =>
    obtain ⟨action, jobs, hpop, heq⟩ := runJob_of_effect h
    rw [step, heq] at h
    cases perform_shows _ action _ h with
    | discarded finished =>
      have htasks : tasks = ({ consumer with jobs }).queue.toList := finishClose_discards h
      exact ⟨htasks, finished, mem_actions_of_pop hpop⟩
    | calls _ _ hcall => exact absurd hcall id
  | fire => rcases fire_effects consumer _ h with heq | heq <;> cases heq
  | _ => cases h

/-- The flushes of a closed consumer are called by users. -/
theorem step_flushCalled (hclosed : consumer.closed = true) (hinterval : ∀ since, consumer.timer ≠ .interval since)
    (hnext : last.id < consumer.nextFlush) {event : Event}
    (h : .flushCalled flush ∈ (consumer.step event).2) : last.id < flush.id ∧ flush.origin = .manual := by
  cases event with
  | turn calls => exact (callAll_grows hclosed hnext calls).2 flush h
  | job =>
    obtain ⟨action, jobs, hpop, heq⟩ := runJob_of_effect h
    rw [step, heq] at h
    cases perform_shows _ action _ h with
    | calls calls =>
      have hclosed' : ({ consumer with jobs }).closed = true := hclosed
      have hnext' : last.id < ({ consumer with jobs }).nextFlush := hnext
      exact (callAll_grows hclosed' hnext' calls).2 flush h
  | fire =>
    rw [step] at h
    rcases fire_cases consumer with heq | ⟨since, hsince, -⟩ | ⟨_, -, heq⟩
    · rw [heq] at h
      cases h
    · exact absurd hsince (hinterval since)
    · rw [heq] at h
      cases h
  | _ => cases h

/-- The flush of a shutdown marks the first call of close. -/
theorem mark_close (hsound : Sound trace uploaded active consumer) (hconcluding : Concluding trace active consumer)
    (hopen : consumer.closed = false) :
    Mark ⟨consumer.nextFlush, .final⟩ (trace ++ consumer.close.2) := by
  let last : Flush := ⟨consumer.nextFlush, .final⟩
  let closed : Consumer :=
    { consumer with nextClose := consumer.nextClose + 1, closed := true, timer := .off }
  have hzero : consumer.nextClose = 0 := by
    refine Nat.eq_zero_of_not_pos fun hpos => ?_
    rw [hconcluding.closed.2 hpos] at hopen
    cases hopen
  have heffects : consumer.close.2 = .closeCalled 0 :: (closed.flush .final).2 := by
    rw [close_of_open hopen, ← hzero]
  have hcalled : ∀ flush, .flushCalled flush ∈ trace ++ consumer.close.2 →
      .flushCalled flush ∈ trace ∨ flush = last := by
    intro flush hmem
    rw [heffects] at hmem
    refine (List.mem_append.1 hmem).imp_right fun hmem => ?_
    rcases flush_effects closed .final _ ((List.mem_cons.1 hmem).resolve_left (by simp)) with heq | heq
    · exact Effect.flushCalled.inj heq
    · cases heq
  constructor
  case called =>
    rw [heffects, flush_eq]
    exact List.mem_append_right _ (List.mem_cons_of_mem _ List.mem_cons_self)
  case split => exact ⟨trace, (closed.flush .final).2, by rw [heffects], hsound.fresh⟩
  case manual =>
    intro flush hmem hlater
    rcases hcalled flush hmem with hold | rfl
    · exact absurd (hsound.fresh flush hold) (Nat.not_lt.2 (Nat.le_of_lt hlater))
    · exact absurd hlater (Nat.lt_irrefl _)
  case final =>
    intro flush hmem hfinal
    refine (hcalled flush hmem).resolve_left fun hold => ?_
    rw [hsound.final flush hold hfinal] at hopen
    cases hopen

/-- When close is called the shutdown waits for its flush, whose drain is new. -/
theorem Phase.close (hflow : Flow fresh trace uploaded active consumer)
    (hsound : Sound trace uploaded active consumer) (hopen : consumer.closed = false) :
    Phase ⟨consumer.nextFlush, .final⟩ (trace ++ consumer.close.2) active consumer.close.1 := by
  have hkept : .drain ⟨consumer.nextFlush, .final⟩ ∉ kept trace := fun hmem =>
    absurd (hsound.fresh _ (hsound.orderly.called _ hmem)) (Nat.lt_irrefl _)
  rw [hflow.tasks] at hkept
  refine .waits ?_ ?_ fun action haction hconcludes => ?_
  · rw [mem_executed]
    refine List.not_mem_append (fun hmem => ?_) fun hmem => call_ofCall consumer .close _ hmem
    exact hkept (List.mem_append_left _ (mem_executed.2 hmem))
  · obtain ⟨⟨more, hmore, hcases⟩, -⟩ := flush_tasks
      { consumer with nextClose := consumer.nextClose + 1, closed := true, timer := .off } .final
    have hqueue : consumer.close.1.queue.toList = consumer.queue.toList ++ more := by
      rw [close_of_open hopen]
      exact hmore
    rw [hqueue]
    exact .of_not_mem (fun hmem => hkept (List.mem_append_right _ hmem)) hcases
  · have hadds : Adds (· = .startNext) consumer consumer.close.1 := call_adds consumer .close rfl
    rcases hadds.cases haction with hold | rfl
    · exact absurd hconcludes (hsound.not_concludes hopen hold)
    · exact hconcludes

/-- What holds of a closed consumer: its shutdown discards late drains only. -/
structure Shut (last : Flush) (trace : List Effect) (active : List Action) (consumer : Consumer) : Prop where
  mark : Mark last trace
  phase : Phase last trace active consumer
  discarded : ∀ tasks, .discarded tasks ∈ trace → Late last tasks

namespace Shut

theorem callAll (h : Shut last trace active consumer) (hsound : Sound trace uploaded active consumer)
    (hclosed : consumer.closed = true) (calls : List Call) :
    Shut last (trace ++ (consumer.callAll calls).2) active (consumer.callAll calls).1 := by
  have hnext := hsound.fresh last h.mark.called
  refine ⟨h.mark.append (callAll_grows hclosed hnext calls).2, h.phase.callAll hclosed hnext calls,
    fun tasks hmem => ?_⟩
  exact h.discarded tasks ((List.mem_append.1 hmem).resolve_right fun hmem => callAll_ofCall consumer calls _ hmem)

theorem close (hflow : Flow fresh trace uploaded active consumer) (hsound : Sound trace uploaded active consumer)
    (hconcluding : Concluding trace active consumer) (hopen : consumer.closed = false)
    (hnone : ∀ tasks, .discarded tasks ∉ trace) :
    Shut ⟨consumer.nextFlush, .final⟩ (trace ++ consumer.close.2) active consumer.close.1 := by
  refine ⟨mark_close hsound hconcluding hopen, .close hflow hsound hopen, fun tasks hmem => ?_⟩
  refine absurd ((List.mem_append.1 hmem).resolve_right fun hmem => ?_) (hnone tasks)
  exact call_ofCall consumer .close _ hmem

/-- One of the calls begins the shutdown. -/
theorem of_callAll (hflow : Flow fresh trace uploaded active consumer)
    (hsound : Sound trace uploaded active consumer) (hconcluding : Concluding trace active consumer)
    (hopen : consumer.closed = false) (hnone : ∀ tasks, .discarded tasks ∉ trace) (calls : List Call)
    (hclosed : (consumer.callAll calls).1.closed = true) :
    ∃ last, Shut last (trace ++ (consumer.callAll calls).2) active (consumer.callAll calls).1 := by
  induction calls generalizing trace consumer with
  | nil =>
    rw [Consumer.callAll, hopen] at hclosed
    cases hclosed
  | cons first rest ih =>
    show ∃ last, Shut last (trace ++ ((consumer.call first).2 ++ _)) _ _
    simp only [← List.append_assoc]
    cases hc : (consumer.call first).1.closed with
    | true =>
      obtain rfl := call_eq_close hopen (Or.inl hc)
      exact ⟨_, (close hflow hsound hconcluding hopen hnone).callAll (hsound.call .close) hc rest⟩
    | false =>
      refine ih (hflow.call first) (hsound.call first) (hconcluding.call first) hc (fun tasks hmem => ?_) hclosed
      exact hnone tasks ((List.mem_append.1 hmem).resolve_right fun hmem => call_ofCall consumer first _ hmem)

theorem step (hinvariant : Invariant fresh ended trace uploaded consumer)
    (hlast : LastFlush trace [] consumer last) (hwoken : Woken consumer) (halone : Alone consumer)
    (hclosed : consumer.closed = true) (hinterval : ∀ since, consumer.timer ≠ .interval since)
    (h : Shut last trace [] consumer) {event : Event} (henabled : consumer.Enabled event) :
    Shut last (trace ++ (consumer.step event).2) [] (consumer.step event).1 := by
  have hnext := hinvariant.sound.fresh last h.mark.called
  refine ⟨h.mark.append fun flush => step_flushCalled hclosed hinterval hnext,
    h.phase.step hinvariant hlast hwoken halone hclosed hinterval henabled, fun tasks hmem => ?_⟩
  rcases List.mem_append.1 hmem with hmem | hmem
  · exact h.discarded tasks hmem
  · obtain ⟨rfl, finished, hfinish⟩ := step_discards hmem
    exact h.phase.late_of_concludes hfinish trivial

/-- The step that closes the consumer calls close, at the start of a turn or in a job. -/
theorem of_step (hinvariant : Invariant fresh ended trace uploaded consumer)
    (hconcluding : Concluding trace [] consumer) (hopen : consumer.closed = false)
    (hnone : ∀ tasks, .discarded tasks ∉ trace) {event : Event}
    (hclosed : (consumer.step event).1.closed = true) :
    ∃ last, Shut last (trace ++ (consumer.step event).2) [] (consumer.step event).1 := by
  have hcloses : (consumer.step event).1.closed ≠ consumer.closed := by
    rw [hclosed, hopen]
    exact Bool.noConfusion
  cases event with
  | turn calls => exact of_callAll hinvariant.flow hinvariant.sound hconcluding hopen hnone calls hclosed
  | job =>
    rw [Consumer.step] at hclosed hcloses ⊢
    rcases runJob_cases consumer with ⟨-, heq⟩ | ⟨delay, action, jobs, -, heq⟩ | ⟨action, jobs, hpop, heq⟩
    · exact absurd (by rw [heq]) hcloses
    · exact absurd (by rw [heq]; rfl) hcloses
    · rw [heq] at hclosed hcloses ⊢
      by_cases hcalls : ∃ calls, action = .calls calls
      · obtain ⟨calls, rfl⟩ := hcalls
        have hpopped : Concluding trace [.calls calls] { consumer with jobs } :=
          hconcluding.perm ⟨rfl, rfl, rfl, rfl⟩ rfl (.of_eq (actions_pop hpop))
        obtain ⟨last, hshut⟩ := of_callAll (hinvariant.flow.pop hpop) (hinvariant.sound.pop hpop)
          hpopped hopen hnone calls hclosed
        exact ⟨last, hshut.mark, hshut.phase.finish, hshut.discarded⟩
      · exact absurd (perform_closed_eq _ fun calls heq => hcalls ⟨calls, heq⟩) hcloses
  | _ => exact absurd (step_closed_eq consumer (by simp) (by simp)) hcloses

end Shut

/-- While a consumer is open nothing is discarded, and then late drains only. -/
theorem Run.shut (hfresh : fresh.Empties) (h : Run (Consumer.create options fresh now) trace consumer) :
    (consumer.closed = false → ∀ tasks, .discarded tasks ∉ trace) ∧
      (consumer.closed = true → ∃ last, Shut last trace [] consumer) := by
  induction h with
  | start => exact ⟨fun _ _ => List.not_mem_nil, fun hclosed => by cases hclosed⟩
  | @step trace consumer hrun event henabled ih =>
    obtain ⟨ended, uploaded, hinvariant⟩ := hrun.invariant hfresh
    cases hc : consumer.closed with
    | true =>
      obtain ⟨last, hshut⟩ := ih.2 hc
      obtain ⟨flush, hlast⟩ := (hrun.ending hfresh).last hc
      obtain rfl := hshut.mark.final flush (hinvariant.sound.begun.called flush hlast.begun) hlast.origin
      have hnext := hshut.step hinvariant hlast (hrun.woken hfresh) (hrun.alone hfresh) hc
        (hrun.not_interval hc) henabled
      refine ⟨fun hopen => ?_, fun _ => ⟨flush, hnext⟩⟩
      rw [step_closed hc event] at hopen
      cases hopen
    | false =>
      have hnone := ih.1 hc
      refine ⟨fun _ tasks hmem => ?_, Shut.of_step hinvariant hrun.concluding hc hnone⟩
      refine (List.mem_append.1 hmem).elim (hnone tasks) fun hmem => ?_
      obtain ⟨-, finished, hfinish⟩ := step_discards hmem
      exact hinvariant.sound.not_concludes hc hfinish trivial

/-! Flushes that were called -/

/-- Every flush that was called has been begun. -/
def AllBegun (trace : List Effect) (active : List Action) (consumer : Consumer) : Prop :=
  ∀ flush, .flushCalled flush ∈ trace → flush ∈ begun trace active consumer

theorem begun_mono (hwaiting : consumer.waiting <+: other.waiting)
    (hrecheck : .recheck flush ∈ actions active consumer → .recheck flush ∈ actions active' other)
    (effects : List Effect) (h : flush ∈ begun trace active consumer) :
    flush ∈ begun (trace ++ effects) active' other := by
  rw [mem_begun] at h ⊢
  exact h.imp (fun hwaits => hwaiting.subset hwaits) (Or.imp hrecheck (List.mem_append_left _))

namespace AllBegun

theorem frame (h : AllBegun trace active consumer) (hwaiting : consumer.waiting <+: other.waiting)
    (hrecheck : ∀ flush, .recheck flush ∈ actions active consumer → .recheck flush ∈ actions active' other)
    (heffects : ∀ flush, .flushCalled flush ∉ effects) : AllBegun (trace ++ effects) active' other := by
  intro flush hmem
  have hcalled := (List.mem_append.1 hmem).resolve_right (heffects flush)
  exact begun_mono hwaiting (hrecheck flush) effects (h flush hcalled)

theorem silent (h : AllBegun trace active consumer) (hwaiting : consumer.waiting <+: other.waiting)
    (hrecheck : ∀ flush, .recheck flush ∈ actions active consumer → .recheck flush ∈ actions active' other) :
    AllBegun trace active' other := by
  have hframed : AllBegun (trace ++ []) active' other := h.frame hwaiting hrecheck fun _ => List.not_mem_nil
  rwa [List.append_nil] at hframed

theorem call_flush (h : AllBegun trace active consumer) (origin : FlushOrigin) :
    AllBegun (trace ++ (consumer.flush origin).2) active (consumer.flush origin).1 := by
  intro flush hmem
  have hadds : Adds (· = .startNext) consumer (consumer.flush origin).1 := flush_adds consumer origin rfl
  rcases List.mem_append.1 hmem with hmem | hmem
  · exact begun_mono (flush_waiting consumer origin) hadds.mem _ (h flush hmem)
  · rcases flush_effects consumer origin _ hmem with heq | heq
    · obtain rfl := Effect.flushCalled.inj heq
      have hbegun := begun_beginFlush (trace ++ [.flushCalled ⟨consumer.nextFlush, origin⟩]) active
        { consumer with nextFlush := consumer.nextFlush + 1 } ⟨consumer.nextFlush, origin⟩
      rw [mem_begun, List.append_assoc] at hbegun
      rw [flush_eq, mem_begun]
      exact hbegun
    · cases heq

theorem call (h : AllBegun trace active consumer) (call : Call) :
    AllBegun (trace ++ (consumer.call call).2) active (consumer.call call).1 := by
  cases call with
  | publish submission =>
    have hadds : Adds (· = .startNext) consumer (consumer.publish submission).1 :=
      call_adds consumer (.publish submission) rfl
    refine h.frame (call_waiting consumer (.publish submission)) (fun _ => hadds.mem) fun flush hmem => ?_
    rw [Consumer.call, Consumer.publish] at hmem
    split_ifs at hmem <;> simp [enqueue] at hmem
  | flush => exact h.call_flush .manual
  | close =>
    rw [Consumer.call]
    cases hc : consumer.closed with
    | true =>
      rw [close_of_closed hc]
      exact h.frame List.prefix_rfl (fun _ => id) (by simp)
    | false =>
      let closed : Consumer :=
        { consumer with nextClose := consumer.nextClose + 1, closed := true, timer := .off }
      have hcalled : AllBegun (trace ++ [.closeCalled consumer.nextClose]) active closed :=
        h.frame List.prefix_rfl (fun _ => id) (by simp)
      have hflushed := hcalled.call_flush .final
      rw [List.append_assoc] at hflushed
      rw [close_of_open hc]
      exact hflushed

theorem callAll (h : AllBegun trace active consumer) (calls : List Call) :
    AllBegun (trace ++ (consumer.callAll calls).2) active (consumer.callAll calls).1 := by
  induction calls generalizing trace consumer with
  | nil =>
    show AllBegun (trace ++ []) active consumer
    rwa [List.append_nil]
  | cons first rest ih =>
    have hrest := ih (h.call first)
    rwa [List.append_assoc] at hrest

theorem perform (h : AllBegun trace [action] consumer) :
    AllBegun (trace ++ (consumer.perform action).2) [] (consumer.perform action).1 := by
  have hkeeps : ∀ flush, action ≠ .recheck flush → .recheck flush ∈ actions [action] consumer →
      .recheck flush ∈ actions [] (consumer.perform action).1 := by
    intro flush hne hmem
    exact (perform_adds consumer action).mem ((List.mem_cons.1 hmem).resolve_left (Ne.symm hne))
  cases action with
  | calls calls =>
    refine callAll (h.silent List.prefix_rfl fun flush hmem => ?_) calls
    exact (List.mem_cons.1 hmem).resolve_left (by simp)
  | recheck looking =>
    intro flush hmem
    have hcalled := (List.mem_append.1 hmem).resolve_right fun hmem => by
      cases beginFlush_effects consumer looking _ hmem
    by_cases heq : flush = looking
    · rw [heq]
      exact begun_beginFlush trace [] consumer looking
    · exact begun_mono (beginFlush_waiting consumer looking)
        (hkeeps flush fun hlooks => heq (Action.recheck.inj hlooks).symm) _ (h flush hcalled)
  | _ =>
    refine h.frame (perform_waiting consumer _) (fun flush => hkeeps flush (by simp)) fun flush hmem => ?_
    cases perform_shows consumer _ _ hmem

theorem step (h : AllBegun trace [] consumer) (event : Event) :
    AllBegun (trace ++ (consumer.step event).2) [] (consumer.step event).1 := by
  have hsilent : ∀ {next : Consumer}, AllBegun trace [] next → AllBegun (trace ++ []) [] next := by
    intro next hnext
    rwa [List.append_nil]
  have houter : event.Outer → AllBegun (trace ++ (consumer.step event).2) [] (consumer.step event).1 := by
    intro houter
    obtain ⟨heffects, hother⟩ := step_outer consumer houter
    rw [heffects]
    refine hsilent (h.silent ?_ fun _ => hother.adds.mem)
    rw [hother.waiting]
  cases event with
  | turn calls => exact h.callAll calls
  | job =>
    rw [Consumer.step]
    rcases runJob_cases consumer with ⟨-, heq⟩ | ⟨delay, action, jobs, hpop, heq⟩ | ⟨action, jobs, hpop, heq⟩
    · rw [heq]
      exact hsilent h
    · rw [heq]
      exact hsilent (h.silent List.prefix_rfl fun _ => (actions_rotate hpop).mem_iff.2)
    · rw [heq]
      refine perform (h.silent List.prefix_rfl fun _ hmem => ?_)
      rwa [actions_pop hpop]
  | wake =>
    rw [Consumer.step]
    rcases wake_cases consumer with ⟨-, heq⟩ | ⟨first, waiting, hwaiting, heq⟩
    · rw [heq]
      exact hsilent h
    · rw [heq]
      refine hsilent fun flush hmem => ?_
      have hbegun := mem_begun.1 (h flush hmem)
      rw [hwaiting, List.mem_cons] at hbegun
      rw [mem_begun, mem_actions_later]
      rcases hbegun with (rfl | hwaits) | hlooks | hqueued
      · exact Or.inr (Or.inl (Or.inr rfl))
      · exact Or.inl hwaits
      · exact Or.inr (Or.inl (Or.inl hlooks))
      · exact Or.inr (Or.inr hqueued)
  | fire =>
    rw [Consumer.step]
    rcases fire_cases consumer with heq | ⟨_, -, heq⟩ | ⟨_, -, heq⟩
    · rw [heq]
      exact hsilent h
    · let restarted : Consumer :=
        { consumer with timer := .interval consumer.now }
      have hrestarted : AllBegun trace [] restarted := h.silent List.prefix_rfl fun _ => id
      rw [heq]
      exact hrestarted.call_flush .scheduled
    · have hoff : Adds (fun _ => True) consumer { consumer with timer := .off } := .of_jobs_eq rfl
      rw [heq]
      exact hsilent (h.silent List.prefix_rfl fun _ => (hoff.later 0 trivial).mem)
  | _ => exact houter trivial

end AllBegun

theorem Run.allBegun (h : Run (Consumer.create options fresh now) trace consumer) : AllBegun trace [] consumer := by
  induction h with
  | start => exact fun _ hmem => absurd hmem List.not_mem_nil
  | step _ event _ ih => exact ih.step event

/-! Answers -/

theorem Run.called_of_discarded (hfresh : fresh.Empties)
    (h : Run (Consumer.create options fresh now) trace consumer) (hdiscarded : flush ∈ discardedFlushes trace) :
    .flushCalled flush ∈ trace := by
  obtain ⟨ended, uploaded, hinvariant⟩ := h.invariant hfresh
  have hqueued := hinvariant.sound.orderly.queued_of_discarded hdiscarded
  exact hinvariant.sound.begun.called flush (List.mem_append_right _ hqueued)

/-- A flush whose drain was discarded is not answered. -/
theorem Run.not_answered_of_discarded (hfresh : fresh.Empties)
    (h : Run (Consumer.create options fresh now) trace consumer) (hdiscarded : flush ∈ discardedFlushes trace) :
    ¬Answered trace flush := by
  obtain ⟨ended, uploaded, hinvariant⟩ := h.invariant hfresh
  have hnodup : (queuedDrains trace).Nodup := (List.nodup_append.1 hinvariant.sound.begun.nodup).2.1
  have hkept := hinvariant.sound.orderly.not_kept_of_discarded hnodup hdiscarded
  rintro ⟨result, hresult⟩
  obtain ⟨drained, hdrained, rfl, -⟩ := hinvariant.uploads.answered flush result hresult
  rw [hinvariant.flow.tasks] at hkept
  exact hkept (List.mem_append_left _ (hinvariant.flow.executed_of_uploaded (List.mem_map_of_mem hdrained)))

/-- Where no job is left and all uploads have ended, a flush whose drain was executed is answered. -/
theorem Run.answered_of_executed (hfresh : fresh.Empties)
    (h : Run (Consumer.create options fresh now) trace consumer) (hjobs : consumer.jobs.toList = [])
    (hunsettled : consumer.unsettled = []) (hexecuted : .drain flush ∈ executed trace) : Answered trace flush := by
  obtain ⟨events, hevents⟩ := h.history
  obtain ⟨uploaded, hinvariant⟩ := hevents.invariant hfresh
  obtain ⟨drained, hdrained, rfl⟩ := List.mem_map.1 ((Progress.mem_drains_iff _ _).2 hexecuted)
  refine (hevents.delivers hfresh).resolves hjobs drained hdrained fun x hx hcall => ?_
  have hnumbers := hinvariant.uploads.numbered.numbers
  have hstarted := hinvariant.uploads.numbered.started x.2 ?_ (h.options_eq ▸ hcall)
  · rwa [hunsettled, List.nil_append] at hstarted
  · rw [← List.mem_range, ← hnumbers]
    exact List.mem_map_of_mem (mem_sentOf.1 hx)

/-- All that a shutdown discards are drains of flushes that a user called after close, and these flushes are never
answered. Any other flush is answered when nothing is left to do and all uploads have ended. -/
theorem close_discards_late_flushes (namespaceName : String) (storeOptions : StoreOptions)
    (data values : Option Binary64) (options : ConsumerOptions) (now : Binary64) (trace : List Effect)
    (consumer : Consumer)
    (hrun : Run (Consumer.create options (Aggregation.create namespaceName storeOptions data values) now)
      trace consumer) :
    (∀ tasks, .discarded tasks ∈ trace → ∀ task ∈ tasks, task.IsDrain) ∧
    (∀ flush ∈ discardedFlushes trace,
      flush.origin = .manual ∧ CalledLate trace flush ∧ ¬Answered trace flush) ∧
    (consumer.Idle → consumer.unsettled = [] → ∀ flush, .flushCalled flush ∈ trace →
      flush ∈ discardedFlushes trace ∨ Answered trace flush) := by
  have hfresh := Aggregation.empties_create namespaceName storeOptions data values
  obtain ⟨ended, uploaded, hinvariant⟩ := hrun.invariant hfresh
  have horderly := hinvariant.sound.orderly
  refine ⟨fun tasks hdiscarded => ?_, fun flush hdiscarded => ?_, fun hidle hunsettled flush hcalled => ?_⟩
  · obtain ⟨before, after, rfl⟩ := List.append_of_mem hdiscarded
    exact (horderly.discarded before tasks after rfl).2
  · have hcalled : .flushCalled flush ∈ trace :=
      hinvariant.sound.begun.called flush (List.mem_append_right _ (horderly.queued_of_discarded hdiscarded))
    obtain ⟨tasks, htasks, hmem⟩ := mem_discardedFlushes.1 hdiscarded
    have hclosed : consumer.closed = true := by
      by_contra hopen
      exact (hrun.shut hfresh).1 (Bool.eq_false_of_not_eq_true hopen) tasks htasks
    obtain ⟨last, hshut⟩ := (hrun.shut hfresh).2 hclosed
    have hlater := hshut.discarded tasks htasks flush hmem
    exact ⟨hshut.mark.manual flush hcalled hlater, hshut.mark.calledLate hcalled hlater,
      hrun.not_answered_of_discarded hfresh hdiscarded⟩
  · have hbegun := mem_begun.1 (hrun.allBegun flush hcalled)
    rw [hidle.2, actions, hidle.1] at hbegun
    have hqueued := (hbegun.resolve_left List.not_mem_nil).resolve_left List.not_mem_nil
    rcases horderly.kept_or_discarded hqueued with hkept | hdiscarded
    · rw [hinvariant.flow.tasks, hinvariant.flow.queue_eq_nil hidle.1, List.append_nil] at hkept
      exact Or.inr (hrun.answered_of_executed hfresh hidle.1 hunsettled hkept)
    · exact Or.inl (mem_discardedFlushes.2 hdiscarded)

/-- A user calls flush in a job right before the end of a shutdown. -/
theorem close_discards_late_flushes_once :
    ∃ trace consumer,
      Run (Consumer.create ⟨true, .ofInt 16, .ofInt 60000, .ofInt 5000, fun _ => none⟩
        (Aggregation.create "App" ⟨[], [.all], none, []⟩ none none) (.ofInt 0)) trace consumer ∧
      consumer.Idle ∧ consumer.unsettled = [] ∧ discardedFlushes trace = [⟨1, .manual⟩] ∧
      CalledLate trace ⟨1, .manual⟩ ∧ ¬Answered trace ⟨1, .manual⟩ ∧
      ∀ flush, .flushCalled flush ∈ trace → flush = ⟨1, .manual⟩ ∨ Answered trace flush := by
  obtain ⟨trace, consumer, hrun, hidle, hunsettled, hdiscarded⟩ : ∃ trace consumer,
      Run (Consumer.create ⟨true, .ofInt 16, .ofInt 60000, .ofInt 5000, fun _ => none⟩
        (Aggregation.create "App" ⟨[], [.all], none, []⟩ none none) (.ofInt 0)) trace consumer ∧
      consumer.Idle ∧ consumer.unsettled = [] ∧ discardedFlushes trace = [⟨1, .manual⟩] := by
    have hstart : Run (Consumer.create ⟨true, .ofInt 16, .ofInt 60000, .ofInt 5000, fun _ => none⟩
      (Aggregation.create "App" ⟨[], [.all], none, []⟩ none none) (.ofInt 0)) [] _ := .start
    have hclosed := hstart.step (.turn [.publish (.collection Aggregation.twoCounts), .close]) rfl
    have hended := ((hclosed.jobs 7).step (.settle 0 .fulfilled) (by decide +kernel)).jobs 7
    have hcalled := hended.step (.defer [.flush]) trivial
    exact ⟨_, _, hcalled.jobs 12, ⟨by decide +kernel, by decide +kernel⟩, by decide +kernel,
      by decide +kernel⟩
  obtain ⟨-, hlate, hanswered⟩ := close_discards_late_flushes "App" ⟨[], [.all], none, []⟩ none none _ _ trace
    consumer hrun
  rw [hdiscarded] at hlate hanswered
  obtain ⟨-, hcalled, hnever⟩ := hlate ⟨1, .manual⟩ List.mem_cons_self
  exact ⟨trace, consumer, hrun, hidle, hunsettled, hdiscarded, hcalled, hnever, fun flush hmem =>
    (hanswered hidle hunsettled flush hmem).imp_left List.mem_singleton.1⟩

/-- Twelve flushes are called while a shutdown waits for the last upload. The drains of three are queued when it
ends: these flushes are not answered, though nothing is left to do. -/
theorem flushes_discarded_of_close :
    ∃ trace consumer,
      Run (Consumer.create ⟨true, .ofInt 16, .ofInt 60000, .ofInt 5000, fun _ => none⟩
        (Aggregation.create "App" ⟨[], [.all], none, []⟩ none none) (.ofInt 0)) trace consumer ∧
      consumer.Idle ∧ consumer.unsettled = [] ∧
      discardedFlushes trace = [⟨10, .manual⟩, ⟨11, .manual⟩, ⟨12, .manual⟩] ∧
      ∀ flush ∈ discardedFlushes trace, .flushCalled flush ∈ trace ∧ ¬Answered trace flush := by
  have hstart : Run (Consumer.create ⟨true, .ofInt 16, .ofInt 60000, .ofInt 5000, fun _ => none⟩
    (Aggregation.create "App" ⟨[], [.all], none, []⟩ none none) (.ofInt 0)) [] _ := .start
  have hclosed := hstart.step (.turn [.publish (.collection Aggregation.twoCounts), .close]) rfl
  have hcalled := (hclosed.jobs 7).step (.turn (List.replicate 12 .flush)) (by decide +kernel)
  have hrun := (hcalled.step (.settle 0 .fulfilled) (by decide +kernel)).jobs 75
  have hfresh := Aggregation.empties_create "App" ⟨[], [.all], none, []⟩ none none
  exact ⟨_, _, hrun, ⟨by decide +kernel, by decide +kernel⟩, by decide +kernel, by decide +kernel,
    fun flush hmem => ⟨hrun.called_of_discarded hfresh hmem, hrun.not_answered_of_discarded hfresh hmem⟩⟩

end Consumer
end MetricPipeline
