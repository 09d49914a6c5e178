import MetricPipeline.Proofs.Consumer.Uploads

/-! What a step keeps, and so a run. The options stay, tasks and uploads flow in their order, and flushes are
where they may be. A flush resolves in a step of its own, so that all of this holds right before it does. -/

namespace MetricPipeline.Consumer

open Trace

variable {fresh : Aggregation} {trace : List Effect} {consumer : Consumer}

/-! Options -/

theorem step_options (consumer : Consumer) (event : Event) :
    (consumer.step event).1.options = consumer.options := by
  cases event with
  | turn calls => exact (callAll_sameUploads consumer calls).options
  | job =>
    rw [step]
    rcases runJob_cases consumer with ⟨-, heq⟩ | ⟨delay, action, jobs, -, heq⟩ | ⟨action, jobs, -, heq⟩
    · rw [heq]
    · rw [heq]
      rfl
    · rw [heq]
      exact perform_options _ action
  | wake =>
    rw [step]
    rcases wake_cases consumer with ⟨-, heq⟩ | ⟨flush, waiting, -, heq⟩
    · rw [heq]
    · rw [heq]
      rfl
  | fire =>
    rw [step]
    rcases fire_cases consumer with heq | ⟨_, -, heq⟩ | ⟨_, -, heq⟩
    · rw [heq]
    · rw [heq]
      exact (flush_sameUploads _ .scheduled).options
    · rw [heq]
      rfl
  | settle id outcome =>
    rw [step]
    rcases settle_cases consumer id outcome with heq | heq | ⟨batch, -, index, heq⟩
    · rw [heq]
    · rw [heq]
    · rw [heq]
      rfl
  | uploaderClosed outcome =>
    rw [step]
    rcases endUploaderClose_cases consumer outcome with heq | ⟨closing, -, heq⟩
    · rw [heq]
    · rw [heq]
      rfl
  | _ => rfl

theorem Run.options_eq {start : Consumer} (h : Run start trace consumer) :
    consumer.options = start.options := by
  induction h with
  | start => rfl
  | step _ event _ ih => exact (step_options _ event).trans ih

/-! Invariant -/

/-- What holds of a consumer between two steps, when `ended` tells which uploads have ended. -/
structure Invariant (fresh : Aggregation) (ended : List (Nat × Outcome)) (trace : List Effect)
    (uploaded : List Drained) (consumer : Consumer) : Prop where
  flow : Flow fresh trace uploaded [] consumer
  sound : Sound trace uploaded [] consumer
  uploads : Uploading fresh ended trace uploaded [] consumer

variable {ended : List (Nat × Outcome)} {uploaded : List Drained} {active : List Action}

/-- No two drains are of one flush. -/
theorem Sound.nodup_drains (h : Sound trace uploaded active consumer)
    (htasks : kept trace = executed trace ++ consumer.queue.toList) :
    ((Progress.ofTasks (executed trace)).drains.map Drained.flush).Nodup := by
  have hnodup := h.begun.nodup_kept
  rw [htasks, List.filterMap_append] at hnodup
  rw [Progress.flushes_ofTasks]
  exact (List.nodup_append.1 hnodup).1

theorem Sound.nodup_uploaded (h : Sound trace uploaded active consumer)
    (hflow : Flow fresh trace uploaded active consumer) : (uploaded.map Drained.flush).Nodup := by
  have hnodup := h.nodup_drains hflow.tasks
  obtain ⟨pending, hdrains, -⟩ := hflow.drains
  rw [hdrains, List.map_append] at hnodup
  exact (List.nodup_append.1 hnodup).1

/-- The upload of a drain is of one that has not been uploaded before. -/
theorem Sound.upload_new {flush : Flush} {requests : List Request}
    (hsound : Sound trace uploaded [.upload flush (.ok requests)] consumer)
    (hflow : Flow fresh trace uploaded [.upload flush (.ok requests)] consumer) :
    ∃ drained : Drained, drained.flush = flush ∧ drained.requests fresh = requests ∧
      drained.flush ∉ uploaded.map Drained.flush ∧
      Flow fresh (trace ++ (consumer.upload flush requests).2) (uploaded ++ [drained]) []
        (consumer.upload flush requests).1 ∧
      Sound (trace ++ (consumer.upload flush requests).2) (uploaded ++ [drained]) []
        (consumer.upload flush requests).1 := by
  obtain ⟨drained, rfl, rfl, huploaded⟩ := hflow.upload
  have hsound' := hsound.finish.upload drained (drained.requests fresh)
  have hnodup := hsound'.nodup_uploaded huploaded
  rw [List.map_append] at hnodup
  refine ⟨drained, rfl, rfl, fun hmem => ?_, huploaded, hsound'⟩
  exact (List.nodup_append.1 hnodup).2.2 _ hmem _ List.mem_cons_self rfl

/-- A job uploads one more drain or none. -/
theorem Invariant.perform (hfresh : fresh.Empties) {action : Action}
    (hflow : Flow fresh trace uploaded [action] consumer)
    (hsound : Sound trace uploaded [action] consumer)
    (huploads : Uploading fresh ended trace uploaded [action] consumer) :
    ∃ uploaded', Invariant fresh ended (trace ++ (consumer.perform action).2) uploaded'
      (consumer.perform action).1 := by
  have hsettled := fun (hhandles : ¬action.Handles) (hupload : action.upload? = none) =>
    (⟨hflow.perform hfresh hupload, hsound.perform hupload hflow, huploads.perform hhandles hupload⟩ :
      Invariant fresh ended _ uploaded _)
  cases action with
  | upload flush drained =>
    cases drained with
    | error error => exact absurd hflow Flow.not_upload_error
    | ok requests =>
      obtain ⟨drained, rfl, rfl, hnew, hflow', hsound'⟩ := hsound.upload_new hflow
      refine ⟨uploaded ++ [drained], hflow', hsound', huploads.upload hsound hnew ?_⟩
      exact List.forall_mem_singleton.2 trivial
  | arrived flush index outcome =>
    have harrived := huploads.arrived
    rw [← List.append_nil trace] at harrived
    exact ⟨uploaded, hflow.perform hfresh rfl, hsound.perform rfl hflow, harrived⟩
  | report flush => exact ⟨uploaded, hflow.perform hfresh rfl, hsound.perform rfl hflow, huploads.report⟩
  | _ => exact ⟨uploaded, hsettled id rfl⟩

theorem Invariant.step (hfresh : fresh.Empties) (h : Invariant fresh ended trace uploaded consumer)
    {event : Event} (henabled : consumer.Enabled event) :
    ∃ uploaded', Invariant fresh (ended ++ settled [event]) (trace ++ (consumer.step event).2) uploaded'
      (consumer.step event).1 := by
  have hunsettled : settled [event] = [] → ∀ {effects : List Effect} {next : Consumer},
      (∃ uploaded', Invariant fresh ended (trace ++ effects) uploaded' next) →
      ∃ uploaded', Invariant fresh (ended ++ settled [event]) (trace ++ effects) uploaded' next := by
    intro hnone effects next hnext
    rwa [hnone, List.append_nil]
  cases event with
  | turn calls =>
    refine hunsettled rfl ⟨uploaded, h.flow.callAll calls, h.sound.callAll calls, ?_⟩
    exact h.uploads.adds (callAll_sameUploads consumer calls) (callAll_adds consumer calls trivial)
      fun effect he => (callAll_ofCall consumer calls effect he).quiet
  | defer calls =>
    have hflow := h.flow.later 0 (.calls calls) (Nat.zero_le 2) rfl
    have hsound := h.sound.later 0 (.calls calls) rfl trivial
    have huploads := h.uploads.later 0 (.calls calls) trivial
    refine hunsettled rfl ⟨uploaded, ?_, ?_, ?_⟩
    · rwa [Consumer.step, List.append_nil]
    · rwa [Consumer.step, List.append_nil]
    · rwa [Consumer.step, List.append_nil]
  | job =>
    refine hunsettled rfl ?_
    rw [Consumer.step]
    rcases runJob_cases consumer with ⟨-, heq⟩ | ⟨delay, action, jobs, hpop, heq⟩ | ⟨action, jobs, hpop, heq⟩
    · rw [heq, List.append_nil]
      exact ⟨uploaded, h⟩
    · rw [heq, List.append_nil]
      exact ⟨uploaded, h.flow.rotate hpop, h.sound.rotate hpop, h.uploads.rotate hpop⟩
    · rw [heq]
      exact Invariant.perform hfresh (h.flow.pop hpop) (h.sound.pop hpop) (h.uploads.pop hpop)
  | wake =>
    refine hunsettled rfl ⟨uploaded, ?_, ?_, ?_⟩
    · rw [Consumer.step, List.append_nil]
      exact h.flow.wake
    · rw [Consumer.step, List.append_nil]
      exact h.sound.wake
    · rw [Consumer.step, List.append_nil]
      exact h.uploads.wake
  | fire =>
    have hqueue := h.flow.queue_eq_nil henabled.1
    exact hunsettled rfl ⟨uploaded, h.flow.fire, h.sound.fire hqueue, h.uploads.fire⟩
  | clock now =>
    refine hunsettled rfl ⟨uploaded, ?_, ?_, ?_⟩
    · rw [Consumer.step, List.append_nil]
      exact h.flow.congr rfl rfl rfl rfl rfl
    · rw [Consumer.step, List.append_nil]
      exact ⟨h.sound.orderly, h.sound.fresh, h.sound.begun, h.sound.final, h.sound.closing,
        h.sound.timeout, h.sound.batches, h.sound.jobs⟩
    · rw [Consumer.step, List.append_nil]
      exact ⟨h.uploads.numbered, h.uploads.passed, h.uploads.unsent, h.uploads.distinct,
        h.uploads.passedBatch, h.uploads.batched, h.uploads.answers, h.uploads.answered,
        h.uploads.progress⟩
  | settle id outcome =>
    refine ⟨uploaded, ?_, ?_, ?_⟩
    · rw [Consumer.step, List.append_nil]
      exact h.flow.settle id outcome
    · rw [Consumer.step, List.append_nil]
      exact h.sound.settle id outcome
    · rw [Consumer.step, List.append_nil]
      exact h.uploads.settle henabled outcome
  | uploaderClosed outcome =>
    refine hunsettled rfl ⟨uploaded, ?_, ?_, ?_⟩
    · rw [Consumer.step, List.append_nil]
      exact h.flow.endUploaderClose outcome
    · rw [Consumer.step, List.append_nil]
      exact h.sound.endUploaderClose outcome
    · rw [Consumer.step, List.append_nil]
      exact h.uploads.endUploaderClose outcome

theorem History.invariant (hfresh : fresh.Empties) {options : ConsumerOptions} {now : Binary64}
    {events : List Event} (h : History (Consumer.create options fresh now) events trace consumer) :
    ∃ uploaded, Invariant fresh (settled events) trace uploaded consumer := by
  induction h with
  | start => exact ⟨[], .start options now, .start options fresh now, .start options now⟩
  | step _ event henabled ih =>
    obtain ⟨uploaded, hinvariant⟩ := ih
    rw [settled_append]
    exact hinvariant.step hfresh henabled

theorem Run.invariant (hfresh : fresh.Empties) {options : ConsumerOptions} {now : Binary64}
    (h : Run (Consumer.create options fresh now) trace consumer) :
    ∃ ended uploaded, Invariant fresh ended trace uploaded consumer := by
  obtain ⟨events, hevents⟩ := h.history
  exact ⟨_, hevents.invariant hfresh⟩

/-! Resolved flushes -/

/-- A job that resolves a flush does nothing else that can be seen. -/
theorem perform_resolves {action : Action} {flush : Flush} {result : FlushResult}
    (h : .flushed flush (.ok result) ∈ (consumer.perform action).2) :
    action = .resolve flush result ∧ (consumer.perform action).2 = [.flushed flush (.ok result)] := by
  cases perform_shows consumer action _ h with
  | resolve => exact ⟨rfl, rfl⟩
  | calls calls _ hcall => exact absurd hcall id

theorem step_resolves {event : Event} {flush : Flush} {result : FlushResult}
    (h : .flushed flush (.ok result) ∈ (consumer.step event).2) :
    .resolve flush result ∈ actions [] consumer ∧
      (consumer.step event).2 = [.flushed flush (.ok result)] := by
  cases event with
  | turn calls => exact absurd (callAll_ofCall consumer calls _ h) id
  | job =>
    obtain ⟨action, jobs, hpop, heq⟩ := runJob_of_effect h
    rw [step, heq] at h ⊢
    obtain ⟨rfl, heffects⟩ := perform_resolves h
    exact ⟨mem_actions_of_pop hpop, heffects⟩
  | fire => rcases fire_effects consumer _ h with heq | heq <;> cases heq
  | _ => cases h

/-- Where a flush resolves, it was about to do so after the events before. -/
theorem History.before_flushed {start : Consumer} {events : List Event}
    (h : History start events trace consumer) {before after : List Effect} {flush : Flush}
    {result : FlushResult} (htrace : trace = before ++ .flushed flush (.ok result) :: after) :
    ∃ earlier previous, earlier <+: events ∧ History start earlier before previous ∧
      .resolve flush result ∈ actions [] previous := by
  induction h generalizing after with
  | start => exact absurd htrace (by simp)
  | @step events trace consumer hhistory event henabled ih =>
    have hhere : ∀ rest, before = trace ++ rest →
        (consumer.step event).2 = rest ++ .flushed flush (.ok result) :: after →
        ∃ earlier previous, earlier <+: events ++ [event] ∧ History start earlier before previous ∧
          .resolve flush result ∈ actions [] previous := by
      intro rest hbefore heffects
      have hmem : .flushed flush (.ok result) ∈ (consumer.step event).2 := by
        rw [heffects]
        exact List.mem_append_right _ List.mem_cons_self
      obtain ⟨hresolve, hsingle⟩ := step_resolves hmem
      obtain rfl : rest = [] := by
        have hlength := congrArg List.length (hsingle.symm.trans heffects)
        rw [List.length_append, List.length_cons, List.length_cons, List.length_nil] at hlength
        exact List.eq_nil_of_length_eq_zero (by omega)
      rw [hbefore, List.append_nil]
      exact ⟨events, consumer, List.prefix_append _ _, hhistory, hresolve⟩
    rcases List.append_eq_append_iff.1 htrace with ⟨rest, hbefore, heffects⟩ | ⟨rest, hbefore, hafter⟩
    · exact hhere rest hbefore heffects
    · rcases rest with _ | ⟨effect, rest⟩
      · exact hhere [] (by rw [hbefore, List.append_nil, List.append_nil]) hafter.symm
      · rw [(List.cons.inj hafter).1] at ih
        obtain ⟨earlier, previous, hearlier, hbefore⟩ := ih hbefore
        exact ⟨earlier, previous, hearlier.trans (List.prefix_append _ _), hbefore⟩

/-- Where a flush resolves, the invariant holds right before, and the flush is uploaded. -/
theorem Run.invariant_of_flushed (hfresh : fresh.Empties) {options : ConsumerOptions} {now : Binary64}
    (h : Run (Consumer.create options fresh now) trace consumer) {before after : List Effect}
    {flush : Flush} {result : FlushResult}
    (htrace : trace = before ++ .flushed flush (.ok result) :: after) :
    ∃ ended uploaded previous, Run (Consumer.create options fresh now) before previous ∧
      Invariant fresh ended before uploaded previous ∧ flush ∈ uploaded.map Drained.flush := by
  obtain ⟨events, hevents⟩ := h.history
  obtain ⟨earlier, previous, -, hprevious, hresolve⟩ := hevents.before_flushed htrace
  obtain ⟨uploaded, hinvariant⟩ := hprevious.invariant hfresh
  exact ⟨_, uploaded, previous, hprevious.run, hinvariant, hinvariant.sound.jobs _ hresolve⟩

end MetricPipeline.Consumer
