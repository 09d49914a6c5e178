import MetricPipeline.Proofs.Consumer.Steps

/-! The flush of a shutdown. It is called behind everything that is accepted, and a shutdown comes to its end
only after the drain of this flush was executed, or while it still waits for room. So a shutdown never
discards that drain. -/

namespace MetricPipeline

/-- An action by which a shutdown comes to its end. -/
def Action.Concludes : Action → Prop
  | .allWaited | .race _ | .clearTimeout _ | .finishClose _ => True
  | _ => False

namespace Trace

theorem mem_queuedDrains {trace : List Effect} {flush : Flush} :
    flush ∈ queuedDrains trace ↔ .queued (.drain flush) ∈ trace := by
  rw [queuedDrains, List.mem_filterMap]
  constructor
  · rintro ⟨effect, heffect, hflush⟩
    cases effect with
    | queued task =>
      cases task with
      | add submission => cases hflush
      | drain other => rwa [← Option.some.inj hflush]
    | _ => cases hflush
  · exact fun h => ⟨_, h, rfl⟩

/-- Where nothing is discarded, what was kept is kept, with what enters the queue. -/
theorem mem_kept_append (trace : List Effect) {effects : List Effect}
    (h : ∀ tasks, .discarded tasks ∉ effects) {task : Task} :
    task ∈ kept (trace ++ effects) ↔ task ∈ kept trace ∨ .queued task ∈ effects := by
  induction effects using List.reverseRecOn with
  | nil => simp
  | append_singleton effects effect ih =>
    rw [← List.append_assoc, kept_concat, List.mem_append, ← or_assoc,
      ← ih fun tasks hmem => h tasks (List.mem_append_left _ hmem)]
    cases effect with
    | queued other => simp [keep]
    | discarded tasks => exact absurd List.mem_concat_self (h tasks)
    | _ => simp [keep]

theorem executed_mono {trace : List Effect} {task : Task} (h : task ∈ executed trace)
    (effects : List Effect) : task ∈ executed (trace ++ effects) := by
  rw [executed_append]
  exact List.mem_append_left _ h

end Trace

namespace Consumer

open Trace

variable {trace effects : List Effect} {active active' : List Action} {action : Action} {flush : Flush}
  {consumer other : Consumer}

theorem mem_begun : flush ∈ begun trace active consumer ↔
    flush ∈ consumer.waiting ∨ .recheck flush ∈ actions active consumer ∨
      .queued (.drain flush) ∈ trace := by
  have hrecheck : flush ∈ (actions active consumer).filterMap Action.recheck? ↔
      .recheck flush ∈ actions active consumer := by
    rw [List.mem_filterMap]
    constructor
    · rintro ⟨action, haction, hflush⟩
      cases action with
      | recheck other => rwa [← Option.some.inj hflush]
      | _ => cases hflush
    · exact fun h => ⟨_, h, rfl⟩
  rw [begun, List.mem_append, List.mem_append, hrecheck, mem_queuedDrains, or_assoc]

/-- A flush whose drain has entered the queue neither waits nor looks for room. -/
theorem Begun.not_waiting_of_queued (h : Begun trace (begun trace active consumer))
    (hqueued : .queued (.drain flush) ∈ trace) :
    flush ∉ consumer.waiting ∧ .recheck flush ∉ actions active consumer := by
  have hdisjoint := (List.nodup_append.1 h.nodup).2.2
  constructor
  · intro hwaiting
    exact hdisjoint flush (List.mem_append_left _ hwaiting) flush (mem_queuedDrains.2 hqueued) rfl
  · intro hrecheck
    have hmem : flush ∈ (actions active consumer).filterMap Action.recheck? :=
      List.mem_filterMap.2 ⟨_, hrecheck, rfl⟩
    exact hdisjoint flush (List.mem_append_right _ hmem) flush (mem_queuedDrains.2 hqueued) rfl

/-- A flush that looks for room does not wait. -/
theorem Begun.not_waiting_of_recheck (h : Begun trace (begun trace active consumer))
    (hrecheck : .recheck flush ∈ actions active consumer) : flush ∉ consumer.waiting := by
  intro hwaiting
  have hmem : flush ∈ (actions active consumer).filterMap Action.recheck? :=
    List.mem_filterMap.2 ⟨_, hrecheck, rfl⟩
  exact (List.nodup_append.1 (List.nodup_append.1 h.nodup).1).2.2 flush hwaiting flush hmem rfl

/-- A flush that is begun waits for room, or its drain enters the queue. -/
theorem beginFlush_place (consumer : Consumer) (flush : Flush) :
    flush ∈ (consumer.beginFlush flush).1.waiting ∨ .queued (.drain flush) ∈ (consumer.beginFlush flush).2 := by
  unfold beginFlush
  split_ifs
  · exact Or.inl List.mem_concat_self
  · exact Or.inr List.mem_cons_self

theorem begun_beginFlush (trace : List Effect) (active : List Action) (consumer : Consumer) (flush : Flush) :
    flush ∈ begun (trace ++ (consumer.beginFlush flush).2) active (consumer.beginFlush flush).1 :=
  mem_begun.2 ((consumer.beginFlush_place flush).imp_right fun hqueued =>
    Or.inr (List.mem_append_right _ hqueued))

/-- An open consumer has no shutdown that could come to its end. -/
theorem Sound.not_concludes {uploaded : List Drained} (h : Sound trace uploaded active consumer)
    (hopen : consumer.closed = false) (haction : action ∈ actions active consumer) : ¬action.Concludes := by
  intro hconcludes
  have hsettling : consumer.Settling := by
    have hallowed := h.jobs action haction
    cases action <;> first | exact hallowed | exact absurd hconcludes id
  rw [hsettling.1] at hopen
  cases hopen

/-- What holds of the flush of a shutdown. -/
structure LastFlush (trace : List Effect) (active : List Action) (consumer : Consumer)
    (flush : Flush) : Prop where
  origin : flush.origin = .final
  begun : flush ∈ begun trace active consumer
  kept : .queued (.drain flush) ∈ trace → .drain flush ∈ kept trace
  closing : ∀ closing, consumer.closing = some closing →
    flush ∈ closing.waitingFor ∨ .drain flush ∈ executed trace
  concluding : ∀ action ∈ actions active consumer, action.Concludes →
    flush ∈ consumer.waiting ∨ .drain flush ∈ executed trace

namespace LastFlush

/-- Where nothing is taken from what waits, it is enough to look at the shutdown and at what was kept. -/
theorem frame (h : LastFlush trace active consumer flush)
    (hkept : .queued (.drain flush) ∈ trace ++ effects → .drain flush ∈ Trace.kept (trace ++ effects))
    (hwaiting : consumer.waiting <+: other.waiting)
    (hrecheck : .recheck flush ∈ actions active consumer → .recheck flush ∈ actions active' other)
    (hclosing : ∀ closing, other.closing = some closing → ∃ former, consumer.closing = some former ∧
      (flush ∈ former.waitingFor → flush ∈ closing.waitingFor ∨ .drain flush ∈ executed trace))
    (hconcluding : ∀ action ∈ actions active' other, action.Concludes →
      ∃ former ∈ actions active consumer, former.Concludes) :
    LastFlush (trace ++ effects) active' other flush := by
  constructor
  case origin => exact h.origin
  case begun =>
    refine mem_begun.2 ?_
    rcases mem_begun.1 h.begun with hwaits | hlooks | hqueued
    · exact Or.inl (hwaiting.subset hwaits)
    · exact Or.inr (Or.inl (hrecheck hlooks))
    · exact Or.inr (Or.inr (List.mem_append_left _ hqueued))
  case kept => exact hkept
  case closing =>
    intro closing hsome
    obtain ⟨former, hformer, hwaits⟩ := hclosing closing hsome
    rcases h.closing former hformer with hmem | hexecuted
    · exact (hwaits hmem).imp id (executed_mono · effects)
    · exact Or.inr (executed_mono hexecuted effects)
  case concluding =>
    intro action haction hends
    obtain ⟨former, hformer, hends⟩ := hconcluding action haction hends
    exact (h.concluding former hformer hends).imp (fun hwaits => hwaiting.subset hwaits)
      (executed_mono · effects)

/-- The drain of the flush is kept where nothing is discarded. -/
theorem kept_append (h : LastFlush trace active consumer flush) (heffects : ∀ tasks, .discarded tasks ∉ effects) :
    .queued (.drain flush) ∈ trace ++ effects → .drain flush ∈ Trace.kept (trace ++ effects) := by
  rw [mem_kept_append trace heffects]
  exact fun hqueued => (List.mem_append.1 hqueued).imp h.kept id

theorem finish (h : LastFlush trace active consumer flush)
    (hactive : .recheck flush ∉ active) : LastFlush trace [] consumer flush := by
  refine ⟨h.origin, mem_begun.2 ?_, h.kept, h.closing, fun action haction hends => ?_⟩
  · refine (mem_begun.1 h.begun).imp_right (Or.imp_left fun hlooks => ?_)
    exact (List.mem_append.1 hlooks).resolve_left hactive
  · exact h.concluding action (List.mem_append_right _ haction) hends

theorem later (h : LastFlush trace active consumer flush) (delay : Nat) (action : Action)
    (hconcludes : action.Concludes → flush ∈ consumer.waiting ∨ .drain flush ∈ executed trace) :
    LastFlush trace active (consumer.later delay action) flush := by
  refine ⟨h.origin, ?_, h.kept, h.closing, fun next hnext hends => ?_⟩
  · refine mem_begun.2 ((mem_begun.1 h.begun).imp_right (Or.imp_left fun hlooks => ?_))
    exact mem_actions_later.2 (Or.inl hlooks)
  · rcases mem_actions_later.1 hnext with hold | rfl
    · exact h.concluding next hold hends
    · exact hconcludes hends

/-! Calls -/

/-- Calls on a closed consumer do nothing to the shutdown. -/
theorem call (h : LastFlush trace active consumer flush) (hclosed : consumer.closed = true) (call : Call) :
    LastFlush (trace ++ (consumer.call call).2) active (consumer.call call).1 flush := by
  have hadds : Adds (· = .startNext) consumer (consumer.call call).1 := call_adds consumer call rfl
  have hkept := h.kept_append fun tasks hmem => call_ofCall consumer call _ hmem
  refine h.frame hkept (call_waiting consumer call) hadds.mem (fun closing hsome => ?_)
    fun action haction hends => ?_
  · rw [call_closing hclosed] at hsome
    exact ⟨closing, hsome, Or.inl⟩
  · refine ⟨action, (hadds.cases haction).resolve_right ?_, hends⟩
    rintro rfl
    exact hends

/-- The call that closes the consumer calls this flush, and the shutdown waits for it. -/
theorem close {uploaded : List Drained} (hsound : Sound trace uploaded active consumer)
    (hopen : consumer.closed = false) :
    LastFlush (trace ++ consumer.close.2) active consumer.close.1 ⟨consumer.nextFlush, .final⟩ := by
  let last : Flush := ⟨consumer.nextFlush, .final⟩
  let closed : Consumer :=
    { consumer with nextClose := consumer.nextClose + 1, nextFlush := consumer.nextFlush + 1
                    closed := true, timer := .off }
  have hadds : Adds (· = .startNext) consumer consumer.close.1 := call_adds consumer .close rfl
  have hdiscarded : ∀ tasks, .discarded tasks ∉ consumer.close.2 := fun tasks hmem =>
    call_ofCall consumer .close _ hmem
  have hnew : .queued (.drain last) ∉ trace := by
    intro hmem
    have hbegun : last ∈ Consumer.begun trace active consumer := mem_begun.2 (Or.inr (Or.inr hmem))
    exact absurd (hsound.fresh _ (hsound.begun.called _ hbegun)) (Nat.lt_irrefl _)
  have hclose : consumer.close.1.waiting = (closed.beginFlush last).1.waiting ∧
      consumer.close.2 = .closeCalled consumer.nextClose :: .flushCalled last ::
        (closed.beginFlush last).2 ∧
      ∀ closing, consumer.close.1.closing = some closing → last ∈ closing.waitingFor := by
    rw [close_of_open hopen, flush_eq]
    refine ⟨rfl, rfl, fun closing hsome => ?_⟩
    obtain rfl := Option.some.inj hsome
    exact List.mem_concat_self
  obtain ⟨hwaiting, heffects, hclosing⟩ := hclose
  constructor
  case origin => rfl
  case begun =>
    refine mem_begun.2 ?_
    rcases closed.beginFlush_place last with hwaits | hqueued
    · exact Or.inl (hwaiting ▸ hwaits)
    · refine Or.inr (Or.inr (List.mem_append_right _ ?_))
      rw [heffects]
      exact List.mem_cons_of_mem _ (List.mem_cons_of_mem _ hqueued)
  case kept =>
    intro hqueued
    rw [mem_kept_append trace hdiscarded]
    exact Or.inr ((List.mem_append.1 hqueued).resolve_left hnew)
  case closing => exact fun closing hsome => Or.inl (hclosing closing hsome)
  case concluding =>
    intro action haction hends
    have hold : action ∈ actions active consumer := by
      refine (hadds.cases haction).resolve_right ?_
      rintro rfl
      exact hends
    exact absurd hends (hsound.not_concludes hopen hold)

/-! Actions -/

variable {fresh : Aggregation} {uploaded : List Drained}

/-- The search for room of the flush itself: no shutdown has come to its end before. -/
theorem recheck (hflow : Flow fresh trace uploaded [.recheck flush] consumer)
    (hbegun : Begun trace (Consumer.begun trace [.recheck flush] consumer))
    (h : LastFlush trace [.recheck flush] consumer flush) :
    LastFlush (trace ++ (consumer.beginFlush flush).2) [] (consumer.beginFlush flush).1 flush := by
  have hadds : Adds (· = .startNext) consumer (consumer.beginFlush flush).1 :=
    beginFlush_adds consumer flush rfl
  -- a flush that looks for room neither waits nor was executed
  have hnone : ∀ action ∈ actions [.recheck flush] consumer, ¬action.Concludes := by
    intro action haction hends
    rcases h.concluding action haction hends with hwaits | hexecuted
    · exact hbegun.not_waiting_of_recheck List.mem_cons_self hwaits
    · have hkept : .drain flush ∈ Trace.kept trace := by
        rw [hflow.tasks]
        exact List.mem_append_left _ hexecuted
      have hqueued := (drains_kept_sublist trace).subset (List.mem_filterMap.2 ⟨_, hkept, rfl⟩)
      exact (hbegun.not_waiting_of_queued (mem_queuedDrains.1 hqueued)).2 List.mem_cons_self
  constructor
  case origin => exact h.origin
  case begun => exact begun_beginFlush trace [] consumer flush
  case kept =>
    refine h.kept_append fun tasks hmem => ?_
    cases beginFlush_effects consumer flush _ hmem
  case closing =>
    intro closing hsome
    rw [(beginFlush_sameShutdown consumer flush).closing] at hsome
    exact (h.closing closing hsome).imp id (executed_mono · _)
  case concluding =>
    intro action haction hends
    rcases hadds.cases haction with hold | rfl
    · exact absurd hends (hnone action (List.mem_cons_of_mem _ hold))
    · exact absurd hends id

/-- A shutdown may change as long as it waits for the flush, or the drain of the flush was executed. -/
theorem reclose (h : LastFlush trace active consumer flush) (closing : Closing)
    (hwaits : flush ∈ closing.waitingFor ∨ .drain flush ∈ executed trace) :
    LastFlush trace active { consumer with closing := some closing } flush := by
  refine ⟨h.origin, h.begun, h.kept, fun later hlater => ?_, h.concluding⟩
  obtain rfl := Option.some.inj hlater
  exact hwaits

/-- A shutdown that waits no more has waited for this flush. -/
theorem waited {other : Flush} (hsound : Sound trace uploaded [.waited other] consumer)
    (h : LastFlush trace [.waited other] consumer flush) :
    LastFlush trace [] (consumer.waited other) flush := by
  have hexecuted : .drain other ∈ executed trace := hsound.jobs _ List.mem_cons_self
  have hfinished := h.finish (by simp)
  have hwaits : ∀ closing, consumer.closing = some closing →
      flush ∈ closing.waitingFor.filter (· ≠ other) ∨ .drain flush ∈ executed trace := by
    intro closing hc
    by_cases heq : flush = other
    · rw [heq]
      exact Or.inr hexecuted
    · exact (h.closing closing hc).imp (fun hmem => List.mem_filter.2 ⟨hmem, decide_eq_true heq⟩) id
  rcases waited_cases consumer other with ⟨-, heq⟩ | ⟨closing, hc, heq | ⟨hnone, heq⟩⟩
  · rwa [heq]
  · rw [heq]
    exact hfinished.reclose _ (hwaits closing hc)
  · rw [heq]
    refine (hfinished.reclose _ (hwaits closing hc)).later 0 .allWaited fun _ => ?_
    refine Or.inr ((hwaits closing hc).resolve_left ?_)
    rw [hnone]
    exact List.not_mem_nil

/-- The end of a shutdown discards what is queued, which this flush is not. -/
theorem finishClose {finished : Bool} (hflow : Flow fresh trace uploaded [.finishClose finished] consumer)
    (hbegun : Begun trace (Consumer.begun trace [.finishClose finished] consumer))
    (h : LastFlush trace [.finishClose finished] consumer flush) :
    LastFlush (trace ++ (consumer.finishClose finished).2) [] (consumer.finishClose finished).1 flush := by
  have hactions : actions [] (consumer.finishClose finished).1 = actions [] consumer := by
    rw [actions, actions, finishClose_jobs]
  refine h.frame (fun hqueued => ?_) ?_ (fun hlooks => ?_) (fun closing hsome => ?_)
    fun action haction hends => ?_
  · -- the drain has entered the queue, so the flush does not wait, and what is executed is not discarded
    have hbefore : .queued (.drain flush) ∈ trace := by
      refine (List.mem_append.1 hqueued).resolve_right fun hmem => ?_
      cases finishClose_shows consumer finished _ hmem
    have hexecuted := (h.concluding _ List.mem_cons_self trivial).resolve_left
      (hbegun.not_waiting_of_queued hbefore).1
    rw [(hflow.finishClose finished).tasks]
    exact List.mem_append_left _ (executed_mono hexecuted _)
  · rw [finishClose_waiting]
  · rw [hactions]
    exact (List.mem_cons.1 hlooks).resolve_left (by simp)
  · obtain ⟨queue, later, heq, -, hwaitingFor⟩ := finishClose_state consumer finished
    rw [heq] at hsome
    obtain ⟨former, hformer, hsame⟩ := Option.map_eq_some_iff.1
      (hwaitingFor.symm.trans (congrArg (Option.map Closing.waitingFor) hsome))
    exact ⟨former, hformer, fun hmem => Or.inl (hsame ▸ hmem)⟩
  · rw [hactions] at haction
    exact ⟨action, List.mem_cons_of_mem _ haction, hends⟩

/-- What other actions do to a shutdown leaves what it waits for. -/
theorem perform_waitingFor (hclosed : consumer.closed = true) (hwaited : ∀ other, action ≠ .waited other)
    (hfinish : ∀ finished, action ≠ .finishClose finished) {closing : Closing}
    (hsome : (consumer.perform action).1.closing = some closing) :
    ∃ former, consumer.closing = some former ∧ closing.waitingFor = former.waitingFor := by
  have hsame : ∀ {next : Consumer}, next.closing = consumer.closing → next.closing = some closing →
      ∃ former, consumer.closing = some former ∧ closing.waitingFor = former.waitingFor :=
    fun heq hsome => ⟨closing, heq.symm.trans hsome, rfl⟩
  by_cases hends : action.Ends
  · cases action with
    | untrack other =>
      refine hsame ?_ hsome
      rw [perform]
      rcases untrack_cases consumer other with heq | heq
      · rw [heq]
      · rw [heq]
        rfl
    | waited other => exact absurd rfl (hwaited other)
    | race finished =>
      rw [perform] at hsome
      rcases race_cases consumer finished with heq | ⟨former, hformer, heq⟩
      · exact hsame (congrArg Consumer.closing heq) hsome
      · rw [heq] at hsome
        obtain rfl := Option.some.inj hsome
        exact ⟨former, hformer, rfl⟩
    | clearTimeout finished => exact hsame rfl hsome
    | finishClose finished => exact absurd rfl (hfinish finished)
    | calls calls => exact hsame (callAll_closing hclosed calls) hsome
    | _ => exact absurd hends id
  · exact hsame (perform_sameShutdown consumer hends).closing hsome

/-- A job keeps what holds of the flush of a shutdown. -/
theorem perform (hflow : Flow fresh trace uploaded [action] consumer)
    (hsound : Sound trace uploaded [action] consumer) (hclosed : consumer.closed = true)
    (h : LastFlush trace [action] consumer flush) :
    LastFlush (trace ++ (consumer.perform action).2) [] (consumer.perform action).1 flush := by
  have hadds := perform_adds consumer action
  have hother : action ≠ .recheck flush → (∀ other, action ≠ .waited other) →
      (∀ finished, action ≠ .finishClose finished) →
      LastFlush (trace ++ (consumer.perform action).2) [] (consumer.perform action).1 flush := by
    intro hrecheck hwaited hfinish
    have hdiscarded : ∀ tasks, .discarded tasks ∉ (consumer.perform action).2 := by
      intro tasks hmem
      cases perform_shows consumer action _ hmem with
      | discarded finished => exact hfinish finished rfl
      | calls _ _ hcall => exact hcall
    refine h.frame (h.kept_append hdiscarded) (perform_waiting consumer action) (fun hlooks => ?_)
      (fun closing hsome => ?_) fun next hnext hends => ?_
    · exact hadds.mem ((List.mem_cons.1 hlooks).resolve_left hrecheck.symm)
    · obtain ⟨former, hformer, heq⟩ := perform_waitingFor hclosed hwaited hfinish hsome
      exact ⟨former, hformer, fun hmem => Or.inl (heq ▸ hmem)⟩
    · rcases hadds.cases hnext with hold | hleads
      · exact ⟨next, List.mem_cons_of_mem _ hold, hends⟩
      · refine ⟨action, List.mem_cons_self, ?_⟩
        cases hleads with
        | allWaited other => exact absurd rfl (hwaited other)
        | race | clearTimeout | finishClose => trivial
        | _ => exact absurd hends id
  cases action with
  | recheck other =>
    by_cases heq : other = flush
    · subst heq
      exact recheck hflow hsound.begun h
    · exact hother (by simpa using heq) (by simp) (by simp)
  | waited other =>
    have hnext := waited hsound h
    rwa [← List.append_nil trace] at hnext
  | finishClose finished => exact finishClose hflow hsound.begun h
  | _ => exact hother (by simp) (by simp) (by simp)

/-! Events -/

/-- Another order of the actions makes no difference. -/
theorem perm (h : LastFlush trace active consumer flush) (hclosing : other.closing = consumer.closing)
    (hwaiting : other.waiting = consumer.waiting)
    (hactions : (actions active' other).Perm (actions active consumer)) :
    LastFlush trace active' other flush := by
  refine ⟨h.origin, mem_begun.2 ?_, h.kept, ?_, fun action haction hends => ?_⟩
  · rw [hwaiting, hactions.mem_iff]
    exact mem_begun.1 h.begun
  · rw [hclosing]
    exact h.closing
  · rw [hwaiting]
    exact h.concluding action (hactions.mem_iff.1 haction) hends

/-- When there is no job, the flush waits for room or was executed. -/
theorem settled_of_no_jobs (hflow : Flow fresh trace uploaded [] consumer)
    (h : LastFlush trace [] consumer flush) (hjobs : consumer.jobs.toList = []) :
    flush ∈ consumer.waiting ∨ .drain flush ∈ executed trace := by
  rcases mem_begun.1 h.begun with hwaits | hlooks | hqueued
  · exact Or.inl hwaits
  · rw [actions, hjobs] at hlooks
    cases hlooks
  · have hkept := h.kept hqueued
    rw [hflow.tasks, hflow.queue_eq_nil hjobs, List.append_nil] at hkept
    exact Or.inr hkept

theorem wake (h : LastFlush trace [] consumer flush) (hjobs : consumer.jobs.toList = []) :
    LastFlush trace [] consumer.wake flush := by
  rcases wake_cases consumer with ⟨-, heq⟩ | ⟨first, rest, hwaiting, heq⟩
  · rwa [heq]
  · have hactions : actions [] (({ consumer with waiting := rest }).later 0 (.recheck first)) =
        [.recheck first] := by
      rw [actions, jobs_later, hjobs]
      rfl
    rw [heq]
    refine ⟨h.origin, mem_begun.2 ?_, h.kept, h.closing, fun action haction hends => ?_⟩
    · rw [hactions]
      rcases mem_begun.1 h.begun with hwaits | hlooks | hqueued
      · rw [hwaiting] at hwaits
        rcases List.mem_cons.1 hwaits with rfl | hwaits
        · exact Or.inr (Or.inl List.mem_cons_self)
        · exact Or.inl hwaits
      · rw [actions, hjobs] at hlooks
        cases hlooks
      · exact Or.inr (Or.inr hqueued)
    · rw [hactions, List.mem_singleton] at haction
      rw [haction] at hends
      exact absurd hends id

/-- The timeout ends the wait of a shutdown only when nothing is queued. -/
theorem fire (hflow : Flow fresh trace uploaded [] consumer) (h : LastFlush trace [] consumer flush)
    (hjobs : consumer.jobs.toList = []) :
    LastFlush (trace ++ consumer.fire.2) [] consumer.fire.1 flush := by
  have hkept := h.kept_append fun tasks hmem => by cases fire_effects consumer _ hmem <;> contradiction
  rcases fire_cases consumer with heq | ⟨_, -, heq⟩ | ⟨_, -, heq⟩
  · rwa [heq, List.append_nil]
  · rw [heq] at hkept ⊢
    let restarted : Consumer :=
      { consumer with timer := .interval consumer.now }
    have hadds : Adds (· = .startNext) restarted (restarted.flush .scheduled).1 :=
      flush_adds restarted .scheduled rfl
    refine h.frame hkept (flush_waiting restarted .scheduled) hadds.mem (fun closing hsome => ?_)
      fun action haction hends => ?_
    · rw [(flush_shutdown restarted .scheduled).2.1] at hsome
      exact ⟨closing, hsome, Or.inl⟩
    · refine ⟨action, (hadds.cases haction).resolve_right ?_, hends⟩
      rintro rfl
      exact hends
  · have hoff : LastFlush trace [] { consumer with timer := .off } flush := h.perm rfl rfl (.refl _)
    have hsettled := h.settled_of_no_jobs hflow hjobs
    rw [heq, List.append_nil]
    exact hoff.later 0 (.race false) fun _ => hsettled

theorem settle (h : LastFlush trace active consumer flush) (id : Nat) (outcome : Outcome) :
    LastFlush trace active (consumer.settle id outcome) flush := by
  have hsettled : LastFlush trace active
      { consumer with unsettled := consumer.unsettled.filter (· ≠ id) } flush := h.perm rfl rfl (.refl _)
  rcases settle_cases consumer id outcome with heq | heq | ⟨batch, -, index, heq⟩
  · rwa [heq]
  · rwa [heq]
  · rw [heq]
    exact hsettled.later 0 _ fun hends => absurd hends not_false

theorem endUploaderClose (h : LastFlush trace active consumer flush) (outcome : Outcome) :
    LastFlush trace active (consumer.endUploaderClose outcome) flush := by
  rcases endUploaderClose_cases consumer outcome with heq | ⟨closing, hc, heq⟩
  · rwa [heq]
  · rw [heq]
    have hended := h.reclose { closing with awaitsUploader := false } (h.closing closing hc)
    exact hended.later 0 (.uploaderClosed outcome) fun hends => absurd hends not_false

end LastFlush

end Consumer
end MetricPipeline
