import Mathlib.Algebra.Order.BigOperators.Group.List
import Mathlib.Algebra.Order.Monoid.Prod
import MetricPipeline.Proofs.Consumer.Ending
import MetricPipeline.Proofs.Ownership

/-! What has happened when a call of close is settled. The first call waits for the final flush, or until its
time is over, and then for an uploader that is owned. A further call does not wait: it is settled where it is
made, whatever the shutdown has come to. -/

namespace MetricPipeline.Consumer

open Trace

variable {options : ConsumerOptions} {fresh : Aggregation} {now deadline : Binary64} {events : List Event}
  {trace : List Effect} {active : List Action} {action : Action} {consumer other : Consumer} {call : Nat}
  {outcome : Outcome}

/-! Time -/

theorem perform_now (consumer : Consumer) (action : Action) :
    (consumer.perform action).1.now = consumer.now := by
  by_cases h : action.Handles
  · refine (perform_sameShutdown consumer fun hends => ?_).now
    cases action <;> simp_all [Action.Handles, Action.Ends]
  · exact (perform_sameUploads consumer h).now

/-- The clock does not go back. -/
theorem step_now {event : Event} (henabled : consumer.Enabled event) :
    consumer.now.le (consumer.step event).1.now = true ∨ (consumer.step event).1.now = consumer.now := by
  cases event with
  | turn calls => exact Or.inr (callAll_sameUploads consumer calls).now
  | defer calls => exact Or.inr rfl
  | job =>
    rw [step]
    rcases runJob_cases consumer with ⟨-, heq⟩ | ⟨delay, action, jobs, -, heq⟩ | ⟨action, jobs, -, heq⟩
    · exact Or.inr (by rw [heq])
    · exact Or.inr (by rw [heq]; rfl)
    · exact Or.inr (by rw [heq, perform_now])
  | wake =>
    rw [step]
    rcases wake_cases consumer with ⟨-, heq⟩ | ⟨flush, waiting, -, heq⟩
    · exact Or.inr (by rw [heq])
    · exact Or.inr (by rw [heq]; rfl)
  | fire =>
    rw [step]
    rcases fire_cases consumer with heq | ⟨_, -, heq⟩ | ⟨_, -, heq⟩
    · exact Or.inr (by rw [heq])
    · exact Or.inr (by rw [heq, (flush_sameUploads _ .scheduled).now])
    · exact Or.inr (by rw [heq]; rfl)
  | clock later => exact Or.inl henabled
  | settle id outcome =>
    rw [step]
    rcases settle_cases consumer id outcome with heq | heq | ⟨batch, -, index, heq⟩
    · exact Or.inr (by rw [heq])
    · exact Or.inr (by rw [heq])
    · exact Or.inr (by rw [heq]; rfl)
  | uploaderClosed outcome =>
    rw [step]
    rcases endUploaderClose_cases consumer outcome with heq | ⟨closing, -, heq⟩
    · exact Or.inr (by rw [heq])
    · exact Or.inr (by rw [heq]; rfl)

/-! The end of the wait -/

/-- The time for the shutdown is over, or its final flush has been answered. -/
def Over (deadline : Binary64) (trace : List Effect) (consumer : Consumer) : Prop :=
  deadline.le consumer.now = true ∨ ∃ flush : Flush, flush.origin = .final ∧ Answered trace flush

/-- The time at which close is called first. -/
def ClosesAt (start : Consumer) (events : List Event) (moment : Binary64) : Prop :=
  ∃ before event after trace consumer, events = before ++ event :: after ∧
    History start before trace consumer ∧ .closeCalled 0 ∈ (consumer.step event).2 ∧ consumer.now = moment

theorem Over.mono (h : Over deadline trace consumer)
    (hnow : consumer.now.le other.now = true ∨ other.now = consumer.now) (effects : List Effect) :
    Over deadline (trace ++ effects) other := by
  refine h.imp (fun hdue => ?_) (Exists.imp fun flush hflush => ⟨hflush.1, hflush.2.mono effects⟩)
  rcases hnow with hle | heq
  · exact Binary64.le_trans hdue hle
  · rwa [heq]

theorem ClosesAt.append {start : Consumer} {moment : Binary64} (h : ClosesAt start events moment)
    (more : List Event) : ClosesAt start (events ++ more) moment := by
  obtain ⟨before, event, after, trace, consumer, rfl, hbefore, hcalled, hnow⟩ := h
  exact ⟨before, event, after ++ more, trace, consumer, by simp, hbefore, hcalled, hnow⟩

/-- A consumer that is closed was closed by one step. -/
theorem History.exists_closing {start : Consumer} (h : History start events trace consumer)
    (hopen : start.closed = false) (hclosed : consumer.closed = true) :
    ∃ before event after former trace₁ trace₂, events = before ++ event :: after ∧
      trace = trace₁ ++ (former.step event).2 ++ trace₂ ∧ History start before trace₁ former ∧
      former.closed = false ∧ former.Enabled event ∧ (former.step event).1.closed = true ∧
      History (former.step event).1 after trace₂ consumer := by
  induction h with
  | start =>
    rw [hopen] at hclosed
    cases hclosed
  | @step events trace consumer hrun event henabled ih =>
    cases hc : consumer.closed with
    | false => exact ⟨events, event, [], consumer, trace, [], rfl, by simp, hrun, hc, henabled, hclosed, .start⟩
    | true =>
      obtain ⟨before, closing, after, former, trace₁, trace₂, rfl, rfl, hbefore, hformer, hcloses, hthen,
        hafter⟩ :=
        ih hc
      exact ⟨before, closing, after ++ [event], former, trace₁, trace₂ ++ (consumer.step event).2, by simp,
        by simp, hbefore, hformer, hcloses, hthen, hafter.step event henabled⟩

/-- The step that closes a consumer is that of the first call of close. -/
theorem Concluding.closeCalled_of_closes (h : Concluding trace [] consumer) {event : Event}
    (hopen : consumer.closed = false) (hclosed : (consumer.step event).1.closed = true) :
    .closeCalled 0 ∈ (consumer.step event).2 := by
  have hnext := h.step event
  refine (List.mem_append.1 ((hnext.called 0).2 (hnext.closed.1 hclosed))).resolve_left fun hmem => ?_
  rw [h.closed.2 ((h.called 0).1 hmem)] at hopen
  cases hopen

/-- A shutdown ends its wait when the final flush has been answered, or its time is over. -/
theorem Tracking.over {uploaded : List Drained} (h : Tracking deadline trace active consumer)
    (hsound : Sound trace uploaded active consumer) {flush : Flush}
    (hlast : LastFlush trace active consumer flush) {finished : Bool}
    (hmem : .finishClose finished ∈ actions active consumer) : Over deadline trace consumer := by
  have hgrounded := h.jobs _ hmem
  cases finished with
  | false => exact Or.inl hgrounded
  | true =>
    obtain ⟨closing, hclosing, hnone⟩ := hgrounded
    have htracked : flush.tracked = true := by
      rw [Flush.tracked, hlast.origin]
      rfl
    have hwaits := (h.closing closing hclosing).2 flush (hsound.begun.called flush hlast.begun) htracked
    rw [hnone] at hwaits
    exact Or.inr ⟨flush, hlast.origin, hwaits.resolve_left List.not_mem_nil⟩

theorem History.over_of_finishClose (hfresh : fresh.Empties)
    (h : History (Consumer.create options fresh now) events trace consumer) {finished : Bool}
    (hmem : .finishClose finished ∈ actions [] consumer) :
    ∃ moment, ClosesAt (Consumer.create options fresh now) events moment ∧
      Over (moment + Timer.delay options.shutdownTimeoutMs) trace consumer := by
  obtain ⟨uploaded, hinvariant⟩ := h.invariant hfresh
  have hclosed : consumer.closed = true := And.left (hinvariant.sound.jobs _ hmem)
  obtain ⟨flush, hlast⟩ := (h.run.ending hfresh).last hclosed
  obtain ⟨before, event, after, former, trace₁, trace₂, rfl, rfl, hbefore, hopen, henabled, hcloses, hafter⟩ :=
    h.exists_closing rfl hclosed
  have hcalled := hbefore.run.concluding.closeCalled_of_closes hopen hcloses
  have hopened := hbefore.tracking_of_open hopen (former.now + Timer.delay options.shutdownTimeoutMs)
  have htracking := hopened.step henabled fun _ _ => by
    rw [show former.options = options from hbefore.run.options_eq]
  refine ⟨former.now, ⟨before, event, after, trace₁, former, rfl, hbefore, hcalled, rfl⟩, ?_⟩
  exact (hafter.tracking_of_closed hcloses htracking).2.over hinvariant.sound hlast hmem

/-- The uploader is closed behind the wait, which stays over. -/
theorem History.over_of_closeUploader (hfresh : fresh.Empties)
    (h : History (Consumer.create options fresh now) events trace consumer) (hmem : .closeUploader ∈ trace) :
    ∃ moment, ClosesAt (Consumer.create options fresh now) events moment ∧
      Over (moment + Timer.delay options.shutdownTimeoutMs) trace consumer := by
  induction h with
  | start => cases hmem
  | step hrun event henabled ih =>
    obtain ⟨moment, hcloses, hover⟩ : ∃ moment, ClosesAt _ _ moment ∧ Over _ _ _ := by
      rcases List.mem_append.1 hmem with hmem | hmem
      · exact ih hmem
      · obtain ⟨finished, hfinish⟩ := step_closeUploader hmem
        exact hrun.over_of_finishClose hfresh hfinish
    exact ⟨moment, hcloses.append [event], hover.mono (step_now henabled) _⟩

/-! The end of the uploader -/

/-- Only the end of the uploader tells a shutdown of it. -/
theorem step_uploaderClosed {event : Event}
    (h : .uploaderClosed outcome ∈ actions [] (consumer.step event).1) :
    .uploaderClosed outcome ∈ actions [] consumer ∨ event = .uploaderClosed outcome := by
  cases event with
  | turn calls =>
    have hadds : Adds (· = .startNext) consumer (consumer.callAll calls).1 := callAll_adds consumer calls rfl
    exact (hadds.cases h).imp_right fun hnew => by cases hnew
  | defer calls => exact (mem_actions_later.1 h).imp_right fun hnew => by cases hnew
  | job =>
    rw [step] at h
    rcases runJob_cases consumer with ⟨-, heq⟩ | ⟨delay, action, jobs, hpop, heq⟩ | ⟨action, jobs, hpop, heq⟩
    · rw [heq] at h
      exact Or.inl h
    · rw [heq] at h
      exact Or.inl ((actions_rotate hpop).mem_iff.1 h)
    · rw [heq] at h
      rcases (perform_adds _ action).cases h with hold | hleads
      · rw [← actions_pop hpop]
        exact Or.inl (List.mem_cons_of_mem _ hold)
      · cases hleads
  | wake =>
    rw [step] at h
    rcases wake_cases consumer with ⟨-, heq⟩ | ⟨flush, waiting, -, heq⟩
    · rw [heq] at h
      exact Or.inl h
    · rw [heq] at h
      exact (mem_actions_later.1 h).imp_right fun hnew => by cases hnew
  | fire =>
    rw [step] at h
    rcases fire_cases consumer with heq | ⟨_, -, heq⟩ | ⟨_, -, heq⟩
    · rw [heq] at h
      exact Or.inl h
    · let restarted : Consumer :=
        { consumer with timer := .interval consumer.now }
      have hadds : Adds (· = .startNext) restarted (restarted.flush .scheduled).1 := flush_adds restarted _ rfl
      rw [heq] at h
      exact (hadds.cases h).imp_right fun hnew => by cases hnew
    · rw [heq] at h
      exact (mem_actions_later.1 h).imp_right fun hnew => by cases hnew
  | clock now => exact Or.inl h
  | settle number ended =>
    rw [step] at h
    rcases settle_cases consumer number ended with heq | heq | ⟨batch, -, index, heq⟩
    · rw [heq] at h
      exact Or.inl h
    · rw [heq] at h
      exact Or.inl h
    · rw [heq] at h
      exact (mem_actions_later.1 h).imp_right fun hnew => by cases hnew
  | uploaderClosed ended =>
    rw [step] at h
    rcases endUploaderClose_cases consumer ended with heq | ⟨closing, -, heq⟩
    · rw [heq] at h
      exact Or.inl h
    · rw [heq] at h
      refine (mem_actions_later.1 h).imp_right fun hnew => ?_
      rw [Action.uploaderClosed.inj hnew]

theorem History.ended_of_uploaderClosed
    (h : History (Consumer.create options fresh now) events trace consumer)
    (hmem : .uploaderClosed outcome ∈ actions [] consumer) : .uploaderClosed outcome ∈ events := by
  induction h with
  | start => cases hmem
  | step _ event _ ih =>
    rcases step_uploaderClosed hmem with hold | rfl
    · exact List.mem_append_left _ (ih hold)
    · exact List.mem_concat_self

/-! Settlements -/

theorem tally_fst_of_ne {effect : Effect} (h : effect ≠ .closeUploader) : effect.tally.1 = 0 := by
  cases effect with
  | closeUploader => exact absurd rfl h
  | closed call outcome =>
    rw [Effect.tally]
    split_ifs <;> rfl
  | _ => rfl

theorem mem_of_tally_pos (h : 0 < (Trace.tally trace).1) : .closeUploader ∈ trace := by
  induction trace with
  | nil => cases h
  | cons effect rest ih =>
    by_cases hcloses : effect = .closeUploader
    · exact hcloses ▸ List.mem_cons_self
    · have hcons : (Trace.tally (effect :: rest)).1 = effect.tally.1 + (Trace.tally rest).1 := rfl
      rw [hcons, tally_fst_of_ne hcloses, Nat.zero_add] at h
      exact List.mem_cons_of_mem _ (ih h)

theorem tally_le_of_mem (h : action ∈ actions active consumer) : action.tally ≤ tally active consumer :=
  List.single_le_sum (fun _ _ => bot_le) _ (List.mem_map_of_mem h)

/-- A call that settles a call of close is a further call of close itself. -/
theorem Concluding.settled_of_call (h : Concluding trace active consumer) {made : Call}
    (hmem : .closed call outcome ∈ (consumer.call made).2) :
    0 < call ∧ outcome = .fulfilled ∧ .closeCalled call ∈ (consumer.call made).2 := by
  by_cases hclose : made = .close
  · subst hclose
    rw [Consumer.call] at hmem ⊢
    cases hc : consumer.closed with
    | false =>
      rw [Consumer.close_of_open hc] at hmem
      exact absurd (flush_apart _ .final _ ((List.mem_cons.1 hmem).resolve_left (by simp))) id
    | true =>
      rw [Consumer.close_of_closed hc] at hmem ⊢
      obtain ⟨rfl, rfl⟩ : call = consumer.nextClose ∧ outcome = .fulfilled := by simpa using hmem
      exact ⟨h.closed.1 hc, rfl, List.mem_cons_self⟩
  · exact absurd ((call_apart consumer hclose).2.2 _ hmem) id

theorem Concluding.settled_of_callAll (h : Concluding trace active consumer) {calls : List Call}
    (hmem : .closed call outcome ∈ (consumer.callAll calls).2) :
    0 < call ∧ outcome = .fulfilled ∧ .closeCalled call ∈ (consumer.callAll calls).2 := by
  induction calls generalizing trace consumer with
  | nil => cases hmem
  | cons first rest ih =>
    rcases List.mem_append.1 hmem with hmem | hmem
    · obtain ⟨hpos, houtcome, hcalled⟩ := h.settled_of_call hmem
      exact ⟨hpos, houtcome, List.mem_append_left _ hcalled⟩
    · obtain ⟨hpos, houtcome, hcalled⟩ := ih (h.call first) hmem
      exact ⟨hpos, houtcome, List.mem_append_right _ hcalled⟩

/-- The end of a shutdown settles the call that began it unless an uploader has to be closed first. -/
theorem finishClose_settles {finished : Bool} {closing : Closing} (hclosing : consumer.closing = some closing)
    (hmem : .closed call outcome ∈ (consumer.finishClose finished).2) :
    consumer.options.ownsUploader = false ∧ call = closing.call ∧ outcome = .fulfilled := by
  have hoptions : consumer.discard.1.options = consumer.options := by
    rcases discard_cases consumer with heq | heq <;> rw [heq]
  have hbefore : .closed call outcome ∉ (if finished then [] else
      [Effect.log (.timedOut consumer.options.shutdownTimeoutMs consumer.inFlight.length)]) ++
      consumer.discard.2 := by
    refine List.not_mem_append ?_ ?_
    · split_ifs <;> simp
    · rcases discard_cases consumer with heq | heq <;> simp [heq]
  rw [finishClose_eq hclosing, hoptions] at hmem
  have hlast := (List.mem_append.1 hmem).resolve_left hbefore
  split_ifs at hlast with howns
  · simp at hlast
  · obtain ⟨rfl, rfl⟩ : call = closing.call ∧ outcome = .fulfilled := by simpa using hlast
    exact ⟨Bool.eq_false_of_not_eq_true howns, rfl, rfl⟩

/-- A call of close is settled where it is made if it is a further one. The first call is settled by the end
of the shutdown, which waits for the end of an uploader that is owned. -/
theorem Concluding.settled_of_step (h : Concluding trace [] consumer) {event : Event}
    (hmem : .closed call outcome ∈ (consumer.step event).2) :
    (0 < call ∧ outcome = .fulfilled ∧ .closeCalled call ∈ (consumer.step event).2) ∨
      call = 0 ∧ (consumer.options.ownsUploader = false ∧ outcome = .fulfilled ∧
        (∃ finished, .finishClose finished ∈ actions [] consumer) ∨
        .uploaderClosed outcome ∈ actions [] consumer) := by
  cases event with
  | turn calls => exact Or.inl (h.settled_of_callAll hmem)
  | job =>
    obtain ⟨action, jobs, hpop, heq⟩ := runJob_of_effect hmem
    rw [Consumer.step, heq] at hmem ⊢
    have hpopped : Concluding trace [action] { consumer with jobs } :=
      h.perm ⟨rfl, rfl, rfl, rfl⟩ rfl (.of_eq (actions_pop hpop))
    have haction := mem_actions_of_pop hpop
    have hpos := tally_le_of_mem haction
    cases perform_shows _ action _ hmem with
    | calls calls => exact Or.inl (hpopped.settled_of_callAll hmem)
    | closed finished =>
      obtain ⟨closing, hclosing, -⟩ := h.raced (Or.inl hpos.1)
      obtain ⟨howns, hcall, -⟩ := finishClose_settles (by exact hclosing) hmem
      exact Or.inr ⟨hcall.trans (h.first closing hclosing), Or.inl ⟨howns, rfl, finished, haction⟩⟩
    | uploaderClosed =>
      obtain ⟨closing, hclosing, -⟩ := h.raced (Or.inr (Or.inl hpos.2))
      have hsettled : ({ consumer with jobs }).uploaderClosed outcome = [.closed closing.call outcome] := by
        rw [Consumer.uploaderClosed, hclosing]
      have hhere : .closed call outcome ∈ ({ consumer with jobs }).uploaderClosed outcome := hmem
      rw [hsettled, List.mem_singleton] at hhere
      obtain ⟨rfl, -⟩ := Effect.closed.inj hhere
      exact Or.inr ⟨h.first closing hclosing, Or.inr haction⟩
  | fire => rcases fire_effects consumer _ hmem with heq | heq <;> cases heq
  | _ => cases hmem

/-- A shutdown hears of the end of its uploader once it has closed it, and only if it owns it. -/
theorem Concluding.closes_of_uploaderClosed (h : Concluding trace active consumer)
    (hmem : .uploaderClosed outcome ∈ actions active consumer) :
    consumer.options.ownsUploader = true ∧ (Trace.tally trace).1 = 1 := by
  have hpos := (tally_le_of_mem hmem).2
  have hwon := consumer.racesWon_le_one
  have howns : consumer.options.ownsUploader = true := by
    by_contra hlent
    have hnone := (h.balanced.2 (Bool.eq_false_of_not_eq_true hlent)).2.2.2
    rw [hnone] at hpos
    exact absurd hpos Nat.one_pos.not_ge
  have hbalanced := h.balanced.1 howns
  have hone : 1 ≤ (tally active consumer).2 := hpos
  exact ⟨howns, by omega⟩

/-- The final drain has been taken and its uploads have ended, unless a call of the uploader failed at once. -/
def FinalSettled (ended : List (Nat × Outcome)) (trace : List Effect) : Prop :=
  ∃ flush : Flush, flush.origin = .final ∧ .drain flush ∈ executed trace ∧
    ((∀ id request, .upload id flush request ∈ trace → id ∈ ended.map Prod.fst) ∨
      ∃ message, .flushed flush (.error (.raised message)) ∈ trace)

theorem Invariant.finalSettled {ended : List (Nat × Outcome)} {uploaded : List Drained}
    (h : Invariant fresh ended trace uploaded consumer) {flush : Flush} (hfinal : flush.origin = .final)
    (hanswered : Answered trace flush) : FinalSettled ended trace := by
  obtain ⟨result, hresult⟩ := hanswered
  obtain ⟨drained, hdrained, rfl, -⟩ := h.uploads.answered flush result hresult
  refine ⟨drained.flush, hfinal, h.flow.executed_of_uploaded (List.mem_map_of_mem hdrained), ?_⟩
  by_cases hfailed : ∃ message, .flushed drained.flush (.error (.raised message)) ∈ trace
  · exact Or.inr hfailed
  · exact Or.inl fun id request hupload => (h.ended hupload ⟨result, hresult⟩).resolve_right hfailed

/-- When the first call of close, which is number zero, is settled, the time for the shutdown that it set is
over, or the final drain has been taken and its uploads have ended; an uploader that is owned has been closed,
once, and the call is settled as its closing ended, else it is fulfilled. Any further call is fulfilled where it
is made. -/
theorem close_settles (namespaceName : String) (storeOptions : StoreOptions) (data values : Option Binary64)
    (options : ConsumerOptions) (now : Binary64) (events : List Event) (next : Event) (trace : List Effect)
    (last : Consumer) (call : Nat) (outcome : Outcome)
    (hrun : History (Consumer.create options (Aggregation.create namespaceName storeOptions data values) now)
      events trace last)
    (hsettles : .closed call outcome ∈ (last.step next).2) :
    (0 < call ∧ outcome = .fulfilled ∧ .closeCalled call ∈ (last.step next).2) ∨
    (call = 0 ∧
      (∃ moment, ClosesAt (Consumer.create options
          (Aggregation.create namespaceName storeOptions data values) now) events moment ∧
        ((moment + Timer.delay options.shutdownTimeoutMs).le last.now = true ∨
          FinalSettled (settled events) trace)) ∧
      (options.ownsUploader = true → (Trace.tally trace).1 = 1 ∧ .uploaderClosed outcome ∈ events) ∧
      (options.ownsUploader = false → outcome = .fulfilled)) := by
  have hfresh := Aggregation.empties_create namespaceName storeOptions data values
  have hconcluding := hrun.run.concluding
  have hoptions : last.options = options := hrun.run.options_eq
  obtain ⟨uploaded, hinvariant⟩ := hrun.invariant hfresh
  have hwaited : ∀ {moment : Binary64}, Over (moment + Timer.delay options.shutdownTimeoutMs) trace last →
      (moment + Timer.delay options.shutdownTimeoutMs).le last.now = true ∨ FinalSettled (settled events) trace :=
    fun hover => hover.imp_right fun ⟨_, hfinal, hanswered⟩ => hinvariant.finalSettled hfinal hanswered
  rcases hconcluding.settled_of_step hsettles with
    hfurther | ⟨hfirst, ⟨hlent, houtcome, finished, hfinish⟩ | hended⟩
  · exact Or.inl hfurther
  · obtain ⟨moment, hcloses, hover⟩ := hrun.over_of_finishClose hfresh hfinish
    rw [hoptions] at hlent
    refine Or.inr ⟨hfirst, ⟨moment, hcloses, hwaited hover⟩, fun howns => ?_, fun _ => houtcome⟩
    rw [hlent] at howns
    cases howns
  · obtain ⟨howns, hclosed⟩ := hconcluding.closes_of_uploaderClosed hended
    rw [hoptions] at howns
    obtain ⟨moment, hcloses, hover⟩ :=
      hrun.over_of_closeUploader hfresh (mem_of_tally_pos (hclosed ▸ Nat.one_pos))
    refine Or.inr ⟨hfirst, ⟨moment, hcloses, hwaited hover⟩,
      fun _ => ⟨hclosed, hrun.ended_of_uploaderClosed hended⟩, fun hlent => ?_⟩
    rw [howns] at hlent
    cases hlent

/-- The final flush has one upload, and the first call is settled when this and the closing of the uploader have
ended. -/
theorem close_settles_owned :
    ∃ (options : ConsumerOptions) (start last : Consumer) (events : List Event) (trace : List Effect),
      options = ⟨true, .ofInt 8, .ofInt 60000, .ofInt 5000, fun _ => none⟩ ∧
      start = Consumer.create options (Aggregation.create "App" ⟨[], [.all], none, []⟩ none none) (.ofInt 0) ∧
      History start events trace last ∧ .closed 0 .fulfilled ∈ (last.step .job).2 ∧
      (uploads trace).length = 1 ∧ settled events = [(0, .fulfilled)] ∧
      (∃ moment, ClosesAt start events moment ∧
        ((moment + Timer.delay options.shutdownTimeoutMs).le last.now = true ∨
          FinalSettled (settled events) trace)) ∧
      (Trace.tally trace).1 = 1 ∧ .uploaderClosed .fulfilled ∈ events := by
  let options : ConsumerOptions := ⟨true, .ofInt 8, .ofInt 60000, .ofInt 5000, fun _ => none⟩
  let start := Consumer.create options (Aggregation.create "App" ⟨[], [.all], none, []⟩ none none) (.ofInt 0)
  obtain ⟨events, trace, last, hrun, hsettled, huploads, hsettles⟩ : ∃ events trace last,
      History start events trace last ∧ settled events = [(0, .fulfilled)] ∧ (uploads trace).length = 1 ∧
      (0, .fulfilled) ∈ Publisher.settledCloses (last.step .job).2 := by
    have hstart : History start [] [] start := .start
    have hcalled := hstart.step (.turn [.publish (.collection Aggregation.twoCounts), .close]) rfl
    obtain ⟨events, hevents, huploaded⟩ := hcalled.jobs 7
    obtain ⟨events', hevents', hended⟩ := (huploaded.step (.settle 0 .fulfilled) (by decide +kernel)).jobs 9
    have hrun := hended.step (.uploaderClosed .fulfilled) (by decide +kernel)
    have hsettled : settled (events' ++ [.uploaderClosed .fulfilled]) = [(0, .fulfilled)] := by
      rw [settled_append, hevents', settled_append, hevents]
      rfl
    exact ⟨_, _, _, hrun, hsettled, by decide +kernel, by decide +kernel⟩
  have hclosed := Publisher.mem_settledCloses hsettles
  rcases close_settles "App" ⟨[], [.all], none, []⟩ none none options (.ofInt 0) events .job trace last 0
    .fulfilled hrun hclosed with ⟨hpos, -⟩ | ⟨-, hwaited, howned, -⟩
  · exact absurd hpos (Nat.lt_irrefl 0)
  · exact ⟨options, start, last, events, trace, rfl, rfl, hrun, hclosed, huploads, hsettled, hwaited,
      howned rfl⟩

/-- A further call is settled though the upload of the final flush has not ended: neither has the uploader been
closed nor is the time for the shutdown over. -/
theorem close_settled_of_pending :
    ∃ trace consumer,
      Run (Consumer.create ⟨true, .ofInt 8, .ofInt 60000, .ofInt 5000, fun _ => none⟩
        (Aggregation.create "App" ⟨[], [.all], none, []⟩ none none) (.ofInt 0)) trace consumer ∧
      .closed 1 .fulfilled ∈ trace ∧ (uploads trace).map (fun x => x.1) = [⟨0, .final⟩] ∧
      consumer.unsettled = [0] ∧ .closeUploader ∉ trace ∧
      ((Binary64.ofInt 0) + .ofInt 5000).le consumer.now = false := by
  have hstart : Run (Consumer.create ⟨true, .ofInt 8, .ofInt 60000, .ofInt 5000, fun _ => none⟩
    (Aggregation.create "App" ⟨[], [.all], none, []⟩ none none) (.ofInt 0)) [] _ := .start
  have hcalled := hstart.step (.turn [.publish (.collection Aggregation.twoCounts), .close, .close]) rfl
  exact ⟨_, _, hcalled.jobs 7, Publisher.mem_settledCloses (by decide +kernel), by decide +kernel,
    by decide +kernel, fun hmem => absurd (any_closes.2 hmem) (by decide +kernel), by decide +kernel⟩

end MetricPipeline.Consumer
