import MetricPipeline.Proofs.Binary64.Order
import MetricPipeline.Proofs.Consumer.ExactlyOnce

/-! What a shutdown waits for. When its uploader is closed, each flush that the consumer keeps track of has
been answered, or the time for the wait is over. A flush called by a user is not kept track of, so what is
uploaded for it can be cut short. -/

namespace MetricPipeline

/-- The closing of the uploader. -/
def Effect.closes : Effect → Bool
  | .closeUploader => true
  | _ => false

namespace Trace

/-- A flush has resolved or was rejected. -/
def Answered (trace : List Effect) (flush : Flush) : Prop := ∃ result, .flushed flush result ∈ trace

theorem Answered.mono {trace : List Effect} {flush : Flush} (h : Answered trace flush)
    (effects : List Effect) : Answered (trace ++ effects) flush :=
  h.imp fun _ hmem => List.mem_append_left _ hmem

end Trace

namespace Consumer

open Trace

/-- What must hold for an action of a shutdown to stand in the jobs: that the wait has ended, or that its
time is over. -/
def Grounded (deadline : Binary64) (trace : List Effect) (consumer : Consumer) : Action → Prop
  | .untrack flush | .waited flush => Answered trace flush
  | .allWaited | .race true | .clearTimeout true | .finishClose true =>
    ∃ closing, consumer.closing = some closing ∧ closing.waitingFor = []
  | .race false | .clearTimeout false | .finishClose false => deadline.le consumer.now = true
  | _ => True

/-- A wait that has ended stays so, and so does one whose time is over. -/
structure Later (consumer other : Consumer) : Prop where
  closing : ∀ closing, consumer.closing = some closing → closing.waitingFor = [] →
    ∃ closing', other.closing = some closing' ∧ closing'.waitingFor = []
  now : consumer.now.le other.now = true ∨ other.now = consumer.now

variable {deadline : Binary64} {trace : List Effect} {active active' : List Action} {action : Action}
  {consumer other : Consumer}

theorem Grounded.mono (h : Grounded deadline trace consumer action) (hlater : Later consumer other)
    (effects : List Effect) : Grounded deadline (trace ++ effects) other action := by
  have hclosing : (∃ closing, consumer.closing = some closing ∧ closing.waitingFor = []) →
      ∃ closing, other.closing = some closing ∧ closing.waitingFor = [] :=
    fun ⟨closing, hclosing, hnone⟩ => hlater.closing closing hclosing hnone
  have hnow : deadline.le consumer.now = true → deadline.le other.now = true := by
    rcases hlater.now with hle | heq
    · exact fun hdue => Binary64.le_trans hdue hle
    · rw [heq]
      exact id
  cases action with
  | untrack flush => exact Answered.mono h effects
  | waited flush => exact Answered.mono h effects
  | allWaited => exact hclosing h
  | race finished =>
    cases finished with
    | true => exact hclosing h
    | false => exact hnow h
  | clearTimeout finished =>
    cases finished with
    | true => exact hclosing h
    | false => exact hnow h
  | finishClose finished =>
    cases finished with
    | true => exact hclosing h
    | false => exact hnow h
  | _ => trivial

theorem Grounded.later (h : Grounded deadline trace consumer action) (hlater : Later consumer other) :
    Grounded deadline trace other action := by
  have hgrounded := h.mono hlater []
  rwa [List.append_nil] at hgrounded

/-- What holds of the flushes that a consumer keeps track of, when its shutdown may wait until `deadline`. -/
structure Tracking (deadline : Binary64) (trace : List Effect) (active : List Action)
    (consumer : Consumer) : Prop where
  tracked : ∀ flush, .flushCalled flush ∈ trace → flush.tracked = true →
    flush ∈ consumer.inFlight ∨ Answered trace flush
  interval : ∀ since, consumer.timer = .interval since → consumer.closed = false
  timeout : ∀ since, consumer.timer = .timeout since →
    since + Timer.delay consumer.options.shutdownTimeoutMs = deadline
  closing : ∀ closing, consumer.closing = some closing → consumer.closed = true ∧
    ∀ flush, .flushCalled flush ∈ trace → flush.tracked = true →
      flush ∈ closing.waitingFor ∨ Answered trace flush
  jobs : ∀ action ∈ actions active consumer, Grounded deadline trace consumer action

namespace Tracking

theorem start (deadline : Binary64) (options : ConsumerOptions) (aggregation : Aggregation)
    (now : Binary64) : Tracking deadline [] [] (Consumer.create options aggregation now) where
  tracked _ h := absurd h List.not_mem_nil
  interval _ _ := rfl
  timeout _ h := by cases h
  closing _ h := by cases h
  jobs _ h := absurd h List.not_mem_nil

theorem later_refl (h : SameShutdown consumer other) : Later consumer other :=
  ⟨fun closing hclosing hnone => ⟨closing, h.closing.trans hclosing, hnone⟩, Or.inr h.now⟩

/-- What leaves a shutdown alone changes nothing. -/
theorem frame (h : Tracking deadline trace active consumer) (hsame : SameShutdown consumer other)
    {effects : List Effect} (heffects : ∀ flush, .flushCalled flush ∈ effects → flush.tracked = false)
    (hjobs : ∀ action ∈ actions active' other, action ∈ actions active consumer ∨
      Grounded deadline (trace ++ effects) other action) :
    Tracking deadline (trace ++ effects) active' other := by
  have hcalled : ∀ flush, .flushCalled flush ∈ trace ++ effects → flush.tracked = true →
      .flushCalled flush ∈ trace := by
    intro flush hmem htracked
    refine (List.mem_append.1 hmem).resolve_right fun hmem => ?_
    rw [heffects flush hmem] at htracked
    cases htracked
  constructor
  case tracked =>
    intro flush hmem htracked
    rw [hsame.inFlight]
    exact (h.tracked flush (hcalled flush hmem htracked) htracked).imp id (Answered.mono · effects)
  case interval =>
    rw [hsame.timer, hsame.closed]
    exact h.interval
  case timeout =>
    rw [hsame.timer, hsame.options]
    exact h.timeout
  case closing =>
    rw [hsame.closing, hsame.closed]
    intro closing hclosing
    refine ⟨(h.closing closing hclosing).1, fun flush hmem htracked => ?_⟩
    exact ((h.closing closing hclosing).2 flush (hcalled flush hmem htracked) htracked).imp id
      (Answered.mono · effects)
  case jobs =>
    intro action haction
    rcases hjobs action haction with hold | hgrounded
    · exact (h.jobs action hold).mono (later_refl hsame) effects
    · exact hgrounded

/-- Nothing but a shutdown and the jobs matters. -/
theorem congr (h : Tracking deadline trace active consumer) (hsame : SameShutdown consumer other)
    (hjobs : other.jobs = consumer.jobs) : Tracking deadline trace active other := by
  have hactions : actions active other = actions active consumer := by rw [actions, actions, hjobs]
  have hframed : Tracking deadline (trace ++ []) active other :=
    h.frame hsame (by simp) fun action haction => Or.inl (hactions ▸ haction)
  rwa [List.append_nil] at hframed

theorem later (h : Tracking deadline trace active consumer) (delay : Nat) (action : Action)
    (hgrounded : Grounded deadline trace consumer action) :
    Tracking deadline trace active (consumer.later delay action) := by
  refine ⟨h.tracked, h.interval, h.timeout, h.closing, fun next hnext => ?_⟩
  rcases mem_actions_later.1 hnext with hold | rfl
  · exact h.jobs next hold
  · exact hgrounded

theorem finish (h : Tracking deadline trace active consumer) : Tracking deadline trace [] consumer :=
  ⟨h.tracked, h.interval, h.timeout, h.closing,
    fun action haction => h.jobs action (List.mem_append_right _ haction)⟩

/-- Where the jobs and the timer change, the jobs are what is to be looked at. -/
theorem rejob (h : Tracking deadline trace active consumer) {jobs : Fifo Job} {timer : Timer}
    (htimer : timer = consumer.timer ∨ timer = .off ∨ consumer.closed = false ∧ ∃ since, timer = .interval since)
    (hjobs : ∀ action ∈ actions active' { consumer with jobs, timer }, action ∈ actions active consumer) :
    Tracking deadline trace active' { consumer with jobs, timer } := by
  refine ⟨h.tracked, ?_, ?_, h.closing, fun action haction =>
    (h.jobs action (hjobs action haction)).later ⟨fun closing hc hnone => ⟨closing, hc, hnone⟩, Or.inr rfl⟩⟩
  · rintro since rfl
    rcases htimer with heq | heq | ⟨hopen, -⟩
    · exact h.interval since heq.symm
    · cases heq
    · exact hopen
  · rintro since rfl
    rcases htimer with heq | heq | ⟨-, other, heq⟩
    · exact h.timeout since heq.symm
    · cases heq
    · cases heq

/-! Calls -/

theorem beginFlush (h : Tracking deadline trace active consumer) (flush : Flush) :
    Tracking deadline (trace ++ (consumer.beginFlush flush).2) active (consumer.beginFlush flush).1 := by
  refine h.frame (beginFlush_sameShutdown consumer flush) (fun other hmem => ?_) fun action haction => ?_
  · cases beginFlush_effects consumer flush _ hmem
  · have hadds : Adds (· = .startNext) consumer (consumer.beginFlush flush).1 :=
      beginFlush_adds consumer flush rfl
    refine (hadds.cases haction).imp id ?_
    rintro rfl
    trivial

theorem beginFlush_inFlight (consumer : Consumer) (flush : Flush) (inFlight : List Flush) :
    ({ consumer with inFlight }).beginFlush flush =
      ({ (consumer.beginFlush flush).1 with inFlight }, (consumer.beginFlush flush).2) := by
  have hfull : ({ consumer with inFlight }).isFull = consumer.isFull := rfl
  unfold Consumer.beginFlush
  rw [hfull]
  split_ifs <;> rfl

/-- A new flush that is kept track of is in flight, and no shutdown has begun to wait without it. -/
theorem flush (h : Tracking deadline trace active consumer) (origin : FlushOrigin)
    (hopen : origin = .manual ∨ consumer.closing = none) :
    Tracking deadline (trace ++ (consumer.flush origin).2) active (consumer.flush origin).1 := by
  let flush : Flush := ⟨consumer.nextFlush, origin⟩
  let called : Consumer := { consumer with
    nextFlush := consumer.nextFlush + 1
    inFlight := if flush.tracked then consumer.inFlight ++ [flush] else consumer.inFlight }
  have hcases : ∀ other, .flushCalled other ∈ trace ++ [.flushCalled flush] →
      .flushCalled other ∈ trace ∨ other = flush := by
    intro other hmem
    simpa using hmem
  have hcalled : Tracking deadline (trace ++ [.flushCalled flush]) active called := by
    constructor
    case tracked =>
      intro other hmem htracked
      show other ∈ ite _ _ _ ∨ _
      rcases hcases other hmem with hmem | rfl
      · refine (h.tracked other hmem htracked).imp (fun hmem => ?_) (Answered.mono · _)
        split_ifs
        · exact List.mem_append_left _ hmem
        · exact hmem
      · rw [if_pos htracked]
        exact Or.inl List.mem_concat_self
    case interval => exact h.interval
    case timeout => exact h.timeout
    case closing =>
      intro closing hclosing
      refine ⟨(h.closing closing hclosing).1, fun other hmem htracked => ?_⟩
      rcases hcases other hmem with hmem | rfl
      · exact ((h.closing closing hclosing).2 other hmem htracked).imp id (Answered.mono · _)
      · rcases hopen with rfl | hnone
        · cases htracked
        · rw [show consumer.closing = some closing from hclosing] at hnone
          cases hnone
    case jobs =>
      intro action haction
      exact (h.jobs action haction).mono ⟨fun closing hc hnone => ⟨closing, hc, hnone⟩, Or.inr rfl⟩ _
  -- the place of a flush in flight makes no difference to its search for room
  have hbegun := hcalled.beginFlush flush
  rw [List.append_assoc] at hbegun
  have hcommute := beginFlush_inFlight { consumer with nextFlush := consumer.nextFlush + 1 } flush
    called.inFlight
  have hinFlight := (beginFlush_sameShutdown { consumer with nextFlush := consumer.nextFlush + 1 } flush).inFlight
  rw [hcommute] at hbegun
  rw [flush_eq]
  dsimp only
  rw [hinFlight]
  exact hbegun

theorem publish (h : Tracking deadline trace active consumer) (submission : Submission) :
    Tracking deadline (trace ++ (consumer.publish submission).2) active
      (consumer.publish submission).1 := by
  have hadds : Adds (· = .startNext) consumer (consumer.publish submission).1 :=
    call_adds consumer (.publish submission) rfl
  refine h.frame (publish_sameShutdown consumer submission) (fun flush hmem => ?_) fun action haction => ?_
  · unfold Consumer.publish at hmem
    split_ifs at hmem
    · simp at hmem
    · simp at hmem
    · simp [enqueue] at hmem
  · refine (hadds.cases haction).imp id ?_
    rintro rfl
    trivial

/-- The shutdown begins to wait for all flushes that are in flight. -/
theorem close (h : Tracking deadline trace active consumer)
    (hdeadline : consumer.closed = false →
      consumer.now + Timer.delay consumer.options.shutdownTimeoutMs = deadline) :
    Tracking deadline (trace ++ consumer.close.2) active consumer.close.1 := by
  cases hc : consumer.closed with
  | true =>
    rw [close_of_closed hc]
    have hsame : SameShutdown consumer { consumer with nextClose := consumer.nextClose + 1 } :=
      ⟨rfl, rfl, rfl, rfl, rfl, rfl⟩
    refine h.frame hsame (fun flush hmem => ?_) fun _ haction => Or.inl haction
    simp at hmem
  | false =>
    let closed : Consumer :=
      { consumer with nextClose := consumer.nextClose + 1, closed := true, timer := .off }
    have hnone : consumer.closing = none := by
      cases hclosing : consumer.closing with
      | none => rfl
      | some closing =>
        rw [(h.closing closing hclosing).1] at hc
        cases hc
    have hclosed : Tracking deadline (trace ++ [.closeCalled consumer.nextClose]) active closed := by
      have hcalled : Tracking deadline (trace ++ [.closeCalled consumer.nextClose]) active consumer :=
        h.frame (.refl consumer) (by simp) fun _ haction => Or.inl haction
      refine ⟨hcalled.tracked, fun _ hsince => ?_, fun _ hsince => ?_, fun closing hclosing => ?_,
        hcalled.jobs⟩
      · cases hsince
      · cases hsince
      · exact ⟨rfl, (hcalled.closing closing hclosing).2⟩
    have hflushed := hclosed.flush .final (Or.inr hnone)
    rw [List.append_assoc] at hflushed
    have hsame := flush_sameUploads closed .final
    rw [close_of_open hc]
    constructor
    case tracked => exact hflushed.tracked
    case interval =>
      intro since hsince
      cases hsince
    case timeout =>
      intro since hsince
      rw [← Timer.timeout.inj hsince, ← hdeadline hc]
      show (closed.flush .final).1.now + Timer.delay (closed.flush .final).1.options.shutdownTimeoutMs = _
      rw [hsame.now, hsame.options]
    case closing =>
      intro closing hclosing
      obtain rfl := Option.some.inj hclosing
      exact ⟨(flush_shutdown closed .final).1, hflushed.tracked⟩
    case jobs =>
      -- no action of a shutdown is under way yet, so none has to have its wait ended
      intro action haction
      refine (hflushed.jobs action haction).later ⟨fun closing hclosing _ => ?_, Or.inr rfl⟩
      rw [(flush_shutdown closed .final).2.1, show closed.closing = none from hnone] at hclosing
      cases hclosing

theorem call (h : Tracking deadline trace active consumer) (call : Call)
    (hdeadline : consumer.closed = false → (consumer.call call).1.closed = true →
      consumer.now + Timer.delay consumer.options.shutdownTimeoutMs = deadline) :
    Tracking deadline (trace ++ (consumer.call call).2) active (consumer.call call).1 := by
  cases call with
  | publish submission => exact h.publish submission
  | flush => exact h.flush .manual (Or.inl rfl)
  | close =>
    refine h.close fun hopen => hdeadline hopen ?_
    rw [Consumer.call, close_of_open hopen]
    exact (flush_shutdown _ .final).1

/-- Only the call that closes the consumer sets the time of its shutdown. -/
theorem callAll (h : Tracking deadline trace active consumer) (calls : List Call)
    (hdeadline : consumer.closed = false → (consumer.callAll calls).1.closed = true →
      consumer.now + Timer.delay consumer.options.shutdownTimeoutMs = deadline) :
    Tracking deadline (trace ++ (consumer.callAll calls).2) active (consumer.callAll calls).1 := by
  induction calls generalizing trace consumer with
  | nil =>
    show Tracking deadline (trace ++ []) active consumer
    rwa [List.append_nil]
  | cons first rest ih =>
    have hfirst := h.call first fun hopen hclosed => hdeadline hopen (callAll_closed hclosed rest)
    have hsame : SameUploads consumer (consumer.call first).1 := callAll_sameUploads consumer [first]
    have hrest := ih hfirst fun hopen hclosed => by
      rw [hsame.now, hsame.options]
      refine hdeadline ?_ hclosed
      cases hc : consumer.closed with
      | false => rfl
      | true =>
        rw [call_closed hc first] at hopen
        cases hopen
    rwa [List.append_assoc] at hrest

/-! Actions -/

/-- An action that leaves a shutdown alone puts nothing of it into the jobs but the end of a flush. -/
theorem perform_of_not_ends (h : Tracking deadline trace [action] consumer) (hends : ¬action.Ends) :
    Tracking deadline (trace ++ (consumer.perform action).2) [] (consumer.perform action).1 := by
  have hsame := perform_sameShutdown consumer hends
  have hadds := perform_adds consumer action
  refine h.frame hsame (fun flush hmem => ?_) fun next hnext => ?_
  · cases perform_shows consumer action _ hmem with
    | calls => exact absurd trivial hends
  · rcases hadds.cases hnext with hold | hleads
    · exact Or.inl (List.mem_cons_of_mem _ hold)
    · refine Or.inr ?_
      have hgrounded := h.jobs action List.mem_cons_self
      cases hleads with
      | untrackFailed flush error => exact ⟨_, List.mem_append_right _ List.mem_cons_self⟩
      | untrackResolved flush result => exact ⟨_, List.mem_append_right _ List.mem_cons_self⟩
      | untrackRejected flush error => exact ⟨_, List.mem_append_right _ List.mem_cons_self⟩
      | race => exact hgrounded
      | waited | allWaited | clearTimeout | finishClose => exact absurd trivial hends
      | _ => trivial

/-- A flush that has ended is in flight no more, and the shutdown that waits for it is told. -/
theorem untrack {flush : Flush} (h : Tracking deadline trace [.untrack flush] consumer) :
    Tracking deadline trace [] (consumer.untrack flush) := by
  have hanswered : Answered trace flush := h.jobs _ List.mem_cons_self
  have huntracked : Tracking deadline trace []
      { consumer with inFlight := consumer.inFlight.filter (· ≠ flush) } := by
    refine ⟨fun other hmem htracked => ?_, h.interval, h.timeout, h.closing, h.finish.jobs⟩
    by_cases heq : other = flush
    · rw [heq]
      exact Or.inr hanswered
    · exact (h.tracked other hmem htracked).imp
        (fun hin => List.mem_filter.2 ⟨hin, decide_eq_true heq⟩) id
  rcases untrack_cases consumer flush with heq | heq
  · rw [heq]
    exact huntracked
  · rw [heq]
    exact huntracked.later 0 _ hanswered

/-- The shutdown waits for one flush less. -/
theorem waited {flush : Flush} (h : Tracking deadline trace [.waited flush] consumer) :
    Tracking deadline trace [] (consumer.waited flush) := by
  have hanswered : Answered trace flush := h.jobs _ List.mem_cons_self
  rcases waited_cases consumer flush with ⟨-, heq⟩ | ⟨closing, hc, hcases⟩
  · rw [heq]
    exact h.finish
  · let waitingFor := closing.waitingFor.filter (· ≠ flush)
    let next : Consumer := { consumer with closing := some { closing with waitingFor } }
    have hlater : Later consumer next := by
      refine ⟨fun other hother hnone => ⟨_, rfl, ?_⟩, Or.inr rfl⟩
      rw [hc] at hother
      obtain rfl := Option.some.inj hother
      show closing.waitingFor.filter (· ≠ flush) = []
      rw [hnone]
      rfl
    have hnext : Tracking deadline trace [] next := by
      refine ⟨h.tracked, h.interval, h.timeout, fun other hother => ?_, fun action haction =>
        (h.finish.jobs action haction).later hlater⟩
      obtain rfl := Option.some.inj hother
      obtain ⟨hclosed, hwaits⟩ := h.closing closing hc
      refine ⟨hclosed, fun other hmem htracked => ?_⟩
      by_cases heq : other = flush
      · rw [heq]
        exact Or.inr hanswered
      · exact (hwaits other hmem htracked).imp
          (fun hin => List.mem_filter.2 ⟨hin, decide_eq_true heq⟩) id
    rcases hcases with heq | ⟨hnone, heq⟩
    · rw [heq]
      exact hnext
    · rw [heq]
      exact hnext.later 0 .allWaited ⟨_, rfl, hnone⟩

/-- Nothing but the bookkeeping of a shutdown changes, not the flushes that it waits for. -/
theorem reclose (h : Tracking deadline trace active consumer) {closing : Closing} (closing' : Closing)
    (hclosing : consumer.closing = some closing) (hwaitingFor : closing'.waitingFor = closing.waitingFor) :
    Tracking deadline trace active { consumer with closing := some closing' } := by
  refine ⟨h.tracked, h.interval, h.timeout, fun other hother => ?_, fun action haction =>
    (h.jobs action haction).later ⟨fun other hother hnone => ⟨closing', rfl, ?_⟩, Or.inr rfl⟩⟩
  · obtain rfl := Option.some.inj hother
    rw [hwaitingFor]
    exact h.closing closing hclosing
  · rw [hclosing] at hother
    obtain rfl := Option.some.inj hother
    exact hwaitingFor.trans hnone

theorem race {finished : Bool} (h : Tracking deadline trace [.race finished] consumer) :
    Tracking deadline trace [] (consumer.race finished) := by
  rcases race_cases consumer finished with heq | ⟨closing, hc, heq⟩
  · rw [heq]
    exact h.finish
  · let raced : Consumer := { consumer with closing := some { closing with raced := true } }
    have hraced : Tracking deadline trace [.race finished] raced := h.reclose _ hc rfl
    have hnext : Grounded deadline trace raced (.clearTimeout finished) := by
      have hgrounded := hraced.jobs _ List.mem_cons_self
      cases finished <;> exact hgrounded
    rw [heq]
    exact hraced.finish.later 0 _ hnext

theorem clearTimeout {finished : Bool} (h : Tracking deadline trace [.clearTimeout finished] consumer) :
    Tracking deadline trace [] (({ consumer with timer := .off }).later 0 (.finishClose finished)) := by
  have hgrounded : Grounded deadline trace consumer (.clearTimeout finished) :=
    h.jobs _ List.mem_cons_self
  have hoff : Tracking deadline trace [] { consumer with timer := .off } :=
    h.rejob (Or.inr (Or.inl rfl)) fun _ haction => List.mem_cons_of_mem _ haction
  refine hoff.later 0 _ ?_
  cases finished <;> exact hgrounded

theorem finishClose {finished : Bool} (h : Tracking deadline trace [.finishClose finished] consumer) :
    Tracking deadline (trace ++ (consumer.finishClose finished).2) []
      (consumer.finishClose finished).1 := by
  obtain ⟨queue, closing, heq, -, hwaitingFor⟩ := finishClose_state consumer finished
  have hframed : Tracking deadline (trace ++ (consumer.finishClose finished).2) []
      { consumer with queue } := by
    have hsame : SameShutdown consumer { consumer with queue } := ⟨rfl, rfl, rfl, rfl, rfl, rfl⟩
    refine h.frame hsame (fun flush hmem => ?_) fun action haction => ?_
    · cases finishClose_shows consumer finished _ hmem
    · exact Or.inl (List.mem_cons_of_mem _ haction)
  rw [heq]
  cases closing with
  | none =>
    have hnone : consumer.closing = none := Option.map_eq_none_iff.1 hwaitingFor.symm
    have hsame : SameShutdown { consumer with queue } { consumer with queue, closing := none } :=
      ⟨rfl, rfl, rfl, rfl, hnone.symm, rfl⟩
    exact hframed.congr hsame rfl
  | some closing =>
    obtain ⟨former, hformer, hsame⟩ := Option.map_eq_some_iff.1 hwaitingFor.symm
    exact hframed.reclose closing hformer hsame.symm

/-- A job changes what a shutdown waits for only in this way. -/
theorem perform (h : Tracking deadline trace [action] consumer)
    (hdeadline : consumer.closed = false → (consumer.perform action).1.closed = true →
      consumer.now + Timer.delay consumer.options.shutdownTimeoutMs = deadline) :
    Tracking deadline (trace ++ (consumer.perform action).2) [] (consumer.perform action).1 := by
  have hsilent : ∀ {next : Consumer}, Tracking deadline trace [] next →
      Tracking deadline (trace ++ []) [] next := by
    intro next hnext
    rwa [List.append_nil]
  cases action with
  | untrack flush => exact hsilent h.untrack
  | waited flush => exact hsilent h.waited
  | race finished => exact hsilent h.race
  | clearTimeout finished => exact hsilent h.clearTimeout
  | finishClose finished => exact h.finishClose
  | calls calls => exact h.finish.callAll calls hdeadline
  | _ => exact h.perform_of_not_ends id

/-! Events -/

theorem pop (h : Tracking deadline trace [] consumer) {jobs : Fifo Job}
    (hpop : consumer.jobs.pop? = some (⟨0, action⟩, jobs)) :
    Tracking deadline trace [action] { consumer with jobs } :=
  h.rejob (Or.inl rfl) fun next hnext => (actions_pop hpop ▸ hnext : next ∈ actions [] consumer)

theorem rotate (h : Tracking deadline trace [] consumer) {delay : Nat} {jobs : Fifo Job}
    (hpop : consumer.jobs.pop? = some (⟨delay + 1, action⟩, jobs)) :
    Tracking deadline trace [] (({ consumer with jobs }).later delay action) :=
  h.rejob (Or.inl rfl) fun _ hnext => (actions_rotate hpop).mem_iff.1 hnext

theorem wake (h : Tracking deadline trace active consumer) :
    Tracking deadline trace active consumer.wake := by
  rcases wake_cases consumer with ⟨-, heq⟩ | ⟨flush, waiting, -, heq⟩
  · rwa [heq]
  · rw [heq]
    refine later ?_ 0 (.recheck flush) trivial
    exact h.congr ⟨rfl, rfl, rfl, rfl, rfl, rfl⟩ rfl

/-- The interval makes a flush only as long as the consumer is open, and the timeout ends a wait whose time
is over. -/
theorem fire (h : Tracking deadline trace active consumer) (henabled : consumer.Enabled .fire) :
    Tracking deadline (trace ++ consumer.fire.2) active consumer.fire.1 := by
  rcases fire_cases consumer with heq | ⟨since, hsince, heq⟩ | ⟨since, hsince, heq⟩
  · rwa [heq, List.append_nil]
  · have hopen := h.interval since hsince
    have hnone : consumer.closing = none := by
      cases hc : consumer.closing with
      | none => rfl
      | some closing =>
        rw [(h.closing closing hc).1] at hopen
        cases hopen
    have hrestarted : Tracking deadline trace active
        { consumer with timer := .interval consumer.now } :=
      h.rejob (Or.inr (Or.inr ⟨hopen, _, rfl⟩)) fun _ haction => haction
    rw [heq]
    exact hrestarted.flush .scheduled (Or.inr hnone)
  · have hoff : Tracking deadline trace active { consumer with timer := .off } :=
      h.rejob (Or.inr (Or.inl rfl)) fun _ haction => haction
    obtain ⟨-, due, hdue, hover⟩ := henabled
    rw [due?, hsince, Timer.due?, h.timeout since hsince] at hdue
    rw [heq, List.append_nil]
    exact hoff.later 0 (.race false) (Option.some.inj hdue ▸ hover)

theorem settle (h : Tracking deadline trace active consumer) (id : Nat) (outcome : Outcome) :
    Tracking deadline trace active (consumer.settle id outcome) := by
  have hsettled : Tracking deadline trace active
      { consumer with unsettled := consumer.unsettled.filter (· ≠ id) } :=
    h.congr ⟨rfl, rfl, rfl, rfl, rfl, rfl⟩ rfl
  rcases settle_cases consumer id outcome with heq | heq | ⟨batch, -, index, heq⟩
  · rwa [heq]
  · rwa [heq]
  · rw [heq]
    exact hsettled.later 0 _ trivial

theorem endUploaderClose (h : Tracking deadline trace active consumer) (outcome : Outcome) :
    Tracking deadline trace active (consumer.endUploaderClose outcome) := by
  rcases endUploaderClose_cases consumer outcome with heq | ⟨closing, hc, heq⟩
  · rwa [heq]
  · rw [heq]
    exact (h.reclose { closing with awaitsUploader := false } hc rfl).later 0 _ trivial

theorem step (h : Tracking deadline trace [] consumer) {event : Event} (henabled : consumer.Enabled event)
    (hdeadline : consumer.closed = false → (consumer.step event).1.closed = true →
      consumer.now + Timer.delay consumer.options.shutdownTimeoutMs = deadline) :
    Tracking deadline (trace ++ (consumer.step event).2) [] (consumer.step event).1 := by
  have hsilent : ∀ {next : Consumer}, Tracking deadline trace [] next →
      Tracking deadline (trace ++ []) [] next := by
    intro next hnext
    rwa [List.append_nil]
  cases event with
  | turn calls => exact h.callAll calls hdeadline
  | defer calls => exact hsilent (h.later 0 (.calls calls) trivial)
  | job =>
    rw [Consumer.step] at hdeadline ⊢
    rcases runJob_cases consumer with ⟨-, heq⟩ | ⟨delay, action, jobs, hpop, heq⟩ | ⟨action, jobs, hpop, heq⟩
    · rw [heq]
      exact hsilent h
    · rw [heq]
      exact hsilent (h.rotate hpop)
    · rw [heq] at hdeadline ⊢
      exact (h.pop hpop).perform hdeadline
  | wake => exact hsilent h.wake
  | fire => exact h.fire henabled
  | clock now =>
    refine hsilent ⟨h.tracked, h.interval, h.timeout, h.closing, fun action haction => ?_⟩
    exact (h.jobs action haction).later ⟨fun closing hc hnone => ⟨closing, hc, hnone⟩, Or.inl henabled⟩
  | settle id outcome => exact hsilent (h.settle id outcome)
  | uploaderClosed outcome => exact hsilent (h.endUploaderClose outcome)

end Tracking

/-! Runs -/

/-- Before the consumer is closed, no time is set for the shutdown. -/
theorem History.tracking_of_open {options : ConsumerOptions} {fresh : Aggregation} {now : Binary64}
    {events : List Event} (h : History (Consumer.create options fresh now) events trace consumer)
    (hopen : consumer.closed = false) (deadline : Binary64) : Tracking deadline trace [] consumer := by
  induction h with
  | start => exact .start deadline options fresh now
  | @step _ _ consumer _ event henabled ih =>
    have hstill : consumer.closed = false := by
      cases hc : consumer.closed with
      | false => rfl
      | true =>
        rw [step_closed hc event] at hopen
        cases hopen
    refine (ih hstill).step henabled fun _ hclosed => ?_
    rw [hopen] at hclosed
    cases hclosed

/-- Once it is closed, the time for the shutdown stays. -/
theorem History.tracking_of_closed {start : Consumer} (hclosed : start.closed = true)
    {before : List Effect} (hstart : Tracking deadline before [] start) {events : List Event}
    (h : History start events trace consumer) :
    consumer.closed = true ∧ Tracking deadline (before ++ trace) [] consumer := by
  induction h with
  | start =>
    rw [List.append_nil]
    exact ⟨hclosed, hstart⟩
  | step _ event henabled ih =>
    obtain ⟨hstill, htracking⟩ := ih
    rw [← List.append_assoc]
    refine ⟨step_closed hstill event, htracking.step henabled fun hopen => ?_⟩
    rw [hstill] at hopen
    cases hopen

theorem any_closes {effects : List Effect} :
    effects.any Effect.closes = true ↔ .closeUploader ∈ effects := by
  rw [List.any_eq_true]
  constructor
  · rintro ⟨effect, hmem, hcloses⟩
    cases effect with
    | closeUploader => exact hmem
    | _ => cases hcloses
  · exact fun h => ⟨_, h, rfl⟩

/-- Only the end of a shutdown closes the uploader. -/
theorem step_closeUploader {event : Event} (h : .closeUploader ∈ (consumer.step event).2) :
    ∃ finished, .finishClose finished ∈ actions [] consumer := by
  rcases step_shows h with hcall | ⟨flush, hflush⟩ | ⟨action, hmem, hshows⟩
  · exact absurd hcall id
  · cases hflush
  · cases hshows with
    | closeUploader finished => exact ⟨finished, hmem⟩
    | calls _ _ hcall => exact absurd hcall id

/-- What was uploaded for a flush that has been answered has ended, or a call failed at once. -/
theorem Invariant.ended {fresh : Aggregation} {ended : List (Nat × Outcome)} {uploaded : List Drained}
    (h : Invariant fresh ended trace uploaded consumer) {id : Nat} {flush : Flush} {request : Request}
    (hupload : .upload id flush request ∈ trace) (hanswered : Answered trace flush) :
    id ∈ ended.map Prod.fst ∨ ∃ message, .flushed flush (.error (.raised message)) ∈ trace := by
  obtain ⟨result, hresult⟩ := hanswered
  obtain ⟨drained, -, rfl, hanswers⟩ := h.uploads.answered flush result hresult
  cases result with
  | error error =>
    obtain ⟨-, message, -, rfl⟩ := hanswers
    exact Or.inr ⟨message, hresult⟩
  | ok result =>
    obtain ⟨-, outcomes, -, houtcomes, -⟩ := hanswers
    have hsent : (request, id) ∈ sentOf trace drained.flush := mem_sentOf.2 (mem_sent.2 hupload)
    obtain ⟨i, hi, hget⟩ := List.getElem_of_mem hsent
    have hi' : i < outcomes.length := houtcomes.length_eq ▸ hi
    have hended := houtcomes.get hi hi'
    rw [List.get_eq_getElem, hget] at hended
    exact Or.inl (List.mem_map_of_mem hended)

/-- A flush was called before anything is uploaded for it. -/
theorem Invariant.called {fresh : Aggregation} {ended : List (Nat × Outcome)} {uploaded : List Drained}
    (h : Invariant fresh ended trace uploaded consumer) {id : Nat} {flush : Flush} {request : Request}
    (hupload : .upload id flush request ∈ trace) : .flushCalled flush ∈ trace := by
  have huploaded : flush ∈ uploaded.map Drained.flush := by
    by_contra hnone
    have hsent : (request, id) ∈ sentOf trace flush := mem_sentOf.2 (mem_sent.2 hupload)
    rw [h.uploads.unsent flush hnone] at hsent
    cases hsent
  refine h.sound.orderly.called flush ?_
  rw [h.flow.tasks]
  exact List.mem_append_left _ (h.flow.executed_of_uploaded huploaded)

/-- When the uploader is closed, the time for the shutdown is over, or every upload of a scheduled flush and
of the final one has ended, unless its flush was rejected since a call of the uploader failed at once. -/
theorem closeUploader_waits (namespaceName : String) (storeOptions : StoreOptions)
    (data values : Option Binary64) (options : ConsumerOptions) (now : Binary64)
    (before after : List Event) (event next : Event) (trace trace' : List Effect)
    (consumer last : Consumer)
    (hbefore : History (Consumer.create options
      (Aggregation.create namespaceName storeOptions data values) now) before trace consumer)
    (hopen : consumer.closed = false) (henabled : consumer.Enabled event)
    (hclosed : (consumer.step event).1.closed = true)
    (hafter : History (consumer.step event).1 after trace' last)
    (hcloses : .closeUploader ∈ (last.step next).2) :
    (consumer.now + Timer.delay options.shutdownTimeoutMs).le last.now = true ∨
    ∀ id flush request, .upload id flush request ∈ trace ++ (consumer.step event).2 ++ trace' →
      flush.origin ≠ .manual →
      id ∈ (settled (before ++ [event] ++ after)).map Prod.fst ∨
      ∃ message, .flushed flush (.error (.raised message)) ∈ trace ++ (consumer.step event).2 ++ trace' := by
  have hfresh := Aggregation.empties_create namespaceName storeOptions data values
  have hoptions : consumer.options = options := hbefore.run.options_eq
  have hstart : Tracking (consumer.now + Timer.delay options.shutdownTimeoutMs)
      (trace ++ (consumer.step event).2) [] (consumer.step event).1 := by
    refine (hbefore.tracking_of_open hopen _).step henabled fun _ _ => ?_
    rw [hoptions]
  -- the step that closes the consumer has set the time, and no later step changes it
  obtain ⟨-, htracking⟩ := hafter.tracking_of_closed hclosed hstart
  obtain ⟨uploaded, hinvariant⟩ := ((hbefore.step event henabled).trans hafter).invariant hfresh
  obtain ⟨finished, hfinish⟩ := step_closeUploader hcloses
  have hgrounded := htracking.jobs _ hfinish
  cases finished with
  | false => exact Or.inl hgrounded
  | true =>
    obtain ⟨closing, hclosing, hnone⟩ := hgrounded
    refine Or.inr fun id flush request hupload horigin => hinvariant.ended hupload ?_
    have hwaits := (htracking.closing closing hclosing).2 flush (hinvariant.called hupload)
      (decide_eq_true horigin)
    rw [hnone] at hwaits
    exact hwaits.resolve_left List.not_mem_nil

/-- The final flush has one upload, and the uploader is closed when it has ended, at the time of the call. -/
theorem closeUploader_waits_final :
    ∃ (options : ConsumerOptions) (start last : Consumer) (event : Event) (after : List Event)
      (trace : List Effect),
      options = ⟨true, .ofInt 8, .ofInt 60000, .ofInt 5000, fun _ => none⟩ ∧
      start = Consumer.create options (Aggregation.create "App" ⟨[], [.all], none, []⟩ none none) (.ofInt 0) ∧
      event = .turn [.publish (.collection Aggregation.twoCounts), .close] ∧
      History (start.step event).1 after trace last ∧ .closeUploader ∈ (last.step .job).2 ∧
      (uploads trace).length = 1 ∧ settled after = [(0, .fulfilled)] ∧
      ((start.now + Timer.delay options.shutdownTimeoutMs).le last.now = true ∨
        ∀ id flush request, .upload id flush request ∈ [] ++ (start.step event).2 ++ trace →
          flush.origin ≠ .manual →
          id ∈ (settled ([] ++ [event] ++ after)).map Prod.fst ∨
          ∃ message, .flushed flush (.error (.raised message)) ∈ [] ++ (start.step event).2 ++ trace) := by
  let options : ConsumerOptions := ⟨true, .ofInt 8, .ofInt 60000, .ofInt 5000, fun _ => none⟩
  let start := Consumer.create options (Aggregation.create "App" ⟨[], [.all], none, []⟩ none none) (.ofInt 0)
  let event := Event.turn [.publish (.collection Aggregation.twoCounts), .close]
  have hclosed : History (start.step event).1 [] [] (start.step event).1 := .start
  obtain ⟨events, hevents, huploaded⟩ := hclosed.jobs 7
  obtain ⟨events', hevents', hended⟩ := (huploaded.step (.settle 0 .fulfilled) (by decide +kernel)).jobs 8
  have hcloses := any_closes.1 (show ((((((start.step event).1.runJobs 7).1.step
    (.settle 0 .fulfilled)).1.runJobs 8).1.step .job).2.any Effect.closes) = true by decide +kernel)
  have hsettled : settled events' = [(0, .fulfilled)] := by
    rw [hevents', settled_append, hevents]
    rfl
  have hwaits := closeUploader_waits "App" ⟨[], [.all], none, []⟩ none none options (.ofInt 0) [] events'
    event .job [] _ start _ .start rfl rfl (by decide +kernel) hended hcloses
  exact ⟨options, start, _, event, events', _, rfl, rfl, rfl, hended, hcloses, by decide +kernel, hsettled,
    hwaits⟩

/-- An upload of a flush called by a user has not ended when the uploader is closed, though the time for the
shutdown is not over. -/
theorem closeUploader_of_manual_pending :
    ∃ trace consumer,
      Run (Consumer.create ⟨true, .ofInt 8, .ofInt 60000, .ofInt 5000, fun _ => none⟩
        (Aggregation.create "App" ⟨[], [.all], none, []⟩ none none) (.ofInt 0)) trace consumer ∧
      .closeUploader ∈ trace ∧ (uploads trace).map (fun x => x.1) = [⟨0, .manual⟩] ∧ consumer.unsettled = [0] ∧
      ((Binary64.ofInt 0) + .ofInt 5000).le consumer.now = false := by
  have hstart : Run (Consumer.create ⟨true, .ofInt 8, .ofInt 60000, .ofInt 5000, fun _ => none⟩
    (Aggregation.create "App" ⟨[], [.all], none, []⟩ none none) (.ofInt 0)) [] _ := .start
  have hflushed := hstart.step (.turn [.publish (.collection Aggregation.twoCounts), .flush]) rfl
  have hclosed := (hflushed.jobs 12).step (.turn [.close]) (by decide +kernel)
  exact ⟨_, _, hclosed.jobs 16, any_closes.1 (by decide +kernel), by decide +kernel, by decide +kernel,
    by decide +kernel⟩

end Consumer
end MetricPipeline
