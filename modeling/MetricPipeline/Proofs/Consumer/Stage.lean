import Mathlib.Algebra.BigOperators.Group.List.Basic
import Mathlib.Algebra.Group.Prod
import MetricPipeline.Proofs.Consumer.Shutdown

/-! Where a shutdown stands. Most of what a consumer does leaves that alone, but for the flushes that it waits
for; the steps that are left are counted in the jobs, and those that were taken in the trace. -/

namespace MetricPipeline

/-- The steps at the end of a shutdown: how many lead up to the closing of the uploader, and how many tell of
its end. -/
def Action.tally : Action → Nat × Nat
  | .clearTimeout _ | .finishClose _ => (1, 0)
  | .uploaderClosed _ => (0, 1)
  | _ => 0

/-- Closings of the uploader, and settlements of the call of close that began the shutdown. -/
def Effect.tally : Effect → Nat × Nat
  | .closeUploader => (1, 0)
  | .closed call _ => if call = 0 then (0, 1) else 0
  | _ => 0

/-- An action that does nothing to a shutdown but that it may wait for less. -/
def Action.Apart : Action → Prop
  | .race _ | .clearTimeout _ | .finishClose _ | .uploaderClosed _ | .calls _ => False
  | _ => True

/-- An effect that has nothing to do with calls of close. -/
def Effect.Apart : Effect → Prop
  | .closeCalled _ | .closeUploader | .closed _ _ => False
  | _ => True

/-- The shutdown without what it waits for. -/
def Closing.stage (closing : Closing) : Closing := { closing with waitingFor := [] }

namespace Trace

/-- How often the uploader was closed, and how often the call that began the shutdown was settled. -/
def tally (trace : List Effect) : Nat × Nat := (trace.map Effect.tally).sum

theorem tally_append (trace effects : List Effect) : tally (trace ++ effects) = tally trace + tally effects := by
  rw [tally, List.map_append, List.sum_append]
  rfl

theorem tally_of_apart {effects : List Effect} (h : ∀ effect ∈ effects, effect.Apart) :
    tally effects = 0 := by
  refine List.sum_eq_zero fun count hmem => ?_
  obtain ⟨effect, heffect, rfl⟩ := List.mem_map.1 hmem
  have hapart := h effect heffect
  cases effect with
  | closeCalled | closeUploader | closed => exact absurd hapart id
  | _ => rfl

theorem tally_settled_pos {trace : List Effect} {outcome : Outcome} (h : .closed 0 outcome ∈ trace) :
    0 < (tally trace).2 := by
  obtain ⟨before, after, rfl⟩ := List.append_of_mem h
  have hone : (tally (.closed 0 outcome :: after)).2 = 1 + (tally after).2 := rfl
  rw [tally_append, Prod.snd_add, hone]
  omega

end Trace

namespace Consumer

variable {active active' : List Action} {action : Action} {consumer other : Consumer}

/-! The number of calls of close -/

theorem beginFlush_nextClose (consumer : Consumer) (flush : Flush) :
    (consumer.beginFlush flush).1.nextClose = consumer.nextClose := by
  unfold beginFlush
  split_ifs <;> rfl

theorem flush_nextClose (consumer : Consumer) (origin : FlushOrigin) :
    (consumer.flush origin).1.nextClose = consumer.nextClose := by
  rw [flush_eq]
  exact beginFlush_nextClose { consumer with nextFlush := consumer.nextFlush + 1 } _

theorem startTask_nextClose (consumer : Consumer) :
    consumer.startTask.1.nextClose = consumer.nextClose := by
  unfold startTask
  cases consumer.queue.pop? with
  | none => rfl
  | some popped => obtain ⟨(collection | message) | flush, queue⟩ := popped <;> rfl

theorem upload_nextClose (consumer : Consumer) (flush : Flush) (requests : List Request) :
    (consumer.upload flush requests).1.nextClose = consumer.nextClose := by
  unfold upload
  dsimp only
  split
  · rfl
  · dsimp only
    split_ifs <;> rfl

/-- No action counts a call of close but the calls of users. -/
theorem perform_nextClose (consumer : Consumer) (h : ∀ calls, action ≠ .calls calls) :
    (consumer.perform action).1.nextClose = consumer.nextClose := by
  cases action with
  | startNext =>
    rw [perform]
    split_ifs
    · rfl
    · exact startTask_nextClose consumer
  | release => exact startTask_nextClose { consumer with running := false }
  | upload flush drained =>
    cases drained with
    | ok requests => exact upload_nextClose consumer flush requests
    | error error =>
      rw [perform, reject]
      split_ifs <;> rfl
  | arrived flush index outcome =>
    rw [perform, arrived]
    dsimp only
    split <;> (try split_ifs) <;> rfl
  | report flush =>
    rw [perform, report]
    split <;> rfl
  | resolve flush result =>
    rw [perform, resolve]
    split_ifs <;> rfl
  | reject flush error =>
    rw [perform, reject]
    split_ifs <;> rfl
  | untrack flush =>
    rw [perform]
    rcases untrack_cases consumer flush with heq | heq <;> (rw [heq]; try rfl)
  | waited flush =>
    rw [perform]
    rcases waited_cases consumer flush with ⟨-, heq⟩ | ⟨closing, -, heq | ⟨-, heq⟩⟩ <;> (rw [heq]; try rfl)
  | race finished =>
    rw [perform]
    rcases race_cases consumer finished with heq | ⟨closing, -, heq⟩ <;> (rw [heq]; try rfl)
  | finishClose finished =>
    obtain ⟨queue, closing, heq, -⟩ := finishClose_state consumer finished
    rw [perform, heq]
  | recheck flush => exact beginFlush_nextClose consumer flush
  | calls calls => exact absurd rfl (h calls)
  | _ => rfl

/-! The stage of a shutdown -/

/-- Whether the race has been won, as a number. -/
def racesWon (consumer : Consumer) : Nat := consumer.closing.elim 0 (·.raced.toNat)

/-- Whether the closing of the uploader is waited for, as a number. -/
def closesAwaited (consumer : Consumer) : Nat := consumer.closing.elim 0 (·.awaitsUploader.toNat)

theorem racesWon_le_one (consumer : Consumer) : consumer.racesWon ≤ 1 := by
  unfold racesWon
  cases consumer.closing with
  | none => exact Nat.zero_le 1
  | some closing => exact Bool.toNat_le closing.raced

theorem raced_of_racesWon_pos (h : 0 < consumer.racesWon) :
    ∃ closing, consumer.closing = some closing ∧ closing.raced = true := by
  unfold racesWon at h
  cases hc : consumer.closing with
  | none =>
    rw [hc] at h
    cases h
  | some closing =>
    rw [hc] at h
    refine ⟨closing, rfl, ?_⟩
    by_contra hnot
    rw [Option.elim_some, Bool.eq_false_of_not_eq_true hnot] at h
    cases h

/-- Nothing has been done to a shutdown but that it may wait for less. -/
structure SameStage (consumer other : Consumer) : Prop where
  options : other.options = consumer.options
  nextClose : other.nextClose = consumer.nextClose
  closed : other.closed = consumer.closed
  closing : other.closing.map Closing.stage = consumer.closing.map Closing.stage

namespace SameStage

theorem of_sameShutdown (h : SameShutdown consumer other) (hnext : other.nextClose = consumer.nextClose) :
    SameStage consumer other :=
  ⟨h.options, hnext, h.closed, congrArg (Option.map Closing.stage) h.closing⟩

theorem elim_eq (h : SameStage consumer other) {f : Closing → Nat}
    (hf : ∀ closing, f closing.stage = f closing) :
    other.closing.elim 0 f = consumer.closing.elim 0 f := by
  have hstage : ∀ closing? : Option Closing, closing?.elim 0 f = (closing?.map Closing.stage).elim 0 f := by
    rintro (_ | closing)
    · rfl
    · exact (hf closing).symm
  rw [hstage other.closing, h.closing, ← hstage]

theorem racesWon (h : SameStage consumer other) : other.racesWon = consumer.racesWon := h.elim_eq fun _ => rfl

theorem closesAwaited (h : SameStage consumer other) : other.closesAwaited = consumer.closesAwaited :=
  h.elim_eq fun _ => rfl

theorem mem (h : SameStage consumer other) {closing : Closing} (hclosing : other.closing = some closing) :
    ∃ closing', consumer.closing = some closing' ∧ closing'.stage = closing.stage := by
  have hmap := h.closing
  rw [hclosing, Option.map_some] at hmap
  exact Option.map_eq_some_iff.1 hmap.symm

end SameStage

theorem flush_sameStage (consumer : Consumer) (origin : FlushOrigin) :
    SameStage consumer (consumer.flush origin).1 := by
  obtain ⟨hclosed, hclosing, -⟩ := flush_shutdown consumer origin
  exact ⟨(flush_sameUploads consumer origin).options, flush_nextClose consumer origin, hclosed,
    congrArg (Option.map Closing.stage) hclosing⟩

theorem flush_apart (consumer : Consumer) (origin : FlushOrigin) :
    ∀ effect ∈ (consumer.flush origin).2, effect.Apart := by
  intro effect heffect
  rcases flush_effects consumer origin effect heffect with rfl | rfl <;> trivial

/-- A call other than close leaves a shutdown alone. -/
theorem call_apart (consumer : Consumer) {call : Call} (h : call ≠ .close) :
    SameStage consumer (consumer.call call).1 ∧ (consumer.call call).1.timer = consumer.timer ∧
      ∀ effect ∈ (consumer.call call).2, effect.Apart := by
  cases call with
  | publish submission =>
    have hsame := publish_sameShutdown consumer submission
    have hnext : (consumer.publish submission).1.nextClose = consumer.nextClose := by
      unfold publish
      split_ifs <;> rfl
    refine ⟨.of_sameShutdown hsame hnext, hsame.timer, ?_⟩
    rw [call, publish]
    split_ifs <;> simp [enqueue, Effect.Apart]
  | flush =>
    exact ⟨flush_sameStage consumer .manual, (flush_shutdown consumer .manual).2.2,
      flush_apart consumer .manual⟩
  | close => exact absurd rfl h

theorem perform_apart (consumer : Consumer) (h : action.Apart) :
    SameStage consumer (consumer.perform action).1 ∧ (consumer.perform action).1.timer = consumer.timer ∧
      ∀ effect ∈ (consumer.perform action).2, effect.Apart := by
  have hcalls : ∀ calls, action ≠ .calls calls := by
    rintro calls rfl
    exact h
  have hstage : (consumer.perform action).1.closing.map Closing.stage = consumer.closing.map Closing.stage ∧
      (consumer.perform action).1.timer = consumer.timer := by
    by_cases hends : action.Ends
    · cases action with
      | untrack flush =>
        rw [perform]
        rcases untrack_cases consumer flush with heq | heq <;> (rw [heq]; exact ⟨rfl, rfl⟩)
      | waited flush =>
        rw [perform]
        rcases waited_cases consumer flush with ⟨-, heq⟩ | ⟨closing, hc, heq | ⟨-, heq⟩⟩
        · rw [heq]
          exact ⟨rfl, rfl⟩
        · rw [heq, hc]
          exact ⟨rfl, rfl⟩
        · rw [heq, hc]
          exact ⟨rfl, rfl⟩
      | race _ | clearTimeout _ | finishClose _ | calls _ => exact absurd h id
      | _ => exact absurd hends id
    · have hsame := perform_sameShutdown consumer hends
      exact ⟨congrArg (Option.map Closing.stage) hsame.closing, hsame.timer⟩
  refine ⟨⟨perform_options consumer action, perform_nextClose consumer hcalls, perform_closed_eq consumer hcalls,
    hstage.1⟩, hstage.2, fun effect heffect => ?_⟩
  cases perform_shows consumer action effect heffect with
  | closeUploader | closed | uploaderClosed | calls => exact absurd h id
  | _ => trivial

/-! Steps that are left -/

/-- The steps at the end of a shutdown that are left to take, among the action under way and the jobs. -/
def tally (active : List Action) (consumer : Consumer) : Nat × Nat :=
  ((actions active consumer).map Action.tally).sum

theorem tally_later (active : List Action) (consumer : Consumer) (delay : Nat) (action : Action) :
    tally active (consumer.later delay action) = tally active consumer + action.tally := by
  rw [tally, actions_later, List.map_append, List.sum_append, List.map_singleton, List.sum_singleton]
  rfl

theorem tally_active (action : Action) (consumer : Consumer) :
    tally [action] consumer = tally [] consumer + action.tally := by
  rw [tally, actions, List.singleton_append, List.map_cons, List.sum_cons, add_comm]
  rfl

theorem tally_perm (h : (actions active' other).Perm (actions active consumer)) :
    tally active' other = tally active consumer :=
  (h.map Action.tally).sum_eq

theorem Adds.tally_eq {kind : Action → Prop} (h : Adds kind consumer other)
    (hkind : ∀ action, kind action → action.tally = 0) (active : List Action) :
    tally active other = tally active consumer := by
  obtain ⟨new, hnew, hall⟩ := h
  have hnone : ((new.map Job.action).map Action.tally).sum = 0 := by
    refine List.sum_eq_zero fun count hmem => ?_
    obtain ⟨action, haction, rfl⟩ := List.mem_map.1 hmem
    obtain ⟨job, hjob, rfl⟩ := List.mem_map.1 haction
    exact hkind _ (hall job hjob)
  have hactions : actions active other = actions active consumer ++ new.map Job.action := by
    rw [actions, actions, hnew, List.map_append, List.append_assoc]
  rw [tally, tally, hactions, List.map_append, List.sum_append, hnone, add_zero]

theorem tally_flush (active : List Action) (consumer : Consumer) (origin : FlushOrigin) :
    tally active (consumer.flush origin).1 = tally active consumer := by
  have hadds : Adds (· = .startNext) consumer (consumer.flush origin).1 := flush_adds consumer origin rfl
  exact hadds.tally_eq (by rintro _ rfl; rfl) active

/-- Nothing that is apart from a shutdown leads to a step of its end. -/
theorem tally_perform (consumer : Consumer) (h : action.Apart) :
    tally [] (consumer.perform action).1 = tally [action] consumer := by
  have hleads : ∀ next, action.Leads next → next.tally = 0 := by
    intro next hnext
    cases hnext with
    | clearTimeout | finishClose => exact absurd h id
    | _ => rfl
  have hnone : action.tally = 0 := by
    cases action with
    | clearTimeout _ | finishClose _ | uploaderClosed _ => exact absurd h id
    | _ => rfl
  rw [(perform_adds consumer action).tally_eq hleads, tally_active, hnone, add_zero]

end Consumer
end MetricPipeline
