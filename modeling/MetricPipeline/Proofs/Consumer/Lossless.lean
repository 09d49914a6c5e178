import MetricPipeline.Proofs.Consumer.Ending
import MetricPipeline.Proofs.Consumer.ExactlyOnce
import MetricPipeline.Proofs.Consumer.Idle

/-! A shutdown loses nothing that was accepted before it. What it discards are drains, the final flush is
drained behind everything that was added, and a consumer that is left alone comes to rest with all of it
uploaded, whether or not the time for the shutdown ran out first. -/

namespace MetricPipeline

/-- Drains behind a drain find nothing, and leave nothing. -/
theorem Progress.pending_eq_nil {earlier later : List Task} {flush : Flush}
    (h : ∀ task ∈ later, task.IsDrain) : (ofTasks (earlier ++ .drain flush :: later)).pending = [] := by
  induction later using List.reverseRecOn with
  | nil => rw [ofTasks_concat]; rfl
  | append_singleton later task ih =>
    rw [← List.cons_append, ← List.append_assoc, ofTasks_concat]
    cases task with
    | add submission => exact absurd (h _ List.mem_concat_self) id
    | drain other => rfl

namespace Trace

/-- What becomes of what was accepted before a call of close, where `trace` goes on from `before` with that
call and `idle` tells that nothing is left to do but for what comes from outside. -/
structure Lossless (fresh : Aggregation) (before trace : List Effect) (idle : Prop) : Prop where
  /-- Nothing that is to be added is ever discarded. -/
  discarded : ∀ former tasks latter, trace = former ++ .discarded tasks :: latter →
    ∀ submission, .add submission ∉ tasks
  /-- Nothing is accepted after the call. -/
  accepted : accepted trace = accepted before
  /-- Nothing is aggregated but what was accepted before the call. -/
  aggregated : collectionsOf (executed trace) <+: Trace.accepted before
  /-- No two drains are of one flush. -/
  distinct : ((drains trace).map Drained.flush).Nodup
  /-- The requests of a drain are those of its collections alone. -/
  requests : ∀ drained ∈ drains trace,
    (fresh.after (drained.collections.map .add)).drain.1 = .ok (drained.requests fresh)
  /-- In the end each accepted collection is in one drain, in the order in which they were accepted. -/
  taken : idle → (drains trace).flatMap Drained.collections = Trace.accepted before
  /-- In the end the requests of all drains have been uploaded, each once. -/
  uploaded : idle → uploads trace = (drains trace).flatMap (Drained.uploads fresh)

/-- Nothing is accepted after a call of close. -/
theorem accepted_of_shut {before after : List Effect} {call : Nat}
    (h : (before ++ .closeCalled call :: after).Pairwise Effect.Precedes) :
    accepted (before ++ .closeCalled call :: after) = accepted before := by
  have hafter := (List.pairwise_cons.1 (List.pairwise_append.1 h).2.1).1
  have hnone : accepted (.closeCalled call :: after) = [] := by
    rw [accepted, List.filterMap_cons]
    refine List.filterMap_eq_nil_iff.2 fun effect heffect => ?_
    cases effect with
    | queued task =>
      cases task with
      | add submission => exact absurd rfl (hafter _ heffect call submission rfl)
      | drain flush => rfl
    | _ => rfl
  rw [accepted_append, hnone, List.append_nil]

end Trace

namespace Consumer

open Trace

variable {fresh : Aggregation} {trace : List Effect} {consumer : Consumer}

/-- A closed consumer at rest has executed the drain of its final flush, and behind it nothing but drains. -/
theorem Run.pending_eq_nil (hfresh : fresh.Empties) {options : ConsumerOptions} {now : Binary64}
    (h : Run (Consumer.create options fresh now) trace consumer) (hclosed : consumer.closed = true)
    (hidle : consumer.Idle) : kept trace = executed trace ∧ pending trace = [] := by
  obtain ⟨ended, uploaded, hinvariant⟩ := h.invariant hfresh
  obtain ⟨flush, hlast⟩ := (h.ending hfresh).last hclosed
  have hkept : kept trace = executed trace := by
    rw [hinvariant.flow.tasks, hinvariant.flow.queue_eq_nil hidle.1, List.append_nil]
  have hexecuted : .drain flush ∈ executed trace := by
    refine (hlast.settled_of_no_jobs hinvariant.flow hidle.1).resolve_left ?_
    rw [hidle.2]
    exact List.not_mem_nil
  obtain ⟨earlier, later, hsplit⟩ := List.append_of_mem hexecuted
  have hdrains := hinvariant.sound.orderly.final flush earlier later (hkept.trans hsplit) hlast.origin
  refine ⟨hkept, ?_⟩
  rw [pending, hsplit]
  exact Progress.pending_eq_nil hdrains

theorem Run.lossless (hfresh : fresh.Empties) {options : ConsumerOptions} {now : Binary64}
    (hcalls : ∀ id, options.callFailure id = none) {before after : List Effect} {call : Nat}
    (h : Run (Consumer.create options fresh now) (before ++ .closeCalled call :: after) consumer) :
    Lossless fresh before (before ++ .closeCalled call :: after) consumer.Idle := by
  have honce := h.exactlyOnce hfresh hcalls
  have hending := h.ending hfresh
  have hclosed : consumer.closed = true :=
    hending.closed call (List.mem_append_right _ List.mem_cons_self)
  have haccepted := accepted_of_shut hending.shut
  constructor
  case discarded =>
    intro former tasks latter htrace submission hmem
    exact absurd ((honce.removed former tasks latter htrace).2 _ hmem) id
  case accepted => exact haccepted
  case aggregated =>
    rw [← haccepted, honce.accepted]
    exact honce.order.filterMap _
  case distinct => exact honce.distinct
  case requests => exact honce.requests
  case taken =>
    intro hidle
    obtain ⟨hkept, hpending⟩ := h.pending_eq_nil hfresh hclosed hidle
    have htaken := honce.taken
    rwa [hpending, List.append_nil, ← hkept, ← honce.accepted, haccepted] at htaken
  case uploaded =>
    intro hidle
    obtain ⟨ended, uploaded, hinvariant⟩ := h.invariant hfresh
    obtain ⟨rest, hdrains, hrest⟩ := hinvariant.flow.drains
    rw [hidle.1] at hrest
    have hnone : rest = [] := List.map_eq_nil_iff.1 hrest.symm
    rw [hnone, List.append_nil] at hdrains
    rw [drains, hdrains]
    exact hinvariant.flow.uploads (by rwa [h.options_eq])

/-- Whatever is under way when close is called, nothing accepted before is lost and nothing published after
is aggregated; a consumer left alone comes to rest, and then what was observed in the accepted collections has
been uploaded once. -/
theorem close_loses_nothing (registry : Registry) (namespaceName : String) (storeOptions : StoreOptions)
    (data values : Option Binary64) (options : ConsumerOptions) (now : Binary64) (size : Int)
    (hcalls : ∀ id, options.callFailure id = none)
    (hsize : options.metricQueueSize.toInt? = some size) (hpos : 0 < size) (before after : List Effect)
    (call : Nat) (consumer : Consumer)
    (hrun : Run (Consumer.create options
      (Aggregation.create namespaceName storeOptions data values) now)
      (before ++ .closeCalled call :: after) consumer) :
    Lossless (Aggregation.create namespaceName storeOptions data values) before
      (before ++ .closeCalled call :: after) consumer.Idle ∧
    (data ≠ some .nan → values ≠ some .nan → Wellformed registry (accepted before) →
      ∀ drained ∈ drains (before ++ .closeCalled call :: after), Accounts registry storeOptions
        drained.collections
        (drained.requests (Aggregation.create namespaceName storeOptions data values))) ∧
    ∃ events trace last, (∀ event ∈ events, event.Internal) ∧ History consumer events trace last ∧
      last.Idle := by
  have hfresh := Aggregation.empties_create namespaceName storeOptions data values
  have hlossless := hrun.lossless hfresh hcalls
  refine ⟨hlossless, fun hdata hvalues hw drained hdrained => ?_, hrun.idle hfresh hsize hpos⟩
  rw [← hlossless.accepted] at hw
  exact accounts_of_drained namespaceName storeOptions hdata hvalues drained
    (wellformed_of_drained (hrun.exactlyOnce hfresh hcalls) hw hdrained)

instance (consumer : Consumer) : Decidable consumer.Idle :=
  inferInstanceAs (Decidable (consumer.jobs.toList = [] ∧ consumer.waiting = []))

/-- A full queue when close is called, and the least time for the shutdown: the uploader is closed before the
final flush finds room, and yet what was accepted is uploaded. -/
theorem close_loses_nothing_full :
    ∃ before after consumer,
      Run (Consumer.create ⟨true, .ofInt 1, .ofInt 60000, .ofInt 0, fun _ => none⟩
        (Aggregation.create "App" ⟨[], [.core], none, []⟩ none none) (.ofInt 0))
        (before ++ .closeCalled 0 :: after) consumer ∧
      consumer.Idle ∧ (uploads (before ++ .closeCalled 0 :: after)).length = 1 ∧
      (accepted (before ++ .closeCalled 0 :: after)).length = 1 ∧
      Lossless (Aggregation.create "App" ⟨[], [.core], none, []⟩ none none) before
        (before ++ .closeCalled 0 :: after) consumer.Idle ∧
      ∀ drained ∈ drains (before ++ .closeCalled 0 :: after), Accounts .builtIn ⟨[], [.core], none, []⟩
        drained.collections (drained.requests (Aggregation.create "App" ⟨[], [.core], none, []⟩ none none)) := by
  obtain ⟨trace, consumer, hrun, hidle, huploads, haccepted, hw, hclosed⟩ : ∃ trace consumer,
      Run (Consumer.create ⟨true, .ofInt 1, .ofInt 60000, .ofInt 0, fun _ => none⟩
        (Aggregation.create "App" ⟨[], [.core], none, []⟩ none none) (.ofInt 0)) trace consumer ∧
      consumer.Idle ∧ (uploads trace).length = 1 ∧ (accepted trace).length = 1 ∧
      Wellformed .builtIn (accepted trace) ∧
      (trace.any fun
        | .closeCalled call => call = 0
        | _ => false) = true := by
    have hstart : Run (Consumer.create ⟨true, .ofInt 1, .ofInt 60000, .ofInt 0, fun _ => none⟩
        (Aggregation.create "App" ⟨[], [.core], none, []⟩ none none) (.ofInt 0)) [] _ := .start
    have hcalled := hstart.step (.turn [.publish (.collection Aggregation.twoCounts), .close]) rfl
    have hdue := (hcalled.jobs 3).step (.clock (.ofInt 1)) (by decide +kernel)
    have htimedOut := (hdue.step .fire (by decide +kernel)).jobs 3
    have hrun := (htimedOut.step .wake (by decide +kernel)).jobs 6
    exact ⟨_, _, hrun, by decide +kernel, by decide +kernel, by decide +kernel,
      ⟨by decide +kernel, by decide +kernel⟩, by decide +kernel⟩
  obtain ⟨effect, hmem, hcall⟩ := List.any_eq_true.1 hclosed
  obtain rfl : effect = .closeCalled 0 := by
    cases effect with
    | closeCalled call => rw [of_decide_eq_true hcall]
    | _ => cases hcall
  obtain ⟨before, after, rfl⟩ := List.append_of_mem hmem
  obtain ⟨hlossless, haccounts, -⟩ := close_loses_nothing .builtIn "App" ⟨[], [.core], none, []⟩ none none
    ⟨true, .ofInt 1, .ofInt 60000, .ofInt 0, fun _ => none⟩ (.ofInt 0) 1 (fun _ => rfl) (by decide +kernel)
    Int.one_pos before after 0 consumer hrun
  exact ⟨before, after, consumer, hrun, hidle, huploads, haccepted, hlossless,
    haccounts (by decide) (by decide) (hlossless.accepted ▸ hw)⟩

end Consumer
end MetricPipeline
