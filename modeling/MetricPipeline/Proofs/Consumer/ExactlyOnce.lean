import MetricPipeline.Proofs.Aggregation.Accounting
import MetricPipeline.Proofs.Consumer.Steps

/-! Each accepted collection goes into the requests of one drain, and a flush does not resolve before all that
was accepted ahead of its call has been uploaded, once. -/

namespace MetricPipeline

namespace Trace

/-- The drains that were executed, in order, each with the collections added since the one before it. -/
def drains (trace : List Effect) : List Drained := (Progress.ofTasks (executed trace)).drains

/-- The collections that were added since the last executed drain. -/
def pending (trace : List Effect) : List Collection := (Progress.ofTasks (executed trace)).pending

/-- Aggregation and upload of every accepted collection exactly once, where `fresh` is the aggregation that
holds nothing. -/
structure ExactlyOnce (fresh : Aggregation) (trace : List Effect) : Prop where
  /-- Tasks are executed in the order in which they entered the queue, but for those that were removed. -/
  order : executed trace <+: kept trace
  /-- What is removed from the queue are its last tasks, drains all of them. -/
  removed : ∀ before tasks after, trace = before ++ .discarded tasks :: after →
    kept before = kept (before ++ [.discarded tasks]) ++ tasks ∧ ∀ task ∈ tasks, task.IsDrain
  accepted : accepted trace = collectionsOf (kept trace)
  /-- An added collection is in the first drain after it and in no other one. -/
  taken : (drains trace).flatMap Drained.collections ++ pending trace = collectionsOf (executed trace)
  /-- No two drains are of one flush. -/
  distinct : ((drains trace).map Drained.flush).Nodup
  /-- The requests of a drain are those of its collections alone. -/
  requests : ∀ drained ∈ drains trace,
    (fresh.after (drained.collections.map .add)).drain.1 = .ok (drained.requests fresh)
  uploads : ∃ uploaded rest, drains trace = uploaded ++ rest ∧
    uploads trace = uploaded.flatMap (Drained.uploads fresh)
  /-- When a flush resolves, its drain and those before it have been uploaded, and all that was accepted
  before its call is in them. -/
  flushed : ∀ before flush result after, trace = before ++ .flushed flush (.ok result) :: after →
    .flushCalled flush ∈ before ∧ ∃ former drained latter rest, drained.flush = flush ∧
      drains before = former ++ drained :: latter ++ rest ∧
      Trace.uploads before = (former ++ drained :: latter).flatMap (Drained.uploads fresh) ∧
      ∀ earlier later, before = earlier ++ .flushCalled flush :: later →
        Trace.accepted earlier <+: (former ++ [drained]).flatMap Drained.collections

end Trace

namespace Consumer

open Trace

variable {fresh : Aggregation} {ended : List (Nat × Outcome)} {trace : List Effect}
  {uploaded : List Drained} {consumer : Consumer}

/-- What was accepted before the call of a flush is in the drains up to its own. -/
theorem Invariant.accepted_of_drains (h : Invariant fresh ended trace uploaded consumer)
    {former latter : List Drained} {drained : Drained}
    (hdrains : drains trace = former ++ drained :: latter) :
    .flushCalled drained.flush ∈ trace ∧
      ∀ earlier later, trace = earlier ++ .flushCalled drained.flush :: later →
        accepted earlier <+: (former ++ [drained]).flatMap Drained.collections := by
  obtain ⟨before, after, hexecuted, hprogress⟩ := Progress.exists_of_drains hdrains
  have hkept : kept trace = before ++ .drain drained.flush :: (after ++ consumer.queue.toList) := by
    rw [h.flow.tasks, hexecuted, List.append_assoc, List.cons_append]
  have hbefore := Progress.collections_ofTasks before
  rw [hprogress] at hbefore
  refine ⟨h.sound.orderly.called drained.flush (by simp [hkept]), fun earlier later htrace => ?_⟩
  rw [List.flatMap_append, List.flatMap_singleton, hbefore]
  exact h.sound.orderly.order drained.flush earlier later before _ htrace hkept

theorem Run.exactlyOnce (hfresh : fresh.Empties) {options : ConsumerOptions} {now : Binary64}
    (hcalls : ∀ id, options.callFailure id = none)
    (h : Run (Consumer.create options fresh now) trace consumer) : ExactlyOnce fresh trace := by
  obtain ⟨ended, uploaded, hinvariant⟩ := h.invariant hfresh
  obtain ⟨rest, hdrains, -⟩ := hinvariant.flow.drains
  refine ⟨⟨consumer.queue.toList, hinvariant.flow.tasks.symm⟩, hinvariant.sound.orderly.discarded,
    hinvariant.sound.orderly.accepted, Progress.collections_ofTasks _, ?_, fun drained _ => ?_,
    ⟨uploaded, rest, hdrains, hinvariant.flow.uploads (by rwa [h.options_eq])⟩,
    fun before flush result after htrace => ?_⟩
  · exact hinvariant.sound.nodup_drains hinvariant.flow.tasks
  · rw [hfresh.drain_eq drained]
  · obtain ⟨ended, uploaded, previous, hprevious, hbefore, hflush⟩ := h.invariant_of_flushed hfresh htrace
    obtain ⟨drained, hmem, rfl⟩ := List.mem_map.1 hflush
    obtain ⟨former, latter, rfl⟩ := List.append_of_mem hmem
    obtain ⟨rest, hdrains, -⟩ := hbefore.flow.drains
    have hsplit : drains before = former ++ drained :: (latter ++ rest) := by
      rw [drains, hdrains, List.append_assoc, List.cons_append]
    obtain ⟨hcalled, haccepted⟩ := hbefore.accepted_of_drains hsplit
    exact ⟨hcalled, former, drained, latter, rest, rfl, hdrains,
      hbefore.flow.uploads (by rwa [hprevious.options_eq]), haccepted⟩

/-- Drains take nothing but what was accepted. -/
theorem wellformed_of_drained {registry : Registry} (h : ExactlyOnce fresh trace)
    (hw : Wellformed registry (accepted trace)) {drained : Drained} (hdrained : drained ∈ drains trace) :
    Wellformed registry drained.collections := by
  have hsub : ∀ collection ∈ drained.collections, collection ∈ accepted trace := by
    intro collection hc
    have htaken : collection ∈ collectionsOf (executed trace) := by
      rw [← h.taken]
      exact List.mem_append_left _ (List.mem_flatMap.2 ⟨drained, hdrained, hc⟩)
    rw [h.accepted]
    exact (h.order.filterMap Task.collection?).subset htaken
  exact ⟨fun collection hc => hw.valid collection (hsub collection hc),
    fun collection hc => hw.registered collection (hsub collection hc)⟩

theorem accounts_of_drained {registry : Registry} (namespaceName : String) (options : StoreOptions)
    {data values : Option Binary64} (hdata : data ≠ some .nan) (hvalues : values ≠ some .nan)
    (drained : Drained) (hw : Wellformed registry drained.collections) :
    Accounts registry options drained.collections
      (drained.requests (Aggregation.create namespaceName options data values)) := by
  obtain ⟨D, V, hD, hV, -, -, -, -, -, -, requests, hdrain, hpacking⟩ :=
    Aggregation.drain_after namespaceName options hdata hvalues (drained.collections.map .add)
  rw [sinceDrain_map_add] at hpacking
  have hrequests :
      drained.requests (Aggregation.create namespaceName options data values) = requests := by
    rw [Drained.requests, hdrain]
  rw [hrequests]
  exact Aggregation.accounts_of_packing hD hV hw hpacking

/-- In every run each accepted collection is aggregated and uploaded exactly once, and the requests of a
drain tell exactly what was observed in its collections. -/
theorem run_aggregates_once (registry : Registry) (namespaceName : String) (storeOptions : StoreOptions)
    (data values : Option Binary64) (options : ConsumerOptions) (now : Binary64)
    (hcalls : ∀ id, options.callFailure id = none) (trace : List Effect) (consumer : Consumer)
    (hrun : Run (Consumer.create options
      (Aggregation.create namespaceName storeOptions data values) now) trace consumer) :
    ExactlyOnce (Aggregation.create namespaceName storeOptions data values) trace ∧
      (data ≠ some .nan → values ≠ some .nan → Wellformed registry (accepted trace) →
        ∀ drained ∈ drains trace, Accounts registry storeOptions drained.collections
          (drained.requests (Aggregation.create namespaceName storeOptions data values))) := by
  have hfresh := Aggregation.empties_create namespaceName storeOptions data values
  have honce := hrun.exactlyOnce hfresh hcalls
  refine ⟨honce, fun hdata hvalues hw drained hdrained => ?_⟩
  exact accounts_of_drained namespaceName storeOptions hdata hvalues drained
    (wellformed_of_drained honce hw hdrained)

/-- A flush that waits for room in a queue of one task, and resolves. -/
theorem run_aggregates_once_waiting :
    ∃ trace consumer,
      Run (Consumer.create ⟨false, .ofInt 1, .ofInt 60000, .ofInt 5000, fun _ => none⟩
        (Aggregation.create "App" ⟨[], [.core], none, []⟩ none none) (.ofInt 0)) trace consumer ∧
      (trace.any fun
        | .flushed flush (.ok result) => flush = ⟨0, .manual⟩ ∧ result = ⟨1, 1, 0⟩
        | _ => false) = true ∧
      ExactlyOnce (Aggregation.create "App" ⟨[], [.core], none, []⟩ none none) trace ∧
      ∀ drained ∈ drains trace, Accounts .builtIn ⟨[], [.core], none, []⟩ drained.collections
        (drained.requests (Aggregation.create "App" ⟨[], [.core], none, []⟩ none none)) := by
  have hstart : Run (Consumer.create ⟨false, .ofInt 1, .ofInt 60000, .ofInt 5000, fun _ => none⟩
      (Aggregation.create "App" ⟨[], [.core], none, []⟩ none none) (.ofInt 0)) [] _ := .start
  have hcalled := hstart.step (.turn [.publish (.collection Aggregation.twoCounts), .flush]) rfl
  have huploaded := ((hcalled.jobs 3).step .wake (by decide +kernel)).jobs 9
  have hrun := (huploaded.step (.settle 0 .fulfilled) (by decide +kernel)).jobs 3
  obtain ⟨honce, haccounts⟩ := run_aggregates_once .builtIn _ _ _ _ _ _ (fun _ => rfl) _ _ hrun
  exact ⟨_, _, hrun, by decide +kernel, honce, haccounts (by decide) (by decide)
    ⟨by decide +kernel, by decide +kernel⟩⟩

end Consumer
end MetricPipeline
