import MetricPipeline.Proofs.Consumer.ExactlyOnce

/-! What uploads and flushes come to, whatever the uploader does. As long as no call of it fails at once,
every request of a drain is passed to it, and the flush tells how many of them failed. A call that fails at
once ends its flush: the requests behind it are lost, and the flush is rejected. -/

namespace MetricPipeline

namespace Trace

/-- What became of the requests of a drain that was uploaded, when `ended` tells which uploads have ended. -/
structure Delivered (callFailure : Nat → Option String) (fresh : Aggregation)
    (ended : List (Nat × Outcome)) (trace : List Effect) (drained : Drained) : Prop where
  /-- Where no call fails at once, each request is passed on once, and the flush tells how many uploads
  failed when all of them have ended. -/
  whole : (∀ x ∈ sentOf trace drained.flush, callFailure x.2 = none) →
    (sentOf trace drained.flush).map Prod.fst = drained.requests fresh ∧
    ∀ result, .flushed drained.flush result ∈ trace → ∃ outcomes : List Outcome,
      List.Forall₂ (fun x outcome => (x.2, outcome) ∈ ended) (sentOf trace drained.flush) outcomes ∧
      result = .ok ⟨outcomes.length, outcomes.length - outcomes.countP Outcome.failed,
        outcomes.countP Outcome.failed⟩
  /-- A call that fails at once is the last one, and its message is what the flush is rejected with. -/
  cut : ∀ x ∈ sentOf trace drained.flush, ∀ message, callFailure x.2 = some message →
    (∃ n < (drained.requests fresh).length,
      (sentOf trace drained.flush).map Prod.fst = (drained.requests fresh).take (n + 1) ∧
      (sentOf trace drained.flush)[n]? = some x) ∧
    ∀ result, .flushed drained.flush result ∈ trace → result = .error (.raised message)

/-- How drains are delivered to the uploader, and their flushes answered. -/
structure Delivers (callFailure : Nat → Option String) (fresh : Aggregation)
    (ended : List (Nat × Outcome)) (trace : List Effect) (idle : Prop) : Prop where
  /-- A drain gives the requests of the collections added since the one before it. -/
  requests : ∀ drained ∈ drains trace,
    (fresh.after (drained.collections.map .add)).drain.1 = .ok (drained.requests fresh)
  /-- No two drains are of one flush. -/
  distinct : ((drains trace).map Drained.flush).Nodup
  /-- Uploads are numbered in their order. -/
  numbers : (sent trace).map (fun x => x.2.2) = List.range (sent trace).length
  /-- No upload ends twice. -/
  once : (ended.map Prod.fst).Nodup
  /-- The first drains have been uploaded, all of them when no job is left, and nothing else has. -/
  uploaded : ∃ uploaded rest, drains trace = uploaded ++ rest ∧ (idle → rest = []) ∧
    (∀ drained ∈ uploaded, Delivered callFailure fresh ended trace drained) ∧
    ∀ flush, flush ∉ uploaded.map Drained.flush → sentOf trace flush = []
  /-- Only flushes whose drains were executed are answered. -/
  answered : ∀ flush result, .flushed flush result ∈ trace → flush ∈ (drains trace).map Drained.flush
  /-- A flush whose uploads have all ended is answered when no job is left. -/
  resolves : idle → ∀ drained ∈ drains trace,
    (∀ x ∈ sentOf trace drained.flush, callFailure x.2 = none → x.2 ∈ ended.map Prod.fst) →
    ∃ result, .flushed drained.flush result ∈ trace

end Trace

namespace Consumer

open Trace

variable {fresh : Aggregation} {ended : List (Nat × Outcome)} {trace : List Effect}
  {uploaded : List Drained} {consumer : Consumer}

/-- What a flush is told, where it is the only answer that what was sent allows. -/
theorem Uploading.delivered (h : Uploading fresh ended trace uploaded [] consumer)
    (hnodup : (uploaded.map Drained.flush).Nodup) {drained : Drained} (hdrained : drained ∈ uploaded) :
    Delivered consumer.options.callFailure fresh ended trace drained := by
  have hanswers : ∀ result, .flushed drained.flush result ∈ trace →
      drained.Answers consumer.options.callFailure fresh ended (sentOf trace drained.flush) result := by
    intro result hmem
    -- no two drains are of one flush, so what the flush was told is about this drain
    obtain ⟨other, hother, hflush, hanswers⟩ := h.answered _ _ hmem
    obtain rfl := List.inj_on_of_nodup_map hnodup hother hdrained hflush
    exact hanswers
  obtain ⟨first, failure, hpassed⟩ := h.passed drained hdrained
  refine ⟨fun hcalls => ⟨?_, fun result hmem => ?_⟩, fun x hx message hfails => ⟨?_, fun result hmem => ?_⟩⟩
  · obtain rfl := hpassed.failure_eq_none hcalls
    exact hpassed.map_fst
  · have hanswer := hanswers result hmem
    cases result with
    | ok result =>
      obtain ⟨-, outcomes, -, houtcomes, rfl⟩ := hanswer
      exact ⟨outcomes, houtcomes, rfl⟩
    | error error =>
      obtain ⟨_, message, hfailed, -⟩ := hanswer
      cases hfailed.failure_eq_none hcalls
  · exact (hpassed.cut_of_fails hx hfails).2
  · have hanswer := hanswers result hmem
    cases result with
    | ok result =>
      obtain ⟨_, _, hwhole, -⟩ := hanswer
      have hnone := hwhole.calls x hx
      rw [hfails] at hnone
      cases hnone
    | error error =>
      obtain ⟨_, other, hfailed, rfl⟩ := hanswer
      obtain ⟨heq, -⟩ := hfailed.cut_of_fails hx hfails
      rw [Option.some.inj heq]

/-- A batch that is not complete waits for an upload that has not ended. -/
theorem Uploading.exists_unsettled (h : Uploading fresh ended trace uploaded [] consumer)
    (hjobs : consumer.jobs.toList = []) {batch : UploadBatch} (hbatch : batch ∈ consumer.batches) :
    ∃ x ∈ sentOf trace batch.flush, consumer.options.callFailure x.2 = none ∧
      x.2 ∉ ended.map Prod.fst := by
  have hnone : actions [] consumer = [] := by rw [actions, hjobs]; rfl
  obtain ⟨-, hmissing, -, hcomplete⟩ := h.batched batch hbatch
  rw [hnone] at hmissing hcomplete
  obtain ⟨drained, -, -, hpassed, hlength⟩ := h.passedBatch batch hbatch
  obtain ⟨outcome, houtcome, hempty⟩ : ∃ outcome ∈ batch.outcomes, outcome = none := by
    by_contra hall
    refine List.not_mem_nil (hcomplete.1 (List.all_eq_true.2 fun outcome hmem => ?_))
    exact Option.isSome_iff_ne_none.2 fun hempty => hall ⟨outcome, hmem, hempty⟩
  obtain ⟨i, hi, rfl⟩ := List.getElem_of_mem houtcome
  have hwaits := (hmissing i (by rw [List.getElem?_eq_getElem hi, hempty])).resolve_right (by simp)
  have hsent : i < (sentOf trace batch.flush).length := by rwa [hpassed.length_eq, ← hlength]
  refine ⟨_, List.getElem_mem hsent, hpassed.calls _ (List.getElem_mem hsent), ?_⟩
  rw [hpassed.number_getElem hsent]
  exact fun hended => (List.nodup_append.1 h.numbered.once).2.2 _ hwaits _ hended rfl

theorem History.delivers (hfresh : fresh.Empties) {options : ConsumerOptions} {now : Binary64}
    {events : List Event} (h : History (Consumer.create options fresh now) events trace consumer) :
    Delivers options.callFailure fresh (settled events) trace (consumer.jobs.toList = []) := by
  obtain ⟨uploaded, hinvariant⟩ := h.invariant hfresh
  obtain ⟨pending, hdrains, hpending⟩ := hinvariant.flow.drains
  have hoptions : consumer.options = options := h.run.options_eq
  have hnodup := hinvariant.sound.nodup_drains hinvariant.flow.tasks
  have hidle : consumer.jobs.toList = [] → pending = [] := by
    intro hjobs
    rw [hjobs] at hpending
    exact List.map_eq_nil_iff.1 hpending.symm
  have hlength : (sent trace).length = consumer.nextUpload := by
    have hnumbers := congrArg List.length hinvariant.uploads.numbered.numbers
    rwa [List.length_map, List.length_range] at hnumbers
  have huploaded := hinvariant.sound.nodup_uploaded hinvariant.flow
  constructor
  case requests =>
    intro drained _
    rw [hfresh.drain_eq drained]
  case distinct => exact hnodup
  case numbers =>
    rw [hlength]
    exact hinvariant.uploads.numbered.numbers
  case once => exact (List.nodup_append.1 hinvariant.uploads.numbered.once).2.1
  case uploaded =>
    refine ⟨uploaded, pending, hdrains, hidle, fun drained hdrained => ?_, hinvariant.uploads.unsent⟩
    have hdelivered := hinvariant.uploads.delivered huploaded hdrained
    rwa [hoptions] at hdelivered
  case answered =>
    intro flush result hmem
    obtain ⟨drained, hdrained, rfl, -⟩ := hinvariant.uploads.answered flush result hmem
    rw [drains, hdrains, List.map_append]
    exact List.mem_append_left _ (List.mem_map_of_mem hdrained)
  case resolves =>
    intro hjobs drained hdrained hended
    rw [drains, hdrains, hidle hjobs, List.append_nil] at hdrained
    rcases hinvariant.uploads.progress drained hdrained with
      ⟨batch, hbatch, hflush⟩ | ⟨action, hmem, -⟩ | hmem
    · -- a batch that is left misses an upload, though all uploads of the drain have ended
      obtain ⟨x, hx, hcall, hwaits⟩ := hinvariant.uploads.exists_unsettled hjobs hbatch
      rw [hflush] at hx
      rw [hoptions] at hcall
      exact absurd (hended x hx hcall) hwaits
    · rw [actions, hjobs] at hmem
      cases hmem
    · exact hmem

/-- Whatever the uploader does, drains are delivered and flushes answered in this way. -/
theorem run_delivers (namespaceName : String) (storeOptions : StoreOptions)
    (data values : Option Binary64) (options : ConsumerOptions) (now : Binary64) (events : List Event)
    (trace : List Effect) (consumer : Consumer)
    (hrun : History (Consumer.create options
      (Aggregation.create namespaceName storeOptions data values) now) events trace consumer) :
    Delivers options.callFailure (Aggregation.create namespaceName storeOptions data values)
      (settled events) trace (consumer.jobs.toList = []) :=
  hrun.delivers (Aggregation.empties_create namespaceName storeOptions data values)

/-- Two requests, the first of which is rejected after the second one went well. -/
theorem run_delivers_rejected :
    ∃ events trace consumer,
      History (Consumer.create ⟨false, .ofInt 8, .ofInt 60000, .ofInt 5000, fun _ => none⟩
        (Aggregation.create "App" ⟨[], [.all], none, []⟩ (some (.ofInt 1)) none) (.ofInt 0))
        events trace consumer ∧
      settled events = [(1, .fulfilled), (0, .rejected (.raised "refused"))] ∧
      (trace.any fun
        | .flushed flush (.ok result) => flush = ⟨0, .manual⟩ ∧ result = ⟨2, 1, 1⟩
        | _ => false) = true ∧
      Delivers (fun _ => none)
        (Aggregation.create "App" ⟨[], [.all], none, []⟩ (some (.ofInt 1)) none) (settled events) trace
        (consumer.jobs.toList = []) := by
  have hstart : History (Consumer.create ⟨false, .ofInt 8, .ofInt 60000, .ofInt 5000, fun _ => none⟩
      (Aggregation.create "App" ⟨[], [.all], none, []⟩ (some (.ofInt 1)) none) (.ofInt 0)) [] [] _ := .start
  have hcalled := hstart.step (.turn [.publish (.collection Aggregation.twoCounts), .flush]) rfl
  obtain ⟨events, hevents, huploaded⟩ := hcalled.jobs 12
  have hsecond := huploaded.step (.settle 1 .fulfilled) (by decide +kernel)
  have hfirst := hsecond.step (.settle 0 (.rejected (.raised "refused"))) (by decide +kernel)
  obtain ⟨events', hevents', hrun⟩ := hfirst.jobs 4
  refine ⟨events', _, _, hrun, ?_, by decide +kernel, run_delivers _ _ _ _ _ _ _ _ _ hrun⟩
  rw [hevents', settled_append, settled_append, hevents]
  rfl

/-- A first call that fails at once: the second request is not passed on, and the flush is rejected. -/
theorem flush_rejected_of_call_failed :
    ∃ trace consumer,
      Run (Consumer.create ⟨false, .ofInt 8, .ofInt 60000, .ofInt 5000,
          fun id => if id = 0 then some "boom" else none⟩
        (Aggregation.create "App" ⟨[], [.all], none, []⟩ (some (.ofInt 1)) none) (.ofInt 0))
        trace consumer ∧
      consumer.jobs.toList = [] ∧
      (drains trace).map (fun drained => (drained.requests
        (Aggregation.create "App" ⟨[], [.all], none, []⟩ (some (.ofInt 1)) none)).length) = [2] ∧
      (uploads trace).length = 1 ∧
      (trace.any fun
        | .flushed flush (.error error) => flush = ⟨0, .manual⟩ ∧ error = .raised "boom"
        | _ => false) = true := by
  have hstart : Run (Consumer.create ⟨false, .ofInt 8, .ofInt 60000, .ofInt 5000,
      fun id => if id = 0 then some "boom" else none⟩
    (Aggregation.create "App" ⟨[], [.all], none, []⟩ (some (.ofInt 1)) none) (.ofInt 0)) [] _ := .start
  have hcalled := hstart.step (.turn [.publish (.collection Aggregation.twoCounts), .flush]) rfl
  exact ⟨_, _, hcalled.jobs 12, by decide +kernel, by decide +kernel, by decide +kernel,
    by decide +kernel⟩

end Consumer
end MetricPipeline
