import MetricPipeline.Proofs.Consumer.Batches
import MetricPipeline.Proofs.Consumer.Flushes

/-! What becomes of uploads. A batch stays until all of its uploads have been heard of, so a flush is told
what became of its own requests, or which of its calls failed at once. -/

namespace MetricPipeline

/-- What the flush of a drain may be told of the requests that were sent: how many of them failed when all of
them have ended, or with which message a call failed at once. -/
def Drained.Answers (callFailure : Nat → Option String) (fresh : Aggregation)
    (ended : List (Nat × Outcome)) (sent : List (Request × Nat)) (drained : Drained) :
    Except Failure FlushResult → Prop
  | .ok result => ∃ first outcomes,
      Passed callFailure first (drained.requests fresh) sent none ∧
      List.Forall₂ (fun x outcome => (x.2, outcome) ∈ ended) sent outcomes ∧
      result = ⟨outcomes.length, outcomes.length - outcomes.countP Outcome.failed,
        outcomes.countP Outcome.failed⟩
  | .error error => ∃ first message,
      Passed callFailure first (drained.requests fresh) sent (some message) ∧ error = .raised message

theorem Drained.Answers.mono {callFailure : Nat → Option String} {fresh : Aggregation}
    {ended ended' : List (Nat × Outcome)} {sent : List (Request × Nat)} {drained : Drained}
    {result : Except Failure FlushResult} (h : drained.Answers callFailure fresh ended sent result)
    (hended : ended <+: ended') : drained.Answers callFailure fresh ended' sent result := by
  cases result with
  | error error => exact h
  | ok result =>
    obtain ⟨first, outcomes, hpassed, houtcomes, hresult⟩ := h
    exact ⟨first, outcomes, hpassed, houtcomes.imp fun _ _ hmem => hended.subset hmem, hresult⟩

namespace Consumer

open Trace

/-- What holds of uploads after a trace, when `ended` tells which of them have ended. -/
structure Uploading (fresh : Aggregation) (ended : List (Nat × Outcome)) (trace : List Effect)
    (uploaded : List Drained) (active : List Action) (consumer : Consumer) : Prop where
  numbered : Numbered consumer.options.callFailure ended (sent trace) consumer.nextUpload
    consumer.unsettled
  passed : ∀ drained ∈ uploaded, ∃ first failure, Passed consumer.options.callFailure first
    (drained.requests fresh) (sentOf trace drained.flush) failure
  unsent : ∀ flush, flush ∉ uploaded.map Drained.flush → sentOf trace flush = []
  distinct : (consumer.batches.map UploadBatch.flush).Nodup
  passedBatch : ∀ batch ∈ consumer.batches, ∃ drained ∈ uploaded, drained.flush = batch.flush ∧
    Passed consumer.options.callFailure batch.first (drained.requests fresh)
      (sentOf trace batch.flush) none ∧
    batch.outcomes.length = (drained.requests fresh).length
  batched : ∀ batch ∈ consumer.batches,
    Batched ended consumer.unsettled (actions active consumer) batch
  answers : ∀ action ∈ actions active consumer, ∀ flush result, action.answer? = some (flush, result) →
    ∃ drained ∈ uploaded, drained.flush = flush ∧
      drained.Answers consumer.options.callFailure fresh ended (sentOf trace flush) result
  answered : ∀ flush result, .flushed flush result ∈ trace →
    ∃ drained ∈ uploaded, drained.flush = flush ∧
      drained.Answers consumer.options.callFailure fresh ended (sentOf trace flush) result
  progress : ∀ drained ∈ uploaded, (∃ batch ∈ consumer.batches, batch.flush = drained.flush) ∨
    (∃ action ∈ actions active consumer, ∃ result, action.answer? = some (drained.flush, result)) ∨
    ∃ result, .flushed drained.flush result ∈ trace

namespace Uploading

variable {fresh : Aggregation} {ended : List (Nat × Outcome)} {trace : List Effect}
  {uploaded : List Drained} {active active' : List Action} {action : Action}
  {consumer other : Consumer}

theorem start (options : ConsumerOptions) (now : Binary64) :
    Uploading fresh [] [] [] [] (Consumer.create options fresh now) where
  numbered := ⟨rfl, fun _ h => absurd h List.not_mem_nil, List.nodup_nil,
    fun _ h => absurd h (Nat.not_lt_zero _)⟩
  passed _ h := absurd h List.not_mem_nil
  unsent _ _ := rfl
  distinct := List.nodup_nil
  passedBatch _ h := absurd h List.not_mem_nil
  batched _ h := absurd h List.not_mem_nil
  answers _ h := absurd h List.not_mem_nil
  answered _ _ h := absurd h List.not_mem_nil
  progress _ h := absurd h List.not_mem_nil

/-- What leaves uploads alone, and tells no more than is in the jobs, changes nothing. -/
theorem frame (h : Uploading fresh ended trace uploaded active consumer)
    (hsame : SameUploads consumer other) {effects : List Effect}
    (hold : ∀ action ∈ actions active consumer, ¬action.Quiet → action ∈ actions active' other ∨
      ∃ flush result, action.answer? = some (flush, result) ∧ .flushed flush result ∈ effects)
    (hnew : ∀ action ∈ actions active' other, ¬action.Quiet → action ∈ actions active consumer)
    (hsent : ∀ effect ∈ effects, effect.Quiet ∨ ∃ action ∈ actions active consumer, ∃ flush result,
      action.answer? = some (flush, result) ∧ effect = .flushed flush result) :
    Uploading fresh ended (trace ++ effects) uploaded active' other := by
  obtain ⟨hoptions, -, hnext, hunsettled, hbatches⟩ := hsame
  have hnone : sent (trace ++ effects) = sent trace := by
    have hnil : sent effects = [] := by
      rw [sent, List.filterMap_eq_nil_iff]
      intro effect he
      rcases hsent effect he with hquiet | ⟨_, _, flush, result, _, rfl⟩
      · cases effect with
        | upload => exact absurd hquiet id
        | _ => rfl
      · rfl
    rw [sent_append, hnil, List.append_nil]
  have hsentOf : ∀ flush, sentOf (trace ++ effects) flush = sentOf trace flush := by
    intro flush
    rw [sentOf, hnone, sentOf]
  have hkept : ∀ {action : Action}, ¬action.Quiet → action.answer? = none →
      (action ∈ actions active' other ↔ action ∈ actions active consumer) := by
    intro action haction hnone
    refine ⟨fun hmem => hnew action hmem haction, fun hmem => ?_⟩
    refine (hold action hmem haction).resolve_right ?_
    rintro ⟨flush, result, hanswer, -⟩
    rw [hnone] at hanswer
    cases hanswer
  constructor
  case numbered =>
    rw [hnone, hnext, hunsettled, hoptions]
    exact h.numbered
  case passed =>
    simp only [hsentOf, hoptions]
    exact h.passed
  case unsent =>
    simp only [hsentOf]
    exact h.unsent
  case distinct =>
    rw [hbatches]
    exact h.distinct
  case passedBatch =>
    simp only [hbatches, hsentOf, hoptions]
    exact h.passedBatch
  case batched =>
    rw [hbatches, hunsettled]
    exact fun batch hbatch => (h.batched batch hbatch).congr (List.Subset.refl _)
      (fun _ _ => hkept id rfl) (hkept id rfl)
  case answers =>
    intro action haction flush result hanswer
    simp only [hsentOf, hoptions]
    exact h.answers action (hnew action haction (Action.not_quiet_of_answer? hanswer)) flush result hanswer
  case answered =>
    intro flush result hmem
    simp only [hsentOf, hoptions]
    rcases List.mem_append.1 hmem with hmem | hmem
    · exact h.answered flush result hmem
    · rcases hsent _ hmem with hquiet | ⟨action, haction, other, otherResult, hanswer, heq⟩
      · exact absurd hquiet id
      · obtain ⟨rfl, rfl⟩ := Effect.flushed.inj heq
        exact h.answers action haction flush result hanswer
  case progress =>
    intro drained hdrained
    rw [hbatches]
    rcases h.progress drained hdrained with hbatch | ⟨action, haction, result, hanswer⟩ | ⟨result, hmem⟩
    · exact Or.inl hbatch
    · rcases hold action haction (Action.not_quiet_of_answer? hanswer) with
        hmem | ⟨flush, result', hanswer', hmem⟩
      · exact Or.inr (Or.inl ⟨action, hmem, result, hanswer⟩)
      · obtain ⟨rfl, rfl⟩ : flush = drained.flush ∧ result' = result := by
          simpa using hanswer'.symm.trans hanswer
        exact Or.inr (Or.inr ⟨result', List.mem_append_right _ hmem⟩)
    · exact Or.inr (Or.inr ⟨result, List.mem_append_left _ hmem⟩)

/-- Jobs that tell nothing of uploads are put behind the others. -/
theorem adds (h : Uploading fresh ended trace uploaded active consumer)
    (hsame : SameUploads consumer other) (hadds : Adds Action.Quiet consumer other)
    {effects : List Effect} (heffects : ∀ effect ∈ effects, effect.Quiet) :
    Uploading fresh ended (trace ++ effects) uploaded active other := by
  refine h.frame hsame (fun _ haction _ => Or.inl (hadds.mem haction)) ?_ fun _ he => Or.inl (heffects _ he)
  exact fun action haction hloud => (hadds.cases haction).resolve_right hloud

/-- Nothing but uploads and jobs matters. -/
theorem congr (h : Uploading fresh ended trace uploaded active consumer)
    (hsame : SameUploads consumer other) (hjobs : other.jobs = consumer.jobs) :
    Uploading fresh ended trace uploaded active other := by
  have hadded : Uploading fresh ended (trace ++ []) uploaded active other :=
    h.adds hsame (.of_jobs_eq hjobs) (by simp)
  rwa [List.append_nil] at hadded

theorem later (h : Uploading fresh ended trace uploaded active consumer) (delay : Nat) (action : Action)
    (hquiet : action.Quiet) : Uploading fresh ended trace uploaded active (consumer.later delay action) := by
  have hadds : Adds Action.Quiet consumer (consumer.later delay action) :=
    (Adds.refl _ consumer).later delay hquiet
  have hsame : SameUploads consumer (consumer.later delay action) := ⟨rfl, rfl, rfl, rfl, rfl⟩
  have hadded : Uploading fresh ended (trace ++ []) uploaded active (consumer.later delay action) :=
    h.adds hsame hadds (List.forall_mem_nil _)
  rwa [List.append_nil] at hadded

/-! Actions that leave uploads alone -/

theorem leads_quiet {action next : Action} (h : action.Leads next) (hhandles : ¬action.Handles) :
    next.Quiet := by
  cases h with
  | reportEmpty | rejectUpload | report | resolve => exact absurd trivial hhandles
  | _ => trivial

/-- An action that neither makes uploads nor hears of them. -/
theorem perform (h : Uploading fresh ended trace uploaded [action] consumer)
    (hhandles : ¬action.Handles) (hupload : action.upload? = none) :
    Uploading fresh ended (trace ++ (consumer.perform action).2) uploaded []
      (consumer.perform action).1 := by
  have hadds := perform_adds consumer action
  refine h.frame (perform_sameUploads consumer hhandles) ?_ ?_ ?_
  · intro other hother hloud
    rcases List.mem_cons.1 hother with rfl | hother
    · cases other with
      | resolve flush result => exact Or.inr ⟨flush, .ok result, rfl, List.mem_cons_self⟩
      | reject flush error => exact Or.inr ⟨flush, .error error, rfl, List.mem_cons_self⟩
      | arrived | report => exact absurd trivial hhandles
      | _ => exact absurd trivial hloud
    · exact Or.inl (hadds.mem hother)
  · intro other hother hloud
    refine List.mem_cons_of_mem _ ((hadds.cases hother).resolve_right fun hleads => ?_)
    exact hloud (leads_quiet hleads hhandles)
  · intro effect he
    cases perform_shows consumer action effect he with
    | upload => exact absurd trivial hhandles
    | drainFailed => cases hupload
    | resolve flush result => exact Or.inr ⟨_, List.mem_cons_self, flush, .ok result, rfl, rfl⟩
    | reject flush error => exact Or.inr ⟨_, List.mem_cons_self, flush, .error error, rfl, rfl⟩
    | calls calls effect hcall => exact Or.inl hcall.quiet
    | _ => exact Or.inl trivial

/-! Actions that hear of uploads -/

/-- A batch that has all outcomes tells how each upload of its flush ended. -/
theorem forall₂_of_outcomes (h : Uploading fresh ended trace uploaded active consumer)
    {batch : UploadBatch} (hbatch : batch ∈ consumer.batches) {outcomes : List Outcome}
    (houtcomes : batch.outcomes = outcomes.map some) :
    List.Forall₂ (fun x outcome => (x.2, outcome) ∈ ended) (sentOf trace batch.flush) outcomes := by
  obtain ⟨drained, -, -, hpassed, hlength⟩ := h.passedBatch batch hbatch
  rw [← hpassed.length_eq, houtcomes, List.length_map] at hlength
  refine List.forall₂_iff_get.2 ⟨hlength.symm, fun i hi hi' => ?_⟩
  rw [List.get_eq_getElem, List.get_eq_getElem, hpassed.number_getElem hi]
  refine (h.batched batch hbatch).noted i outcomes[i] ?_
  rw [houtcomes, List.getElem?_map, List.getElem?_eq_getElem hi']
  rfl

/-- The batch of a flush, once it is complete, tells what became of all requests of its drain. -/
theorem answers_of_complete (h : Uploading fresh ended trace uploaded active consumer)
    {batch : UploadBatch} (hbatch : batch ∈ consumer.batches) (hcomplete : batch.complete = true) :
    ∃ drained ∈ uploaded, drained.flush = batch.flush ∧
      drained.Answers consumer.options.callFailure fresh ended (sentOf trace batch.flush)
        (.ok (resultOf batch.outcomes)) := by
  obtain ⟨drained, hdrained, hflush, hpassed, -⟩ := h.passedBatch batch hbatch
  obtain ⟨outcomes, houtcomes, hresult⟩ := exists_of_complete hcomplete
  exact ⟨drained, hdrained, hflush, batch.first, outcomes, hpassed, h.forall₂_of_outcomes hbatch houtcomes,
    hresult⟩

theorem arrived {flush : Flush} {index : Nat} {outcome : Outcome}
    (h : Uploading fresh ended trace uploaded [.arrived flush index outcome] consumer) :
    Uploading fresh ended trace uploaded [] (consumer.arrived flush index outcome) := by
  obtain ⟨⟨hoptions, -, hnext, hunsettled, hbatches⟩, hactions⟩ :=
    arrived_batches consumer flush index outcome h.distinct
  replace hbatches : (consumer.arrived flush index outcome).batches =
    consumer.batches.map (UploadBatch.arrive flush index outcome) := hbatches
  have hdistinct : ((consumer.arrived flush index outcome).batches.map UploadBatch.flush).Nodup := by
    rw [hbatches, map_flush_arrive]
    exact h.distinct
  have hkept : ∀ {action : Action}, action ∈ actions [] consumer →
      action ∈ actions [] (consumer.arrived flush index outcome) := fun hmem => (hactions _).2 (Or.inl hmem)
  have hold : ∀ {action : Action}, action ∈ actions [] (consumer.arrived flush index outcome) →
      action ≠ .report flush → action ∈ actions [.arrived flush index outcome] consumer :=
    fun hmem hne => List.mem_cons_of_mem _ (((hactions _).1 hmem).resolve_right fun hreport => hne hreport.1)
  constructor
  case numbered =>
    rw [hnext, hunsettled, hoptions]
    exact h.numbered
  case passed =>
    rw [hoptions]
    exact h.passed
  case unsent => exact h.unsent
  case distinct => exact hdistinct
  case passedBatch =>
    intro batch hbatch
    rw [hbatches] at hbatch
    obtain ⟨former, hformer, rfl⟩ := List.mem_map.1 hbatch
    rw [hoptions, arrive_flush, arrive_first, arrive_length]
    exact h.passedBatch former hformer
  case batched =>
    intro batch hbatch
    have hmem := hbatch
    rw [hbatches] at hbatch
    obtain ⟨former, hformer, rfl⟩ := List.mem_map.1 hbatch
    have hbatched := h.batched former hformer
    rw [hunsettled]
    by_cases hflush : former.flush = flush
    · subst hflush
      refine hbatched.arrive (fun i other => ⟨fun hmem => ?_, hkept⟩) ⟨fun hdone => ?_, fun hreport => ?_⟩
      · exact ((hactions _).1 hmem).resolve_right (by simp)
      · exact (hactions _).2 (Or.inr ⟨rfl, _, List.mem_map_of_mem hformer, arrive_flush _ _ _ _, hdone⟩)
      · rcases (hactions _).1 hreport with hreport | ⟨-, other, hother, hsame, hdone⟩
        · exact complete_arrive (hbatched.complete.2 (List.mem_cons_of_mem _ hreport)) _ _ _
        · rw [← hbatches] at hother
          rwa [← List.inj_on_of_nodup_map hdistinct hother hmem (by rwa [arrive_flush])]
    · -- the batch of another flush is as it was, and so are the actions on it
      have harrive : former.arrive flush index outcome = former := if_neg hflush
      rw [harrive]
      refine hbatched.congr (List.Subset.refl _)
        (fun i other => ⟨fun hmem => hold hmem (by simp), fun hmem => ?_⟩)
        ⟨fun hmem => hold hmem (by simpa using hflush), fun hmem => ?_⟩
      · refine hkept ((List.mem_cons.1 hmem).resolve_left fun heq => ?_)
        exact hflush (Action.arrived.inj heq).1
      · exact hkept ((List.mem_cons.1 hmem).resolve_left (by simp))
  case answers =>
    intro action haction other result hanswer
    rw [hoptions]
    refine h.answers action (hold haction ?_) other result hanswer
    rintro rfl
    cases hanswer
  case answered =>
    rw [hoptions]
    exact h.answered
  case progress =>
    intro drained hdrained
    rcases h.progress drained hdrained with ⟨batch, hbatch, hflush⟩ | ⟨action, haction, result, hanswer⟩ |
      hmem
    · refine Or.inl ⟨batch.arrive flush index outcome, ?_, by rwa [arrive_flush]⟩
      rw [hbatches]
      exact List.mem_map_of_mem hbatch
    · refine Or.inr (Or.inl ⟨action, hkept ((List.mem_cons.1 haction).resolve_left ?_), result, hanswer⟩)
      rintro rfl
      cases hanswer
    · exact Or.inr (Or.inr hmem)

/-! The upload of a drain -/

/-- What is sent for a new drain is all that has been sent for its flush. -/
theorem sentOf_new (h : Uploading fresh ended trace uploaded active consumer) {flush : Flush}
    (hnew : flush ∉ uploaded.map Drained.flush) (passed : List (Request × Nat)) :
    sentOf (trace ++ passed.map fun x => .upload x.2 flush x.1) flush = passed := by
  rw [sentOf_append, h.unsent flush hnew, sentOf_map_upload, if_pos rfl, List.nil_append]

/-- Nothing is sent for the drains before. -/
theorem sentOf_former {flush : Flush} (hnew : flush ∉ uploaded.map Drained.flush)
    (passed : List (Request × Nat)) {drained : Drained} (hdrained : drained ∈ uploaded) :
    sentOf (trace ++ passed.map fun x => .upload x.2 flush x.1) drained.flush =
      sentOf trace drained.flush := by
  rw [sentOf_append, sentOf_map_upload, if_neg, List.append_nil]
  rintro rfl
  exact hnew (List.mem_map_of_mem hdrained)

/-- What the drains before answer is the same after the upload of a new one. -/
theorem answers_upload {flush other : Flush} (hnew : flush ∉ uploaded.map Drained.flush)
    (passed : List (Request × Nat)) (drained : Drained) {callFailure : Nat → Option String}
    {result : Except Failure FlushResult}
    (h : ∃ former ∈ uploaded, former.flush = other ∧
      former.Answers callFailure fresh ended (sentOf trace other) result) :
    ∃ former ∈ uploaded ++ [drained], former.flush = other ∧ former.Answers callFailure fresh ended
      (sentOf (trace ++ passed.map fun x => .upload x.2 flush x.1) other) result := by
  obtain ⟨former, hformer, rfl, hanswers⟩ := h
  exact ⟨former, List.mem_append_left _ hformer, rfl, by rwa [sentOf_former hnew passed hformer]⟩

/-- There is no batch of a flush for which nothing was uploaded yet. -/
theorem flush_ne_of_new (h : Uploading fresh ended trace uploaded active consumer) {flush : Flush}
    (hnew : flush ∉ uploaded.map Drained.flush) {batch : UploadBatch} (hbatch : batch ∈ consumer.batches) :
    batch.flush ≠ flush := by
  rintro rfl
  obtain ⟨drained, hdrained, hflush, -⟩ := h.passedBatch batch hbatch
  exact hnew (List.mem_map.2 ⟨drained, hdrained, hflush⟩)

/-- The next drain is uploaded. -/
theorem upload {drained : Drained} (h : Uploading fresh ended trace uploaded active consumer)
    (hsound : Sound trace uploaded active consumer) (hnew : drained.flush ∉ uploaded.map Drained.flush)
    (hactive : ∀ action ∈ active, action.Quiet) :
    Uploading fresh ended (trace ++ (consumer.upload drained.flush (drained.requests fresh)).2)
      (uploaded ++ [drained]) [] (consumer.upload drained.flush (drained.requests fresh)).1 := by
  obtain ⟨passed, failure, hpassed, heffects, hoptions, hnext, hunsettled, hbatches, hactions⟩ :=
    upload_batches consumer drained.flush (drained.requests fresh)
  rw [heffects]
  have hown := h.sentOf_new hnew passed
  -- no action in the jobs is of the flush, since nothing was uploaded for it yet
  have hfree : ∀ action ∈ actions [] consumer, action ≠ .report drained.flush ∧
      ∀ i outcome, action ≠ .arrived drained.flush i outcome := by
    intro action haction
    have hallowed := hsound.jobs action (List.mem_append_right _ haction)
    constructor
    · rintro rfl
      exact hnew hallowed
    · rintro i outcome rfl
      exact hnew hallowed
  have hloud : ∀ {action : Action}, ¬action.Quiet → action ∈ actions active consumer →
      action ∈ actions [] consumer := fun hloud hmem =>
    (List.mem_append.1 hmem).resolve_left fun hmem => hloud (hactive _ hmem)
  have hbatch : ∀ batch ∈ (consumer.upload drained.flush (drained.requests fresh)).1.batches,
      batch ∈ consumer.batches ∨ failure = none ∧ batch =
        ⟨drained.flush, consumer.nextUpload, List.replicate (drained.requests fresh).length none⟩ := by
    intro batch hmem
    rw [hbatches] at hmem
    refine (List.mem_append.1 hmem).imp id fun hmem => ?_
    split_ifs at hmem with hnone
    · exact ⟨hnone, List.mem_singleton.1 hmem⟩
    · cases hmem
  constructor
  case numbered =>
    rw [hnext, hunsettled, hoptions, sent_append, sent_map_upload]
    exact h.numbered.upload drained.flush hpassed
  case passed =>
    rw [hoptions]
    intro former hformer
    rcases List.mem_append.1 hformer with hformer | hformer
    · rw [sentOf_former hnew passed hformer]
      exact h.passed former hformer
    · rw [List.mem_singleton.1 hformer, hown]
      exact ⟨_, _, hpassed⟩
  case unsent =>
    intro flush hflush
    rw [List.map_append, List.mem_append, not_or, List.map_singleton, List.mem_singleton] at hflush
    rw [sentOf_append, h.unsent flush hflush.1, sentOf_map_upload, if_neg (Ne.symm hflush.2),
      List.append_nil]
  case distinct =>
    rw [hbatches, List.map_append]
    refine List.nodup_append.2 ⟨h.distinct, by split_ifs <;> simp, fun flush hmem other hmem' heq => ?_⟩
    obtain ⟨batch, hold, rfl⟩ := List.mem_map.1 hmem
    split_ifs at hmem'
    · rw [List.map_singleton, List.mem_singleton] at hmem'
      exact h.flush_ne_of_new hnew hold (heq.trans hmem')
    · cases hmem'
  case passedBatch =>
    intro batch hmem
    rw [hoptions]
    rcases hbatch batch hmem with hold | ⟨rfl, rfl⟩
    · obtain ⟨former, hformer, hflush, hpassed', hlength⟩ := h.passedBatch batch hold
      refine ⟨former, List.mem_append_left _ hformer, hflush, ?_, hlength⟩
      rwa [← hflush, sentOf_former hnew passed hformer, hflush]
    · refine ⟨drained, by simp, rfl, ?_, List.length_replicate⟩
      rwa [hown]
  case batched =>
    intro batch hmem
    rw [hunsettled]
    rcases hbatch batch hmem with hold | ⟨rfl, rfl⟩
    · have hne := h.flush_ne_of_new hnew hold
      refine (h.batched batch hold).congr (List.subset_append_left _ _) (fun i outcome => ?_) ?_
      · refine ⟨fun hmem => List.mem_append_right _ (((hactions _).1 hmem).resolve_right ?_), fun hmem =>
          (hactions _).2 (Or.inl (hloud id hmem))⟩
        simp
      · refine ⟨fun hmem => List.mem_append_right _ (((hactions _).1 hmem).resolve_right ?_), fun hmem =>
          (hactions _).2 (Or.inl (hloud id hmem))⟩
        simp [hne]
    · refine .fresh ?_ (fun i outcome hmem => ?_) ?_
      · rw [← hpassed.length_eq]
        exact List.subset_append_right _ _
      · refine (hfree _ (((hactions _).1 hmem).resolve_right ?_)).2 i outcome rfl
        simp
      · constructor
        · intro hmem
          rcases (hactions _).1 hmem with hold | ⟨-, hlength, -⟩ | ⟨_, hfails, -⟩
          · exact absurd rfl (hfree _ hold).1
          · exact hlength
          · cases hfails
        · exact fun hlength => (hactions _).2 (Or.inr (Or.inl ⟨rfl, hlength, rfl⟩))
  case answers =>
    intro action haction flush result hanswer
    rw [hoptions]
    rcases (hactions action).1 haction with hold | ⟨-, -, rfl⟩ | ⟨message, rfl, rfl⟩
    · exact answers_upload hnew passed drained
        (h.answers action (List.mem_append_right _ hold) flush result hanswer)
    · cases hanswer
    · obtain ⟨rfl, rfl⟩ : drained.flush = flush ∧ .error (.raised message) = result := by
        simpa [Action.answer?] using hanswer
      rw [hown]
      exact ⟨drained, by simp, rfl, _, message, hpassed, rfl⟩
  case answered =>
    intro flush result hmem
    rw [hoptions]
    refine answers_upload hnew passed drained (h.answered flush result ?_)
    refine (List.mem_append.1 hmem).resolve_right fun hmem => ?_
    obtain ⟨x, -, heq⟩ := List.mem_map.1 hmem
    cases heq
  case progress =>
    intro former hformer
    rcases List.mem_append.1 hformer with hformer | hformer
    · rcases h.progress former hformer with ⟨batch, hmem, hflush⟩ | ⟨action, hmem, result, hanswer⟩ |
        ⟨result, hmem⟩
      · exact Or.inl ⟨batch, by rw [hbatches]; exact List.mem_append_left _ hmem, hflush⟩
      · have hmem' := hloud (Action.not_quiet_of_answer? hanswer) hmem
        exact Or.inr (Or.inl ⟨action, (hactions _).2 (Or.inl hmem'), result, hanswer⟩)
      · exact Or.inr (Or.inr ⟨result, List.mem_append_left _ hmem⟩)
    · rw [List.mem_singleton.1 hformer]
      cases failure with
      | none => exact Or.inl ⟨_, by rw [hbatches, if_pos rfl]; exact List.mem_concat_self, rfl⟩
      | some message =>
        exact Or.inr (Or.inl ⟨_, (hactions _).2 (Or.inr (Or.inr ⟨message, rfl, rfl⟩)), _, rfl⟩)

theorem report {flush : Flush} (h : Uploading fresh ended trace uploaded [.report flush] consumer) :
    Uploading fresh ended (trace ++ (consumer.report flush).2) uploaded [] (consumer.report flush).1 := by
  obtain ⟨⟨hoptions, -, hnext, hunsettled, hbatches⟩, hquiet, hactions⟩ :=
    report_batches consumer flush h.distinct
  replace hbatches : (consumer.report flush).1.batches =
    consumer.batches.filter (·.flush ≠ flush) := hbatches
  replace h := h.adds (.refl consumer) (.refl _ consumer) hquiet
  have hkept : ∀ {action : Action}, action ∈ actions [] consumer →
      action ∈ actions [] (consumer.report flush).1 := fun hmem => (hactions _).2 (Or.inl hmem)
  have hbatch : ∀ batch ∈ (consumer.report flush).1.batches,
      batch ∈ consumer.batches ∧ batch.flush ≠ flush := by
    intro batch hbatch
    rw [hbatches, List.mem_filter] at hbatch
    exact ⟨hbatch.1, of_decide_eq_true hbatch.2⟩
  constructor
  case numbered =>
    rw [hnext, hunsettled, hoptions]
    exact h.numbered
  case passed =>
    rw [hoptions]
    exact h.passed
  case unsent => exact h.unsent
  case distinct =>
    rw [hbatches]
    exact h.distinct.sublist (List.filter_sublist.map _)
  case passedBatch =>
    rw [hoptions]
    exact fun batch hmem => h.passedBatch batch (hbatch batch hmem).1
  case batched =>
    intro batch hmem
    obtain ⟨hold, hne⟩ := hbatch batch hmem
    rw [hunsettled]
    refine (h.batched batch hold).congr (List.Subset.refl _) (fun i outcome => ?_) ?_
    · refine ⟨fun hmem => List.mem_cons_of_mem _ (((hactions _).1 hmem).resolve_right ?_), fun hmem =>
        hkept ((List.mem_cons.1 hmem).resolve_left (by simp))⟩
      rintro ⟨_, _, _, heq⟩
      cases heq
    · refine ⟨fun hmem => List.mem_cons_of_mem _ (((hactions _).1 hmem).resolve_right ?_), fun hmem =>
        hkept ((List.mem_cons.1 hmem).resolve_left fun heq => hne (Action.report.inj heq))⟩
      rintro ⟨_, _, _, heq⟩
      cases heq
  case answers =>
    intro action haction other result hanswer
    rw [hoptions]
    rcases (hactions action).1 haction with haction | ⟨batch, hmem, rfl, rfl⟩
    · exact h.answers action (List.mem_cons_of_mem _ haction) other result hanswer
    · obtain ⟨rfl, rfl⟩ : batch.flush = other ∧ .ok (resultOf batch.outcomes) = result := by
        simpa [Action.answer?] using hanswer
      exact (h.answers_of_complete hmem ((h.batched batch hmem).complete.2 List.mem_cons_self))
  case answered =>
    rw [hoptions]
    exact h.answered
  case progress =>
    intro drained hdrained
    rcases h.progress drained hdrained with ⟨batch, hmem, hflush⟩ | ⟨action, haction, result, hanswer⟩ |
      hmem
    · by_cases heq : batch.flush = flush
      · exact Or.inr (Or.inl ⟨_, (hactions _).2 (Or.inr ⟨batch, hmem, heq, rfl⟩), _, by
          rw [← hflush, heq]; rfl⟩)
      · refine Or.inl ⟨batch, ?_, hflush⟩
        rw [hbatches]
        exact List.mem_filter.2 ⟨hmem, decide_eq_true heq⟩
    · refine Or.inr (Or.inl ⟨action, hkept ((List.mem_cons.1 haction).resolve_left ?_), result, hanswer⟩)
      rintro rfl
      cases hanswer
    · exact Or.inr (Or.inr hmem)

/-! The end of an upload -/

/-- The uploads of a batch are in the trace. -/
theorem sent_of_contains (h : Uploading fresh ended trace uploaded active consumer) {batch : UploadBatch}
    (hbatch : batch ∈ consumer.batches) {id : Nat} (hid : batch.contains id = true) :
    ∃ request, (batch.flush, request, id) ∈ sent trace := by
  obtain ⟨drained, -, -, hpassed, hlength⟩ := h.passedBatch batch hbatch
  obtain ⟨hle, hlt⟩ : batch.first ≤ id ∧ id < batch.first + batch.outcomes.length := by
    simpa [UploadBatch.contains] using hid
  have hi : id - batch.first < (sentOf trace batch.flush).length := by
    rw [hpassed.length_eq]
    omega
  have hmem := mem_sentOf.1 (List.getElem_mem hi)
  have hnumber := hpassed.number_getElem hi
  rw [Nat.add_sub_cancel' hle] at hnumber
  rw [← hnumber]
  exact ⟨_, hmem⟩

theorem batch_eq_of_contains (h : Uploading fresh ended trace uploaded active consumer) {id : Nat} :
    ∀ batch ∈ consumer.batches, ∀ other ∈ consumer.batches, batch.contains id = true →
      other.contains id = true → batch = other := by
  intro batch hbatch other hother hid hid'
  obtain ⟨request, hsent⟩ := h.sent_of_contains hbatch hid
  obtain ⟨request', hsent'⟩ := h.sent_of_contains hother hid'
  have hnodup : ((sent trace).map (fun x => x.2.2)).Nodup := by
    rw [h.numbered.numbers]
    exact List.nodup_range
  have heq := List.inj_on_of_nodup_map hnodup hsent hsent' rfl
  exact List.inj_on_of_nodup_map h.distinct hbatch hother (Prod.mk.inj heq).1

theorem settle (h : Uploading fresh ended trace uploaded active consumer) {id : Nat}
    (hid : id ∈ consumer.unsettled) (outcome : Outcome) :
    Uploading fresh (ended ++ [(id, outcome)]) trace uploaded active (consumer.settle id outcome) := by
  obtain ⟨⟨hoptions, -, hnext, hunsettled, hbatches⟩, hactions⟩ :=
    settle_batches consumer active hid outcome h.batch_eq_of_contains
  replace hunsettled : (consumer.settle id outcome).unsettled = consumer.unsettled.filter (· ≠ id) :=
    hunsettled
  replace hbatches : (consumer.settle id outcome).batches = consumer.batches := hbatches
  have hended : ended <+: ended ++ [(id, outcome)] := List.prefix_append _ _
  have hkept : ∀ {action : Action}, action ∈ actions active consumer →
      action ∈ actions active (consumer.settle id outcome) := fun hmem => (hactions _).2 (Or.inl hmem)
  constructor
  case numbered =>
    rw [hnext, hunsettled, hoptions]
    exact h.numbered.settle hid outcome
  case passed =>
    rw [hoptions]
    exact h.passed
  case unsent => exact h.unsent
  case distinct =>
    rw [hbatches]
    exact h.distinct
  case passedBatch =>
    rw [hbatches, hoptions]
    exact h.passedBatch
  case batched =>
    intro batch hmem
    rw [hbatches] at hmem
    rw [hunsettled]
    refine (h.batched batch hmem).settle (fun i other => (hactions _).trans (or_congr Iff.rfl ?_)) ?_
    · constructor
      · rintro ⟨former, hformer, hcontains, heq⟩
        obtain ⟨hflush, rfl, rfl⟩ := Action.arrived.inj heq
        obtain rfl := List.inj_on_of_nodup_map h.distinct hmem hformer hflush
        exact ⟨hcontains, rfl, rfl⟩
      · rintro ⟨hcontains, rfl, rfl⟩
        exact ⟨batch, hmem, hcontains, rfl⟩
    · rw [hactions, or_iff_left]
      rintro ⟨_, _, _, heq⟩
      cases heq
  case answers =>
    intro action haction flush result hanswer
    rw [hoptions]
    rcases (hactions action).1 haction with hold | ⟨batch, -, -, rfl⟩
    · obtain ⟨drained, hdrained, hflush, hanswers⟩ := h.answers action hold flush result hanswer
      exact ⟨drained, hdrained, hflush, hanswers.mono hended⟩
    · cases hanswer
  case answered =>
    intro flush result hmem
    rw [hoptions]
    obtain ⟨drained, hdrained, hflush, hanswers⟩ := h.answered flush result hmem
    exact ⟨drained, hdrained, hflush, hanswers.mono hended⟩
  case progress =>
    intro drained hdrained
    rw [hbatches]
    refine (h.progress drained hdrained).imp_right (Or.imp_left ?_)
    exact fun ⟨action, hmem, hanswer⟩ => ⟨action, hkept hmem, hanswer⟩

/-! Events -/

/-- The job under way is taken from the jobs. -/
theorem pop (h : Uploading fresh ended trace uploaded [] consumer) {jobs : Fifo Job}
    (hpop : consumer.jobs.pop? = some (⟨0, action⟩, jobs)) :
    Uploading fresh ended trace uploaded [action] { consumer with jobs } := by
  have hactions := actions_pop hpop
  have hsame : SameUploads consumer { consumer with jobs } := ⟨rfl, rfl, rfl, rfl, rfl⟩
  have hpopped : Uploading fresh ended (trace ++ []) uploaded [action] { consumer with jobs } := by
    refine h.frame hsame (fun _ hmem _ => Or.inl ?_) (fun _ hmem _ => ?_)
      (List.forall_mem_nil _)
    · rwa [hactions]
    · rwa [hactions] at hmem
  rwa [List.append_nil] at hpopped

/-- A job that has to wait is put back. -/
theorem rotate (h : Uploading fresh ended trace uploaded [] consumer) {delay : Nat} {jobs : Fifo Job}
    (hpop : consumer.jobs.pop? = some (⟨delay + 1, action⟩, jobs)) :
    Uploading fresh ended trace uploaded [] (({ consumer with jobs }).later delay action) := by
  have hactions := actions_rotate hpop
  have hsame : SameUploads consumer (({ consumer with jobs }).later delay action) :=
    ⟨rfl, rfl, rfl, rfl, rfl⟩
  have hrotated : Uploading fresh ended (trace ++ []) uploaded []
      (({ consumer with jobs }).later delay action) :=
    h.frame hsame (fun _ hmem _ => Or.inl (hactions.mem_iff.2 hmem))
      (fun _ hmem _ => hactions.mem_iff.1 hmem) (List.forall_mem_nil _)
  rwa [List.append_nil] at hrotated

theorem wake (h : Uploading fresh ended trace uploaded active consumer) :
    Uploading fresh ended trace uploaded active consumer.wake := by
  rcases wake_cases consumer with ⟨-, heq⟩ | ⟨flush, waiting, -, heq⟩
  · rwa [heq]
  · rw [heq]
    refine later ?_ 0 (.recheck flush) trivial
    exact h.congr ⟨rfl, rfl, rfl, rfl, rfl⟩ rfl

theorem fire (h : Uploading fresh ended trace uploaded active consumer) :
    Uploading fresh ended (trace ++ consumer.fire.2) uploaded active consumer.fire.1 := by
  rcases fire_cases consumer with heq | ⟨_, -, heq⟩ | ⟨_, -, heq⟩
  · rwa [heq, List.append_nil]
  · have hrestarted : SameUploads consumer
        { consumer with timer := .interval consumer.now } :=
      ⟨rfl, rfl, rfl, rfl, rfl⟩
    rw [heq]
    refine h.adds (hrestarted.trans (flush_sameUploads _ .scheduled))
      (Adds.trans (Adds.of_jobs_eq rfl) (flush_adds _ .scheduled trivial)) fun effect he => ?_
    rcases flush_effects _ .scheduled effect he with rfl | rfl <;> trivial
  · rw [heq, List.append_nil]
    refine later ?_ 0 (.race false) trivial
    exact h.congr ⟨rfl, rfl, rfl, rfl, rfl⟩ rfl

theorem endUploaderClose (h : Uploading fresh ended trace uploaded active consumer) (outcome : Outcome) :
    Uploading fresh ended trace uploaded active (consumer.endUploaderClose outcome) := by
  rcases endUploaderClose_cases consumer outcome with heq | ⟨closing, -, heq⟩
  · rwa [heq]
  · rw [heq]
    refine later ?_ 0 (.uploaderClosed outcome) trivial
    exact h.congr ⟨rfl, rfl, rfl, rfl, rfl⟩ rfl

end Uploading
end Consumer
end MetricPipeline
