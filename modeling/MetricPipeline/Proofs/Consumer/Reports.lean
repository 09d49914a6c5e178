import MetricPipeline.Proofs.Consumer.Delivery

/-! What flushes report. A flush is reported once, when the last of its uploads has ended: it resolves with
how many of them failed, and if any did, a warning is logged. However the uploads of several flushes overlap,
and in whatever order they end, a report is made of how the uploads of its own flush ended, in the order of
their requests. -/

namespace MetricPipeline

/-- How the uploads of a flush ended, in the order of its requests. -/
structure Report where
  flush : Flush
  outcomes : List Outcome

namespace Report

/-- How many uploads there were, how many went well and how many failed. -/
def result (report : Report) : FlushResult :=
  ⟨report.outcomes.length, report.outcomes.length - report.outcomes.countP Outcome.failed,
    report.outcomes.countP Outcome.failed⟩

/-- The flush that resolves, with its result. -/
def answer (report : Report) : Flush × FlushResult := (report.flush, report.result)

/-- A warning has the counts of the report, and the error of the first request whose upload failed. -/
def Warns (warning : FlushResult × Failure) (report : Report) : Prop :=
  warning.1 = report.result ∧ ∃ before after, report.outcomes = before ++ .rejected warning.2 :: after ∧
    ∀ outcome ∈ before, outcome = .fulfilled

/-- The reports of flushes some of whose uploads failed. -/
def failing (reports : List Report) : List Report := reports.filter fun report => 0 < report.result.failed

/-- The requests of the flush's drain have all been uploaded, and all of these uploads have ended so. -/
def Covers (fresh : Aggregation) (ended : List (Nat × Outcome)) (trace : List Effect) (report : Report) :
    Prop :=
  ∃ drained ∈ Trace.drains trace, drained.flush = report.flush ∧
    (Trace.sentOf trace report.flush).map Prod.fst = drained.requests fresh ∧
    List.Forall₂ (fun x outcome => (x.2, outcome) ∈ ended) (Trace.sentOf trace report.flush) report.outcomes

end Report

/-- The counts and the error of a warning that uploads failed. -/
def Effect.warning? : Effect → Option (FlushResult × Failure)
  | .log (.uploadsFailed result error) => some (result, error)
  | _ => none

/-- The flush that resolved, and with which result. -/
def Effect.resolved? : Effect → Option (Flush × FlushResult)
  | .flushed flush (.ok result) => some (flush, result)
  | _ => none

/-- The flush that an action resolves, and with which result. -/
def Action.resolve? : Action → Option (Flush × FlushResult)
  | .resolve flush result => some (flush, result)
  | _ => none

theorem Action.Begins.resolve?_eq_none {action : Action} (h : action.Begins) : action.resolve? = none := by
  cases action with
  | resolve => exact absurd h id
  | _ => rfl

theorem Action.Leads.resolve?_eq_none {action next : Action} (h : action.Leads next)
    (hreport : ∀ flush, action ≠ .report flush) : next.resolve? = none := by
  cases h with
  | resolve flush result => exact absurd rfl (hreport flush)
  | _ => rfl

namespace Trace

/-- Warnings that uploads failed, in order. -/
def warnings (trace : List Effect) : List (FlushResult × Failure) := trace.filterMap Effect.warning?

/-- Flushes that resolved, in order, with their results. -/
def resolved (trace : List Effect) : List (Flush × FlushResult) := trace.filterMap Effect.resolved?

theorem warnings_append (trace effects : List Effect) :
    warnings (trace ++ effects) = warnings trace ++ warnings effects := List.filterMap_append ..

theorem resolved_append (trace effects : List Effect) :
    resolved (trace ++ effects) = resolved trace ++ resolved effects := List.filterMap_append ..

theorem mem_resolved {trace : List Effect} {flush : Flush} {result : FlushResult} :
    (flush, result) ∈ resolved trace ↔ .flushed flush (.ok result) ∈ trace := by
  rw [resolved, List.mem_filterMap]
  constructor
  · rintro ⟨effect, heffect, hsome⟩
    cases effect with
    | flushed other otherResult =>
      cases otherResult with
      | error error => cases hsome
      | ok otherResult =>
        obtain ⟨rfl, rfl⟩ : other = flush ∧ otherResult = result := by
          simpa [Effect.resolved?] using hsome
        exact heffect
    | _ => cases hsome
  · exact fun h => ⟨_, h, rfl⟩

theorem sentOf_append_of_not_mem {trace effects : List Effect} {flush : Flush}
    (h : ∀ id request, .upload id flush request ∉ effects) :
    sentOf (trace ++ effects) flush = sentOf trace flush := by
  have hnil : sentOf effects flush = [] :=
    List.eq_nil_iff_forall_not_mem.2 fun x hx => h x.2 x.1 (mem_sent.1 (mem_sentOf.1 hx))
  rw [sentOf_append, hnil, List.append_nil]

end Trace

namespace Consumer

open Trace

variable {fresh : Aggregation} {ended ended' : List (Nat × Outcome)} {trace effects : List Effect}
  {uploaded : List Drained} {reports : List Report} {consumer other : Consumer} {action : Action}
  {jobs : Fifo Job} {flush : Flush}

/-- The flushes that jobs are about to resolve, with their results. -/
def resolving (consumer : Consumer) : List (Flush × FlushResult) :=
  (actions [] consumer).filterMap Action.resolve?

/-! Warnings -/

theorem call_unwarned (consumer : Consumer) (call : Call) :
    ∀ effect ∈ (consumer.call call).2, effect.warning? = none := by
  have hflush : ∀ (consumer : Consumer) (origin : FlushOrigin), ∀ effect ∈ (consumer.flush origin).2,
      effect.warning? = none := by
    intro consumer origin effect he
    rcases flush_effects consumer origin effect he with rfl | rfl <;> rfl
  cases call with
  | publish submission =>
    rw [call, publish]
    split_ifs <;> simp [enqueue, Effect.warning?]
  | flush => exact hflush consumer .manual
  | close =>
    rw [call]
    cases hclosed : consumer.closed with
    | true =>
      rw [close_of_closed hclosed]
      simp [Effect.warning?]
    | false =>
      rw [close_of_open hclosed]
      exact List.forall_mem_cons.2 ⟨rfl, hflush _ .final⟩

theorem callAll_unwarned (consumer : Consumer) (calls : List Call) :
    ∀ effect ∈ (consumer.callAll calls).2, effect.warning? = none := by
  induction calls generalizing consumer with
  | nil => exact List.forall_mem_nil _
  | cons first rest ih => exact List.forall_mem_append.2 ⟨call_unwarned consumer first, ih _⟩

theorem finishClose_unwarned (consumer : Consumer) (finished : Bool) :
    ∀ effect ∈ (consumer.finishClose finished).2, effect.warning? = none := by
  cases hclosing : consumer.closing with
  | none => simp [finishClose, hclosing]
  | some closing =>
    rw [finishClose_eq hclosing]
    refine List.forall_mem_append.2 ⟨List.forall_mem_append.2 ⟨?_, ?_⟩, ?_⟩
    · split_ifs <;> simp [Effect.warning?]
    · unfold discard
      split_ifs <;> simp [Effect.warning?]
    · split_ifs <;> simp [Effect.warning?]

/-- Only reports warn that uploads failed. -/
theorem perform_unwarned (consumer : Consumer) (hreport : ∀ flush, action ≠ .report flush) :
    ∀ effect ∈ (consumer.perform action).2, effect.warning? = none := by
  intro effect he
  cases perform_shows consumer action effect he with
  | report flush => exact absurd rfl (hreport flush)
  | calls calls => exact callAll_unwarned consumer calls effect he
  | timedOut finished => exact finishClose_unwarned consumer finished _ he
  | flushFailed flush error =>
    rw [perform, flushFailed] at he
    cases horigin : flush.origin <;> simp_all [Effect.warning?]
  | _ => rfl

/-- A report of uploads warns of those that failed, if there are any. -/
theorem warned_noticeOf (report : Report) :
    List.Forall₂ Report.Warns (warnings (noticeOf (report.outcomes.map some))) (Report.failing [report]) := by
  have hcount := failures_map_some report.outcomes
  have hresult : resultOf (report.outcomes.map some) = report.result := by
    rw [resultOf, hcount, List.length_map]
    rfl
  unfold noticeOf
  cases hfailures : failures (report.outcomes.map some) with
  | nil =>
    rw [hfailures, List.length_nil] at hcount
    have hfailed : report.result.failed = 0 := hcount.symm
    have hnone : Report.failing [report] = [] := List.filter_eq_nil_iff.2 (by simp [hfailed])
    rw [hnone]
    dsimp only
    split_ifs <;> exact .nil
  | cons error rest =>
    rw [hfailures, List.length_cons] at hcount
    have hfailed : report.result.failed = rest.length + 1 := hcount.symm
    have hone : Report.failing [report] = [report] := List.filter_eq_self.2 (by simp [hfailed])
    rw [hone, hresult]
    refine .cons ⟨rfl, ?_⟩ .nil
    rw [failures, List.filterMap_map] at hfailures
    -- what stands before the outcome that gives the first failure gives none
    obtain ⟨before, outcome, after, houtcomes, hbefore, houtcome, -⟩ := List.filterMap_eq_cons_iff.1 hfailures
    refine ⟨before, after, ?_, fun former hformer => ?_⟩
    · cases outcome with
      | fulfilled => cases houtcome
      | rejected other => rwa [← Option.some.inj houtcome]
    · have hformer := hbefore former hformer
      cases former with
      | fulfilled => rfl
      | rejected other => cases hformer

/-! Flushes that are about to resolve -/

theorem resolving_of_pop (hpop : consumer.jobs.pop? = some (⟨0, action⟩, jobs)) :
    resolving consumer = action.resolve?.toList ++ resolving { consumer with jobs } := by
  rw [resolving, ← actions_pop hpop]
  cases h : action.resolve? <;> simp [actions, resolving, h]

theorem resolving_later (consumer : Consumer) (delay : Nat) (action : Action) :
    resolving (consumer.later delay action) = resolving consumer ++ action.resolve?.toList := by
  rw [resolving, actions_later, List.filterMap_append]
  cases h : action.resolve? <;> simp [resolving, h]

theorem resolving_of_adds {kind : Action → Prop} (h : Adds kind consumer other)
    (hkind : ∀ action, kind action → action.resolve? = none) : resolving other = resolving consumer := by
  obtain ⟨new, hnew, hadded⟩ := h
  have hnone : (new.map Job.action).filterMap Action.resolve? = [] := by
    rw [List.filterMap_eq_nil_iff]
    exact List.forall_mem_map.2 fun job hjob => hkind _ (hadded job hjob)
  rw [resolving, actions, hnew, List.map_append, ← List.append_assoc, List.filterMap_append, hnone,
    List.append_nil]
  rfl

/-- What a job resolves is what its action does. -/
theorem resolved_perform (consumer : Consumer) (action : Action) :
    resolved (consumer.perform action).2 = action.resolve?.toList := by
  cases action with
  | resolve flush result => rfl
  | _ =>
    refine List.eq_nil_iff_forall_not_mem.2 fun answer hanswer => ?_
    obtain ⟨heq, -⟩ := perform_resolves (mem_resolved.1 hanswer)
    cases heq

theorem step_unwarned (consumer : Consumer) {event : Event} (hjob : event ≠ .job) :
    ∀ effect ∈ (consumer.step event).2, effect.warning? = none := by
  cases event with
  | turn calls => exact callAll_unwarned consumer calls
  | job => exact absurd rfl hjob
  | fire =>
    intro effect he
    rcases fire_effects consumer effect he with rfl | rfl <;> rfl
  | _ => exact List.forall_mem_nil _

/-! Reports -/

/-- The reports that have been made after a trace: they are not of flushes that have a batch, flushes have
resolved or are about to with what they say, and they were logged where uploads failed. -/
structure Reporting (ended : List (Nat × Outcome)) (trace : List Effect) (reports : List Report)
    (consumer : Consumer) : Prop where
  distinct : (reports.map Report.flush).Nodup
  pending : ∀ batch ∈ consumer.batches, batch.flush ∉ reports.map Report.flush
  ends : ∀ report ∈ reports, List.Forall₂ (fun x outcome => (x.2, outcome) ∈ ended)
    (sentOf trace report.flush) report.outcomes
  told : (resolved trace ++ resolving consumer).Perm (reports.map Report.answer)
  warned : List.Forall₂ Report.Warns (warnings trace) (Report.failing reports)

namespace Reporting

theorem start (options : ConsumerOptions) (fresh : Aggregation) (now : Binary64) :
    Reporting [] [] [] (Consumer.create options fresh now) where
  distinct := List.nodup_nil
  pending _ h := absurd h List.not_mem_nil
  ends _ h := absurd h List.not_mem_nil
  told := .nil
  warned := .nil

/-- Reports stay as they are while flushes resolve, other uploads are made and any of them end. -/
theorem frame (h : Reporting ended trace reports consumer) (hended : ended <+: ended')
    (hsent : ∀ report ∈ reports, ∀ id request, .upload id report.flush request ∉ effects)
    (htold : (resolved effects ++ resolving other).Perm (resolving consumer))
    (hwarnings : ∀ effect ∈ effects, effect.warning? = none)
    (hbatches : ∀ batch ∈ other.batches, batch.flush ∉ reports.map Report.flush) :
    Reporting ended' (trace ++ effects) reports other := by
  constructor
  case distinct => exact h.distinct
  case pending => exact hbatches
  case ends =>
    intro report hreport
    rw [sentOf_append_of_not_mem (hsent report hreport)]
    exact (h.ends report hreport).imp fun _ _ hmem => hended.subset hmem
  case told =>
    rw [resolved_append, List.append_assoc]
    exact (htold.append_left _).trans h.told
  case warned =>
    have hnone : warnings effects = [] := List.filterMap_eq_nil_iff.2 hwarnings
    rw [warnings_append, hnone, List.append_nil]
    exact h.warned

/-- What a report says was told, so that its flush has been uploaded, with all requests of its drain. -/
theorem exists_drained (h : Reporting ended trace reports consumer)
    (huploads : Uploading fresh ended trace uploaded [] consumer) {report : Report}
    (hreport : report ∈ reports) : ∃ drained ∈ uploaded, drained.flush = report.flush ∧
      (sentOf trace report.flush).map Prod.fst = drained.requests fresh := by
  have hanswer : ∃ drained ∈ uploaded, drained.flush = report.flush ∧
      drained.Answers consumer.options.callFailure fresh ended (sentOf trace report.flush)
        (.ok report.result) := by
    rcases List.mem_append.1 (h.told.symm.subset (List.mem_map_of_mem hreport)) with hmem | hmem
    · exact huploads.answered _ _ (mem_resolved.1 hmem)
    · obtain ⟨action, haction, hresolve⟩ := List.mem_filterMap.1 hmem
      cases action with
      | resolve flush result =>
        obtain ⟨rfl, rfl⟩ := Prod.mk.inj (Option.some.inj hresolve)
        exact huploads.answers _ haction _ _ rfl
      | _ => cases hresolve
  obtain ⟨drained, hdrained, hflush, first, outcomes, hpassed, -⟩ := hanswer
  exact ⟨drained, hdrained, hflush, hpassed.map_fst⟩

/-- A job that reports nothing. -/
theorem perform (h : Reporting ended trace reports consumer)
    (hpop : consumer.jobs.pop? = some (⟨0, action⟩, jobs)) (hreport : ∀ flush, action ≠ .report flush)
    (hsent : ∀ report ∈ reports, ∀ id request,
      .upload id report.flush request ∉ (({ consumer with jobs }).perform action).2)
    (hbatches : ∀ batch ∈ (({ consumer with jobs }).perform action).1.batches,
      batch.flush ∉ reports.map Report.flush) :
    Reporting ended (trace ++ (({ consumer with jobs }).perform action).2) reports
      (({ consumer with jobs }).perform action).1 := by
  refine h.frame List.prefix_rfl hsent ?_ (perform_unwarned _ hreport) hbatches
  have hresolving := resolving_of_adds (perform_adds { consumer with jobs } action) fun _ hleads =>
    hleads.resolve?_eq_none hreport
  rw [resolved_perform, hresolving, ← resolving_of_pop hpop]

/-- The uploads of a drain are made after all reports, none of which is of its flush. -/
theorem upload (h : Reporting ended trace reports consumer) {requests : List Request}
    (hpop : consumer.jobs.pop? = some (⟨0, .upload flush (.ok requests)⟩, jobs))
    (hnew : flush ∉ reports.map Report.flush) :
    Reporting ended (trace ++ (({ consumer with jobs }).upload flush requests).2) reports
      (({ consumer with jobs }).upload flush requests).1 := by
  obtain ⟨passed, failure, -, heffects, -, -, -, hbatches, -⟩ :=
    upload_batches { consumer with jobs } flush requests
  refine h.perform hpop nofun (fun report hreport id request hmem => ?_) fun batch hbatch => ?_
  · rw [Consumer.perform, heffects] at hmem
    obtain ⟨x, -, heq⟩ := List.mem_map.1 hmem
    obtain ⟨-, rfl, -⟩ := Effect.upload.inj heq
    exact hnew (List.mem_map_of_mem hreport)
  · rw [Consumer.perform, hbatches] at hbatch
    rcases List.mem_append.1 hbatch with hold | hown
    · exact h.pending batch hold
    · split_ifs at hown
      · rwa [List.mem_singleton.1 hown]
      · cases hown

/-- One more report is made, of a flush whose uploads have all ended. -/
theorem concat (h : Reporting ended trace reports consumer) {report : Report}
    (hnew : report.flush ∉ reports.map Report.flush)
    (hends : List.Forall₂ (fun x outcome => (x.2, outcome) ∈ ended) (sentOf trace report.flush)
      report.outcomes)
    (hlogs : ∀ effect ∈ effects, ∃ notice, effect = .log notice)
    (hwarned : List.Forall₂ Report.Warns (warnings effects) (Report.failing [report]))
    (hresolving : resolving other = resolving consumer ++ [report.answer])
    (hbatches : ∀ batch ∈ other.batches, batch ∈ consumer.batches ∧ batch.flush ≠ report.flush) :
    Reporting ended (trace ++ effects) (reports ++ [report]) other := by
  have hsent : ∀ flush, sentOf (trace ++ effects) flush = sentOf trace flush := by
    intro flush
    refine sentOf_append_of_not_mem fun id request hmem => ?_
    obtain ⟨notice, heq⟩ := hlogs _ hmem
    cases heq
  have hresolved : resolved effects = [] := by
    rw [resolved, List.filterMap_eq_nil_iff]
    intro effect he
    obtain ⟨notice, rfl⟩ := hlogs effect he
    rfl
  constructor
  case distinct =>
    rw [List.map_append]
    refine List.nodup_append.2 ⟨h.distinct, List.nodup_singleton _, fun former hformer own hown heq => ?_⟩
    rw [heq, List.mem_singleton.1 hown] at hformer
    exact hnew hformer
  case pending =>
    intro batch hbatch
    obtain ⟨hold, hne⟩ := hbatches batch hbatch
    rw [List.map_append, List.mem_append, not_or]
    exact ⟨h.pending batch hold, fun hown => hne (List.mem_singleton.1 hown)⟩
  case ends =>
    simp only [hsent]
    exact List.forall_mem_append.2 ⟨h.ends, List.forall_mem_singleton.2 hends⟩
  case told =>
    rw [resolved_append, hresolved, List.append_nil, hresolving, List.map_append, ← List.append_assoc]
    exact h.told.append_right _
  case warned =>
    rw [warnings_append, Report.failing, List.filter_append]
    exact List.rel_append h.warned hwarned

/-- The batch of a flush is complete when it is reported, and makes its report. -/
theorem report (h : Reporting ended trace reports consumer)
    (hpop : consumer.jobs.pop? = some (⟨0, .report flush⟩, jobs))
    (huploads : Uploading fresh ended trace uploaded [.report flush] { consumer with jobs }) :
    ∃ reports', Reporting ended (trace ++ (({ consumer with jobs }).report flush).2) reports'
      (({ consumer with jobs }).report flush).1 := by
  have hpopped : resolving consumer = resolving { consumer with jobs } := resolving_of_pop hpop
  unfold Consumer.report
  cases hfind : consumer.batches.find? (·.flush = flush) with
  | none =>
    refine ⟨reports, h.frame List.prefix_rfl (fun _ _ _ _ => List.not_mem_nil) ?_ (List.forall_mem_nil _)
      h.pending⟩
    rw [hpopped]
    rfl
  | some batch =>
    have hmem := List.mem_of_find?_eq_some hfind
    obtain rfl : batch.flush = flush := by simpa using List.find?_some hfind
    obtain ⟨outcomes, houtcomes, hresult⟩ :=
      exists_of_complete ((huploads.batched batch hmem).complete.2 List.mem_cons_self)
    have hwarned := warned_noticeOf ⟨batch.flush, outcomes⟩
    rw [← houtcomes] at hwarned
    refine ⟨reports ++ [⟨batch.flush, outcomes⟩], h.concat (h.pending batch hmem)
      (huploads.forall₂_of_outcomes hmem houtcomes) (noticeOf_logs batch.outcomes) hwarned ?_
      fun other hother => ?_⟩
    · rw [resolving_later, hpopped, hresult]
      rfl
    · obtain ⟨hold, hne⟩ := List.mem_filter.1 hother
      exact ⟨hold, of_decide_eq_true hne⟩

/-- A job makes one more report or none. -/
theorem runJob (h : Reporting ended trace reports consumer)
    (hinvariant : Invariant fresh ended trace uploaded consumer)
    (hpop : consumer.jobs.pop? = some (⟨0, action⟩, jobs)) :
    ∃ reports', Reporting ended (trace ++ (({ consumer with jobs }).perform action).2) reports'
      (({ consumer with jobs }).perform action).1 := by
  have hother : ¬action.Handles → Reporting ended (trace ++ (({ consumer with jobs }).perform action).2)
      reports (({ consumer with jobs }).perform action).1 := by
    intro hhandles
    refine h.perform hpop ?_ (fun report _ id request hmem => ?_) ?_
    · rintro flush rfl
      exact hhandles trivial
    · cases perform_shows _ action _ hmem with
      | upload flush requests => exact hhandles trivial
      | calls calls _ hcall => exact hcall
    · rw [(perform_sameUploads _ hhandles).batches]
      exact h.pending
  cases action with
  | upload flush drained =>
    cases drained with
    | error error => exact ⟨reports, hother id⟩
    | ok requests =>
      obtain ⟨drained, rfl, -, hnew, -⟩ := (hinvariant.sound.pop hpop).upload_new (hinvariant.flow.pop hpop)
      refine ⟨reports, h.upload hpop fun hmem => ?_⟩
      obtain ⟨report, hreport, heq⟩ := List.mem_map.1 hmem
      obtain ⟨former, hformer, hflush, -⟩ := h.exists_drained hinvariant.uploads hreport
      exact hnew (List.mem_map.2 ⟨former, hformer, hflush.trans heq⟩)
  | arrived flush index outcome =>
    have hbatches := (arrived_batches { consumer with jobs } flush index outcome
      hinvariant.uploads.distinct).1.batches
    refine ⟨reports, h.perform hpop nofun (fun _ _ _ _ => List.not_mem_nil) fun batch hbatch => ?_⟩
    rw [Consumer.perform, hbatches] at hbatch
    obtain ⟨former, hformer, rfl⟩ := List.mem_map.1 hbatch
    rw [arrive_flush]
    exact h.pending former hformer
  | report flush => exact h.report hpop (hinvariant.uploads.pop hpop)
  | _ => exact ⟨reports, hother id⟩

theorem step (h : Reporting ended trace reports consumer)
    (hinvariant : Invariant fresh ended trace uploaded consumer) (event : Event) :
    ∃ reports', Reporting (ended ++ settled [event]) (trace ++ (consumer.step event).2) reports'
      (consumer.step event).1 := by
  by_cases hjob : event = .job
  · have hnone : settled [event] = [] := by rw [hjob]; rfl
    rw [hnone, List.append_nil, hjob, Consumer.step]
    rcases runJob_cases consumer with ⟨-, heq⟩ | ⟨delay, action, jobs, hpop, heq⟩ | ⟨action, jobs, hpop, heq⟩
    · rw [heq, List.append_nil]
      exact ⟨reports, h⟩
    · rw [heq]
      exact ⟨reports, h.frame List.prefix_rfl (fun _ _ _ _ => List.not_mem_nil)
        ((actions_rotate hpop).filterMap _) (List.forall_mem_nil _) h.pending⟩
    · rw [heq]
      exact h.runJob hinvariant hpop
  · obtain ⟨hadds, hbatches, heffects⟩ := step_unheard consumer hjob
    refine ⟨reports, h.frame (List.prefix_append _ _) ?_ ?_ (step_unwarned consumer hjob) ?_⟩
    · exact fun report _ id request hmem => heffects _ hmem
    · have hnone : resolved (consumer.step event).2 = [] :=
        List.eq_nil_iff_forall_not_mem.2 fun answer hanswer => heffects _ (mem_resolved.1 hanswer)
      rw [hnone, resolving_of_adds hadds fun _ hbegins => hbegins.resolve?_eq_none]
      rfl
    · rw [hbatches]
      exact h.pending

end Reporting

theorem History.reporting (hfresh : fresh.Empties) {options : ConsumerOptions} {now : Binary64}
    {events : List Event} (h : History (Consumer.create options fresh now) events trace consumer) :
    ∃ reports, Reporting (settled events) trace reports consumer := by
  induction h with
  | start => exact ⟨[], .start options fresh now⟩
  | step hhistory event _ ih =>
    obtain ⟨reports, hreporting⟩ := ih
    obtain ⟨uploaded, hinvariant⟩ := hhistory.invariant hfresh
    rw [settled_append]
    exact hreporting.step hinvariant event

/-- What flushes have told after a trace, when `ended` tells which uploads have ended. Flushes in `resolving`
have been reported and are about to resolve. -/
structure Reported (fresh : Aggregation) (ended : List (Nat × Outcome)) (trace : List Effect)
    (resolving : List (Flush × FlushResult)) (reports : List Report) : Prop where
  /-- No upload ends twice, so that a report is determined by how the uploads of its own flush ended. -/
  once : (ended.map Prod.fst).Nodup
  /-- No flush is reported twice. -/
  distinct : (reports.map Report.flush).Nodup
  covers : ∀ report ∈ reports, report.Covers fresh ended trace
  /-- Flushes resolve with the counts of their reports, one for each report. -/
  told : (resolved trace ++ resolving).Perm (reports.map Report.answer)
  /-- There is one warning for each report with failures, and no other. -/
  warned : List.Forall₂ Report.Warns (warnings trace) (Report.failing reports)

theorem History.reported (hfresh : fresh.Empties) {options : ConsumerOptions} {now : Binary64}
    {events : List Event} (h : History (Consumer.create options fresh now) events trace consumer) :
    ∃ reports, Reported fresh (settled events) trace (resolving consumer) reports := by
  obtain ⟨uploaded, hinvariant⟩ := h.invariant hfresh
  obtain ⟨reports, hreporting⟩ := h.reporting hfresh
  obtain ⟨pending, hdrains, -⟩ := hinvariant.flow.drains
  refine ⟨reports, ?_, hreporting.distinct, fun report hreport => ?_, hreporting.told, hreporting.warned⟩
  · exact (List.nodup_append.1 hinvariant.uploads.numbered.once).2.1
  · obtain ⟨drained, hdrained, hflush, hsent⟩ := hreporting.exists_drained hinvariant.uploads hreport
    refine ⟨drained, ?_, hflush, hsent, hreporting.ends report hreport⟩
    rw [drains, hdrains]
    exact List.mem_append_left _ hdrained

end Consumer
end MetricPipeline
