import MetricPipeline.Proofs.Consumer.Lossless
import MetricPipeline.Proofs.Consumer.Schedule
import MetricPipeline.Proofs.Consumer.Shutdown

/-! How uploads end does not matter to what is uploaded. Until the final flush is drained, a run is at a view
that its schedule leads to; behind that drain nothing is left to be uploaded. So of two runs with one schedule
one has uploaded what the other one has, or will when its jobs are done. -/

namespace MetricPipeline

/-- There is nothing to be uploaded from a new aggregation. -/
theorem Aggregation.drain_create (namespaceName : String) (options : StoreOptions)
    (data values : Option Binary64) : (create namespaceName options data values).drain.1 = .ok [] := by
  have hbuckets : (Store.empty options).timeBuckets = [] := by
    simp [Store.timeBuckets, Store.empty, OrderedMap.empty]
  rw [drain, create, hbuckets]
  rfl

namespace Consumer

open Trace

variable {start consumer consumer' other : Consumer} {fresh : Aggregation} {options : ConsumerOptions}
  {now : Binary64} {inputs : List Input} {moment : Nat} {trace trace' effects : List Effect}
  {view : View} {event : Event}

/-! The drain of the final flush -/

theorem Run.tracking (h : Run (Consumer.create options fresh now) trace consumer) :
    ∃ deadline, Tracking deadline trace [] consumer := by
  induction h with
  | start => exact ⟨now, .start now options fresh now⟩
  | @step _ consumer h event henabled ih =>
    cases hclosed : consumer.closed with
    | true =>
      obtain ⟨deadline, htracking⟩ := ih
      refine ⟨deadline, htracking.step henabled fun hopen => ?_⟩
      rw [hclosed] at hopen
      cases hopen
    | false =>
      obtain ⟨events, hevents⟩ := h.history
      exact ⟨_, (hevents.tracking_of_open hclosed _).step henabled fun _ _ => rfl⟩

/-- A shutdown has to wait until its flush is drained. -/
theorem Run.not_finishes (hfresh : fresh.Empties) (h : Run (Consumer.create options fresh now) trace consumer)
    (hfinal : finalDrained (executed trace) = false) {action : Action} (haction : action ∈ actions [] consumer) :
    ¬action.Finishes := by
  intro hfinishes
  obtain ⟨deadline, htracking⟩ := h.tracking
  obtain ⟨closing, hclosing, hnone⟩ : ∃ closing, consumer.closing = some closing ∧ closing.waitingFor = [] := by
    have hgrounded := htracking.jobs action haction
    cases action with
    | race finished | clearTimeout finished | finishClose finished =>
      cases finished with
      | true => exact hgrounded
      | false => exact absurd hfinishes id
    | _ => exact absurd hfinishes id
  obtain ⟨flush, hlast⟩ := (h.ending hfresh).last (htracking.closing closing hclosing).1
  have hexecuted : .drain flush ∈ executed trace := by
    refine (hlast.closing closing hclosing).resolve_left ?_
    rw [hnone]
    exact List.not_mem_nil
  rw [finalDrained_iff.2 ⟨flush, hexecuted, hlast.origin⟩] at hfinal
  cases hfinal

theorem Run.closed_of_finalDrained (hfresh : fresh.Empties)
    (h : Run (Consumer.create options fresh now) trace consumer)
    (hfinal : finalDrained (executed trace) = true) : consumer.closed = true := by
  obtain ⟨ended, uploaded, hinvariant⟩ := h.invariant hfresh
  obtain ⟨flush, hexecuted, horigin⟩ := finalDrained_iff.1 hfinal
  refine hinvariant.sound.final flush (hinvariant.sound.orderly.called flush ?_) horigin
  rw [hinvariant.flow.tasks]
  exact List.mem_append_left _ hexecuted

/-! Runs along their schedules -/

/-- Until the final flush is drained, a run is at the view that comes `moment` jobs after the given one. From
then on it has executed all that a view with this drain has, and maybe more. -/
structure Follows (view : View) (moment : Nat) (trace : List Effect) (consumer : Consumer) : Prop where
  taken : Trace.taken trace = view.taken
  refused : Trace.refused trace = view.refused
  level : finalDrained (executed trace) = false → View.next^[moment] view = View.ofRun trace consumer
  behind : finalDrained (executed trace) = true → ∃ n, finalDrained (View.next^[n] view).executed = true ∧
    (View.next^[n] view).executed <+: executed trace

/-- A run stands where a view does that its schedule leads to. -/
def Viewed (start : Consumer) (inputs : List Input) (moment : Nat) (trace : List Effect) (consumer : Consumer) :
    Prop :=
  ∃ view, View.Reached (View.ofRun [] start) inputs view ∧ Follows view moment trace consumer

theorem Follows.of_level (h : View.next^[moment] view = View.ofRun trace consumer) :
    Follows view moment trace consumer := by
  have hexecuted : (View.next^[moment] view).executed = executed trace := by rw [h]; rfl
  obtain ⟨htaken, hrefused⟩ := view.iterate_submissions moment
  rw [h] at htaken hrefused
  refine ⟨htaken, hrefused, fun _ => h, fun hfinal => ⟨moment, ?_, ?_⟩⟩
  · rw [hexecuted]
    exact hfinal
  · rw [hexecuted]

/-! As long as the final flush is not drained, a step of a run is one of its view -/

namespace Viewed

/-- An input is taken by the view at which the run is. -/
theorem of_take (hreached : View.Reached (View.ofRun [] start) inputs view)
    (hlevel : View.next^[moment] view = View.ofRun trace consumer) {input : Input}
    {step : Consumer × List Effect} (hawaits : view.Awaits moment input)
    (htake : (View.ofRun trace consumer).take input = View.ofRun (trace ++ step.2) step.1) :
    Viewed start (inputs ++ [input]) 0 (trace ++ step.2) step.1 := by
  refine ⟨_, hreached.take moment input hawaits, .of_level ?_⟩
  rw [hlevel]
  exact htake

theorem of_quiet (hreached : View.Reached (View.ofRun [] start) inputs view)
    (hlevel : View.next^[moment] view = View.ofRun trace consumer)
    (hsame : View.ofRun (trace ++ effects) other = View.ofRun trace consumer) :
    Viewed start (inputs ++ []) moment (trace ++ effects) other := by
  rw [List.append_nil]
  exact ⟨view, hreached, .of_level (hlevel.trans hsame.symm)⟩

theorem job (hfresh : fresh.Empties) (hrun : Run (Consumer.create options fresh now) trace consumer)
    (hreached : View.Reached (View.ofRun [] start) inputs view)
    (hlevel : View.next^[moment] view = View.ofRun trace consumer)
    (hfinal : finalDrained (executed trace) = false) {job : Job} {jobs : Fifo Job}
    (hpop : consumer.jobs.pop? = some (job, jobs)) :
    Viewed start (inputs ++ (consumer.input? moment false .job).toList) (consumer.momentAfter moment .job)
      (trace ++ consumer.runJob.2) consumer.runJob.1 := by
  rw [input?_job hpop, momentAfter_job hpop]
  cases hcalls : job.calls? with
  | some calls =>
    obtain rfl := Job.eq_of_calls? hcalls
    have hpopped : SameCore { consumer with jobs } consumer.core :=
      (SameCore.pop_of_not_steers hpop rfl).symm.trans (core_sameCore consumer)
    obtain ⟨hcalled, heffects⟩ := hpopped.callAll calls
    refine of_take hreached hlevel rfl ?_
    rw [runJob_of_calls hpop, View.ofRun_append]
    exact View.after_congr _ hcalled (.of_eq heffects)
  | none =>
    cases hsteers : job.action.steers with
    | true =>
      rw [Option.map_none, Option.toList_none, List.append_nil]
      refine ⟨view, hreached, .of_level ?_⟩
      show View.next^[moment + 1] view = _
      rw [Function.iterate_succ_apply', hlevel]
      exact View.next_ofRun hpop hsteers
    | false =>
      refine of_quiet hreached hlevel (View.ofRun_job hpop hcalls hsteers (hrun.not_finishes hfresh hfinal ?_))
      rw [actions, Fifo.toList_of_pop? hpop]
      exact List.mem_cons_self

theorem step_level (hfresh : fresh.Empties) (hrun : Run (Consumer.create options fresh now) trace consumer)
    (hreached : View.Reached (View.ofRun [] start) inputs view)
    (hlevel : View.next^[moment] view = View.ofRun trace consumer)
    (hfinal : finalDrained (executed trace) = false) (henabled : consumer.Enabled event) :
    Viewed start (inputs ++ (consumer.input? moment false event).toList) (consumer.momentAfter moment event)
      (trace ++ (consumer.step event).2) (consumer.step event).1 := by
  have hcore := core_sameCore consumer
  have hrests : consumer.jobs.toList = [] → (View.next^[moment] view).core.jobs.toList = [] := by
    intro hjobs
    rw [hlevel]
    exact core_jobs_eq_nil hjobs
  cases event with
  | turn calls =>
    obtain ⟨hcalled, heffects⟩ := hcore.callAll calls
    refine of_take hreached hlevel (hrests henabled) ?_
    rw [View.ofRun_append]
    exact View.after_congr _ hcalled (.of_eq heffects)
  | defer calls =>
    exact of_quiet hreached hlevel
      (View.ofRun_quiet ((SameCore.refl consumer).later_of_not_steers 0 rfl) (.of_eq rfl))
  | job =>
    rcases hpop : consumer.jobs.pop? with _ | ⟨job, jobs⟩
    · exact absurd ((Fifo.pop?_eq_none_iff _).1 hpop) henabled
    · exact Viewed.job hfresh hrun hreached hlevel hfinal hpop
  | wake =>
    refine of_take hreached hlevel (hrests henabled.1) ?_
    rw [View.ofRun_append]
    exact View.after_congr _ hcore.wake (.of_eq rfl)
  | fire =>
    obtain ⟨hfired, heffects⟩ := hcore.fire
    refine of_take hreached hlevel (hrests henabled.1) ?_
    rw [View.ofRun_append]
    exact View.after_congr _ hfired (.of_eq heffects)
  | clock now =>
    refine ⟨_, hreached.take 0 (.clock now) rfl, .of_level ?_⟩
    show View.next^[moment] (view.atTime now) = _
    rw [View.iterate_atTime, hlevel, Consumer.step, List.append_nil]
    rfl
  | settle id outcome =>
    exact of_quiet hreached hlevel (View.ofRun_quiet (.settle consumer id outcome) (.of_eq rfl))
  | uploaderClosed outcome =>
    exact of_quiet hreached hlevel (View.ofRun_quiet (.endUploaderClose consumer outcome) (.of_eq rfl))

end Viewed

/-! Behind the drain of the final flush, only what is published still matters, and it is dropped -/

theorem Follows.behind_append (h : Follows view moment trace consumer)
    (hfinal : finalDrained (executed trace) = true) (next : View) (htaken : next.taken = view.taken)
    (hrefused : next.refused = view.refused ++ Trace.refused effects)
    (hexecuted : ∀ n, (View.next^[n] next).executed = (View.next^[n] view).executed)
    (heffects : Trace.taken effects = []) {moment' : Nat} : Follows next moment' (trace ++ effects) other := by
  have hmore : executed trace <+: executed (trace ++ effects) := by
    rw [executed_append]
    exact List.prefix_append _ _
  obtain ⟨n, hdrained, hfirst⟩ := h.behind hfinal
  refine ⟨?_, ?_, fun hopen => ?_, fun _ => ⟨n, ?_, ?_⟩⟩
  · rw [taken_append, heffects, List.append_nil, htaken, h.taken]
  · rw [refused_append, hrefused, h.refused]
  · rw [finalDrained_mono hmore hfinal] at hopen
    cases hopen
  · rwa [hexecuted]
  · rw [hexecuted]
    exact hfirst.trans hmore

namespace Viewed

theorem of_late (hreached : View.Reached (View.ofRun [] start) inputs view)
    (h : Follows view moment trace consumer) (hfinal : finalDrained (executed trace) = true)
    {calls : List Call} (heffects : Trace.taken effects = [] ∧ Trace.refused effects = submissionsOf calls)
    {moment' : Nat} : Viewed start (inputs ++ [.late calls]) moment' (trace ++ effects) other := by
  refine ⟨_, hreached.take 0 (.late calls) rfl,
    h.behind_append hfinal (view.refuse calls) rfl ?_ (fun n => ?_) heffects.1⟩
  · rw [heffects.2]
    rfl
  · show (View.next^[n] (view.refuse calls)).executed = _
    rw [View.iterate_refuse]
    rfl

theorem of_late_quiet (hreached : View.Reached (View.ofRun [] start) inputs view)
    (h : Follows view moment trace consumer) (hfinal : finalDrained (executed trace) = true)
    (heffects : Trace.taken effects = [] ∧ Trace.refused effects = []) {moment' : Nat} :
    Viewed start (inputs ++ []) moment' (trace ++ effects) other := by
  rw [List.append_nil]
  refine ⟨view, hreached, h.behind_append hfinal view rfl ?_ (fun _ => rfl) heffects.1⟩
  rw [heffects.2, List.append_nil]

theorem step_behind (hclosed : consumer.closed = true)
    (hreached : View.Reached (View.ofRun [] start) inputs view) (h : Follows view moment trace consumer)
    (hfinal : finalDrained (executed trace) = true) :
    Viewed start (inputs ++ (consumer.input? moment true event).toList) (consumer.momentAfter moment event)
      (trace ++ (consumer.step event).2) (consumer.step event).1 := by
  cases event with
  | turn calls => exact of_late hreached h hfinal (callAll_submissions hclosed calls)
  | job =>
    rcases hpop : consumer.jobs.pop? with _ | ⟨job, jobs⟩
    · rw [input?, hpop, Consumer.step, runJob, hpop]
      exact of_late_quiet hreached h hfinal ⟨rfl, rfl⟩
    · rw [input?_job hpop, Consumer.step]
      cases hcalls : job.calls? with
      | some calls =>
        obtain rfl := Job.eq_of_calls? hcalls
        have hstill : ({ consumer with jobs } : Consumer).closed = true := hclosed
        rw [runJob_of_calls hpop]
        exact of_late hreached h hfinal (callAll_submissions hstill calls)
      | none => exact of_late_quiet hreached h hfinal (runJob_submissions hpop hcalls)
  | fire => exact of_late_quiet hreached h hfinal consumer.fire_submissions
  | clock now =>
    refine ⟨_, hreached.take 0 (.clock now) rfl,
      h.behind_append hfinal (view.atTime now) rfl (List.append_nil _).symm (fun n => ?_) rfl⟩
    show (View.next^[n] (view.atTime now)).executed = _
    rw [View.iterate_atTime]
    rfl
  | _ => exact of_late_quiet hreached h hfinal ⟨rfl, rfl⟩

end Viewed

theorem Scheduled.viewed (hfresh : fresh.Empties)
    (h : Scheduled (Consumer.create options fresh now) inputs moment trace consumer) :
    Viewed (Consumer.create options fresh now) inputs moment trace consumer := by
  induction h with
  | start => exact ⟨_, .start, .of_level rfl⟩
  | step h event henabled ih =>
    obtain ⟨view, hreached, hfollows⟩ := ih
    cases hfinal : finalDrained (executed _) with
    | false => exact .step_level hfresh h.run hreached (hfollows.level hfinal) hfinal henabled
    | true => exact .step_behind (h.run.closed_of_finalDrained hfresh hfinal) hreached hfollows hfinal

/-! What is uploaded -/

/-- What is uploaded for the drains among tasks. -/
def uploadsOf (fresh : Aggregation) (tasks : List Task) : List (Flush × Request) :=
  (Progress.ofTasks tasks).drains.flatMap (Drained.uploads fresh)

theorem uploadsOf_append (fresh : Aggregation) (tasks more : List Task) :
    uploadsOf fresh tasks <+: uploadsOf fresh (tasks ++ more) := by
  induction more using List.reverseRecOn with
  | nil => rw [List.append_nil]
  | append_singleton more task ih =>
    refine ih.trans ?_
    rw [← List.append_assoc, uploadsOf, uploadsOf, Progress.ofTasks_concat]
    rcases task with (collection | message) | flush
    · exact List.prefix_rfl
    · exact List.prefix_rfl
    · rw [Progress.next, List.flatMap_append]
      exact List.prefix_append _ _

theorem uploadsOf_mono {tasks more : List Task} (h : tasks <+: more) :
    uploadsOf fresh tasks <+: uploadsOf fresh more := by
  obtain ⟨rest, rfl⟩ := h
  exact uploadsOf_append fresh tasks rest

/-- Drains that find nothing upload nothing. -/
theorem uploadsOf_drains (hfresh : fresh.Empties) (hnone : fresh.drain.1 = .ok [])
    {earlier later more : List Task} {flush : Flush} (hlater : ∀ task ∈ later ++ more, task.IsDrain) :
    uploadsOf fresh (earlier ++ .drain flush :: later ++ more) =
      uploadsOf fresh (earlier ++ .drain flush :: later) := by
  induction more using List.reverseRecOn with
  | nil => rw [List.append_nil]
  | append_singleton more task ih =>
    rw [← List.append_assoc, List.forall_mem_append] at hlater
    have hpending : (Progress.ofTasks (earlier ++ .drain flush :: later ++ more)).pending = [] := by
      rw [List.append_assoc, List.cons_append]
      exact Progress.pending_eq_nil hlater.1
    rw [← ih hlater.1, ← List.append_assoc, uploadsOf, Progress.ofTasks_concat]
    cases task with
    | add submission => exact absurd (hlater.2 _ List.mem_cons_self) id
    | drain other =>
      have hdrain := congrArg Prod.fst (hfresh.drain_eq ⟨other, []⟩)
      have hempty : Drained.requests fresh ⟨other, []⟩ = [] := Except.ok.inj (hdrain.symm.trans hnone)
      rw [Progress.next, hpending, List.flatMap_append, List.flatMap_singleton, Drained.uploads, hempty]
      exact List.append_nil _

/-- What is uploaded is known from what was executed up to the drain of the final flush. -/
theorem Run.uploadsOf_eq (hfresh : fresh.Empties) (hnone : fresh.drain.1 = .ok [])
    (h : Run (Consumer.create options fresh now) trace consumer) {tasks : List Task}
    (hfinal : finalDrained tasks = true) (hfirst : tasks <+: executed trace) :
    uploadsOf fresh (executed trace) = uploadsOf fresh tasks := by
  obtain ⟨ended, uploaded, hinvariant⟩ := h.invariant hfresh
  obtain ⟨flush, htask, horigin⟩ := finalDrained_iff.1 hfinal
  obtain ⟨earlier, later, rfl⟩ := List.append_of_mem htask
  obtain ⟨more, hmore⟩ := hfirst
  have hkept : kept trace = earlier ++ .drain flush :: (later ++ more ++ consumer.queue.toList) := by
    rw [hinvariant.flow.tasks, ← hmore]
    simp
  have hdrains := hinvariant.sound.orderly.final flush earlier _ hkept horigin
  rw [← hmore]
  exact uploadsOf_drains hfresh hnone fun task htask => hdrains task (List.mem_append_left _ htask)

/-- Where no call fails at once, what has been executed is uploaded when its turn has come. -/
theorem Run.uploads_executed (hfresh : fresh.Empties) (hcalls : ∀ id, options.callFailure id = none)
    (h : Run (Consumer.create options fresh now) trace consumer) :
    uploads trace <+: uploadsOf fresh (executed trace) ∧
      (consumer.jobs.toList = [] → uploads trace = uploadsOf fresh (executed trace)) := by
  obtain ⟨ended, uploaded, hinvariant⟩ := h.invariant hfresh
  obtain ⟨rest, hdrains, hrest⟩ := hinvariant.flow.drains
  have huploads := hinvariant.flow.uploads (by rwa [h.options_eq])
  rw [uploadsOf, hdrains, huploads, List.flatMap_append]
  refine ⟨List.prefix_append _ _, fun hjobs => ?_⟩
  rw [hjobs] at hrest
  rw [List.map_eq_nil_iff.1 hrest.symm]
  exact (List.append_nil _).symm

/-- Where a run stands among the views that come after one view. -/
theorem Follows.stage (hfresh : fresh.Empties) (hnone : fresh.drain.1 = .ok [])
    (hrun : Run (Consumer.create options fresh now) trace consumer) (h : Follows view moment trace consumer) :
    ∃ n, (View.next^[n] view).executed <+: executed trace ∧
      uploadsOf fresh (executed trace) = uploadsOf fresh (View.next^[n] view).executed ∧
      (finalDrained (View.next^[n] view).executed = true ∨ View.next^[n] view = View.ofRun trace consumer) := by
  cases hfinal : finalDrained (executed trace) with
  | false =>
    have hexecuted : (View.next^[moment] view).executed = executed trace := by rw [h.level hfinal]; rfl
    exact ⟨moment, by rw [hexecuted], by rw [hexecuted], Or.inr (h.level hfinal)⟩
  | true =>
    obtain ⟨n, hdrained, hfirst⟩ := h.behind hfinal
    exact ⟨n, hfirst, hrun.uploadsOf_eq hfresh hnone hdrained hfirst, Or.inl hdrained⟩

/-- Of two runs with one schedule, the one that is ahead uploads what the other one does, and nothing else
when that one has no jobs. -/
theorem uploadsOf_ahead (hfresh : fresh.Empties) (hnone : fresh.drain.1 = .ok [])
    (hahead : Run (Consumer.create options fresh now) trace' consumer') {n n' : Nat} (hle : n ≤ n')
    (huploads : uploadsOf fresh (executed trace) = uploadsOf fresh (View.next^[n] view).executed)
    (hstage : finalDrained (View.next^[n] view).executed = true ∨ View.next^[n] view = View.ofRun trace consumer)
    (hfirst : (View.next^[n'] view).executed <+: executed trace')
    (huploads' : uploadsOf fresh (executed trace') = uploadsOf fresh (View.next^[n'] view).executed) :
    uploadsOf fresh (executed trace) <+: uploadsOf fresh (executed trace') ∧
      (consumer.jobs.toList = [] → uploadsOf fresh (executed trace') = uploadsOf fresh (executed trace)) := by
  have hmore := view.iterate_executed hle
  refine ⟨?_, fun hjobs => ?_⟩
  · rw [huploads, huploads']
    exact uploadsOf_mono hmore
  · rcases hstage with hfinal | hlevel
    · rw [huploads]
      exact hahead.uploadsOf_eq hfresh hnone hfinal (hmore.trans hfirst)
    · have hrests : (View.next^[n] view).core.jobs.toList = [] := by
        rw [hlevel]
        exact core_jobs_eq_nil hjobs
      rw [huploads, huploads', View.iterate_of_no_jobs hrests hle]

/-- Two runs with the same inputs take and drop the same submissions, and upload the same requests for the
same flushes, however their uploads end: the one of them has uploaded no more than the other one, and as much
when no job is left in either. -/
theorem uploads_of_same_inputs (namespaceName : String) (storeOptions : StoreOptions)
    (data values : Option Binary64) (options : ConsumerOptions) (now : Binary64)
    (hcalls : ∀ id, options.callFailure id = none) (inputs : List Input) (moment moment' : Nat)
    (trace trace' : List Effect) (consumer consumer' : Consumer)
    (hrun : Scheduled (Consumer.create options
      (Aggregation.create namespaceName storeOptions data values) now) inputs moment trace consumer)
    (hrun' : Scheduled (Consumer.create options
      (Aggregation.create namespaceName storeOptions data values) now) inputs moment' trace' consumer') :
    taken trace' = taken trace ∧ refused trace' = refused trace ∧
      (uploads trace <+: uploads trace' ∨ uploads trace' <+: uploads trace) ∧
      (consumer.jobs.toList = [] → consumer'.jobs.toList = [] → uploads trace' = uploads trace) := by
  have hfresh := Aggregation.empties_create namespaceName storeOptions data values
  have hnone := Aggregation.drain_create namespaceName storeOptions data values
  obtain ⟨view, hreached, hfollows⟩ := hrun.viewed hfresh
  obtain ⟨view', hreached', hfollows'⟩ := hrun'.viewed hfresh
  obtain rfl := hreached.unique hreached'
  obtain ⟨n, hfirst, hsame, hstage⟩ := hfollows.stage hfresh hnone hrun.run
  obtain ⟨n', hfirst', hsame', hstage'⟩ := hfollows'.stage hfresh hnone hrun'.run
  obtain ⟨hsent, hrests⟩ := hrun.run.uploads_executed hfresh hcalls
  obtain ⟨hsent', hrests'⟩ := hrun'.run.uploads_executed hfresh hcalls
  refine ⟨hfollows'.taken.trans hfollows.taken.symm, hfollows'.refused.trans hfollows.refused.symm, ?_⟩
  rcases Nat.le_total n n' with hle | hle
  · obtain ⟨hahead, hequal⟩ := uploadsOf_ahead hfresh hnone hrun'.run hle hsame hstage hfirst' hsame'
    refine ⟨List.prefix_or_prefix_of_prefix (hsent.trans hahead) hsent', fun hjobs hjobs' => ?_⟩
    rw [hrests hjobs, hrests' hjobs', hequal hjobs]
  · obtain ⟨hahead, hequal⟩ := uploadsOf_ahead hfresh hnone hrun.run hle hsame' hstage' hfirst hsame
    refine ⟨List.prefix_or_prefix_of_prefix hsent (hsent'.trans hahead), fun hjobs hjobs' => ?_⟩
    rw [hrests hjobs, hrests' hjobs', hequal hjobs']

/-- Two flushes, the second one of a shutdown. In one run the first upload is rejected before the second one is
started, and the shutdown ends with the second upload; in the other run both uploads hang, and the shutdown
ends when its time is over. -/
theorem uploads_of_same_inputs_hanging :
    ∃ inputs moment moment' trace trace' consumer consumer',
      Scheduled (Consumer.create ⟨true, .ofInt 8, .ofInt 60000, .ofInt 5000, fun _ => none⟩
        (Aggregation.create "App" ⟨[], [.all], none, []⟩ none none) (.ofInt 0)) inputs moment trace consumer ∧
      Scheduled (Consumer.create ⟨true, .ofInt 8, .ofInt 60000, .ofInt 5000, fun _ => none⟩
        (Aggregation.create "App" ⟨[], [.all], none, []⟩ none none) (.ofInt 0)) inputs moment' trace' consumer' ∧
      consumer.unsettled = [] ∧ consumer'.unsettled = [0, 1] ∧
      (uploads trace).map Prod.fst = [⟨0, .manual⟩, ⟨1, .final⟩] ∧ uploads trace' = uploads trace := by
  have hstart : Scheduled (Consumer.create ⟨true, .ofInt 8, .ofInt 60000, .ofInt 5000, fun _ => none⟩
    (Aggregation.create "App" ⟨[], [.all], none, []⟩ none none) (.ofInt 0)) [] 0 [] _ := .start
  have hcalled := hstart.turn [.publish (.collection Aggregation.twoCounts), .flush] rfl rfl
  obtain ⟨_, huploaded⟩ := hcalled.jobs (by decide +kernel) 12
  -- the first upload is rejected, and the second one is fulfilled, before the time for the shutdown is over
  have hrejected := huploaded.silent (.settle 0 (.rejected (.raised "refused"))) _
    (by decide +kernel) rfl rfl
  obtain ⟨_, hanswered⟩ := hrejected.jobs (by decide +kernel) 4
  have hclosed := hanswered.turn [.publish (.collection Aggregation.twoCounts), .close] (by decide +kernel)
    (by decide +kernel)
  obtain ⟨_, hlast⟩ := hclosed.jobs (by decide +kernel) 12
  have hfulfilled := hlast.silent (.settle 1 .fulfilled) _ (by decide +kernel) rfl rfl
  obtain ⟨_, hended⟩ := hfulfilled.jobs (by decide +kernel) 12
  have hrun := hended.clock (.ofInt 5000) (by decide +kernel)
  -- both uploads hang
  have hclosed' := huploaded.turn [.publish (.collection Aggregation.twoCounts), .close] (by decide +kernel)
    (by decide +kernel)
  obtain ⟨_, hlast'⟩ := hclosed'.jobs (by decide +kernel) 12
  have htime := hlast'.clock (.ofInt 5000) (by decide +kernel)
  have hfired := htime.silent .fire true (by decide +kernel) (by decide +kernel) rfl
  obtain ⟨_, hrun'⟩ := hfired.jobs (by decide +kernel) 4
  obtain ⟨-, -, -, hsame⟩ := uploads_of_same_inputs "App" ⟨[], [.all], none, []⟩ none none
    ⟨true, .ofInt 8, .ofInt 60000, .ofInt 5000, fun _ => none⟩ (.ofInt 0) (fun _ => rfl) _ _ _ _ _ _ _ hrun hrun'
  exact ⟨_, _, _, _, _, _, _, hrun, hrun', by decide +kernel, by decide +kernel, by decide +kernel,
    hsame (by decide +kernel) (by decide +kernel)⟩

end Consumer
end MetricPipeline
