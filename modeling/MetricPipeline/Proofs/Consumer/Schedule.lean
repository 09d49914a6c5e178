import Mathlib.Logic.Function.Iterate
import MetricPipeline.Proofs.Consumer.Core

/-! The schedule of a run: what comes to the consumer from outside, and when. How uploads end is no part of
it. Until the final flush is drained, the core of the consumer can be told from the schedule alone. -/

namespace MetricPipeline

/-- What comes to a consumer from outside. Calls made in a job are told with the number of jobs that have
steered since the last input. -/
inductive Input where
  | turn (calls : List Call)
  | called (moment : Nat) (calls : List Call)
  | wake
  | fire
  | clock (now : Binary64)
  /-- Calls that are made when the final flush has been drained. -/
  | late (calls : List Call)

def submissionsOf (calls : List Call) : List Submission :=
  calls.filterMap fun
    | .publish submission => some submission
    | _ => none

def Action.isCalls : Action → Bool
  | .calls _ => true
  | _ => false

/-- The calls that are made in a job when its turn has come. -/
def Job.calls? : Job → Option (List Call)
  | ⟨0, .calls calls⟩ => some calls
  | _ => none

theorem Job.calls?_eq_none_of_steers {job : Job} (h : job.action.steers = true) : job.calls? = none := by
  obtain ⟨delay, action⟩ := job
  cases action with
  | calls calls => cases h
  | _ => cases delay <;> rfl

theorem Job.eq_of_calls? {job : Job} {calls : List Call} (h : job.calls? = some calls) :
    job = ⟨0, .calls calls⟩ := by
  obtain ⟨delay, action⟩ := job
  cases delay with
  | zero =>
    cases action with
    | calls other => rw [Option.some.inj h]
    | _ => cases h
  | succ delay => cases h

/-- The drain of the flush of a shutdown. -/
def Task.isFinal : Task → Bool
  | .add _ => false
  | .drain flush => flush.origin = .final

def finalDrained (tasks : List Task) : Bool := tasks.any Task.isFinal

theorem finalDrained_iff {tasks : List Task} :
    finalDrained tasks = true ↔ ∃ flush, .drain flush ∈ tasks ∧ flush.origin = .final := by
  rw [finalDrained, List.any_eq_true]
  constructor
  · rintro ⟨task, htask, hfinal⟩
    cases task with
    | add submission => cases hfinal
    | drain flush => exact ⟨flush, htask, of_decide_eq_true hfinal⟩
  · rintro ⟨flush, htask, hfinal⟩
    exact ⟨_, htask, decide_eq_true hfinal⟩

theorem finalDrained_mono {tasks more : List Task} (h : tasks <+: more) (hfinal : finalDrained tasks = true) :
    finalDrained more = true := by
  obtain ⟨flush, htask, horigin⟩ := finalDrained_iff.1 hfinal
  exact finalDrained_iff.2 ⟨flush, h.subset htask, horigin⟩

namespace Trace

/-- What was taken into the queue of what was published, in order. -/
def taken (trace : List Effect) : List Submission :=
  trace.filterMap fun
    | .queued (.add submission) => some submission
    | _ => none

/-- What was dropped of what was published, in order. -/
def refused (trace : List Effect) : List Submission :=
  trace.filterMap fun
    | .refused submission => some submission
    | _ => none

theorem taken_append (trace effects : List Effect) :
    taken (trace ++ effects) = taken trace ++ taken effects := List.filterMap_append ..

theorem refused_append (trace effects : List Effect) :
    refused (trace ++ effects) = refused trace ++ refused effects := List.filterMap_append ..

/-- Effects that tell the same of what is taken, refused and executed. -/
def Matching (effects effects' : List Effect) : Prop :=
  taken effects' = taken effects ∧ refused effects' = refused effects ∧ executed effects' = executed effects

theorem Matching.of_eq {effects effects' : List Effect} (h : effects' = effects) : Matching effects effects' :=
  ⟨congrArg taken h, congrArg refused h, congrArg executed h⟩

end Trace

namespace Consumer

open Trace

/-- The input that an event is, if it is one. Behind the drain of the final flush, only calls still are. -/
def input? (consumer : Consumer) (moment : Nat) (drained : Bool) : Event → Option Input
  | .turn calls => some (if drained then .late calls else .turn calls)
  | .job =>
    (consumer.jobs.pop?.bind (·.1.calls?)).map fun calls => if drained then .late calls else .called moment calls
  | .wake => if drained then none else some .wake
  | .fire => if drained then none else some .fire
  | .clock now => some (.clock now)
  | .defer _ | .settle _ _ | .uploaderClosed _ => none

/-- The number of jobs that have steered since the last input, when the event is over. -/
def momentAfter (consumer : Consumer) (moment : Nat) : Event → Nat
  | .turn _ | .wake | .fire => 0
  | .job =>
    match consumer.jobs.pop? with
    | some (job, _) =>
      if job.calls?.isSome then 0 else if job.action.steers then moment + 1 else moment
    | none => moment
  | _ => moment

theorem input?_job {consumer : Consumer} {job : Job} {jobs : Fifo Job}
    (hpop : consumer.jobs.pop? = some (job, jobs)) (moment : Nat) (drained : Bool) :
    consumer.input? moment drained .job =
      job.calls?.map fun calls => if drained then .late calls else .called moment calls := by
  rw [input?, hpop]
  rfl

theorem momentAfter_job {consumer : Consumer} {job : Job} {jobs : Fifo Job}
    (hpop : consumer.jobs.pop? = some (job, jobs)) (moment : Nat) :
    consumer.momentAfter moment .job =
      if job.calls?.isSome then 0 else if job.action.steers then moment + 1 else moment := by
  rw [momentAfter, hpop]

theorem runJob_of_calls {consumer : Consumer} {calls : List Call} {jobs : Fifo Job}
    (hpop : consumer.jobs.pop? = some (⟨0, .calls calls⟩, jobs)) :
    consumer.runJob = ({ consumer with jobs }).callAll calls := by
  rw [runJob, hpop]
  rfl

/-- A run with its schedule. -/
inductive Scheduled (start : Consumer) : List Input → Nat → List Effect → Consumer → Prop where
  | start : Scheduled start [] 0 [] start
  | step {inputs : List Input} {moment : Nat} {trace : List Effect} {consumer : Consumer}
    (h : Scheduled start inputs moment trace consumer) (event : Event) (henabled : consumer.Enabled event) :
    Scheduled start (inputs ++ (consumer.input? moment (finalDrained (executed trace)) event).toList)
      (consumer.momentAfter moment event) (trace ++ (consumer.step event).2) (consumer.step event).1

variable {start consumer other : Consumer} {inputs : List Input} {moment : Nat} {trace : List Effect}

theorem Scheduled.run (h : Scheduled start inputs moment trace consumer) : Run start trace consumer := by
  induction h with
  | start => exact .start
  | step _ event henabled ih => exact ih.step event henabled

/-- Every run has a schedule. -/
theorem Run.scheduled (h : Run start trace consumer) :
    ∃ inputs moment, Scheduled start inputs moment trace consumer := by
  induction h with
  | start => exact ⟨[], 0, .start⟩
  | step _ event henabled ih =>
    obtain ⟨inputs, moment, hscheduled⟩ := ih
    exact ⟨_, _, hscheduled.step event henabled⟩

theorem Scheduled.silent (h : Scheduled start inputs moment trace consumer) (event : Event) (drained : Bool)
    (henabled : consumer.Enabled event) (hdrained : finalDrained (executed trace) = drained)
    (hinput : consumer.input? moment drained event = none) :
    Scheduled start inputs (consumer.momentAfter moment event) (trace ++ (consumer.step event).2)
      (consumer.step event).1 := by
  have hstep := h.step event henabled
  rwa [hdrained, hinput, Option.toList_none, List.append_nil] at hstep

theorem Scheduled.turn (h : Scheduled start inputs moment trace consumer) (calls : List Call)
    (hjobs : consumer.jobs.toList = []) (hfinal : finalDrained (executed trace) = false) :
    Scheduled start (inputs ++ [.turn calls]) 0 (trace ++ (consumer.callAll calls).2)
      (consumer.callAll calls).1 := by
  have hstep := h.step (.turn calls) hjobs
  rwa [hfinal] at hstep

theorem Scheduled.clock (h : Scheduled start inputs moment trace consumer) (now : Binary64)
    (hle : consumer.now.le now) :
    Scheduled start (inputs ++ [.clock now]) moment trace { consumer with now } := by
  have hstep := h.step (.clock now) hle
  rwa [Consumer.step, List.append_nil] at hstep

/-- No calls are to be made in jobs. -/
def NoCalls (consumer : Consumer) : Prop := ∀ job ∈ consumer.jobs.toList, job.action.isCalls = false

instance (consumer : Consumer) : Decidable consumer.NoCalls :=
  inferInstanceAs (Decidable (∀ job ∈ consumer.jobs.toList, job.action.isCalls = false))

theorem NoCalls.runJob (h : consumer.NoCalls) : consumer.runJob.1.NoCalls := by
  rcases runJob_cases consumer with ⟨-, heq⟩ | ⟨delay, action, jobs, hpop, heq⟩ | ⟨action, jobs, hpop, heq⟩
  · rwa [heq]
  · rw [NoCalls, Fifo.toList_of_pop? hpop, List.forall_mem_cons] at h
    rw [heq, NoCalls, jobs_later, List.forall_mem_append, List.forall_mem_singleton]
    exact ⟨h.2, h.1⟩
  · rw [NoCalls, Fifo.toList_of_pop? hpop, List.forall_mem_cons] at h
    obtain ⟨new, hnew, hleads⟩ := perform_adds { consumer with jobs } action
    rw [heq, NoCalls, hnew, List.forall_mem_append]
    refine ⟨h.2, fun job hjob => ?_⟩
    have hlead := hleads job hjob
    obtain ⟨delay, next⟩ := job
    cases next with
    | calls calls => cases hlead
    | _ => rfl

/-- Jobs in which no calls are made are no part of a schedule. -/
theorem Scheduled.jobs (h : Scheduled start inputs moment trace consumer) (hcalls : consumer.NoCalls) (n : Nat) :
    ∃ moment', Scheduled start inputs moment' (trace ++ (consumer.runJobs n).2) (consumer.runJobs n).1 := by
  induction n generalizing moment trace consumer with
  | zero =>
    rw [runJobs, List.append_nil]
    exact ⟨moment, h⟩
  | succ n ih =>
    by_cases hjobs : consumer.jobs.toList = []
    · have hidle : consumer.runJob = (consumer, []) := by
        rw [runJob, (Fifo.pop?_eq_none_iff _).2 hjobs]
      rw [runJobs, hidle]
      exact ih h hcalls
    · have hinput : consumer.input? moment (finalDrained (executed trace)) .job = none := by
        rcases hpop : consumer.jobs.pop? with _ | ⟨⟨delay, action⟩, jobs⟩
        · rw [input?, hpop]
          rfl
        · have hfirst := hcalls ⟨delay, action⟩ (Fifo.toList_of_pop? hpop ▸ List.mem_cons_self)
          rw [input?, hpop]
          cases action with
          | calls calls => cases hfirst
          | _ => cases delay <;> rfl
      obtain ⟨moment', hrest⟩ := ih (h.silent .job _ hjobs rfl hinput) hcalls.runJob
      rw [List.append_assoc] at hrest
      exact ⟨moment', hrest⟩

/-! What can be seen of a step -/

theorem perform_submissions (consumer : Consumer) {action : Action} (hcalls : ∀ calls, action ≠ .calls calls) :
    taken (consumer.perform action).2 = [] ∧ refused (consumer.perform action).2 = [] := by
  have hshows := perform_shows consumer action
  constructor
  · refine List.filterMap_eq_nil_iff.2 fun effect heffect => ?_
    cases hshows effect heffect with
    | calls calls => exact absurd rfl (hcalls calls)
    | _ => rfl
  · refine List.filterMap_eq_nil_iff.2 fun effect heffect => ?_
    cases hshows effect heffect with
    | calls calls => exact absurd rfl (hcalls calls)
    | _ => rfl

theorem perform_executed (consumer : Consumer) {action : Action} (hsteers : action.steers = false) :
    executed (consumer.perform action).2 = [] := by
  refine List.filterMap_eq_nil_iff.2 fun effect heffect => ?_
  cases perform_shows consumer action effect heffect with
  | executed hfirst => rcases hfirst with rfl | rfl <;> cases hsteers
  | calls calls _ hcall => cases effect <;> first | rfl | exact absurd hcall id
  | _ => rfl

theorem runJob_submissions {job : Job} {jobs : Fifo Job} (hpop : consumer.jobs.pop? = some (job, jobs))
    (hcalls : job.calls? = none) : taken consumer.runJob.2 = [] ∧ refused consumer.runJob.2 = [] := by
  obtain ⟨delay, action⟩ := job
  rw [runJob, hpop]
  cases delay with
  | zero =>
    refine perform_submissions _ ?_
    rintro calls rfl
    cases hcalls
  | succ delay => exact ⟨rfl, rfl⟩

theorem fire_submissions (consumer : Consumer) : taken consumer.fire.2 = [] ∧ refused consumer.fire.2 = [] := by
  constructor
  · refine List.filterMap_eq_nil_iff.2 fun effect heffect => ?_
    rcases fire_effects consumer effect heffect with rfl | rfl <;> rfl
  · refine List.filterMap_eq_nil_iff.2 fun effect heffect => ?_
    rcases fire_effects consumer effect heffect with rfl | rfl <;> rfl

/-- A closed consumer drops all that is published. -/
theorem callAll_submissions (hclosed : consumer.closed = true) (calls : List Call) :
    taken (consumer.callAll calls).2 = [] ∧ refused (consumer.callAll calls).2 = submissionsOf calls := by
  induction calls generalizing consumer with
  | nil => exact ⟨rfl, rfl⟩
  | cons first rest ih =>
    obtain ⟨htaken, hrefused⟩ := ih (call_closed hclosed first)
    have hfirst : taken (consumer.call first).2 = [] ∧
        refused (consumer.call first).2 = submissionsOf [first] := by
      cases first with
      | publish submission =>
        rw [call, publish, hclosed]
        exact ⟨rfl, rfl⟩
      | flush =>
        constructor <;> refine List.filterMap_eq_nil_iff.2 fun effect heffect => ?_ <;>
          rcases flush_effects consumer .manual effect heffect with rfl | rfl <;> rfl
      | close =>
        rw [call, close_of_closed hclosed]
        exact ⟨rfl, rfl⟩
    rw [callAll, taken_append, refused_append]
    rw [htaken, hrefused, hfirst.1, hfirst.2]
    exact ⟨rfl, (List.filterMap_append ..).symm⟩

def atTime (consumer : Consumer) (now : Binary64) : Consumer := { consumer with now }

theorem startTask_atTime (consumer : Consumer) (now : Binary64) :
    (consumer.atTime now).startTask = (consumer.startTask.1.atTime now, consumer.startTask.2) := by
  have hqueue : (consumer.atTime now).queue = consumer.queue := rfl
  rw [startTask, startTask, hqueue]
  cases consumer.queue.pop? with
  | none => rfl
  | some popped => obtain ⟨(collection | message) | flush, queue⟩ := popped <;> rfl

theorem race_atTime (consumer : Consumer) (now : Binary64) (finished : Bool) :
    (consumer.atTime now).race finished = (consumer.race finished).atTime now := by
  have hclosing : (consumer.atTime now).closing = consumer.closing := rfl
  rw [race, race, hclosing]
  split
  · rfl
  · split_ifs <;> rfl

theorem finishClose_atTime (consumer : Consumer) (now : Binary64) (finished : Bool) :
    (consumer.atTime now).finishClose finished =
      ((consumer.finishClose finished).1.atTime now, (consumer.finishClose finished).2) := by
  have hdiscard : (consumer.atTime now).discard = (consumer.discard.1.atTime now, consumer.discard.2) := by
    have hqueue : (consumer.atTime now).queue = consumer.queue := rfl
    rw [discard, discard, hqueue]
    split_ifs <;> rfl
  have hclosing : (consumer.atTime now).closing = consumer.closing := rfl
  rw [finishClose, finishClose, hclosing, hdiscard]
  have howns : (consumer.discard.1.atTime now).options = consumer.discard.1.options := rfl
  split
  · rfl
  · dsimp only
    rw [howns]
    split_ifs <;> rfl

/-- What steers does not look at the clock. -/
theorem perform_atTime (consumer : Consumer) (now : Binary64) {action : Action}
    (hsteers : action.steers = true) :
    (consumer.atTime now).perform action =
      ((consumer.perform action).1.atTime now, (consumer.perform action).2) := by
  cases action with
  | startNext =>
    have hrunning : (consumer.atTime now).running = consumer.running := rfl
    rw [perform, perform, hrunning]
    split_ifs
    · rfl
    · exact startTask_atTime consumer now
  | release => exact startTask_atTime { consumer with running := false } now
  | recheck flush =>
    have hfull : (consumer.atTime now).isFull = consumer.isFull := rfl
    rw [perform, perform, beginFlush, beginFlush, hfull]
    split_ifs <;> rfl
  | race finished => exact congrArg (·, []) (race_atTime consumer now finished)
  | clearTimeout finished => rfl
  | finishClose finished => exact finishClose_atTime consumer now finished
  | _ => cases hsteers

end Consumer

/-! Views -/

/-- What a schedule decides: the core of the consumer, and what was taken, refused and executed. -/
@[ext]
structure View where
  core : Consumer
  isCore : core.core = core
  taken : List Submission
  refused : List Submission
  executed : List Task

namespace View

open Consumer

/-- The view of a run. -/
def ofRun (trace : List Effect) (consumer : Consumer) : View where
  core := consumer.core
  isCore := core_core consumer
  taken := Trace.taken trace
  refused := Trace.refused trace
  executed := Trace.executed trace

/-- The view after a step of the core. -/
def after (view : View) (step : Consumer × List Effect) : View where
  core := step.1.core
  isCore := core_core step.1
  taken := view.taken ++ Trace.taken step.2
  refused := view.refused ++ Trace.refused step.2
  executed := view.executed ++ Trace.executed step.2

/-- Does the next job that steers. -/
def next (view : View) : View := view.after view.core.runJob

def atTime (view : View) (now : Binary64) : View :=
  { view with
    core := view.core.atTime now
    isCore := congrArg (Consumer.atTime · now) view.isCore }

def refuse (view : View) (calls : List Call) : View :=
  { view with refused := view.refused ++ submissionsOf calls }

/-- What an input does. -/
def take (view : View) : Input → View
  | .turn calls | .called _ calls => view.after (view.core.callAll calls)
  | .wake => view.after (view.core.wake, [])
  | .fire => view.after view.core.fire
  | .clock now => view.atTime now
  | .late calls => view.refuse calls

/-- Whether an input can come after a number of jobs that steer. -/
def Awaits (view : View) (count : Nat) : Input → Prop
  | .turn _ | .wake | .fire => (next^[count] view).core.jobs.toList = []
  | .called moment _ => count = moment
  | .clock _ | .late _ => count = 0

/-- The view right after the last input of a schedule. -/
inductive Reached (start : View) : List Input → View → Prop where
  | start : Reached start [] start
  | take {inputs : List Input} {view : View} (h : Reached start inputs view) (count : Nat) (input : Input)
    (hawaits : view.Awaits count input) : Reached start (inputs ++ [input]) ((next^[count] view).take input)

variable {start view view' : View} {inputs : List Input} {m n : Nat}

theorem steers_of_isCore (view : View) {job : Job} (h : job ∈ view.core.jobs.toList) :
    job.action.steers = true := by
  have hjobs : view.core.jobs = ⟨view.core.steering, []⟩ := congrArg Consumer.jobs view.isCore.symm
  rw [hjobs, Fifo.toList, List.reverse_nil, List.append_nil] at h
  exact (List.mem_filter.1 h).2

theorem next_of_no_jobs (h : view.core.jobs.toList = []) : view.next = view := by
  have hjob : view.core.runJob = (view.core, []) := by
    rw [runJob, (Fifo.pop?_eq_none_iff _).2 h]
  rw [next, hjob]
  exact View.ext view.isCore (List.append_nil _) (List.append_nil _) (List.append_nil _)

theorem next_submissions (view : View) : view.next.taken = view.taken ∧ view.next.refused = view.refused := by
  have hnone : Trace.taken view.core.runJob.2 = [] ∧ Trace.refused view.core.runJob.2 = [] := by
    rcases hpop : view.core.jobs.pop? with _ | ⟨job, jobs⟩
    · rw [runJob, hpop]
      exact ⟨rfl, rfl⟩
    · have hsteers := view.steers_of_isCore (Fifo.toList_of_pop? hpop ▸ List.mem_cons_self)
      exact runJob_submissions hpop (job.calls?_eq_none_of_steers hsteers)
  exact ⟨congrArg (view.taken ++ ·) hnone.1 |>.trans (List.append_nil _),
    congrArg (view.refused ++ ·) hnone.2 |>.trans (List.append_nil _)⟩

/-- The clock may go on before or after a job that steers. -/
theorem next_atTime (view : View) (now : Binary64) : (view.atTime now).next = view.next.atTime now := by
  have hjob : (view.core.atTime now).runJob =
      (view.core.runJob.1.atTime now, view.core.runJob.2) := by
    have hjobs : (view.core.atTime now).jobs = view.core.jobs := rfl
    rw [runJob, runJob, hjobs]
    split
    · rfl
    · rfl
    · next action jobs hpop =>
      exact perform_atTime { view.core with jobs } now
        (view.steers_of_isCore (Fifo.toList_of_pop? hpop ▸ List.mem_cons_self))
  show (view.atTime now).after (view.core.atTime now).runJob = _
  rw [hjob]
  rfl

theorem next_refuse (view : View) (calls : List Call) : (view.refuse calls).next = view.next.refuse calls := by
  refine View.ext rfl rfl ?_ rfl
  show (view.refuse calls).next.refused = view.next.refused ++ submissionsOf calls
  rw [(next_submissions view).2]
  exact (next_submissions (view.refuse calls)).2

/-! Any number of jobs that steer -/

theorem iterate_atTime (view : View) (now : Binary64) (n : Nat) :
    next^[n] (view.atTime now) = (next^[n] view).atTime now :=
  Function.Commute.iterate_left (g := fun view => view.atTime now) (fun view => view.next_atTime now) n view

theorem iterate_refuse (view : View) (calls : List Call) (n : Nat) :
    next^[n] (view.refuse calls) = (next^[n] view).refuse calls :=
  Function.Commute.iterate_left (g := fun view => view.refuse calls) (fun view => view.next_refuse calls) n view

theorem iterate_submissions (view : View) (n : Nat) :
    (next^[n] view).taken = view.taken ∧ (next^[n] view).refused = view.refused := by
  induction n with
  | zero => exact ⟨rfl, rfl⟩
  | succ n ih =>
    rw [Function.iterate_succ_apply']
    exact ⟨(next_submissions _).1.trans ih.1, (next_submissions _).2.trans ih.2⟩

theorem iterate_executed (view : View) (h : m ≤ n) :
    (next^[m] view).executed <+: (next^[n] view).executed := by
  induction n, h using Nat.le_induction with
  | base => exact List.prefix_rfl
  | succ n _ ih =>
    rw [Function.iterate_succ_apply']
    exact ih.trans (List.prefix_append _ _)

/-- A view without jobs stays as it is. -/
theorem iterate_of_no_jobs (h : (next^[m] view).core.jobs.toList = []) (hle : m ≤ n) :
    next^[n] view = next^[m] view := by
  obtain ⟨k, rfl⟩ := Nat.exists_eq_add_of_le' hle
  rw [Function.iterate_add_apply]
  exact Function.iterate_fixed (next_of_no_jobs h) k

theorem Awaits.unique {input : Input} (h : view.Awaits m input) (h' : view.Awaits n input) :
    next^[m] view = next^[n] view := by
  have hrests : (next^[m] view).core.jobs.toList = [] → (next^[n] view).core.jobs.toList = [] →
      next^[m] view = next^[n] view := by
    intro hm hn
    rcases Nat.le_total m n with hle | hle
    · exact (iterate_of_no_jobs hm hle).symm
    · exact iterate_of_no_jobs hn hle
  cases input with
  | turn calls => exact hrests h h'
  | wake => exact hrests h h'
  | fire => exact hrests h h'
  | called moment calls => rw [show m = moment from h, show n = moment from h']
  | clock now => rw [show m = 0 from h, show n = 0 from h']
  | late calls => rw [show m = 0 from h, show n = 0 from h']

/-- A schedule leads to one view. -/
theorem Reached.unique (h : Reached start inputs view) (h' : Reached start inputs view') : view = view' := by
  induction h generalizing view' with
  | start =>
    generalize hinputs : ([] : List Input) = all at h'
    cases h' with
    | start => rfl
    | take => simp at hinputs
  | @take inputs view _ count input hawaits ih =>
    generalize hinputs : inputs ++ [input] = all at h'
    cases h' with
    | start => simp at hinputs
    | @take inputs' _ h' count' input' hawaits' =>
      obtain ⟨rfl, hinput⟩ := List.append_inj' hinputs rfl
      obtain rfl : input = input' := (List.cons.inj hinput).1
      obtain rfl := ih h'
      rw [hawaits.unique hawaits']

/-! The views of a run -/

variable {consumer other : Consumer} {trace effects : List Effect}

theorem ofRun_append (trace : List Effect) (consumer : Consumer) (step : Consumer × List Effect) :
    ofRun (trace ++ step.2) step.1 = (ofRun trace consumer).after step :=
  View.ext rfl (Trace.taken_append ..) (Trace.refused_append ..) (Trace.executed_append ..)

theorem after_congr (view : View) {step step' : Consumer × List Effect} (hcore : SameCore step.1 step'.1)
    (heffects : Trace.Matching step.2 step'.2) : view.after step' = view.after step :=
  View.ext hcore.core_eq (congrArg (view.taken ++ ·) heffects.1) (congrArg (view.refused ++ ·) heffects.2.1)
    (congrArg (view.executed ++ ·) heffects.2.2)

/-- What does nothing to the core, and neither takes nor refuses nor executes, does nothing to the view. -/
theorem ofRun_quiet (hcore : SameCore consumer other) (heffects : Trace.Matching [] effects) :
    ofRun (trace ++ effects) other = ofRun trace consumer := by
  calc ofRun (trace ++ effects) other
    _ = (ofRun trace consumer).after (other, effects) := ofRun_append trace consumer (other, effects)
    _ = (ofRun trace consumer).after (consumer, []) := after_congr _ hcore heffects
    _ = ofRun (trace ++ []) consumer := (ofRun_append trace consumer (consumer, [])).symm
    _ = ofRun trace consumer := by rw [List.append_nil]

/-- A job that steers is the next one of the view. -/
theorem next_ofRun {job : Job} {jobs : Fifo Job} (hpop : consumer.jobs.pop? = some (job, jobs))
    (hsteers : job.action.steers = true) :
    (ofRun trace consumer).next = ofRun (trace ++ consumer.runJob.2) consumer.runJob.1 := by
  have hcalls := job.calls?_eq_none_of_steers hsteers
  obtain ⟨htaken, hrefused⟩ := runJob_submissions hpop hcalls
  obtain ⟨htaken', hrefused'⟩ := runJob_submissions (core_pop hpop hsteers) hcalls
  obtain ⟨hjob, hexecuted⟩ := SameCore.runJob hpop hsteers
  rw [ofRun_append]
  exact after_congr _ hjob ⟨htaken'.trans htaken.symm, hrefused'.trans hrefused.symm, hexecuted⟩

/-- A job that neither calls nor steers, and is not of a shutdown that has waited, does nothing to the view. -/
theorem ofRun_job {job : Job} {jobs : Fifo Job} (hpop : consumer.jobs.pop? = some (job, jobs))
    (hcalls : job.calls? = none) (hsteers : job.action.steers = false) (hfinishes : ¬job.action.Finishes) :
    ofRun (trace ++ consumer.runJob.2) consumer.runJob.1 = ofRun trace consumer := by
  obtain ⟨htaken, hrefused⟩ := runJob_submissions hpop hcalls
  have hsame : SameCore consumer { consumer with jobs } := .pop_of_not_steers hpop hsteers
  obtain ⟨delay, action⟩ := job
  cases delay with
  | zero =>
    have hnone : ∀ calls, action ≠ .calls calls := by
      rintro calls rfl
      cases hcalls
    rw [runJob, hpop] at htaken hrefused ⊢
    exact ofRun_quiet (hsame.trans (.perform_of_not_steers _ hsteers hnone hfinishes))
      ⟨htaken, hrefused, perform_executed _ hsteers⟩
  | succ delay =>
    rw [runJob, hpop]
    exact ofRun_quiet (hsame.later_of_not_steers delay hsteers) (.of_eq rfl)

end View
end MetricPipeline
