import MetricPipeline.Proofs.Consumer.Core
import MetricPipeline.Proofs.Consumer.Ending
import MetricPipeline.Proofs.Consumer.Idle

/-! What is queued when a shutdown comes to its end. A flush that waited is woken when there is no job, so its
drain is the first task in the queue, and it is started before anything can come of the jobs that were put
behind. Whatever else was queued before the final drain is executed before it. So what is left at the end of a
shutdown was called behind its flush. -/

namespace MetricPipeline

/-- An action that is put behind the jobs from outside, at any time. -/
def Action.Outer : Action → Prop
  | .arrived _ _ _ | .calls _ | .uploaderClosed _ => True
  | _ => False

/-- An outer action, or one that such an action leads to. -/
def Action.Light : Action → Prop
  | .arrived _ _ _ | .calls _ | .uploaderClosed _ | .report _ | .startNext => True
  | _ => False

theorem Action.Outer.light {action : Action} (h : action.Outer) : action.Light := by
  cases action <;> trivial

theorem Action.Outer.leads {action next : Action} (h : action.Outer) (hleads : action.Leads next) :
    next.Light := by
  cases hleads with
  | report | startCalled => trivial
  | release hfirst | addFailed hfirst | upload hfirst => rcases hfirst with rfl | rfl <;> exact absurd h id
  | _ => exact absurd h id

theorem Action.Light.not_concludes {action : Action} (h : action.Light) : ¬action.Concludes := by
  cases action <;> first | exact id | exact absurd h id

/-- The drains among tasks are of flushes that were called after this one. -/
def Late (last : Flush) (tasks : List Task) : Prop := ∀ flush, .drain flush ∈ tasks → last.id < flush.id

/-- The drains behind that of this flush are of flushes that were called after it. -/
def Behind (last : Flush) (tasks : List Task) : Prop :=
  ∀ before after, tasks = before ++ .drain last :: after → Late last after

variable {last : Flush} {tasks more : List Task} {task : Task}

theorem Late.nil : Late last [] := fun _ hmem => absurd hmem List.not_mem_nil

theorem Late.append (h : Late last tasks) (hmore : Late last more) : Late last (tasks ++ more) :=
  fun flush hmem => (List.mem_append.1 hmem).elim (h flush) (hmore flush)

theorem Late.subset (h : Late last tasks) (hsubset : more ⊆ tasks) : Late last more :=
  fun flush hmem => h flush (hsubset hmem)

theorem Late.singleton {flush : Flush} (h : last.id < flush.id) : Late last [.drain flush] := by
  intro other hmem
  obtain rfl := Task.drain.inj (List.mem_singleton.1 hmem)
  exact h

theorem Behind.append (h : Behind last tasks) (hmore : Late last more) : Behind last (tasks ++ more) := by
  intro before after heq
  rcases List.append_eq_append_iff.1 heq with ⟨rest, -, hrest⟩ | ⟨rest, htasks, hafter⟩
  · have hmem : .drain last ∈ more := by rw [hrest]; simp
    exact absurd (hmore last hmem) (Nat.lt_irrefl _)
  · cases rest with
    | nil =>
      have hmem : .drain last ∈ more := by rw [← List.nil_append more, ← hafter]; exact List.mem_cons_self
      exact absurd (hmore last hmem) (Nat.lt_irrefl _)
    | cons first rest =>
      obtain ⟨rfl, rfl⟩ := List.cons.inj hafter
      exact (h before rest htasks).append hmore

theorem Behind.suffix (h : Behind last tasks) (hsuffix : more <:+ tasks) : Behind last more := by
  obtain ⟨front, rfl⟩ := hsuffix
  exact fun before after heq => h (front ++ before) after (by rw [heq, List.append_assoc])

/-- The drain itself is among the tasks only as what was put there last. -/
theorem Behind.of_not_mem (h : .drain last ∉ tasks) (hmore : more = [] ∨ more = [.drain last]) :
    Behind last (tasks ++ more) := by
  intro before after heq
  rcases hmore with rfl | rfl
  · exact absurd (by rw [← List.append_nil tasks, heq]; simp) h
  · rcases concat_eq_split.1 heq with ⟨-, -, rfl⟩ | ⟨rest, -, rfl⟩
    · exact .nil
    · exact absurd (by simp) h

theorem Trace.mem_executed {trace : List Effect} : task ∈ executed trace ↔ .executed task ∈ trace := by
  rw [executed, List.mem_filterMap]
  constructor
  · rintro ⟨effect, heffect, htask⟩
    cases effect with
    | executed other => rwa [← Option.some.inj htask]
    | _ => cases htask
  · exact fun h => ⟨_, h, rfl⟩

namespace Consumer

open Trace

variable {fresh : Aggregation} {ended : List (Nat × Outcome)} {uploaded : List Drained}
  {trace effects : List Effect} {active active' : List Action} {action : Action} {consumer other third : Consumer}

/-! The queue -/

theorem startTask_tasks (consumer : Consumer) :
    (consumer.queue.toList = [] ∧ consumer.startTask = (consumer, [])) ∨
      ∃ task rest, consumer.queue.toList = task :: rest ∧ consumer.startTask.1.queue.toList = rest ∧
        consumer.startTask.2 = [.executed task] := by
  unfold startTask
  cases hpop : consumer.queue.pop? with
  | none => exact Or.inl ⟨(Fifo.pop?_eq_none_iff _).1 hpop, rfl⟩
  | some popped =>
    obtain ⟨(collection | message) | flush, queue⟩ := popped <;>
      exact Or.inr ⟨_, _, Fifo.toList_of_pop? hpop, rfl, rfl⟩

theorem startTask_queue (consumer : Consumer) :
    consumer.startTask.1.queue.toList <:+ consumer.queue.toList := by
  rcases startTask_tasks consumer with ⟨-, heq⟩ | ⟨task, rest, hqueue, hrest, -⟩
  · rw [heq]
  · rw [hqueue, hrest]
    exact List.suffix_cons _ _

/-- A job takes tasks from the front of the queue, or all of them. -/
theorem perform_queue (consumer : Consumer) (hrecheck : ∀ flush, action ≠ .recheck flush)
    (hcalls : ∀ calls, action ≠ .calls calls) :
    (consumer.perform action).1.queue.toList <:+ consumer.queue.toList := by
  have hsame : ∀ {next : Consumer}, next.queue = consumer.queue → next.queue.toList <:+ consumer.queue.toList :=
    fun heq => heq ▸ List.suffix_rfl
  cases action with
  | startNext =>
    rw [perform]
    split_ifs
    · exact List.suffix_rfl
    · exact startTask_queue consumer
  | release => exact startTask_queue { consumer with running := false }
  | race finished =>
    rw [perform]
    rcases race_cases consumer finished with heq | ⟨closing, -, heq⟩
    · exact hsame (by rw [heq])
    · exact hsame (by rw [heq]; rfl)
  | clearTimeout finished => exact hsame rfl
  | finishClose finished =>
    obtain ⟨queue, closing, heq, rfl | rfl, -⟩ := finishClose_state consumer finished
    · exact hsame (by rw [perform, heq])
    · rw [perform, heq]
      exact List.nil_suffix
  | recheck flush => exact absurd rfl (hrecheck flush)
  | calls calls => exact absurd rfl (hcalls calls)
  | _ => exact hsame (SameCore.perform_of_not_steers consumer rfl hcalls id).queue

/-- Only the drains of later flushes have been put into the queue. -/
structure Grows (last : Flush) (consumer other : Consumer) : Prop where
  queue : ∃ more, other.queue.toList = consumer.queue.toList ++ more ∧ Late last more
  running : other.running = consumer.running

namespace Grows

theorem of_eq (hqueue : other.queue = consumer.queue) (hrunning : other.running = consumer.running) :
    Grows last consumer other :=
  ⟨⟨[], by rw [hqueue, List.append_nil], .nil⟩, hrunning⟩

theorem trans (h : Grows last consumer other) (h' : Grows last other third) : Grows last consumer third := by
  obtain ⟨more, hmore, hlate⟩ := h.queue
  obtain ⟨more', hmore', hlate'⟩ := h'.queue
  exact ⟨⟨more ++ more', by rw [hmore', hmore, List.append_assoc], hlate.append hlate'⟩,
    h'.running.trans h.running⟩

end Grows

theorem beginFlush_tasks (consumer : Consumer) (flush : Flush) :
    (∃ more, (consumer.beginFlush flush).1.queue.toList = consumer.queue.toList ++ more ∧
      (more = [] ∨ more = [.drain flush])) ∧
    (consumer.beginFlush flush).1.running = consumer.running ∧
    (consumer.beginFlush flush).1.nextFlush = consumer.nextFlush := by
  unfold beginFlush
  split_ifs
  · exact ⟨⟨[], by simp⟩, rfl, rfl⟩
  · exact ⟨⟨[.drain flush], by simp [enqueue, later]⟩, rfl, rfl⟩

theorem flush_tasks (consumer : Consumer) (origin : FlushOrigin) :
    (∃ more, (consumer.flush origin).1.queue.toList = consumer.queue.toList ++ more ∧
      (more = [] ∨ more = [.drain ⟨consumer.nextFlush, origin⟩])) ∧
    (consumer.flush origin).1.running = consumer.running ∧
    (consumer.flush origin).1.nextFlush = consumer.nextFlush + 1 := by
  rw [flush_eq]
  exact beginFlush_tasks { consumer with nextFlush := consumer.nextFlush + 1 } ⟨consumer.nextFlush, origin⟩

/-- A call on a closed consumer flushes for a user, or does nothing that matters here. -/
theorem call_grows (hclosed : consumer.closed = true) (hnext : last.id < consumer.nextFlush) (call : Call) :
    Grows last consumer (consumer.call call).1 ∧ last.id < (consumer.call call).1.nextFlush ∧
      ∀ flush, .flushCalled flush ∈ (consumer.call call).2 →
        last.id < flush.id ∧ flush.origin = .manual := by
  cases call with
  | publish submission =>
    rw [call, publish, if_pos hclosed]
    exact ⟨.of_eq rfl rfl, hnext, by simp⟩
  | flush =>
    obtain ⟨⟨more, hmore, hcases⟩, hrunning, hcount⟩ := flush_tasks consumer .manual
    rw [call]
    refine ⟨⟨⟨more, hmore, ?_⟩, hrunning⟩, hcount ▸ Nat.lt_succ_of_lt hnext, fun flush hmem => ?_⟩
    · rcases hcases with rfl | rfl
      · exact .nil
      · exact .singleton hnext
    · rcases flush_effects consumer .manual _ hmem with heq | heq
      · obtain rfl := Effect.flushCalled.inj heq
        exact ⟨hnext, rfl⟩
      · cases heq
  | close =>
    rw [call, close_of_closed hclosed]
    exact ⟨.of_eq rfl rfl, hnext, by simp⟩

theorem callAll_grows (hclosed : consumer.closed = true) (hnext : last.id < consumer.nextFlush)
    (calls : List Call) : Grows last consumer (consumer.callAll calls).1 ∧
      ∀ flush, .flushCalled flush ∈ (consumer.callAll calls).2 →
        last.id < flush.id ∧ flush.origin = .manual := by
  induction calls generalizing consumer with
  | nil => exact ⟨.of_eq rfl rfl, fun flush hmem => absurd hmem List.not_mem_nil⟩
  | cons first rest ih =>
    obtain ⟨hfirst, hcount, hcalled⟩ := call_grows hclosed hnext first
    obtain ⟨hrest, hlater⟩ := ih (call_closed hclosed first) hcount
    exact ⟨hfirst.trans hrest, fun flush hmem => (List.mem_append.1 hmem).elim (hcalled flush) (hlater flush)⟩

/-! Events from outside -/

/-- An event that at most puts an outer action behind the jobs. -/
def Event.Outer : Event → Prop
  | .defer _ | .clock _ | .settle _ _ | .uploaderClosed _ => True
  | _ => False

/-- Where only outer actions came, the queue and the flushes that wait for room are as they were. -/
structure Undisturbed (consumer other : Consumer) : Prop where
  adds : Adds Action.Outer consumer other
  queue : other.queue = consumer.queue
  running : other.running = consumer.running
  waiting : other.waiting = consumer.waiting

namespace Undisturbed

theorem refl (consumer : Consumer) : Undisturbed consumer consumer := ⟨.refl _ consumer, rfl, rfl, rfl⟩

theorem later (h : Undisturbed consumer other) (delay : Nat) (haction : action.Outer) :
    Undisturbed consumer (other.later delay action) :=
  ⟨h.adds.later delay haction, h.queue, h.running, h.waiting⟩

theorem light (h : Undisturbed consumer other) : Adds Action.Light consumer other := by
  obtain ⟨new, hnew, houter⟩ := h.adds
  exact ⟨new, hnew, fun job hjob => (houter job hjob).light⟩

theorem grows (h : Undisturbed consumer other) : Grows last consumer other := .of_eq h.queue h.running

end Undisturbed

theorem step_outer (consumer : Consumer) {event : Event} (h : event.Outer) :
    (consumer.step event).2 = [] ∧ Undisturbed consumer (consumer.step event).1 := by
  cases event with
  | defer calls => exact ⟨rfl, (Undisturbed.refl consumer).later 0 trivial⟩
  | clock now => exact ⟨rfl, .of_jobs_eq rfl, rfl, rfl, rfl⟩
  | settle id outcome =>
    have hsettled : Undisturbed consumer
        { consumer with unsettled := consumer.unsettled.filter (· ≠ id) } :=
      ⟨.of_jobs_eq rfl, rfl, rfl, rfl⟩
    refine ⟨rfl, ?_⟩
    rw [step]
    rcases settle_cases consumer id outcome with heq | heq | ⟨batch, -, index, heq⟩
    · rw [heq]
      exact .refl consumer
    · rw [heq]
      exact hsettled
    · rw [heq]
      exact hsettled.later 0 trivial
  | uploaderClosed outcome =>
    refine ⟨rfl, ?_⟩
    rw [step]
    rcases endUploaderClose_cases consumer outcome with heq | ⟨closing, -, heq⟩
    · rw [heq]
      exact .refl consumer
    · have hended : Undisturbed consumer
          { consumer with closing := some { closing with awaitsUploader := false } } :=
        ⟨.of_jobs_eq rfl, rfl, rfl, rfl⟩
      rw [heq]
      exact hended.later 0 trivial
  | _ => exact absurd h id

/-! A flush that was woken -/

/-- While a flush looks for room, no task is running and nothing but outer actions is to be done. -/
def Alone (consumer : Consumer) : Prop :=
  ∀ flush rest, consumer.jobs.toList = ⟨0, .recheck flush⟩ :: rest →
    consumer.running = false ∧ ∀ job ∈ rest, job.action.Outer

namespace Alone

theorem of_none (h : ∀ job ∈ consumer.jobs.toList, job.action.recheck? = none) : Alone consumer := by
  intro flush rest hjobs
  have hnone := h ⟨0, .recheck flush⟩ (hjobs ▸ List.mem_cons_self)
  cases hnone

/-- Where there was no job, the new ones are enough to look at. -/
theorem of_adds (hjobs : consumer.jobs.toList = []) (hadds : Adds (·.recheck? = none) consumer other) :
    Alone other := by
  obtain ⟨new, hnew, hkind⟩ := hadds
  refine of_none ?_
  rwa [hnew, hjobs]

theorem undisturbed (h : Alone consumer) (hother : Undisturbed consumer other) : Alone other := by
  obtain ⟨new, hnew, houter⟩ := hother.adds
  intro flush rest heq
  rw [hnew] at heq
  rw [hother.running]
  rcases List.append_eq_cons_iff.1 heq with ⟨-, hhead⟩ | ⟨former, hformer, rfl⟩
  · exact absurd (houter ⟨0, .recheck flush⟩ (hhead ▸ List.mem_cons_self)) id
  · obtain ⟨hidle, hrest⟩ := h flush former hformer
    exact ⟨hidle, List.forall_mem_append.2 ⟨hrest, houter⟩⟩

theorem step (hflow : Flow fresh trace uploaded [] consumer) (hwoken : Woken consumer) (h : Alone consumer)
    {event : Event} (henabled : consumer.Enabled event) : Alone (consumer.step event).1 := by
  have hstart : Action.startNext.recheck? = none := rfl
  have houter : event.Outer → Alone (consumer.step event).1 := fun houter =>
    h.undisturbed (step_outer consumer houter).2
  cases event with
  | turn calls => exact of_adds henabled (callAll_adds consumer calls hstart)
  | job => exact of_none hwoken.none_of_runJob
  | wake =>
    have hidle : consumer.running = false := by
      by_contra hrunning
      have hrelease := hflow.running (Bool.eq_true_of_not_eq_false hrunning)
      rw [actions, henabled.1] at hrelease
      cases hrelease
    rw [Consumer.step]
    rcases wake_cases consumer with ⟨-, heq⟩ | ⟨flush, waiting, -, heq⟩
    · rwa [heq]
    · rw [heq]
      intro other rest hjobs
      rw [jobs_later, henabled.1] at hjobs
      obtain ⟨-, rfl⟩ := List.cons.inj hjobs
      exact ⟨hidle, List.forall_mem_nil _⟩
  | fire =>
    rw [Consumer.step]
    rcases fire_cases consumer with heq | ⟨_, -, heq⟩ | ⟨_, -, heq⟩
    · rwa [heq]
    · rw [heq]
      refine of_adds ?_ (flush_adds _ .scheduled hstart)
      exact henabled.1
    · have hoff : Adds (·.recheck? = none) consumer { consumer with timer := .off } := .of_jobs_eq rfl
      rw [heq]
      exact of_adds henabled.1 (hoff.later 0 rfl)
  | _ => exact houter trivial

end Alone

theorem Run.alone (hfresh : fresh.Empties) {options : ConsumerOptions} {now : Binary64}
    (h : Run (Consumer.create options fresh now) trace consumer) : Alone consumer := by
  induction h with
  | start => exact .of_none fun _ hmem => absurd hmem List.not_mem_nil
  | step hrun event henabled ih =>
    obtain ⟨ended, uploaded, hinvariant⟩ := hrun.invariant hfresh
    exact ih.step hinvariant.flow (hrun.woken hfresh) henabled

/-- A flush that waited has found room in an empty queue: its drain is the next task, and it is started before
any job that could come of those in front. -/
structure Found (last : Flush) (consumer : Consumer) : Prop where
  idle : consumer.running = false
  queue : ∃ flush rest, consumer.queue.toList = .drain flush :: rest ∧ Late last rest
  jobs : ∃ before after, consumer.jobs.toList = before ++ ⟨0, .startNext⟩ :: after ∧
    (∀ job ∈ before, job.action.Outer) ∧ ∀ job ∈ after, job.action.Light

namespace Found

theorem jobs_ne_nil (h : Found last consumer) : consumer.jobs.toList ≠ [] := by
  obtain ⟨before, after, hjobs, -⟩ := h.jobs
  rw [hjobs]
  simp

theorem light (h : Found last consumer) : ∀ action ∈ actions [] consumer, action.Light := by
  obtain ⟨before, after, hjobs, houter, hlight⟩ := h.jobs
  intro action haction
  obtain ⟨job, hjob, rfl⟩ := List.mem_map.1 haction
  rw [hjobs] at hjob
  rcases List.mem_append.1 hjob with hjob | hjob
  · exact (houter job hjob).light
  · rcases List.mem_cons.1 hjob with rfl | hjob
    · trivial
    · exact hlight job hjob

theorem grows (h : Found last consumer) (hgrows : Grows last consumer other)
    (hadds : Adds Action.Light consumer other) : Found last other := by
  obtain ⟨flush, rest, hqueue, hlate⟩ := h.queue
  obtain ⟨more, hmore, hlater⟩ := hgrows.queue
  obtain ⟨before, after, hjobs, houter, hlight⟩ := h.jobs
  obtain ⟨new, hnew, hkind⟩ := hadds
  refine ⟨hgrows.running.trans h.idle, ⟨flush, rest ++ more, ?_, hlate.append hlater⟩,
    ⟨before, after ++ new, ?_, houter, List.forall_mem_append.2 ⟨hlight, hkind⟩⟩⟩
  · rw [hmore, hqueue, List.cons_append]
  · rw [hnew, hjobs, List.append_assoc, List.cons_append]

/-- The next job starts the drain, or is an outer one. -/
theorem pop (h : Found last consumer) {job : Job} {jobs : Fifo Job}
    (hpop : consumer.jobs.pop? = some (job, jobs)) :
    job = ⟨0, .startNext⟩ ∨ job.action.Outer ∧ Found last { consumer with jobs } := by
  obtain ⟨before, after, hjobs, houter, hlight⟩ := h.jobs
  rw [Fifo.toList_of_pop? hpop] at hjobs
  cases before with
  | nil => exact Or.inl (List.cons.inj hjobs).1
  | cons first before =>
    obtain ⟨rfl, hrest⟩ := List.cons.inj hjobs
    obtain ⟨hfirst, hbefore⟩ := List.forall_mem_cons.1 houter
    exact Or.inr ⟨hfirst, h.idle, h.queue, before, after, hrest, hbefore, hlight⟩

end Found

/-! The shutdown -/

/-- How a closed consumer keeps all drains but late ones from being queued at the end of its shutdown. -/
inductive Phase (last : Flush) (trace : List Effect) (active : List Action) (consumer : Consumer) : Prop where
  /-- Only late drains are queued. -/
  | late (h : Late last consumer.queue.toList)
  /-- The final drain is still to be executed, and the shutdown waits. -/
  | waits (hexecuted : .drain last ∉ executed trace) (hbehind : Behind last consumer.queue.toList)
    (hjobs : ∀ action ∈ actions active consumer, ¬action.Concludes)
  /-- The drain of a flush that waited is about to be started. -/
  | found (hactive : ∀ action ∈ active, action.Outer) (h : Found last consumer)

namespace Phase

/-- At the end of a shutdown only late drains are queued. -/
theorem late_of_concludes (h : Phase last trace [] consumer) (hmem : action ∈ actions [] consumer)
    (hconcludes : action.Concludes) : Late last consumer.queue.toList := by
  cases h with
  | late hlate => exact hlate
  | waits _ _ hjobs => exact absurd hconcludes (hjobs action hmem)
  | found _ hfound => exact absurd hconcludes (hfound.light action hmem).not_concludes

/-- Outer actions can come at any time, and late drains can be put behind. -/
theorem grows (h : Phase last trace active consumer) (hgrows : Grows last consumer other)
    (hadds : Adds Action.Light consumer other) (heffects : ∀ task, .executed task ∉ effects) :
    Phase last (trace ++ effects) active other := by
  obtain ⟨more, hmore, hlater⟩ := hgrows.queue
  cases h with
  | late hlate =>
    refine .late ?_
    rw [hmore]
    exact hlate.append hlater
  | waits hexecuted hbehind hjobs =>
    refine .waits ?_ ?_ fun action haction => ?_
    · rw [mem_executed] at hexecuted ⊢
      exact List.not_mem_append hexecuted (heffects _)
    · rw [hmore]
      exact hbehind.append hlater
    · exact (hadds.cases haction).elim (hjobs action) Action.Light.not_concludes
  | found hactive hfound => exact .found hactive (hfound.grows hgrows hadds)

theorem finish (h : Phase last trace active consumer) : Phase last trace [] consumer := by
  cases h with
  | late hlate => exact .late hlate
  | waits hexecuted hbehind hjobs =>
    exact .waits hexecuted hbehind fun action haction => hjobs action (List.mem_append_right _ haction)
  | found _ hfound => exact .found (List.forall_mem_nil _) hfound

theorem callAll (h : Phase last trace active consumer) (hclosed : consumer.closed = true)
    (hnext : last.id < consumer.nextFlush) (calls : List Call) :
    Phase last (trace ++ (consumer.callAll calls).2) active (consumer.callAll calls).1 :=
  h.grows (callAll_grows hclosed hnext calls).1 (callAll_adds consumer calls trivial)
    fun _ hmem => callAll_ofCall consumer calls _ hmem

/-- A flush that looks for room in an empty queue finds it, or waits on. -/
theorem recheck (hqueue : consumer.queue.toList = []) (hidle : consumer.running = false)
    (hjobs : ∀ job ∈ consumer.jobs.toList, job.action.Outer) (flush : Flush) :
    Phase last trace [] (consumer.beginFlush flush).1 := by
  unfold beginFlush
  split_ifs
  · exact .late (hqueue ▸ .nil)
  · refine .found (List.forall_mem_nil _) ⟨hidle, ⟨flush, [], ?_, .nil⟩,
      ⟨consumer.jobs.toList, [], ?_, hjobs, List.forall_mem_nil _⟩⟩
    · show (consumer.queue.push (.drain flush)).toList = _
      rw [Fifo.toList_push, hqueue]
      rfl
    · exact jobs_later _ 0 .startNext

/-- The next task is started while the shutdown waits, be it the final drain. -/
theorem startTask (hexecuted : .drain last ∉ executed trace) (hbehind : Behind last consumer.queue.toList)
    (hjobs : ∀ action ∈ actions [] consumer, ¬action.Concludes) :
    Phase last (trace ++ consumer.startTask.2) [] consumer.startTask.1 := by
  rcases startTask_tasks consumer with ⟨-, heq⟩ | ⟨task, rest, hqueue, hrest, heffects⟩
  · rw [heq, List.append_nil]
    exact .waits hexecuted hbehind hjobs
  · rw [hqueue] at hbehind
    by_cases htask : task = .drain last
    · refine .late ?_
      rw [hrest]
      exact hbehind [] rest (by rw [htask, List.nil_append])
    · refine .waits ?_ (hrest ▸ hbehind.suffix (List.suffix_cons _ _)) fun action haction => ?_
      · rw [heffects, executed_append]
        exact List.not_mem_append hexecuted fun hmem => htask (List.mem_singleton.1 hmem).symm
      · have hadds : Adds (¬·.Concludes) consumer consumer.startTask.1 :=
          startTask_adds consumer id (fun _ => id) fun _ _ => id
        exact (hadds.cases haction).elim (hjobs action) id

/-- Where the shutdown waits for the final flush, a flush that has ended does not end the wait. -/
theorem waited_not_concludes {flush : Flush} (hsound : Sound trace uploaded [.waited flush] consumer)
    (hlast : LastFlush trace [.waited flush] consumer last) (hexecuted : .drain last ∉ executed trace)
    (hjobs : ∀ action ∈ actions [] consumer, ¬action.Concludes) :
    ∀ action ∈ actions [] (consumer.waited flush), ¬action.Concludes := by
  have hended : .drain flush ∈ executed trace := hsound.jobs _ List.mem_cons_self
  have hne : last ≠ flush := by
    rintro rfl
    exact hexecuted hended
  rcases waited_cases consumer flush with ⟨-, heq⟩ | ⟨closing, hclosing, heq | ⟨hnone, -⟩⟩
  · rwa [heq]
  · rwa [heq]
  · have hwaits := (hlast.closing closing hclosing).resolve_right hexecuted
    have hmem : last ∈ closing.waitingFor.filter (· ≠ flush) :=
      List.mem_filter.2 ⟨hwaits, decide_eq_true hne⟩
    rw [hnone] at hmem
    cases hmem

/-- Only what ends the wait of a shutdown leads to its end. -/
theorem leads_not_concludes {next : Action} (h : action.Leads next) (haction : ¬action.Concludes)
    (hwaited : ∀ flush, action ≠ .waited flush) : ¬next.Concludes := by
  cases h with
  | allWaited flush => exact absurd rfl (hwaited flush)
  | race | clearTimeout | finishClose => exact absurd trivial haction
  | _ => exact id

theorem perform (hsound : Sound trace uploaded [action] consumer)
    (hlast : LastFlush trace [action] consumer last) (hclosed : consumer.closed = true)
    (hrecheck : ∀ flush, action = .recheck flush → consumer.queue.toList = [] ∧ consumer.running = false ∧
      ∀ job ∈ consumer.jobs.toList, job.action.Outer)
    (h : Phase last trace [action] consumer) :
    Phase last (trace ++ (consumer.perform action).2) [] (consumer.perform action).1 := by
  by_cases hlooks : ∃ flush, action = .recheck flush
  · obtain ⟨flush, rfl⟩ := hlooks
    obtain ⟨hqueue, hidle, hjobs⟩ := hrecheck flush rfl
    exact recheck hqueue hidle hjobs flush
  by_cases hcalls : ∃ calls, action = .calls calls
  · obtain ⟨calls, rfl⟩ := hcalls
    exact h.finish.callAll hclosed (hsound.fresh last (hsound.begun.called last hlast.begun)) calls
  have hlooks : ∀ flush, action ≠ .recheck flush := fun flush heq => hlooks ⟨flush, heq⟩
  have hcalls : ∀ calls, action ≠ .calls calls := fun calls heq => hcalls ⟨calls, heq⟩
  have hqueue := perform_queue consumer hlooks hcalls
  have hadds := perform_adds consumer action
  have heffects : action ≠ .startNext → action ≠ .release →
      ∀ task, .executed task ∉ (consumer.perform action).2 := by
    intro hstart hrelease task hmem
    cases perform_shows consumer action _ hmem with
    | executed hstarts => exact hstarts.elim hstart hrelease
    | calls calls => exact hcalls calls rfl
  cases h with
  | late hlate => exact .late (hlate.subset hqueue.subset)
  | waits hexecuted hbehind hjobs =>
    have haction : ¬action.Concludes := hjobs action List.mem_cons_self
    have hrest : ∀ other ∈ actions [] consumer, ¬other.Concludes :=
      fun other hother => hjobs other (List.mem_cons_of_mem _ hother)
    have hother : action ≠ .startNext → action ≠ .release →
        (∀ other ∈ actions [] (consumer.perform action).1, ¬other.Concludes) →
        Phase last (trace ++ (consumer.perform action).2) [] (consumer.perform action).1 := by
      intro hstart hrelease hnext
      refine .waits ?_ (hbehind.suffix hqueue) hnext
      rw [mem_executed] at hexecuted ⊢
      exact List.not_mem_append hexecuted (heffects hstart hrelease _)
    cases action with
    | startNext =>
      rw [Consumer.perform]
      split_ifs
      · rw [List.append_nil]
        exact .waits hexecuted hbehind hrest
      · exact startTask hexecuted hbehind hrest
    | release => exact startTask hexecuted hbehind hrest
    | waited flush =>
      exact hother (by simp) (by simp) (waited_not_concludes hsound hlast hexecuted hrest)
    | _ =>
      refine hother (by simp) (by simp) fun other hmem => ?_
      exact (hadds.cases hmem).elim (hrest other) fun hleads => leads_not_concludes hleads haction (by simp)
  | found hactive hfound =>
    have houter : action.Outer := hactive action List.mem_cons_self
    obtain ⟨new, hnew, hkind⟩ := hadds
    have hsame : SameCore consumer (consumer.perform action).1 := by
      refine .perform_of_not_steers consumer ?_ hcalls ?_
      · cases action <;> first | rfl | exact absurd houter id
      · cases action <;> first | exact id | exact absurd houter id
    have hstarts : action ≠ .startNext ∧ action ≠ .release := by
      constructor <;> (rintro rfl; exact houter)
    have hfinished : Phase last trace [] consumer := .found (List.forall_mem_nil _) hfound
    exact hfinished.grows (.of_eq hsame.queue hsame.running)
      ⟨new, hnew, fun job hjob => houter.leads (hkind job hjob)⟩ (heffects hstarts.1 hstarts.2)

/-- A job that is put back, or done. -/
theorem runJob (hinvariant : Invariant fresh ended trace uploaded consumer)
    (hlast : LastFlush trace [] consumer last) (hwoken : Woken consumer) (halone : Alone consumer)
    (hclosed : consumer.closed = true) (h : Phase last trace [] consumer) :
    Phase last (trace ++ consumer.runJob.2) [] consumer.runJob.1 := by
  rcases runJob_cases consumer with ⟨-, heq⟩ | ⟨delay, action, jobs, hpop, heq⟩ | ⟨action, jobs, hpop, heq⟩
  · rwa [heq, List.append_nil]
  · rw [heq, List.append_nil]
    cases h with
    | late hlate => exact .late hlate
    | waits hexecuted hbehind hjobs =>
      exact .waits hexecuted hbehind fun other hother => hjobs other ((actions_rotate hpop).mem_iff.1 hother)
    | found _ hfound =>
      obtain ⟨houter, hrest⟩ := (hfound.pop hpop).resolve_left fun hstart =>
        absurd (congrArg Job.delay hstart) (Nat.succ_ne_zero delay)
      exact .found (List.forall_mem_nil _)
        (hrest.grows (.of_eq rfl rfl) ((Adds.refl _ _).later delay houter.light))
  · rw [heq]
    have hperform : Phase last trace [action] { consumer with jobs } →
        Phase last (trace ++ (({ consumer with jobs }).perform action).2) []
          (({ consumer with jobs }).perform action).1 := by
      refine perform (hinvariant.sound.pop hpop) (hlast.perm rfl rfl (.of_eq (actions_pop hpop))) hclosed ?_
      rintro flush rfl
      have hjobs := Fifo.toList_of_pop? hpop
      obtain ⟨hidle, houter⟩ := halone flush jobs.toList hjobs
      exact ⟨(hwoken.head _ _ hjobs flush rfl).2, hidle, houter⟩
    cases h with
    | late hlate => exact hperform (.late hlate)
    | waits hexecuted hbehind hjobs =>
      exact hperform (.waits hexecuted hbehind fun other hother => hjobs other (actions_pop hpop ▸ hother))
    | found _ hfound =>
      rcases hfound.pop hpop with hstart | ⟨houter, hrest⟩
      · -- the drain is started, and what is left was queued behind it
        obtain rfl : action = .startNext := congrArg Job.action hstart
        obtain ⟨flush, rest, hqueue, hlate⟩ := hfound.queue
        have hpopped : ({ consumer with jobs }).queue.toList = .drain flush :: rest := hqueue
        rw [Consumer.perform, if_neg (by simp [hfound.idle])]
        rcases startTask_tasks { consumer with jobs } with ⟨hnone, -⟩ | ⟨task, tasks, htasks, hrest, -⟩
        · rw [hpopped] at hnone
          cases hnone
        · rw [hpopped] at htasks
          refine .late ?_
          rw [hrest, ← (List.cons.inj htasks).2]
          exact hlate
      · exact hperform (.found (List.forall_mem_singleton.2 houter) hrest)

theorem step (hinvariant : Invariant fresh ended trace uploaded consumer)
    (hlast : LastFlush trace [] consumer last) (hwoken : Woken consumer) (halone : Alone consumer)
    (hclosed : consumer.closed = true) (hinterval : ∀ since, consumer.timer ≠ .interval since)
    (h : Phase last trace [] consumer) {event : Event} (henabled : consumer.Enabled event) :
    Phase last (trace ++ (consumer.step event).2) [] (consumer.step event).1 := by
  have hnext : last.id < consumer.nextFlush :=
    hinvariant.sound.fresh last (hinvariant.sound.begun.called last hlast.begun)
  have houter : event.Outer →
      Phase last (trace ++ (consumer.step event).2) [] (consumer.step event).1 := by
    intro houter
    obtain ⟨heffects, hother⟩ := step_outer consumer houter
    refine h.grows hother.grows hother.light fun task => ?_
    rw [heffects]
    exact List.not_mem_nil
  cases event with
  | turn calls => exact h.callAll hclosed hnext calls
  | job => exact h.runJob hinvariant hlast hwoken halone hclosed
  | wake =>
    rw [Consumer.step, List.append_nil]
    rcases wake_cases consumer with ⟨-, heq⟩ | ⟨flush, waiting, -, heq⟩
    · rwa [heq]
    · rw [heq]
      cases h with
      | late hlate => exact .late hlate
      | waits hexecuted hbehind hjobs =>
        refine .waits hexecuted hbehind fun action haction => ?_
        rcases mem_actions_later.1 haction with hold | rfl
        · exact hjobs action hold
        · exact id
      | found _ hfound => exact absurd henabled.1 hfound.jobs_ne_nil
  | fire =>
    rw [Consumer.step]
    rcases fire_cases consumer with heq | ⟨since, hsince, -⟩ | ⟨_, -, heq⟩
    · rwa [heq, List.append_nil]
    · exact absurd hsince (hinterval since)
    · rw [heq]
      refine .late ?_
      show Late last consumer.queue.toList
      rw [hinvariant.flow.queue_eq_nil henabled.1]
      exact .nil
  | _ => exact houter trivial

end Phase

end Consumer
end MetricPipeline
