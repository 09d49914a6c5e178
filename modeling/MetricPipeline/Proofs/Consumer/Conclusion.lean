import MetricPipeline.Proofs.Consumer.Stage

/-! How a shutdown comes to its end. The race that ends its wait is won once. So what follows is done once as
well: an uploader that is owned is closed, and the call of close that began the shutdown is settled, which
comes behind the closing of the uploader. -/

namespace MetricPipeline.Consumer

open Trace

variable {trace : List Effect} {active active' : List Action} {action : Action} {consumer other : Consumer}

/-- Something will end the wait of the shutdown when nothing else does. -/
def Armed (active : List Action) (consumer : Consumer) : Prop :=
  (∃ since, consumer.timer = .timeout since) ∨ .race false ∈ actions active consumer

theorem Armed.mono (h : Armed active consumer) (htimer : other.timer = consumer.timer)
    (hrace : .race false ∈ actions active consumer → .race false ∈ actions active' other) :
    Armed active' other :=
  h.imp (Exists.imp fun _ hsince => htimer.trans hsince) hrace

/-! Counting steps -/

/-- The steps at the end of a shutdown, when some are left and others were taken: a race that was won leads to
one closing of an uploader that is owned, and this one to one settlement. A shutdown that owns none is settled
at once. -/
def Balanced (owns : Bool) (won awaited : Nat) (left taken : Nat × Nat) : Prop :=
  (owns = true → won = left.1 + taken.1 ∧ taken.1 = awaited + left.2 + taken.2) ∧
    (owns = false → won = left.1 + taken.2 ∧ taken.1 = 0 ∧ awaited = 0 ∧ left.2 = 0)

namespace Balanced

variable {owns : Bool} {won awaited : Nat} {left taken : Nat × Nat}

theorem win (h : Balanced owns 0 awaited left taken) : Balanced owns 1 awaited (left + (1, 0)) taken := by
  simp only [Balanced, Prod.fst_add, Prod.snd_add] at h ⊢
  refine ⟨fun howns => ?_, fun howns => ?_⟩
  · have howned := h.1 howns
    omega
  · have hlent := h.2 howns
    omega

theorem close (h : Balanced true 1 awaited (left + (1, 0)) taken) : Balanced true 1 1 left (taken + (1, 0)) := by
  simp only [Balanced, Prod.fst_add, Prod.snd_add] at h ⊢
  have howned := h.1 trivial
  exact ⟨fun _ => by omega, fun hlent => absurd hlent.symm Bool.false_ne_true⟩

theorem settle_of_lent (h : Balanced false 1 awaited (left + (1, 0)) taken) :
    Balanced false 1 awaited left (taken + (0, 1)) := by
  simp only [Balanced, Prod.fst_add, Prod.snd_add] at h ⊢
  have hlent := h.2 trivial
  exact ⟨fun howns => absurd howns Bool.false_ne_true, fun _ => by omega⟩

theorem hear (h : Balanced owns won 1 left taken) : Balanced owns won 0 (left + (0, 1)) taken := by
  simp only [Balanced, Prod.fst_add, Prod.snd_add] at h ⊢
  refine ⟨fun howns => ?_, fun howns => ?_⟩
  · have howned := h.1 howns
    omega
  · have hlent := h.2 howns
    omega

theorem settle (h : Balanced owns won awaited (left + (0, 1)) taken) :
    Balanced owns won awaited left (taken + (0, 1)) := by
  simp only [Balanced, Prod.fst_add, Prod.snd_add] at h ⊢
  refine ⟨fun howns => ?_, fun howns => ?_⟩
  · have howned := h.1 howns
    omega
  · have hlent := h.2 howns
    omega

/-- Nothing is left or taken before the race is won. -/
theorem won_pos (h : Balanced owns won awaited left taken)
    (hpos : 0 < left.1 ∨ 0 < left.2 ∨ 0 < awaited ∨ 0 < taken.1) : 0 < won := by
  cases owns with
  | true =>
    have howned := h.1 rfl
    omega
  | false =>
    have hlent := h.2 rfl
    omega

end Balanced

/-! Invariant -/

/-- What holds of the end of a shutdown: each of its steps is taken once, one after the other. -/
structure Concluding (trace : List Effect) (active : List Action) (consumer : Consumer) : Prop where
  called : ∀ call, .closeCalled call ∈ trace ↔ call < consumer.nextClose
  closed : consumer.closed = true ↔ 0 < consumer.nextClose
  closing : consumer.closing.isSome = consumer.closed
  first : ∀ closing, consumer.closing = some closing → closing.call = 0
  armed : ∀ closing, consumer.closing = some closing → closing.raced = false → Armed active consumer
  balanced : Balanced consumer.options.ownsUploader consumer.racesWon consumer.closesAwaited
    (tally active consumer) (Trace.tally trace)

namespace Concluding

theorem start (options : ConsumerOptions) (aggregation : Aggregation) (now : Binary64) :
    Concluding [] [] (Consumer.create options aggregation now) where
  called _ := by simp [Consumer.create]
  closed := by simp [Consumer.create]
  closing := rfl
  first _ h := by cases h
  armed _ h := by cases h
  balanced := ⟨fun _ => ⟨rfl, rfl⟩, fun _ => ⟨rfl, rfl, rfl, rfl⟩⟩

theorem append_nil (h : Concluding trace active consumer) : Concluding (trace ++ []) active consumer := by
  rwa [List.append_nil]

theorem raced (h : Concluding trace active consumer)
    (hpos : 0 < (tally active consumer).1 ∨ 0 < (tally active consumer).2 ∨ 0 < consumer.closesAwaited ∨
      0 < (Trace.tally trace).1) :
    ∃ closing, consumer.closing = some closing ∧ closing.raced = true :=
  raced_of_racesWon_pos (h.balanced.won_pos hpos)

/-- What is apart from a shutdown changes nothing. -/
theorem frame (h : Concluding trace active consumer) (hsame : SameStage consumer other)
    (htally : tally active' other = tally active consumer)
    (harmed : Armed active consumer → Armed active' other) {effects : List Effect}
    (heffects : ∀ effect ∈ effects, effect.Apart) :
    Concluding (trace ++ effects) active' other := by
  constructor
  case called =>
    intro call
    rw [hsame.nextClose, ← h.called, List.mem_append]
    exact or_iff_left fun hmem => heffects _ hmem
  case closed => rw [hsame.closed, hsame.nextClose, h.closed]
  case closing =>
    rw [hsame.closed, ← h.closing, ← Option.isSome_map (f := Closing.stage), hsame.closing, Option.isSome_map]
  case first =>
    intro closing hclosing
    obtain ⟨closing', hformer, hstage⟩ := hsame.mem hclosing
    exact (congrArg Closing.call hstage).symm.trans (h.first closing' hformer)
  case armed =>
    intro closing hclosing hraced
    obtain ⟨closing', hformer, hstage⟩ := hsame.mem hclosing
    exact harmed (h.armed closing' hformer ((congrArg Closing.raced hstage).trans hraced))
  case balanced =>
    rw [hsame.options, hsame.racesWon, hsame.closesAwaited, htally, tally_append, tally_of_apart heffects,
      add_zero]
    exact h.balanced

theorem silent (h : Concluding trace active consumer) (hsame : SameStage consumer other)
    (htally : tally active' other = tally active consumer)
    (harmed : Armed active consumer → Armed active' other) :
    Concluding trace active' other := by
  have hframed : Concluding (trace ++ []) active' other :=
    h.frame hsame htally harmed (List.forall_mem_nil _)
  rwa [List.append_nil] at hframed

/-- A step at the end of a shutdown, which comes when the race has been won or wins it. -/
theorem advance (h : Concluding trace active consumer) {closing closing' : Closing} {effects : List Effect}
    (hclosing : consumer.closing = some closing) (hnext : other.closing = some closing')
    (hcall : closing'.call = closing.call) (hraced : closing'.raced = true)
    (hoptions : other.options = consumer.options) (hcloses : other.nextClose = consumer.nextClose)
    (hclosed : other.closed = consumer.closed) (heffects : ∀ call, .closeCalled call ∉ effects)
    (hbalanced : Balanced consumer.options.ownsUploader closing.raced.toNat closing.awaitsUploader.toNat
        (tally active consumer) (Trace.tally trace) →
      Balanced consumer.options.ownsUploader 1 closing'.awaitsUploader.toNat (tally active' other)
        (Trace.tally trace + Trace.tally effects)) :
    Concluding (trace ++ effects) active' other := by
  constructor
  case called =>
    intro call
    rw [hcloses, ← h.called, List.mem_append]
    exact or_iff_left (heffects call)
  case closed => rw [hclosed, hcloses, h.closed]
  case closing => rw [hclosed, ← h.closing, hclosing, hnext, Option.isSome_some, Option.isSome_some]
  case first =>
    intro other hother
    rw [hnext] at hother
    obtain rfl := Option.some.inj hother
    exact hcall.trans (h.first closing hclosing)
  case armed =>
    intro other hother hopen
    rw [hnext] at hother
    obtain rfl := Option.some.inj hother
    rw [hraced] at hopen
    cases hopen
  case balanced =>
    have hbefore := h.balanced
    rw [racesWon, closesAwaited, hclosing] at hbefore
    rw [tally_append, racesWon, closesAwaited, hnext, Option.elim_some, Option.elim_some, hraced, hoptions]
    exact hbalanced hbefore

/-! Calls -/

/-- A later call of close is settled at once. -/
theorem close_of_closed (h : Concluding trace active consumer) (hc : consumer.closed = true) :
    Concluding (trace ++ consumer.close.2) active consumer.close.1 := by
  have hpos : 0 < consumer.nextClose := h.closed.1 hc
  have htally : Trace.tally [.closeCalled consumer.nextClose, .closed consumer.nextClose .fulfilled] = 0 := by
    simp [Trace.tally, Effect.tally, hpos.ne']
  rw [Consumer.close_of_closed hc]
  constructor
  case called =>
    intro call
    show _ ↔ call < consumer.nextClose + 1
    rw [List.mem_append, h.called, Nat.lt_succ_iff_lt_or_eq]
    simp
  case closed => exact iff_of_true hc (Nat.succ_pos _)
  case closing => exact h.closing
  case first => exact h.first
  case armed => exact h.armed
  case balanced =>
    rw [tally_append, htally, add_zero]
    exact h.balanced

/-- The first call of close begins the shutdown. -/
theorem close_of_open (h : Concluding trace active consumer) (hc : consumer.closed = false) :
    Concluding (trace ++ consumer.close.2) active consumer.close.1 := by
  have hzero : consumer.nextClose = 0 := by
    refine Nat.eq_zero_of_not_pos fun hpos => ?_
    rw [h.closed.2 hpos] at hc
    cases hc
  have hnone : consumer.closing = none := by
    rw [← Option.not_isSome_iff_eq_none, h.closing, hc]
    exact Bool.false_ne_true
  let closed : Consumer :=
    { consumer with nextClose := consumer.nextClose + 1, closed := true, timer := .off }
  let flushed := closed.flush .final
  have hsame : SameStage closed flushed.1 := flush_sameStage closed .final
  have hnext : flushed.1.nextClose = consumer.nextClose + 1 := hsame.nextClose
  have hleft : tally active flushed.1 = tally active consumer := tally_flush active closed .final
  have hapart : ∀ effect ∈ flushed.2, effect.Apart := flush_apart closed .final
  have htaken : Trace.tally (.closeCalled consumer.nextClose :: flushed.2) = 0 := by
    rw [← List.singleton_append, tally_append, tally_of_apart hapart]
    rfl
  rw [Consumer.close_of_open hc]
  constructor
  case called =>
    intro call
    have hnot : Effect.closeCalled call ∉ flushed.2 := fun hmem => hapart _ hmem
    show _ ↔ call < flushed.1.nextClose
    rw [hnext, List.mem_append, h.called, List.mem_cons, or_iff_left hnot, Nat.lt_succ_iff_lt_or_eq,
      Effect.closeCalled.injEq]
  case closed => exact iff_of_true hsame.closed (hnext.symm ▸ Nat.succ_pos _ : 0 < flushed.1.nextClose)
  case closing => exact hsame.closed.symm
  case first =>
    intro closing hclosing
    obtain rfl := Option.some.inj hclosing
    exact hzero
  case armed => exact fun _ _ _ => Or.inl ⟨_, rfl⟩
  case balanced =>
    have hbefore := h.balanced
    rw [racesWon, closesAwaited, hnone, ← hleft] at hbefore
    rw [tally_append, htaken, add_zero]
    show Balanced flushed.1.options.ownsUploader 0 0 (tally active flushed.1) _
    rw [hsame.options]
    exact hbefore

theorem call (h : Concluding trace active consumer) (call : Call) :
    Concluding (trace ++ (consumer.call call).2) active (consumer.call call).1 := by
  by_cases hcall : call = .close
  · rw [hcall]
    cases hc : consumer.closed with
    | true => exact h.close_of_closed hc
    | false => exact h.close_of_open hc
  · obtain ⟨hsame, htimer, hapart⟩ := call_apart consumer hcall
    have hadds : Adds (· = .startNext) consumer (consumer.call call).1 := call_adds consumer call rfl
    have htally := hadds.tally_eq (by rintro _ rfl; rfl) active
    exact h.frame hsame htally (fun harmed => harmed.mono htimer hadds.mem) hapart

theorem callAll (h : Concluding trace active consumer) (calls : List Call) :
    Concluding (trace ++ (consumer.callAll calls).2) active (consumer.callAll calls).1 := by
  induction calls generalizing trace consumer with
  | nil =>
    show Concluding (trace ++ []) active consumer
    rwa [List.append_nil]
  | cons first rest ih =>
    have hrest := ih (h.call first)
    rwa [List.append_assoc] at hrest

/-! Actions -/

theorem perform_of_apart (h : Concluding trace [action] consumer) (hapart : action.Apart) :
    Concluding (trace ++ (consumer.perform action).2) [] (consumer.perform action).1 := by
  obtain ⟨hsame, htimer, heffects⟩ := perform_apart consumer hapart
  have hne : .race false ≠ action := by
    rintro rfl
    exact hapart
  refine h.frame hsame (tally_perform consumer hapart) (fun harmed => harmed.mono htimer fun hmem => ?_) heffects
  exact (perform_adds consumer action).mem ((List.mem_cons.1 hmem).resolve_left hne)

/-- The first end of the wait wins the race. -/
theorem race {finished : Bool} (h : Concluding trace [.race finished] consumer) :
    Concluding trace [] (consumer.race finished) := by
  have htally : tally [.race finished] consumer = tally [] consumer := tally_active _ consumer
  have hlost : (∀ closing, consumer.closing = some closing → closing.raced = true) →
      Concluding trace [] consumer := by
    intro hraced
    refine ⟨h.called, h.closed, h.closing, h.first, fun closing hclosing hopen => ?_, htally ▸ h.balanced⟩
    rw [hraced closing hclosing] at hopen
    cases hopen
  unfold Consumer.race
  cases hc : consumer.closing with
  | none =>
    refine hlost fun closing hclosing => ?_
    rw [hc] at hclosing
    cases hclosing
  | some closing =>
    dsimp only
    split_ifs with hraced
    · refine hlost fun other hother => ?_
      rw [hc] at hother
      rwa [← Option.some.inj hother]
    · rw [← List.append_nil trace]
      refine h.advance hc rfl rfl rfl rfl rfl rfl (by simp) fun hbefore => ?_
      rw [htally, Bool.eq_false_of_not_eq_true hraced] at hbefore
      rw [tally_later]
      exact hbefore.win

/-- The timer is stopped when it can end the wait no more. -/
theorem clearTimeout {finished : Bool} (h : Concluding trace [.clearTimeout finished] consumer) :
    Concluding trace [] (({ consumer with timer := .off }).later 0 (.finishClose finished)) := by
  have htally : tally [.clearTimeout finished] consumer = tally [] consumer + (1, 0) := tally_active _ consumer
  obtain ⟨closing, hc, hraced⟩ := h.raced (Or.inl (htally ▸ Nat.succ_pos _))
  rw [← List.append_nil trace]
  refine h.advance hc hc rfl hraced rfl rfl rfl (by simp) fun hbefore => ?_
  rw [htally, hraced] at hbefore
  rw [tally_later]
  exact hbefore

/-- An owner closes the uploader, and a shutdown that owns none is settled. -/
theorem finishClose {finished : Bool} (h : Concluding trace [.finishClose finished] consumer) :
    Concluding (trace ++ (consumer.finishClose finished).2) [] (consumer.finishClose finished).1 := by
  have htally : tally [.finishClose finished] consumer = tally [] consumer + (1, 0) := tally_active _ consumer
  obtain ⟨closing, hc, hraced⟩ := h.raced (Or.inl (htally ▸ Nat.succ_pos _))
  obtain ⟨queue, hdiscard, hdiscarded⟩ : ∃ queue, consumer.discard.1 = { consumer with queue } ∧
      ∀ effect ∈ consumer.discard.2, effect.Apart := by
    rcases discard_cases consumer with heq | heq
    · exact ⟨consumer.queue, by rw [heq], by simp [heq]⟩
    · exact ⟨.empty, by rw [heq], by simp [heq, Effect.Apart]⟩
  let before : List Effect := (if finished then [] else
    [.log (.timedOut consumer.options.shutdownTimeoutMs consumer.inFlight.length)]) ++ consumer.discard.2
  have hbefore : ∀ effect ∈ before, effect.Apart := by
    refine List.forall_mem_append.2 ⟨?_, hdiscarded⟩
    split_ifs <;> simp [Effect.Apart]
  have htaken : ∀ last, Trace.tally (before ++ [last]) = last.tally := by
    intro last
    rw [tally_append, tally_of_apart hbefore, zero_add, Trace.tally, List.map_singleton, List.sum_singleton]
  have hcalled : ∀ last, (∀ call, last ≠ .closeCalled call) →
      ∀ call, .closeCalled call ∉ before ++ [last] := by
    intro last hlast call hmem
    rcases List.mem_append.1 hmem with hmem | hmem
    · exact hbefore _ hmem
    · exact hlast call (List.mem_singleton.1 hmem).symm
  rw [finishClose_eq hc, hdiscard]
  dsimp only
  cases howns : consumer.options.ownsUploader with
  | true =>
    refine h.advance hc rfl rfl hraced rfl rfl rfl (hcalled _ (by simp)) fun hbalanced => ?_
    rw [htally, hraced, howns] at hbalanced
    rw [htaken, howns]
    exact hbalanced.close
  | false =>
    refine h.advance hc hc rfl hraced rfl rfl rfl (hcalled _ (by simp)) fun hbalanced => ?_
    rw [htally, hraced, howns] at hbalanced
    rw [htaken, howns, h.first closing hc]
    exact hbalanced.settle_of_lent

/-- The call that began the shutdown is settled as the closing of the uploader ended. -/
theorem uploaderClosed {outcome : Outcome} (h : Concluding trace [.uploaderClosed outcome] consumer) :
    Concluding (trace ++ consumer.uploaderClosed outcome) [] consumer := by
  have htally : tally [.uploaderClosed outcome] consumer = tally [] consumer + (0, 1) := tally_active _ consumer
  obtain ⟨closing, hc, hraced⟩ := h.raced (Or.inr (Or.inl (htally ▸ Nat.succ_pos _)))
  have hsettled : consumer.uploaderClosed outcome = [.closed 0 outcome] := by
    rw [Consumer.uploaderClosed, hc, ← h.first closing hc]
  rw [hsettled]
  refine h.advance hc hc rfl hraced rfl rfl rfl (by simp) fun hbalanced => ?_
  rw [htally, hraced] at hbalanced
  exact hbalanced.settle

theorem perform (h : Concluding trace [action] consumer) :
    Concluding (trace ++ (consumer.perform action).2) [] (consumer.perform action).1 := by
  cases action with
  | race finished => exact h.race.append_nil
  | clearTimeout finished => exact h.clearTimeout.append_nil
  | finishClose finished => exact h.finishClose
  | uploaderClosed outcome => exact h.uploaderClosed
  | calls calls =>
    have htally : tally [.calls calls] consumer = tally [] consumer := tally_active _ consumer
    have hover : Concluding trace [] consumer := by
      refine h.silent ⟨rfl, rfl, rfl, rfl⟩ htally.symm fun harmed => harmed.mono rfl fun hmem => ?_
      exact (List.mem_cons.1 hmem).resolve_left (by simp)
    exact hover.callAll calls
  | _ => exact h.perform_of_apart trivial

/-! Events -/

/-- A change of the jobs that leaves the actions as they are changes nothing. -/
theorem perm (h : Concluding trace active consumer) (hsame : SameStage consumer other)
    (htimer : other.timer = consumer.timer)
    (hactions : (actions active' other).Perm (actions active consumer)) :
    Concluding trace active' other :=
  h.silent hsame (tally_perm hactions) fun harmed => harmed.mono htimer hactions.mem_iff.2

theorem later (h : Concluding trace active consumer) (delay : Nat) (haction : action.tally = 0) :
    Concluding trace active (consumer.later delay action) := by
  refine h.silent ⟨rfl, rfl, rfl, rfl⟩ ?_ fun harmed => harmed.mono rfl fun hmem => ?_
  · rw [tally_later, haction, add_zero]
  · exact mem_actions_later.2 (Or.inl hmem)

theorem wake (h : Concluding trace active consumer) : Concluding trace active consumer.wake := by
  rcases wake_cases consumer with ⟨-, heq⟩ | ⟨flush, waiting, -, heq⟩
  · rwa [heq]
  · rw [heq]
    refine later ?_ 0 rfl
    exact h.perm ⟨rfl, rfl, rfl, rfl⟩ rfl (.refl _)

theorem settle (h : Concluding trace active consumer) (id : Nat) (outcome : Outcome) :
    Concluding trace active (consumer.settle id outcome) := by
  rcases settle_cases consumer id outcome with heq | heq | ⟨batch, -, index, heq⟩
  · rwa [heq]
  · rw [heq]
    exact h.perm ⟨rfl, rfl, rfl, rfl⟩ rfl (.refl _)
  · rw [heq]
    refine later ?_ 0 rfl
    exact h.perm ⟨rfl, rfl, rfl, rfl⟩ rfl (.refl _)

/-- The timeout of a shutdown runs out when it has put the end of the wait into the jobs. -/
theorem fire (h : Concluding trace active consumer) :
    Concluding (trace ++ consumer.fire.2) active consumer.fire.1 := by
  rcases fire_cases consumer with heq | ⟨since, hsince, heq⟩ | ⟨_, -, heq⟩
  · rwa [heq, List.append_nil]
  · let restarted : Consumer :=
      { consumer with timer := .interval consumer.now }
    have hadds : Adds (· = .startNext) restarted (restarted.flush .scheduled).1 := flush_adds restarted _ rfl
    obtain ⟨hoptions, hnext, hclosed, hclosing⟩ := flush_sameStage restarted .scheduled
    rw [heq]
    refine h.frame ⟨hoptions, hnext, hclosed, hclosing⟩ (tally_flush active restarted .scheduled)
      (fun harmed => ?_) (flush_apart restarted .scheduled)
    rcases harmed with ⟨other, hother⟩ | hmem
    · rw [hsince] at hother
      cases hother
    · exact Or.inr (hadds.mem hmem)
  · rw [heq, List.append_nil]
    refine h.silent ⟨rfl, rfl, rfl, rfl⟩ ?_ fun _ => Or.inr (mem_actions_later.2 (Or.inr rfl))
    rw [tally_later]
    rfl

theorem endUploaderClose (h : Concluding trace active consumer) (outcome : Outcome) :
    Concluding trace active (consumer.endUploaderClose outcome) := by
  unfold Consumer.endUploaderClose
  cases hc : consumer.closing with
  | none => exact h
  | some closing =>
    dsimp only
    split_ifs with hawaits
    · have hawaited : consumer.closesAwaited = 1 := by
        rw [closesAwaited, hc, Option.elim_some, hawaits]
        rfl
      obtain ⟨other, hother, hraced⟩ := h.raced (Or.inr (Or.inr (Or.inl (hawaited ▸ Nat.one_pos))))
      rw [hc] at hother
      obtain rfl := Option.some.inj hother
      rw [← List.append_nil trace]
      refine h.advance hc rfl rfl hraced rfl rfl rfl (by simp) fun hbalanced => ?_
      rw [hraced, hawaits] at hbalanced
      rw [tally_later]
      exact hbalanced.hear
    · exact h

theorem step (h : Concluding trace [] consumer) (event : Event) :
    Concluding (trace ++ (consumer.step event).2) [] (consumer.step event).1 := by
  cases event with
  | turn calls => exact h.callAll calls
  | defer calls => exact (h.later 0 rfl).append_nil
  | job =>
    rw [Consumer.step]
    rcases runJob_cases consumer with
      ⟨-, heq⟩ | ⟨delay, action, jobs, hpop, heq⟩ | ⟨action, jobs, hpop, heq⟩
    · rw [heq]
      exact h.append_nil
    · rw [heq]
      exact append_nil (h.perm ⟨rfl, rfl, rfl, rfl⟩ rfl (actions_rotate hpop))
    · rw [heq]
      have hpopped : Concluding trace [action] { consumer with jobs } :=
        h.perm ⟨rfl, rfl, rfl, rfl⟩ rfl (.of_eq (actions_pop hpop))
      exact hpopped.perform
  | wake => exact h.wake.append_nil
  | fire => exact h.fire
  | clock now => exact append_nil (h.perm ⟨rfl, rfl, rfl, rfl⟩ rfl (.refl _))
  | settle id outcome => exact (h.settle id outcome).append_nil
  | uploaderClosed outcome => exact (h.endUploaderClose outcome).append_nil

/-! The closing of the uploader -/

/-- An uploader that is not owned is never closed. -/
theorem closes_of_lent (h : Concluding trace active consumer) (howns : consumer.options.ownsUploader = false) :
    (Trace.tally trace).1 = 0 :=
  (h.balanced.2 howns).2.1

/-- Nothing is closed before close is called. -/
theorem called_of_closes (h : Concluding trace active consumer) (hcloses : 0 < (Trace.tally trace).1) :
    .closeCalled 0 ∈ trace := by
  obtain ⟨closing, hclosing, -⟩ := h.raced (Or.inr (Or.inr (Or.inr hcloses)))
  refine (h.called 0).2 (h.closed.1 ?_)
  rw [← h.closing, hclosing, Option.isSome_some]

/-- When the call that began the shutdown is settled, an uploader that is owned has been closed. -/
theorem closes_of_settled (h : Concluding trace active consumer) (howns : consumer.options.ownsUploader = true)
    {outcome : Outcome} (hsettled : .closed 0 outcome ∈ trace) : (Trace.tally trace).1 = 1 := by
  have hwon := consumer.racesWon_le_one
  have howned := h.balanced.1 howns
  have hpos := tally_settled_pos hsettled
  omega

/-- A shutdown with nothing left to do but for its uploader has closed it. -/
theorem closes_of_rest (h : Concluding trace [] consumer) (howns : consumer.options.ownsUploader = true)
    {call : Nat} (hcalled : .closeCalled call ∈ trace) (hjobs : consumer.jobs.toList = [])
    (htimer : consumer.timer = .off) : (Trace.tally trace).1 = 1 := by
  have hclosed : consumer.closed = true := h.closed.2 (Nat.zero_lt_of_lt ((h.called call).1 hcalled))
  have hnone : actions [] consumer = [] := by rw [actions, hjobs]; rfl
  obtain ⟨closing, hclosing⟩ := Option.isSome_iff_exists.1 (h.closing.trans hclosed)
  have hraced : closing.raced = true := by
    by_contra hopen
    rcases h.armed closing hclosing (Bool.eq_false_of_not_eq_true hopen) with ⟨since, hsince⟩ | hmem
    · rw [htimer] at hsince
      cases hsince
    · rw [hnone] at hmem
      cases hmem
  have hwon := (h.balanced.1 howns).1
  rw [racesWon, hclosing, Option.elim_some, hraced, tally, hnone, List.map_nil, List.sum_nil] at hwon
  have hone : 1 = 0 + (Trace.tally trace).1 := hwon
  omega

end Concluding

theorem Run.concluding {options : ConsumerOptions} {aggregation : Aggregation} {now : Binary64}
    (h : Run (Consumer.create options aggregation now) trace consumer) : Concluding trace [] consumer := by
  induction h with
  | start => exact .start options aggregation now
  | step _ event _ ih => exact ih.step event

end MetricPipeline.Consumer
