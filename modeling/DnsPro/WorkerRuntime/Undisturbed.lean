import DnsPro.Runtime.TimerOrder
import DnsPro.WorkerRuntime.Attended

/-!
# What the operations leave alone

No operation of a worker besides starting and stopping changes whether the channel runs and
what the scheduler accepts, and none of them fails an internal check of the scheduler or of
the timer queue.  `Undisturbed` says so, and `Unsent` that an operation sends no query.

`ended_kept` is about everything that ends queries, in one statement for `handle_datagram`,
`fail_all` and `expire`; `awaitQuery_undisturbed` is about the one operation that sends.
-/

namespace DnsPro.Runtime

namespace TimerQueue

variable {ν : Type} [DecidableEq ν] {timers next third : TimerQueue ν} {node : ν}

/-- No check of the timer queue failed, and its heap is ordered if it was. -/
structure Same (timers next : TimerQueue ν) : Prop where
  failures : next.invariantFailures = timers.invariantFailures
  sorted : timers.Sorted → next.Sorted

omit [DecidableEq ν] in
theorem Same.refl (timers : TimerQueue ν) : Same timers timers := ⟨rfl, id⟩

omit [DecidableEq ν] in
theorem Same.trans (h : Same timers next) (h' : Same next third) : Same timers third :=
  ⟨h'.failures.trans h.failures, fun hsorted => h'.sorted (h.sorted hsorted)⟩

theorem Ok.removeAt_same (h : timers.Ok) {index : Nat}
    (hnode : timers.heap.nodes[index]? = some node) : Same timers (timers.removeAt index) := by
  refine ⟨?_, fun hsorted => hsorted.removeAt h hnode⟩
  unfold TimerQueue.removeAt
  split
  · rfl
  · rfl

theorem Ok.disarm_same (h : timers.Ok) (node : ν) : Same timers (timers.disarm node).2 := by
  cases howner : (timers.registrations node).owner with
  | false =>
    unfold TimerQueue.disarm
    rw [if_pos (.inr howner)]
    exact Same.refl timers
  | true =>
    obtain ⟨index, hindex, hdisarm⟩ := h.disarm_eq howner
    rw [hdisarm]
    exact h.removeAt_same hindex

theorem Ok.arm_same (h : timers.Ok) (node : ν) (deadline : TimePoint)
    (completion allocationFails : Bool) :
    Same timers (timers.arm node deadline completion allocationFails).2 := by
  refine ⟨?_, fun hsorted => hsorted.arm h node deadline completion allocationFails⟩
  unfold arm
  dsimp only
  split_ifs
  all_goals rfl

end TimerQueue

namespace Scheduler

variable {scheduler next : Scheduler} {task : TaskId}

/-- The scheduler accepts what it accepted, no check of it failed, and no exception left
a task. -/
structure Same (scheduler next : Scheduler) : Prop where
  failures : next.invariantFailures = scheduler.invariantFailures := by rfl
  stopRequested : next.stopRequested = scheduler.stopRequested := by rfl
  accepting : next.accepting = scheduler.accepting := by rfl
  exception : ∀ task, (next.tasks task).exception = (scheduler.tasks task).exception := by
    exact fun _ => rfl

/-- It has the same tasks, too, and those at their end stay there. -/
structure Calm (scheduler next : Scheduler) : Prop extends Same scheduler next where
  bound : ∀ task, (next.tasks task).bound = (scheduler.tasks task).bound := by
    exact fun _ => rfl
  final : ∀ task, (scheduler.tasks task).point = .final → (next.tasks task).point = .final := by
    exact fun _ hfinal => hfinal

theorem Calm.trans {third : Scheduler} (h : Calm scheduler next) (h' : Calm next third) :
    Calm scheduler third where
  failures := h'.failures.trans h.failures
  stopRequested := h'.stopRequested.trans h.stopRequested
  accepting := h'.accepting.trans h.accepting
  exception task := (h'.exception task).trans (h.exception task)
  bound task := (h'.bound task).trans (h.bound task)
  final task hfinal := h'.final task (h.final task hfinal)

theorem setTask_calm (scheduler : Scheduler) {promise : TaskPromise}
    (hexception : promise.exception = (scheduler.tasks task).exception)
    (hbound : promise.bound = (scheduler.tasks task).bound)
    (hfinal : (scheduler.tasks task).point = .final → promise.point = .final) :
    Calm scheduler (scheduler.setTask task promise) where
  exception other := by
    by_cases hne : other = task
    · subst hne
      simpa using hexception
    · simp [hne]
  bound other := by
    by_cases hne : other = task
    · subst hne
      simpa using hbound
    · simp [hne]
  final other := by
    by_cases hne : other = task
    · subst hne
      simpa using hfinal
    · simp [hne]

/-- A task that has not ended goes anywhere. -/
theorem setPoint_calm (scheduler : Scheduler) (hpoint : (scheduler.tasks task).point ≠ .final)
    (point : Point) : Calm scheduler (scheduler.setPoint task point) :=
  setTask_calm scheduler rfl rfl fun hfinal => absurd hfinal hpoint

theorem schedule_calm (scheduler : Scheduler) (task : TaskId) :
    Calm scheduler (scheduler.schedule task).2 := by
  have hqueued : Calm scheduler
      (scheduler.setTask task { scheduler.tasks task with queued := true }) :=
    setTask_calm scheduler rfl rfl id
  unfold schedule
  dsimp only
  split_ifs
  all_goals first | exact {} | exact Calm.trans hqueued {}

/-- A new task is bound, or refused, and nothing else changes of the tasks. -/
theorem spawn_same (scheduler : Scheduler) (task : TaskId) :
    Same scheduler (scheduler.spawn task) ∧
      ∀ other, other ≠ task → (scheduler.spawn task).tasks other = scheduler.tasks other := by
  have hcalm := schedule_calm
    (scheduler.setTask task { scheduler.tasks task with bound := true }) task
  unfold spawn
  split
  · exact ⟨{}, fun _ _ => rfl⟩
  · refine ⟨⟨hcalm.failures, hcalm.stopRequested, hcalm.accepting, fun other => ?_⟩,
      fun other hne => ?_⟩
    · refine (hcalm.exception other).trans ?_
      by_cases hne : other = task
      · subst hne
        simp
      · simp [hne]
    unfold schedule
    dsimp only
    split_ifs
    all_goals simp [hne]

theorem Ok.runFront_calm (hok : scheduler.Ok) (h : scheduler.runFront = some next) :
    Calm scheduler next := by
  unfold runFront at h
  split at h
  · cases h
  · rename_i front rest hready
    have hlive := hok.live front ((hok.queued_iff front).mpr (by rw [hready]; exact .head rest))
    have hresumed : Calm scheduler (scheduler.setTask front
        { scheduler.tasks front with queued := false, point := .executing }) :=
      setTask_calm scheduler rfl rfl fun hfinal => absurd hfinal hlive.1
    obtain rfl := Option.some.inj h
    exact hresumed.trans {}

/-- The task that waits for the one that ends can be scheduled. -/
theorem Ok.complete_calm (h : scheduler.Ok) (hpoint : (scheduler.tasks task).point = .executing) :
    Calm scheduler (scheduler.complete task) := by
  have hended : Calm scheduler (scheduler.setPoint task .final) :=
    setPoint_calm scheduler (by rw [hpoint]; decide) .final
  unfold complete
  split
  · exact hended
  · rename_i parent hcontinuation
    obtain ⟨-, next, hresult, -, -⟩ := h.schedule_parent hpoint hcontinuation
    have hcalm := schedule_calm (scheduler.setPoint task .final) parent
    simp only [hresult, if_true] at hcalm ⊢
    exact hended.trans hcalm

end Scheduler

end DnsPro.Runtime

namespace DnsPro.Upstream

open DnsPro.Protocol DnsPro.Runtime

/-! ## The channel -/

namespace UpstreamChannel

/-- No id leads to a start, a stop or a query. -/
structure Quiet (channel next : UpstreamChannel) : Prop where
  running : next.running = channel.running := by rfl
  queriesSent : next.stats.queriesSent = channel.stats.queriesSent := by rfl

variable {channel next third : UpstreamChannel}

theorem Quiet.trans (h : Quiet channel next) (h' : Quiet next third) : Quiet channel third :=
  ⟨h'.running.trans h.running, h'.queriesSent.trans h.queriesSent⟩

theorem insertFreeId_quiet (env : Environment) (channel : UpstreamChannel) (id : UInt16) :
    Quiet channel (channel.insertFreeId env id) := by
  unfold insertFreeId
  dsimp only
  split
  · exact {}
  · exact {}

theorem releaseId_quiet (env : Environment) (channel : UpstreamChannel) (id : UInt16)
    (now : TimePoint) (quarantine : Bool) :
    Quiet channel (channel.releaseId env id now quarantine) := by
  unfold releaseId
  split
  · exact {}
  split
  · exact Quiet.trans {} (insertFreeId_quiet env _ id)
  · exact {}

theorem takeFreeId_quiet (fuel : Nat) (channel : UpstreamChannel) :
    Quiet channel (takeFreeId fuel channel).2 := by
  induction fuel generalizing channel with
  | zero => exact {}
  | succ fuel ih =>
    unfold takeFreeId
    split
    · exact {}
    dsimp only
    split
    · exact Quiet.trans {} (ih _)
    · exact {}

theorem reclaimFront_quiet (env : Environment) (channel : UpstreamChannel) :
    Quiet channel (channel.reclaimFront env) := by
  unfold reclaimFront
  dsimp only
  split
  · exact {}
  split
  · exact {}
  · exact Quiet.trans {} (insertFreeId_quiet env _ _)

theorem reclaimLoop_quiet (env : Environment) (now : TimePoint) (fuel : Nat)
    (channel : UpstreamChannel) : Quiet channel (reclaimLoop env now fuel channel) := by
  induction fuel generalizing channel with
  | zero => exact {}
  | succ fuel ih =>
    unfold reclaimLoop
    split
    · exact {}
    split
    · exact (reclaimFront_quiet env channel).trans (ih _)
    · exact {}

theorem allocateId_quiet (env : Environment) (channel : UpstreamChannel) (now : TimePoint) :
    Quiet channel (channel.allocateId env now).2 :=
  (reclaimLoop_quiet env now _ channel).trans (takeFreeId_quiet _ _)

end UpstreamChannel

namespace System

variable {env : Environment} {exempt : Option Timer} {system next third : System}
  {query : QueryId} {task : TaskId}

structure Undisturbed (system next : System) : Prop where
  running : next.channel.running = system.channel.running
  scheduler : Scheduler.Calm system.scheduler next.scheduler
  timers : TimerQueue.Same system.timers next.timers

theorem Undisturbed.refl (system : System) : Undisturbed system system := ⟨rfl, {}, .refl _⟩

theorem Undisturbed.trans (h : Undisturbed system next) (h' : Undisturbed next third) :
    Undisturbed system third :=
  ⟨h'.running.trans h.running, h.scheduler.trans h'.scheduler, h.timers.trans h'.timers⟩

/-- No query is made or sent: every query that is pending was pending before. -/
structure Unsent (system next : System) : Prop where
  pending : ∀ query, (next.queries query).state = .pending →
    (system.queries query).state = .pending
  queriesSent : next.channel.stats.queriesSent = system.channel.stats.queriesSent
  queryCount : next.queryCount = system.queryCount
  questions : ∀ query, (next.queries query).question = (system.queries query).question

theorem Unsent.refl (system : System) : Unsent system system :=
  ⟨fun _ => id, rfl, rfl, fun _ => rfl⟩

theorem Unsent.trans (h : Unsent system next) (h' : Unsent next third) : Unsent system third where
  pending query hpending := h.pending query (h'.pending query hpending)
  queriesSent := h'.queriesSent.trans h.queriesSent
  queryCount := h'.queryCount.trans h.queryCount
  questions query := (h'.questions query).trans (h.questions query)

theorem unsent_setScheduler (system : System) (scheduler : Scheduler) :
    Unsent system (system.setScheduler scheduler) :=
  ⟨fun _ => id, rfl, rfl, fun _ => rfl⟩

/-! ## Ending a query -/

theorem unlink_undisturbed (env : Environment) (h : system.timers.Ok) (query : QueryId) :
    Undisturbed system (system.unlink env query) := by
  unfold System.unlink
  dsimp only
  refine ⟨?_, {}, ?_⟩
  · rw [(UpstreamChannel.releaseId_quiet _ _ _ _ _).running]
    generalize (if system.armed (.query query) = true ∧ system.channel.attached = true then
      system.timers.disarm (.query query) else (true, system.timers)) = disarmed
    split
    · rfl
    · rfl
  · split
    · exact h.disarm_same _
    · exact .refl _

theorem countOutcome_sent (stats : ChannelStats) (outcome : QueryOutcome) :
    (stats.countOutcome outcome).queriesSent = stats.queriesSent := by
  cases outcome <;> rfl

theorem finish_undisturbed (env : Environment) (h : system.timers.Ok) (query : QueryId)
    (outcome : QueryOutcome) (response : Bytes) (errorNumber : Int) :
    Undisturbed system (system.finish env query outcome response errorNumber).2 := by
  have hunlink := unlink_undisturbed env h query
  unfold System.finish
  dsimp only
  split
  · exact Undisturbed.refl system
  split
  · exact ⟨hunlink.running, hunlink.scheduler, hunlink.timers⟩
  split
  · exact ⟨hunlink.running, hunlink.scheduler, hunlink.timers⟩
  have hschedule := fun task => Scheduler.schedule_calm (system.unlink env query).scheduler task
  split
  · exact ⟨hunlink.running, hunlink.scheduler.trans (hschedule _), hunlink.timers⟩
  · exact ⟨hunlink.running, hunlink.scheduler.trans (hschedule _), hunlink.timers⟩

theorem finish_unsent (env : Environment) (h : Inv exempt system)
    (hpending : (system.queries query).state = .pending)
    (hexempt : ∀ timer, exempt = some timer → timer = .query query) {outcome : QueryOutcome}
    (houtcome : Ending outcome) (response : Bytes) (errorNumber : Int) :
    Unsent system (system.finish env query outcome response errorNumber).2 := by
  obtain ⟨timers, retired, hfinish, -⟩ :=
    h.finish env hpending hexempt houtcome response errorNumber
  rw [hfinish]
  have hothers : ∀ result other, other ≠ query →
      (finished env system query result timers retired).queries other = system.queries other :=
    fun _ _ hne => Function.update_of_ne hne _ _
  refine ⟨?_, countOutcome_sent _ _, rfl, ?_⟩
  · intro other hother
    by_cases hne : other = query
    · exact hne ▸ hpending
    · rwa [hothers _ other hne] at hother
  · intro other
    by_cases hne : other = query
    · subst hne
      show (Function.update system.queries other _ other).question = _
      rw [Function.update_self]
    · rw [hothers _ other hne]

theorem completeSleep_undisturbed (system : System) (sleep : Nat) (completion : TimerCompletion) :
    Undisturbed system (system.completeSleep sleep completion).2 := by
  unfold System.completeSleep
  dsimp only
  cases (system.sleeps sleep).task with
  | none => exact ⟨rfl, {}, .refl _⟩
  | some task =>
    dsimp only
    generalize (if completion = .expired then SleepState.expired else .cancelled) = state
    split
    · exact ⟨rfl, {}, .refl _⟩
    · exact ⟨rfl, Scheduler.schedule_calm _ _, .refl _⟩

theorem completeSleep_unsent (system : System) (sleep : Nat) (completion : TimerCompletion) :
    Unsent system (system.completeSleep sleep completion).2 := by
  obtain ⟨sleeps, scheduler, -, hsleep⟩ := completeSleep_frame system sleep completion
  rw [hsleep]
  exact ⟨fun _ => id, rfl, rfl, fun _ => rfl⟩

/-- What ends queries disturbs nothing, sends nothing and attends to every task. -/
structure Ended (system next : System) : Prop where
  inv : Inv none next
  undisturbed : Undisturbed system next
  unsent : Unsent system next
  attends : ∀ task, Attends task system next

/-- A change of the counters and the log. -/
theorem Ended.count (h : Ended system next) {stats : ChannelStats} {log : List Event}
    (hinv : Inv none { next with channel := { next.channel with stats := stats }, log := log })
    (hsent : stats.queriesSent = next.channel.stats.queriesSent) :
    Ended system { next with channel := { next.channel with stats := stats }, log := log } where
  inv := hinv
  undisturbed := h.undisturbed.trans ⟨rfl, {}, .refl _⟩
  unsent := h.unsent.trans ⟨fun _ => id, hsent, rfl, fun _ => rfl⟩
  attends task := (h.attends task).trans (attends_of_eq rfl rfl)

theorem completeFront_ended (env : Environment) (h : Ended system next)
    (completion : TimerCompletion) {timer : Timer} (result : DispatchResult)
    (hfront : next.timers.heap.nodes.head? = some timer) :
    Ended system ((host env).completeFront completion timer next result).1 := by
  obtain ⟨heq, hinv⟩ := h.inv.completeFront_eq env completion result hfront
  have hremoved := h.inv.removeFront hfront
  have hat : next.timers.heap.nodes[0]? = some timer := by
    rwa [← List.head?_eq_getElem?]
  have hundisturbed : Undisturbed next { next with timers := next.timers.removeAt 0 } :=
    ⟨rfl, {}, h.inv.timers.removeAt_same hat⟩
  rw [heq]
  have hunsent : Unsent next { next with timers := next.timers.removeAt 0 } :=
    ⟨fun _ => id, rfl, rfl, fun _ => rfl⟩
  have hattends : ∀ task, Attends task next { next with timers := next.timers.removeAt 0 } :=
    fun _ => attends_of_eq rfl rfl
  refine ⟨hinv, (h.undisturbed.trans hundisturbed).trans ?_, (h.unsent.trans hunsent).trans ?_,
    fun task => ((h.attends task).trans (hattends task)).trans
      (completeTimer_attends env hremoved completion task)⟩
  · cases timer with
    | query query =>
      obtain ⟨outcome, -, -, hcomplete⟩ := hremoved.deadlineComplete_eq env completion
      rw [completeTimer, hcomplete]
      exact finish_undisturbed env hremoved.timers query outcome [] 0
    | sleep sleep => exact completeSleep_undisturbed _ sleep completion
  · cases timer with
    | query query =>
      obtain ⟨outcome, houtcome, -, hcomplete⟩ := hremoved.deadlineComplete_eq env completion
      rw [completeTimer, hcomplete]
      exact finish_unsent env hremoved (hremoved.heldQuery query (.inr rfl))
        (fun _ heq => (Option.some.inj heq).symm) houtcome [] 0
    | sleep sleep => exact completeSleep_unsent _ sleep completion

theorem ended_kept (env : Environment) (system : System) : Kept env (Ended system) where
  inv h := h.inv
  countInvalid h := h.count h.inv.countInvalid rfl
  countUnmatched h := h.count h.inv.countUnmatched rfl
  outOfMemory h := h.count h.inv.outOfMemory rfl
  finish response errorNumber h hpending houtcome _ :=
    ⟨h.inv.finishNow env hpending houtcome response errorNumber,
      h.undisturbed.trans (finish_undisturbed env h.inv.timers _ _ response errorNumber),
      h.unsent.trans (finish_unsent env h.inv hpending (by simp) houtcome response errorNumber),
      fun task => (h.attends task).trans
        (finish_attends env h.inv hpending (by simp) houtcome response errorNumber task)⟩
  completeFront completion _ result h hfront := completeFront_ended env h completion result hfront

/-- The task of a timer that ends can be scheduled. -/
theorem Inv.completeFront_scheduleFailures (env : Environment) (h : Inv none system)
    (completion : TimerCompletion) {timer : Timer} (result : DispatchResult)
    (hfront : system.timers.heap.nodes.head? = some timer) :
    ((host env).completeFront completion timer system result).2.scheduleFailures =
      result.scheduleFailures := by
  have hremoved := h.removeFront hfront
  have hat : system.timers.heap.nodes[0]? = some timer := by
    rwa [← List.head?_eq_getElem?]
  have howner := (h.timers.owner_iff timer).mpr (List.mem_of_getElem? hat)
  have hcompleted : (completeTimer env { system with timers := system.timers.removeAt 0 } timer
      completion).1 = true := by
    cases timer with
    | query query => exact (hremoved.deadlineComplete env completion).1
    | sleep sleep => exact (hremoved.completeSleep (h.timers.removeAt hat).owner_eq completion).1
  unfold TimerQueue.Host.completeFront
  dsimp only [host]
  rw [if_pos (h.timers.completion timer howner), if_pos hcompleted]

theorem Inv.expire_scheduleFailures (env : Environment) (h : Inv none system) (now : TimePoint)
    (budget : Nat) : ((host env).expire now budget system).2.scheduleFailures = 0 := by
  have hloop : ∀ (budget : Nat) (system : System) (result : DispatchResult), Inv none system →
      ((host env).expireLoop now budget system result).2.scheduleFailures =
        result.scheduleFailures := by
    intro budget
    induction budget with
    | zero => exact fun _ _ _ => rfl
    | succ budget ih =>
      intro system result h
      rw [TimerQueue.Host.expireLoop]
      split
      · rfl
      · rename_i timer hdue
        unfold TimerQueue.Host.due at hdue
        obtain ⟨hfront, -⟩ := Option.filter_eq_some_iff.mp hdue
        have hnext := (h.completeFront_eq env .expired result hfront)
        rw [ih _ _ (hnext.1 ▸ hnext.2), h.completeFront_scheduleFailures env .expired result hfront]
  unfold TimerQueue.Host.expire
  split
  · rfl
  · exact hloop budget system {} h

theorem Inv.ended_refl (h : Inv none system) : Ended system system :=
  ⟨h, Undisturbed.refl system, Unsent.refl system, fun task => Attends.refl task system⟩

/-! ## The frames of coroutines -/

theorem destroyQuery_ended (env : Environment) (h : Inv none system)
    (hpending : (system.queries query).state ≠ .pending) :
    Ended system (system.destroyQuery env query) := by
  refine ⟨h.destroyQuery env query, ?_, ?_, fun task => ?_⟩
  · rw [h.destroyQuery_eq env hpending]
    exact ⟨rfl, {}, .refl _⟩
  · rw [h.destroyQuery_eq env hpending]
    refine ⟨?_, rfl, rfl, ?_⟩
    · intro other hother
      by_cases hne : other = query
      · subst hne
        simpa [System.setQuery] using hother
      · simpa [System.setQuery, hne] using hother
    · intro other
      by_cases hne : other = query
      · subst hne
        simp [System.setQuery]
      · simp [System.setQuery, hne]
  · rw [h.destroyQuery_eq env hpending]
    exact attends_of_query (.refl task _) (fun other hne => Function.update_of_ne hne _ _)
      fun hstate => absurd hstate hpending

/-! ## Sending a query -/

theorem rollbackBegin_undisturbed (env : Environment) (h : system.timers.Ok) (query : QueryId) :
    Undisturbed system (system.rollbackBegin env query) := by
  unfold System.rollbackBegin
  dsimp only
  have htimers : ∀ timers, timers = (if system.armed (.query query) ∧ system.channel.attached then
      (system.timers.disarm (.query query)).2 else system.timers) →
      TimerQueue.Same system.timers timers := by
    intro timers heq
    rw [heq]
    split
    · exact h.disarm_same _
    · exact .refl _
  split
  · exact ⟨(UpstreamChannel.releaseId_quiet _ _ _ _ _).running, {}, htimers _ rfl⟩
  · exact ⟨rfl, {}, htimers _ rfl⟩

/-- The attempt to send: the timer is armed, and every other way out takes it back. -/
theorem beginSend_undisturbed (env : Environment) (h : system.timers.Ok) (query : QueryId)
    (task : TaskId) (id : UInt16) (wire : Bytes) (armFails : Bool) (sent : SendOutcome) :
    Undisturbed system (system.beginSend env query task id wire armFails sent).2 := by
  have hcases := h.arm_cases (.query query) (system.queries query).deadline true armFails
  have harm := h.arm_same (.query query) (system.queries query).deadline true armFails
  unfold System.beginSend
  dsimp only [System.setQuery]
  generalize system.timers.arm (.query query) (system.queries query).deadline true armFails =
    outcome at hcases harm
  obtain ⟨result, timers⟩ := outcome
  dsimp only at hcases harm ⊢
  have hok : timers.Ok := by
    rcases hcases with ⟨-, -, -, hrearmed⟩ | ⟨-, rfl⟩ | ⟨-, -, hrearmed⟩
    · exact hrearmed.ok
    · exact h
    · exact hrearmed.ok
  have hback : Undisturbed (linked system query task id timers)
      ((linked system query task id timers).rollbackBegin env query) :=
    rollbackBegin_undisturbed env hok query
  cases result with
  | none => exact ⟨hback.running, hback.scheduler, harm.trans hback.timers⟩
  | some result =>
    cases result with
    | armed =>
      dsimp only
      split
      · exact ⟨rfl, {}, harm⟩
      · exact ⟨hback.running, hback.scheduler, harm.trans hback.timers⟩
    | _ => exact ⟨hback.running, hback.scheduler, harm.trans hback.timers⟩

theorem begin_undisturbed (env : Environment) (h : system.timers.Ok) (query : QueryId)
    (task : TaskId) (writeFails armFails : Bool) (sent : SendOutcome) :
    Undisturbed system (system.begin env query task writeFails armFails sent).2 := by
  have hallocate :=
    (UpstreamChannel.allocateId_quiet env system.channel (system.now env)).running
  unfold System.begin
  split
  · exact Undisturbed.refl system
  split
  · exact Undisturbed.refl system
  dsimp only
  split
  · exact ⟨hallocate, {}, .refl _⟩
  rename_i id _
  have hreleased := (UpstreamChannel.releaseId_quiet env
    (system.channel.allocateId env (system.now env)).2 id (system.now env) false).running.trans
      hallocate
  split
  · exact ⟨hreleased, {}, .refl _⟩
  split
  · exact ⟨hreleased, {}, .refl _⟩
  · rename_i wire _
    let allocated : System := { system with
      channel := (system.channel.allocateId env (system.now env)).2
      readings := system.readings + 1
      log := system.log ++ [Event.allocated query id (system.now env)] }
    have hok : allocated.timers.Ok := h
    have hsend := beginSend_undisturbed env hok query task id wire armFails sent
    exact ⟨hsend.running.trans hallocate, hsend.scheduler, hsend.timers⟩

theorem awaitQuery_undisturbed (env : Environment) (h : system.timers.Ok) (query : QueryId)
    (hexecuting : system.executing (system.queries query).frame) (writeFails armFails : Bool)
    (sent : SendOutcome) :
    Undisturbed system (system.awaitQuery env query writeFails armFails sent) := by
  have hbegin := begin_undisturbed env h query (system.queries query).frame writeFails armFails sent
  have hscheduler := WorkerRuntime.begin_scheduler env system query (system.queries query).frame
    writeFails armFails sent
  unfold System.awaitQuery
  dsimp only
  split
  · exact ⟨rfl, {}, .refl _⟩
  split
  · exact ⟨rfl, {}, .refl _⟩
  split
  · exact ⟨rfl, {}, .refl _⟩
  generalize system.begin env query (system.queries query).frame writeFails armFails sent =
    outcome at hbegin hscheduler
  obtain ⟨result, next⟩ := outcome
  cases result with
  | none => exact hbegin
  | some result =>
    cases result with
    | suspended =>
      have hlive : (next.scheduler.tasks (system.queries query).frame).point ≠ .final := by
        rw [hscheduler, hexecuting]
        decide
      have hpoint := Scheduler.setPoint_calm next.scheduler hlive (.query query)
      exact ⟨hbegin.running, hbegin.scheduler.trans hpoint, hbegin.timers⟩
    | _ => exact ⟨hbegin.running, hbegin.scheduler, hbegin.timers⟩

/-! ## What is sent is counted -/

theorem rollbackBegin_queriesSent (env : Environment) (system : System) (query : QueryId) :
    (system.rollbackBegin env query).channel.stats.queriesSent =
      system.channel.stats.queriesSent := by
  unfold System.rollbackBegin
  dsimp only
  split
  · exact (UpstreamChannel.releaseId_quiet _ _ _ _ _).queriesSent
  · rfl

theorem beginSend_queriesSent (env : Environment) (system : System) (query : QueryId)
    (task : TaskId) (id : UInt16) (wire : Bytes) (armFails : Bool) (sent : SendOutcome) :
    (system.beginSend env query task id wire armFails sent).2.channel.stats.queriesSent ≤
      system.channel.stats.queriesSent + 1 := by
  unfold System.beginSend
  dsimp only [System.setQuery]
  generalize system.timers.arm (.query query) (system.queries query).deadline true armFails =
    outcome
  obtain ⟨result, timers⟩ := outcome
  have hback : ((linked system query task id timers).rollbackBegin env
      query).channel.stats.queriesSent ≤ system.channel.stats.queriesSent + 1 := by
    rw [rollbackBegin_queriesSent]
    exact Nat.le_succ _
  cases result with
  | none => exact hback
  | some result =>
    cases result with
    | armed =>
      dsimp only
      split
      · exact Nat.le_refl _
      · exact hback
    | _ => exact hback

theorem begin_queriesSent (env : Environment) (system : System) (query : QueryId) (task : TaskId)
    (writeFails armFails : Bool) (sent : SendOutcome) :
    (system.begin env query task writeFails armFails sent).2.channel.stats.queriesSent ≤
      system.channel.stats.queriesSent + 1 := by
  have hallocate :=
    (UpstreamChannel.allocateId_quiet env system.channel (system.now env)).queriesSent
  unfold System.begin
  split
  · exact Nat.le_succ _
  split
  · exact Nat.le_succ _
  dsimp only
  split
  · exact hallocate.trans_le (Nat.le_succ _)
  rename_i id _
  have hreleased := (UpstreamChannel.releaseId_quiet env
    (system.channel.allocateId env (system.now env)).2 id (system.now env) false).queriesSent.trans
      hallocate
  split
  · exact hreleased.trans_le (Nat.le_succ _)
  split
  · exact hreleased.trans_le (Nat.le_succ _)
  · refine (beginSend_queriesSent env _ query task id _ armFails sent).trans ?_
    rw [hallocate]

/-- A query is sent at most once when it is awaited. -/
theorem awaitQuery_queriesSent (env : Environment) (system : System) (query : QueryId)
    (writeFails armFails : Bool) (sent : SendOutcome) :
    (system.awaitQuery env query writeFails armFails sent).channel.stats.queriesSent ≤
      system.channel.stats.queriesSent + 1 := by
  have hbegin := begin_queriesSent env system query (system.queries query).frame writeFails armFails
    sent
  unfold System.awaitQuery
  dsimp only
  split
  · exact Nat.le_succ _
  split
  · exact Nat.le_succ _
  split
  · exact Nat.le_succ _
  generalize system.begin env query (system.queries query).frame writeFails armFails sent =
    outcome at hbegin
  obtain ⟨result, next⟩ := outcome
  cases result with
  | none => exact hbegin
  | some result =>
    cases result with
    | suspended => exact hbegin
    | _ => exact hbegin

end System

end DnsPro.Upstream
