import DnsPro.Protocol.Rewrite
import DnsPro.Runtime.Places
import DnsPro.Upstream.Invariant

/-!
# Every operation keeps the invariant

One lemma for each operation, and from them the step of the whole system.
-/

namespace DnsPro.Upstream

open DnsPro.Protocol DnsPro.Runtime

namespace System

variable {env : Environment} {exempt : Option Timer} {system : System} {query : QueryId}

/-! ## Counters -/

/-- The datagram answers the query that waits for its id. -/
structure Answers (system : System) (query : QueryId) (id : UInt16) (packet : Bytes) : Prop where
  id_eq : transactionId packet = some id
  slot : system.channel.slots id = some query
  accepted : ∃ message, parseMessage packet upstreamLimits = .ok message ∧
    validateUpstreamResponse message id (system.queries query).header.opcode
      (system.queries query).question = .ok ()

/-- A change of the counters. -/
theorem Inv.setStats (h : Inv exempt system) {stats : ChannelStats}
    (hbalanced : Balanced stats system.channel.pendingCount)
    (hfailures : stats.invariantFailures = system.channel.stats.invariantFailures) :
    Inv exempt { system with channel := { system.channel with stats := stats } } :=
  { h with
    ids := fun hstarted => { h.ids hstarted with }
    balanced := hbalanced
    failures := fun hmemory => hfailures.trans (h.failures hmemory) }

theorem Inv.countInvalid (h : Inv exempt system) : Inv exempt system.countInvalid :=
  h.setStats h.balanced rfl

theorem Inv.countUnmatched (h : Inv exempt system) : Inv exempt system.countUnmatched :=
  h.setStats h.balanced rfl

/-- The datagram for which there is no memory is the one failure that is
counted. -/
theorem Inv.outOfMemory (h : Inv exempt system) :
    Inv exempt { system.recordFailure with log := system.log ++ [Event.outOfMemory] } :=
  { h with
    ids := fun hstarted => { h.ids hstarted with }
    failures := fun hmemory => absurd (List.mem_append_right _ (List.mem_singleton.mpr rfl)) hmemory
    log := h.log.note (by simp [Event.ends]) (by simp) }

theorem Inv.finishNow (env : Environment) (h : Inv none system)
    (hpending : (system.queries query).state = .pending) {outcome : QueryOutcome}
    (houtcome : Ending outcome) (response : Bytes) (errorNumber : Int) :
    Inv none (system.finish env query outcome response errorNumber).2 := by
  obtain ⟨timers, retired, hfinish, -, -, hinv⟩ :=
    h.finish env hpending (by simp) houtcome response errorNumber
  rw [hfinish]
  exact hinv

/-! ## Timers -/

theorem held_rearmed {timers next : TimerQueue Timer} {timer : Timer}
    (hrearmed : TimerQueue.Rearmed timers next timer false)
    (howner : (timers.registrations timer).owner = true) (other : Timer) :
    Held (some timer) next other ↔ Held none timers other := by
  unfold Held
  by_cases hother : other = timer
  · subst hother
    simp [howner]
  · rw [hrearmed.others other hother]
    simp [Ne.symm hother]

/-- The timer at the front is taken off the heap. -/
theorem Inv.removeFront (h : Inv none system) {timer : Timer}
    (hfront : system.timers.heap.nodes.head? = some timer) :
    Inv (some timer) { system with timers := system.timers.removeAt 0 } := by
  have hat : system.timers.heap.nodes[0]? = some timer := by
    rwa [← List.head?_eq_getElem?]
  have howner := (h.timers.owner_iff timer).mpr (List.mem_of_getElem? hat)
  have hrearmed := h.timers.removeAt hat
  have hheld := held_rearmed hrearmed howner
  refine { h with
    timers := hrearmed.ok, pending := ?_, heldQuery := ?_, heldSleep := ?_ }
  · intro query hpending
    have hquery := h.pending query hpending
    exact { hquery with
      timersRunning := hrearmed.running.trans hquery.timersRunning
      held := (hheld _).mpr hquery.held }
  · intro query hquery
    exact h.heldQuery query ((hheld _).mp hquery)
  · intro sleep hsleep
    exact h.heldSleep sleep ((hheld _).mp hsleep)

/-- The deadline of a pending query finishes it. -/
theorem Inv.deadlineComplete_eq (env : Environment) (h : Inv (some (.query query)) system)
    (completion : TimerCompletion) :
    ∃ outcome, Ending outcome ∧ outcome ≠ .response ∧
      system.deadlineComplete env query completion = system.finish env query outcome [] 0 := by
  have hpending := h.heldQuery query (.inr rfl)
  refine ⟨if completion = .expired then .timeout else .cancelled, ?_, ?_, ?_⟩
  · split
    · exact .inr (.inl rfl)
    · exact .inr (.inr (.inl rfl))
  · split <;> simp
  · unfold System.deadlineComplete finishDeadline
    rw [if_pos (h.pending query hpending).owner]

theorem Inv.deadlineComplete (env : Environment) (h : Inv (some (.query query)) system)
    (completion : TimerCompletion) :
    (system.deadlineComplete env query completion).1 = true ∧
      Inv none (system.deadlineComplete env query completion).2 := by
  have hpending := h.heldQuery query (.inr rfl)
  obtain ⟨outcome, houtcome, -, hcomplete⟩ := h.deadlineComplete_eq env completion
  obtain ⟨timers, retired, hfinish, -, -, hinv⟩ :=
    h.finish env hpending (fun _ heq => (Option.some.inj heq).symm) houtcome [] 0
  rw [hcomplete, hfinish]
  exact ⟨rfl, hinv⟩

/-- The end of a sleep leaves the channel alone, and of the tasks only wakes one. -/
theorem completeSleep_frame (system : System) (sleep : Nat) (completion : TimerCompletion) :
    ∃ sleeps scheduler, (∀ task, Scheduler.Stays task system.scheduler scheduler) ∧
      (system.completeSleep sleep completion).2 =
        { system with sleeps := sleeps, scheduler := scheduler } := by
  unfold System.completeSleep
  dsimp only
  cases (system.sleeps sleep).task with
  | none => exact ⟨_, _, fun task => Scheduler.Stays.refl task _, rfl⟩
  | some sleeper =>
    dsimp only
    generalize (if completion = .expired then SleepState.expired else .cancelled) = state
    split
    · exact ⟨_, _, fun task => Scheduler.Stays.refl task _, rfl⟩
    · exact ⟨_, _, fun task => Scheduler.schedule_stays _ task sleeper, rfl⟩

/-- The end of a sleep: the task is scheduled. -/
theorem Inv.completeSleep {sleep : Nat} (h : Inv (some (.sleep sleep)) system)
    (hunarmed : (system.timers.registrations (.sleep sleep)).owner = false)
    (completion : TimerCompletion) :
    (system.completeSleep sleep completion).1 = true ∧
      Inv none (system.completeSleep sleep completion).2 := by
  have hsleep := h.heldSleep sleep (.inr rfl)
  obtain ⟨hschedule, hok⟩ := h.scheduler.schedule hsleep.waiting (by simp) (by simp) (by simp)
    (by simp)
  have hheld : ∀ timer, Held none system.timers timer →
      timer ≠ .sleep sleep ∧ Held (some (.sleep sleep)) system.timers timer := by
    rintro timer (howner | hnone)
    · refine ⟨?_, .inl howner⟩
      rintro rfl
      rw [hunarmed] at howner
      cases howner
    · cases hnone
  have htasks : ∀ task point, point ≠ .sleep sleep → system.scheduler.Waiting task point →
      Scheduler.Waiting { system.scheduler.setTask (system.sleeps sleep).frame
          { system.scheduler.tasks (system.sleeps sleep).frame with queued := true } with
        ready := system.scheduler.ready ++ [(system.sleeps sleep).frame] } task point := by
    intro task point hpoint hwaiting
    refine hwaiting.congr ?_
    have hne : task ≠ (system.sleeps sleep).frame := by
      rintro rfl
      exact hpoint (hwaiting.point_eq.symm.trans hsleep.waiting.point_eq)
    simp [Scheduler.setTask, hne]
  have hresult : system.completeSleep sleep completion = (true,
      { system.setSleep sleep { system.sleeps sleep with
          task := none, state := if completion = .expired then .expired else .cancelled } with
        scheduler := { system.scheduler.setTask (system.sleeps sleep).frame
            { system.scheduler.tasks (system.sleeps sleep).frame with queued := true } with
          ready := system.scheduler.ready ++ [(system.sleeps sleep).frame] } }) := by
    unfold System.completeSleep
    simp only [hsleep.task, setSleep, hsleep.waiting.bound, hschedule]
    rfl
  rw [hresult]
  refine ⟨rfl, ?_⟩
  refine { h with
    scheduler := hok, pending := ?_, heldQuery := ?_, heldSleep := ?_, unmadeSleep := ?_ }
  · intro query hpending
    have hquery := h.pending query hpending
    exact { hquery with
      waiting := htasks _ _ (by simp) hquery.waiting
      held := .inl (hquery.held.resolve_right (by simp)) }
  · exact fun query hquery => h.heldQuery query (hheld _ hquery).2
  · intro other hother
    obtain ⟨hne, hold⟩ := hheld _ hother
    have hne : other ≠ sleep := fun heq => hne (heq ▸ rfl)
    have hok := h.heldSleep other hold
    show SleepOk _ other (Function.update system.sleeps sleep _ other)
    rw [Function.update_of_ne hne]
    exact ⟨hok.task, htasks _ _ (by simpa using hne) hok.waiting⟩
  · intro other hother
    have hne : other ≠ sleep := by
      rintro rfl
      have := hsleep.task
      rw [h.unmadeSleep other hother] at this
      cases this
    show Function.update system.sleeps sleep _ other = {}
    rw [Function.update_of_ne hne]
    exact h.unmadeSleep other hother

/-- `complete_front` with the callbacks of this program, which succeed. -/
theorem Inv.completeFront_eq (env : Environment) (h : Inv none system)
    (completion : TimerCompletion) {timer : Timer} (result : DispatchResult)
    (hfront : system.timers.heap.nodes.head? = some timer) :
    ((host env).completeFront completion timer system result).1 =
        (completeTimer env { system with timers := system.timers.removeAt 0 } timer completion).2 ∧
      Inv none (completeTimer env { system with timers := system.timers.removeAt 0 } timer
        completion).2 := by
  have hremoved := h.removeFront hfront
  have hat : system.timers.heap.nodes[0]? = some timer := by
    rwa [← List.head?_eq_getElem?]
  have howner := (h.timers.owner_iff timer).mpr (List.mem_of_getElem? hat)
  have hcallback : (completeTimer env { system with timers := system.timers.removeAt 0 } timer
        completion).1 = true ∧
      Inv none (completeTimer env { system with timers := system.timers.removeAt 0 } timer
        completion).2 := by
    cases timer with
    | query query => exact hremoved.deadlineComplete env completion
    | sleep sleep => exact hremoved.completeSleep (h.timers.removeAt hat).owner_eq completion
  refine ⟨?_, hcallback.2⟩
  unfold TimerQueue.Host.completeFront
  dsimp only [host]
  rw [if_pos (h.timers.completion timer howner)]
  generalize completeTimer env { system with timers := system.timers.removeAt 0 } timer completion =
    outcome at hcallback
  obtain ⟨completed, next⟩ := outcome
  dsimp only at hcallback ⊢
  rw [if_pos hcallback.1]

/-! ## What ending queries keeps

`handle_datagram`, `drain`, `fail_all`, `expire` and `cancel_all` end queries, one
after the other, and otherwise only count.  A fact that implies the invariant
and is kept by the parts is kept by the whole. -/

/-- A fact about states that ending a query keeps. -/
structure Kept (env : Environment) (P : System → Prop) : Prop where
  inv : ∀ {system}, P system → Inv none system
  countInvalid : ∀ {system}, P system → P system.countInvalid
  countUnmatched : ∀ {system}, P system → P system.countUnmatched
  outOfMemory : ∀ {system}, P system →
    P { system.recordFailure with log := system.log ++ [Event.outOfMemory] }
  finish : ∀ {system query outcome} (response : Bytes) (errorNumber : Int), P system →
    (system.queries query).state = .pending → Ending outcome →
    (outcome = .response → ∃ id packet, Answers system query id packet ∧
      response = withTransactionId packet (system.queries query).header.id) →
    P (system.finish env query outcome response errorNumber).2
  completeFront : ∀ {system} (completion : TimerCompletion) {timer} (result : DispatchResult),
    P system → system.timers.heap.nodes.head? = some timer →
    P ((host env).completeFront completion timer system result).1

variable {P : System → Prop}

theorem Kept.handleDatagram (hkept : Kept env P) (h : P system) (packet : Bytes)
    (truncated allocationFails : Bool) :
    P (system.handleDatagram env packet truncated allocationFails).2 := by
  unfold System.handleDatagram
  split
  · exact h
  split
  · exact hkept.countInvalid h
  split
  · exact hkept.countUnmatched h
  rename_i hsize id hid
  split
  · exact hkept.countUnmatched h
  split
  · exact hkept.countUnmatched h
  rename_i query hslot
  have hpending := ((hkept.inv h).slot id query hslot).1
  split
  · exact hkept.finish _ _ (hkept.outOfMemory h) hpending (.inr (.inr (.inr rfl))) (by simp)
  · unfold completeWith
    dsimp only
    split
    · exact hkept.countInvalid h
    rename_i message hparse
    split
    · exact hkept.countInvalid h
    rename_i hvalid
    rw [(parsed_of_parseMessage hparse).wireImage_eq, rewriteTransactionId_eq hid]
    exact hkept.finish _ _ h hpending (.inl rfl) fun _ =>
      ⟨id, packet, ⟨hid, hslot, message, hparse, hvalid⟩, rfl⟩

theorem Kept.failAll (hkept : Kept env P) (h : P system) (outcome : QueryOutcome)
    (errorNumber : Int) : P (system.failAll env outcome errorNumber).2 := by
  unfold System.failAll
  split
  · exact h
  rename_i hguard
  have houtcome : outcome = .cancelled ∨ outcome = .socketError := by
    by_contra hother
    exact hguard (.inr (not_or.mp hother))
  -- the loop over the slots: every pass keeps the fact
  refine List.foldlRecOn (motive := fun state : Nat × System => P state.2) _ _ h ?_
  intro state h index _
  split
  · exact h
  · rename_i query hslot
    refine hkept.finish _ _ h ((hkept.inv h).slot _ query hslot).1 (.inr (.inr houtcome)) ?_
    rintro rfl
    simp at houtcome

theorem Kept.drain (hkept : Kept env P) (h : P system) (budget : Nat)
    (received : List ReceiveOutcome) : P (system.drain env budget received) := by
  have hloop : ∀ (received : List ReceiveOutcome) (budget : Nat) (system : System),
      P system → P (drainLoop env budget received system) := by
    intro received
    induction received with
    | nil =>
      intro budget system h
      rwa [drainLoop]
    | cons outcome rest ih =>
      intro budget system h
      cases budget with
      | zero => rwa [drainLoop]; simp
      | succ budget =>
        cases outcome with
        | interrupted => exact ih _ _ h
        | wouldBlock => exact h
        | failed errorNumber => exact hkept.failAll h _ _
        | datagram payload truncatedFlag allocationFails =>
          exact ih _ _ (hkept.handleDatagram h _ _ _)
  unfold System.drain
  split
  · exact h
  · exact hloop received budget system h

theorem Kept.expire (hkept : Kept env P) (h : P system) (now : TimePoint) (budget : Nat) :
    P ((host env).expire now budget system).1 :=
  TimerQueue.Host.expire_invariant
    (fun _ completion _ result h hfront => hkept.completeFront completion result h hfront) now
    budget h

theorem Kept.cancelTimers (hkept : Kept env P) (h : P system) :
    P ((host env).cancelAll system).1 :=
  TimerQueue.Host.cancelAll_invariant
    (fun _ completion _ result h hfront => hkept.completeFront completion result h hfront) h

theorem inv_kept (env : Environment) : Kept env (Inv none) where
  inv h := h
  countInvalid h := h.countInvalid
  countUnmatched h := h.countUnmatched
  outOfMemory h := h.outOfMemory
  finish response errorNumber h hpending houtcome _ :=
    h.finishNow env hpending houtcome response errorNumber
  completeFront completion _ result h hfront := by
    obtain ⟨heq, hinv⟩ := h.completeFront_eq env completion result hfront
    exact heq ▸ hinv

/-- A fact that does not read the timers, the sleeping tasks and the counters,
that a task is woken without harm to, and that `finish` keeps, also for the timer
that is about to be completed. -/
structure Stable (env : Environment) (Q : System → Prop) : Prop where
  frame : ∀ {system scheduler} timers sleeps,
    (∀ task, Scheduler.Stays task system.scheduler scheduler) → Q system →
    Q { system with timers := timers, scheduler := scheduler, sleeps := sleeps }
  stats : ∀ {system} stats, Q system →
    Q { system with channel := { system.channel with stats := stats } }
  outOfMemory : ∀ {system}, Q system → Q { system with log := system.log ++ [Event.outOfMemory] }
  finish : ∀ {exempt system query outcome} (response : Bytes) (errorNumber : Int),
    Inv exempt system → Q system → (system.queries query).state = .pending →
    (∀ timer, exempt = some timer → timer = .query query) → Ending outcome →
    (outcome = .response → ∃ id packet, Answers system query id packet ∧
      response = withTransactionId packet (system.queries query).header.id) →
    Q (system.finish env query outcome response errorNumber).2

theorem Stable.kept {Q : System → Prop} (hstable : Stable env Q) :
    Kept env fun system => Inv none system ∧ Q system where
  inv h := h.1
  countInvalid h := ⟨h.1.countInvalid, hstable.stats _ h.2⟩
  countUnmatched h := ⟨h.1.countUnmatched, hstable.stats _ h.2⟩
  outOfMemory h := ⟨h.1.outOfMemory, hstable.outOfMemory (hstable.stats _ h.2)⟩
  finish response errorNumber h hpending houtcome hanswers :=
    ⟨h.1.finishNow env hpending houtcome response errorNumber,
      hstable.finish response errorNumber h.1 h.2 hpending (by simp) houtcome hanswers⟩
  completeFront {system} completion timer result h hfront := by
    obtain ⟨heq, hinv⟩ := h.1.completeFront_eq env completion result hfront
    have hremoved := h.1.removeFront hfront
    have hframe : Q { system with timers := system.timers.removeAt 0 } :=
      hstable.frame _ system.sleeps (fun task => Scheduler.Stays.refl task _) h.2
    rw [heq]
    refine ⟨hinv, ?_⟩
    cases timer with
    | query query =>
      obtain ⟨outcome, houtcome, hresponse, hcomplete⟩ :=
        hremoved.deadlineComplete_eq env completion
      rw [completeTimer, hcomplete]
      exact hstable.finish [] 0 hremoved hframe (hremoved.heldQuery query (.inr rfl))
        (fun _ heq => (Option.some.inj heq).symm) houtcome fun hanswer => absurd hanswer hresponse
    | sleep sleep =>
      obtain ⟨sleeps, scheduler, hstays, hsleep⟩ := completeSleep_frame
        { system with timers := system.timers.removeAt 0 } sleep completion
      rw [completeTimer, hsleep]
      exact hstable.frame _ sleeps hstays hframe

/-! ## Starting and stopping the timers -/

/-- Starting, closing and stopping the timer queue, which keep the armed timers. -/
theorem Inv.setTimers (h : Inv none system) {next : TimerQueue Timer}
    (hheap : next.heap = system.timers.heap)
    (hregistrations : next.registrations = system.timers.registrations)
    (hrunning : system.timers.heap.nodes ≠ [] → next.running = true) :
    Inv none { system with timers := next } := by
  have hheld : ∀ timer, Held none next timer ↔ Held none system.timers timer := by
    intro timer
    unfold Held
    rw [hregistrations]
  refine { h with timers := ?_, pending := ?_, heldQuery := ?_, heldSleep := ?_ }
  · refine ⟨hheap ▸ h.timers.indexed, ?_, ?_, fun hne => hrunning (hheap ▸ hne)⟩
    · intro timer
      show (next.registrations timer).owner = true ↔ timer ∈ next.heap.nodes
      rw [hregistrations, hheap]
      exact h.timers.owner_iff timer
    · intro timer
      show (next.registrations timer).owner = true → (next.registrations timer).completion = true
      rw [hregistrations]
      exact h.timers.completion timer
  · intro query hpending
    have hquery := h.pending query hpending
    have howner := hquery.held.resolve_right (by simp)
    exact { hquery with
      timersRunning := hrunning (List.ne_nil_of_mem ((h.timers.owner_iff _).mp howner))
      held := (hheld _).mpr hquery.held }
  · exact fun query hquery => h.heldQuery query ((hheld _).mp hquery)
  · exact fun sleep hsleep => h.heldSleep sleep ((hheld _).mp hsleep)

theorem Inv.startTimers (h : Inv none system) (owned : Bool) :
    Inv none { system with timers := (system.timers.start owned).2 } := by
  unfold TimerQueue.start
  split
  · exact h
  · exact h.setTimers rfl rfl fun _ => rfl

theorem Inv.closeTimers (h : Inv none system) :
    Inv none { system with timers := system.timers.close } :=
  h.setTimers rfl rfl h.timers.running

theorem Inv.stopTimers (h : Inv none system) :
    Inv none { system with timers := system.timers.stop.2 } := by
  unfold TimerQueue.stop
  split
  · exact h
  · rename_i hempty
    exact h.setTimers rfl rfl fun hne => absurd hne hempty

/-! ## Tasks -/

/-- What the tasks do among themselves. -/
theorem Inv.setScheduler (h : Inv exempt system) {next : Scheduler}
    (hkeeps : Scheduler.Keeps system.scheduler next) :
    Inv exempt (system.setScheduler next) :=
  { h with
    scheduler := hkeeps.ok
    pending := fun query hpending =>
      { h.pending query hpending with
        waiting := hkeeps.waiting _ _ trivial (h.pending query hpending).waiting }
    heldSleep := fun sleep hsleep =>
      ⟨(h.heldSleep sleep hsleep).task,
        hkeeps.waiting _ _ trivial (h.heldSleep sleep hsleep).waiting⟩ }

theorem Inv.requestStop (h : Inv exempt system) :
    Inv exempt (system.setScheduler
      { system.scheduler with stopRequested := true, accepting := false }) :=
  h.setScheduler ⟨{ h.scheduler with child := fun task parent hcontinuation hlive =>
      { h.scheduler.child task parent hcontinuation hlive with } },
    fun _ _ _ hwaiting => { hwaiting with }⟩

/-! ## Sleeping -/

/-- A change of a sleep that is not held. -/
theorem Inv.setSleep {sleep : Nat} (h : Inv exempt system) {awaiter : SleepAwaiter}
    (hmade : sleep < system.sleepCount) (hfree : ¬ Held exempt system.timers (.sleep sleep)) :
    Inv exempt (system.setSleep sleep awaiter) := by
  refine { h with heldSleep := ?_, unmadeSleep := ?_ }
  · intro other hother
    have hne : other ≠ sleep := fun heq => hfree (heq ▸ hother)
    show SleepOk _ other (Function.update system.sleeps sleep awaiter other)
    rw [Function.update_of_ne hne]
    exact h.heldSleep other hother
  · intro other hother
    change system.sleepCount ≤ other at hother
    show Function.update system.sleeps sleep awaiter other = {}
    rw [Function.update_of_ne (by omega)]
    exact h.unmadeSleep other hother

theorem Inv.madeSleep {sleep : Nat} (h : Inv exempt system)
    (halive : (system.sleeps sleep).alive = true) : sleep < system.sleepCount := by
  by_contra hunmade
  rw [h.unmadeSleep sleep (by omega)] at halive
  cases halive

theorem Inv.sleepUntil (h : Inv none system) (task : TaskId) (deadline : TimePoint) :
    Inv none (system.sleepUntil task deadline) := by
  have hfree : ¬ Held none system.timers (.sleep system.sleepCount) := by
    intro hheld
    have := (h.heldSleep _ hheld).task
    rw [h.unmadeSleep _ (Nat.le_refl _)] at this
    cases this
  refine { h with heldSleep := ?_, unmadeSleep := ?_ }
  · intro other hother
    have hne : other ≠ system.sleepCount := fun heq => hfree (heq ▸ hother)
    show SleepOk _ other (Function.update system.sleeps system.sleepCount _ other)
    rw [Function.update_of_ne hne]
    exact h.heldSleep other hother
  · intro other hother
    change system.sleepCount + 1 ≤ other at hother
    show Function.update system.sleeps system.sleepCount _ other = {}
    rw [Function.update_of_ne (by omega)]
    exact h.unmadeSleep other (by omega)

/-- An arming that fails with an exception leaves the timers held as they were. -/
theorem Inv.rearmFree {timer : Timer} (h : Inv none system) {next : TimerQueue Timer}
    (hrearmed : TimerQueue.Rearmed system.timers next timer false)
    (howner : (system.timers.registrations timer).owner = false) :
    Inv none { system with timers := next } := by
  have hheld : ∀ other, Held none next other ↔ Held none system.timers other := by
    intro other
    unfold Held
    by_cases hother : other = timer
    · rw [hother, hrearmed.owner_eq, howner]
    · rw [hrearmed.others other hother]
  exact { h with
    timers := hrearmed.ok
    pending := fun query hpending =>
      { h.pending query hpending with
        timersRunning := hrearmed.running.trans (h.pending query hpending).timersRunning
        held := (hheld _).mpr (h.pending query hpending).held }
    heldQuery := fun query hquery => h.heldQuery query ((hheld _).mp hquery)
    heldSleep := fun sleep hsleep => h.heldSleep sleep ((hheld _).mp hsleep) }

theorem Inv.awaitSleep {sleep : Nat} (h : Inv none system)
    (halive : (system.sleeps sleep).alive = true)
    (hexecuting : system.executing (system.sleeps sleep).frame) (armFails : Bool) :
    Inv none (system.awaitSleep sleep armFails) := by
  have hmade := h.madeSleep halive
  have hfree : ¬ Held none system.timers (.sleep sleep) := by
    intro hheld
    have hpoint := (h.heldSleep sleep hheld).waiting.point_eq
    rw [hexecuting] at hpoint
    cases hpoint
  unfold System.awaitSleep
  dsimp only
  split
  · exact h.setSleep hmade hfree
  split
  · exact h.setSleep hmade hfree
  split
  · exact h.setSleep hmade hfree
  have hcases := h.timers.arm_cases (.sleep sleep) (system.sleeps sleep).deadline true armFails
  generalize system.timers.arm (.sleep sleep) (system.sleeps sleep).deadline true armFails =
    outcome at hcases ⊢
  obtain ⟨result, timers⟩ := outcome
  dsimp only at hcases ⊢
  rcases hcases with ⟨rfl, hrunning, -, hrearmed⟩ | ⟨hresult, rfl⟩ | ⟨rfl, howner, hrearmed⟩
  · have hkeeps := Scheduler.setPoint_executing_keeps h.scheduler hexecuting (.sleep sleep)
    have hwaiting := h.scheduler.waiting_executing hexecuting
    have hheld : ∀ timer, timer ≠ .sleep sleep →
        (Held none timers timer ↔ Held none system.timers timer) := by
      intro timer hne
      unfold Held
      rw [hrearmed.others timer hne]
    refine { h with
      scheduler := hkeeps.ok, timers := hrearmed.ok, pending := ?_, heldQuery := ?_
      heldSleep := ?_, unmadeSleep := ?_ }
    · intro query hpending
      have hquery := h.pending query hpending
      exact { hquery with
        timersRunning := hrearmed.running.trans hquery.timersRunning
        waiting := hkeeps.waiting _ _ trivial hquery.waiting
        held := (hheld _ (by simp)).mpr hquery.held }
    · exact fun query hquery => h.heldQuery query ((hheld _ (by simp)).mp hquery)
    · intro other hother
      show SleepOk (system.scheduler.setPoint (system.sleeps sleep).frame (.sleep sleep)) other
        (Function.update system.sleeps sleep _ other)
      by_cases hne : other = sleep
      · subst hne
        rw [Function.update_self]
        refine ⟨rfl, ?_⟩
        constructor <;> simp [hwaiting.bound, hwaiting.queued]
      · rw [Function.update_of_ne hne]
        have hok := h.heldSleep other ((hheld _ (by simpa using hne)).mp hother)
        exact ⟨hok.task, hkeeps.waiting _ _ trivial hok.waiting⟩
    · intro other hother
      change system.sleepCount ≤ other at hother
      show Function.update system.sleeps sleep _ other = {}
      rw [Function.update_of_ne (by omega)]
      exact h.unmadeSleep other hother
  · cases result with
    | none => exact h.setSleep hmade hfree
    | some result =>
      cases result with
      | armed => exact absurd rfl hresult
      | _ => exact h.setSleep hmade hfree
  · have hinv := h.rearmFree hrearmed howner
    refine hinv.setSleep hmade ?_
    rintro (hheld | hnone)
    · exact absurd (hrearmed.owner_eq.symm.trans hheld) (by decide)
    · cases hnone

/-- The beginning of a sleep leaves the channel alone. -/
theorem awaitSleep_frame (system : System) (sleep : Nat) (armFails : Bool) :
    ∃ sleeps scheduler timers, system.awaitSleep sleep armFails =
      { system with sleeps := sleeps, scheduler := scheduler, timers := timers } := by
  unfold System.awaitSleep
  dsimp only
  split_ifs
  · exact ⟨_, _, _, rfl⟩
  · exact ⟨_, _, _, rfl⟩
  · exact ⟨_, _, _, rfl⟩
  split
  all_goals exact ⟨_, _, _, rfl⟩

theorem Inv.destroySleep {sleep : Nat} (h : Inv none system)
    (halive : (system.sleeps sleep).alive = true) : Inv none (system.destroySleep sleep) := by
  have hmade := h.madeSleep halive
  unfold System.destroySleep
  dsimp only
  cases harmed : system.armed (.sleep sleep) with
  | false =>
    rw [abandon_unarmed harmed]
    refine h.setSleep hmade ?_
    rintro (hheld | hnone)
    · exact absurd (harmed.symm.trans hheld) (by decide)
    · cases hnone
  | true =>
    have hsleep := h.heldSleep sleep (.inl harmed)
    have hrearmed : TimerQueue.Rearmed system.timers (system.timers.abandon (.sleep sleep))
      (.sleep sleep) false := h.timers.abandon
    have hscheduler := h.scheduler.setPoint hsleep.waiting (by simp) (by simp) (by simp) .destroyed
    have htasks : ∀ task point, point ≠ .sleep sleep → system.scheduler.Waiting task point →
        (system.scheduler.setPoint (system.sleeps sleep).frame .destroyed).Waiting task point := by
      intro task point hpoint hwaiting
      refine hwaiting.congr (Scheduler.setPoint_tasks_of_ne ?_ _)
      rintro rfl
      exact hpoint (hwaiting.point_eq.symm.trans hsleep.waiting.point_eq)
    have hheld : ∀ timer, Held none (system.timers.abandon (.sleep sleep)) timer →
        timer ≠ .sleep sleep ∧ Held none system.timers timer := by
      rintro timer (howner | hnone)
      · have hne : timer ≠ .sleep sleep := by
          rintro rfl
          rw [hrearmed.owner_eq] at howner
          cases howner
        exact ⟨hne, .inl (hrearmed.others timer hne ▸ howner)⟩
      · cases hnone
    rw [if_pos rfl]
    refine { h with
      scheduler := hscheduler, timers := hrearmed.ok, pending := ?_, heldQuery := ?_
      heldSleep := ?_, unmadeSleep := ?_ }
    · intro query hpending
      have hquery := h.pending query hpending
      exact { hquery with
        timersRunning := hrearmed.running.trans hquery.timersRunning
        waiting := htasks _ _ (by simp) hquery.waiting
        held := .inl (by
          rw [hrearmed.others _ (by simp)]
          exact hquery.held.resolve_right (by simp)) }
    · exact fun query hquery => h.heldQuery query (hheld _ hquery).2
    · intro other hother
      obtain ⟨hne, hold⟩ := hheld _ hother
      have hne : other ≠ sleep := fun heq => hne (heq ▸ rfl)
      have hok := h.heldSleep other hold
      show SleepOk _ other (Function.update system.sleeps sleep _ other)
      rw [Function.update_of_ne hne]
      exact ⟨hok.task, htasks _ _ (by simpa using hne) hok.waiting⟩
    · intro other hother
      change system.sleepCount ≤ other at hother
      show Function.update system.sleeps sleep _ other = {}
      rw [Function.update_of_ne (by omega)]
      exact h.unmadeSleep other hother

/-! ## Starting and stopping -/

theorem Inv.close (h : Inv exempt system) : Inv exempt system.close :=
  { h with ids := fun hstarted => { h.ids hstarted with } }

/-- Without a pending query the audit succeeds. -/
theorem Inv.validated (h : Inv none system) (hstarted : system.channel.hasStarted = true)
    (hcount : system.channel.pendingCount = 0) :
    system.channel.validateIdPool system.channel.config.transactionIdCapacity = true := by
  have hids := h.ids hstarted
  have hslots := h.counted.zero_iff.mp hcount
  refine UpstreamChannel.validateIdPool_of_pool hids.config.capacity_pos hids.config.capacity_le
    hids.pool hcount hslots fun id hpending => ?_
  exact (hids.pending_iff id).mp hpending (hslots id)

/-- `stop` succeeds when nothing is pending. -/
theorem Inv.stop_eq (h : Inv none system) :
    system.stop = if system.channel.pendingCount ≠ 0 then (false, system)
      else (true, { system with channel := { system.channel with
        attached := false, socketFd := -1, running := false, accepting := false } }) := by
  unfold System.stop
  dsimp only
  split
  · rfl
  · rename_i hcount
    rw [if_neg]
    rintro ⟨hstarted, hinvalid⟩
    rw [h.validated hstarted (by simpa using hcount)] at hinvalid
    cases hinvalid

theorem Inv.not_pending (h : Inv none system) (hcount : system.channel.pendingCount = 0)
    (query : QueryId) : (system.queries query).state ≠ .pending := by
  intro hpending
  have := (h.pending query hpending).slot
  rw [h.counted.zero_iff.mp hcount] at this
  cases this

theorem Inv.stop (h : Inv none system) : Inv none system.stop.2 := by
  rw [h.stop_eq]
  split
  · exact h
  · rename_i hcount
    have hcount : system.channel.pendingCount = 0 := by simpa using hcount
    exact { h with
      ids := fun hstarted => { h.ids hstarted with }
      running := fun hrunning => absurd hrunning (by simp)
      stopped := fun _ => h.counted.zero_iff.mp hcount
      pending := fun query hpending => absurd hpending (h.not_pending hcount query) }

/-- The checks of `start` that are about the configuration. -/
theorem startable_config {socketFd : Int} {config : ChannelConfig} {discarded : Bool}
    (hstartable : system.startable socketFd config discarded = true) :
    config.Valid ∧ system.channel.running = false ∧ system.channel.pendingCount = 0 ∧
      (system.channel.hasStarted = true → config = system.channel.config) := by
  unfold startable at hstartable
  simp only [Bool.and_eq_true, Bool.or_eq_true, Bool.not_eq_true', decide_eq_true_eq] at hstartable
  obtain ⟨⟨⟨⟨⟨⟨⟨⟨⟨⟨hrunning, hcount⟩, -⟩, -⟩, -⟩, htimeout⟩, hguard⟩, hcapacity⟩, hspace⟩, hsame⟩, -⟩ :=
    hstartable
  refine ⟨⟨htimeout, hguard, by omega, hspace⟩, hrunning, hcount, fun hstarted => ?_⟩
  exact hsame.resolve_left (by simp [hstarted])

/-- What `start` has prepared before the audit. -/
structure Prepared (config : ChannelConfig) (system prepared : System) : Prop where
  frame : prepared = { system with channel := prepared.channel, readings := prepared.readings }
  pool : PoolOk config.transactionIdCapacity prepared.channel.idStates prepared.channel.freeIds
    prepared.channel.retiredIds
  not_pending : ∀ id, prepared.channel.idStates id ≠ .pending
  slots : ∀ id, prepared.channel.slots id = none
  stats : prepared.channel.stats = {}
  count : prepared.channel.pendingCount = 0

theorem Inv.preparePool (env : Environment) (h : Inv none system) {config : ChannelConfig}
    (hconfig : config.Valid) (hcount : system.channel.pendingCount = 0)
    (hsame : system.channel.hasStarted = true → config = system.channel.config) :
    Prepared config system (system.preparePool env config) := by
  have hslots := h.counted.zero_iff.mp hcount
  unfold System.preparePool
  dsimp only
  split
  · rename_i hstarted
    have hids := h.ids hstarted
    obtain rfl := hsame hstarted
    have hreclaimed := UpstreamChannel.reclaimIds_spec env
      { system.channel with slots := fun _ => none, stats := {} } (system.now env) hids.pool
      fun id hslot => absurd rfl hslot
    have hframe := hreclaimed.frame
    refine ⟨rfl, ?_, ?_, ?_, ?_, ?_⟩
    · have := hreclaimed.pool
      unfold UpstreamChannel.Pool at this
      rwa [hframe.config_eq] at this
    · intro id hpending
      rw [hreclaimed.pending_iff] at hpending
      exact (hids.pending_iff id).mp hpending (hslots id)
    · intro id
      show (UpstreamChannel.reclaimIds _ _ _).slots id = none
      rw [hframe.slots_eq]
    · show (UpstreamChannel.reclaimIds _ _ _).stats = {}
      rw [hframe]
    · show (UpstreamChannel.reclaimIds _ _ _).pendingCount = 0
      rw [hframe]
      exact hcount
  · refine ⟨rfl, UpstreamChannel.initializeIdPool_spec env _ hconfig.capacity_pos
      hconfig.capacity_le, ?_, fun _ => rfl, rfl, hcount⟩
    intro id
    show (if id ∈ UpstreamChannel.initialIds env config then IdState.free else .unavailable) ≠ _
    split <;> simp

/-- A channel that `start` was called on is running, unless a check refused it or
the first start failed with an exception. -/
theorem Inv.start_eq (env : Environment) (h : Inv none system) (socketFd : Int)
    (config : ChannelConfig) (discarded faulty : Bool) :
    system.start env socketFd config discarded faulty =
      if system.startable socketFd config discarded = false then (some false, system)
      else if system.channel.hasStarted = false ∧ faulty then
        (none, { system with
          channel :=
            { system.channel with slots := fun _ => none, stats := {} }.clearIdPool })
      else
        (some true, { system.preparePool env config with
          channel := { (system.preparePool env config).channel with
            attached := true, config := config, socketFd := socketFd, pendingCount := 0
            running := true, accepting := true, hasStarted := true } }) := by
  unfold System.start
  split
  · rfl
  rename_i hstartable
  split
  · rfl
  obtain ⟨hconfig, -, hcount, hsame⟩ := startable_config (Bool.eq_true_of_not_eq_false hstartable)
  have hprepared := h.preparePool env hconfig hcount hsame
  dsimp only
  rw [UpstreamChannel.validateIdPool_of_pool hconfig.capacity_pos hconfig.capacity_le hprepared.pool
    hprepared.count hprepared.slots hprepared.not_pending]
  simp

theorem Inv.start (env : Environment) (h : Inv none system) (socketFd : Int)
    (config : ChannelConfig) (discarded faulty : Bool) :
    Inv none (system.start env socketFd config discarded faulty).2 := by
  rw [h.start_eq]
  split
  · exact h
  rename_i hstartable
  obtain ⟨hconfig, hrunning, hcount, hsame⟩ :=
    startable_config (Bool.eq_true_of_not_eq_false hstartable)
  have hnone := h.not_pending hcount
  have hempty : Counted (fun _ => none) 0 := ⟨∅, by simp⟩
  split
  · rename_i hfirst
    exact { h with
      ids := fun hstarted => Bool.noConfusion (hfirst.1.symm.trans hstarted)
      stopped := fun _ _ => rfl
      slot := fun _ _ hslot => absurd hslot (by simp [UpstreamChannel.clearIdPool])
      pending := fun query hpending => absurd hpending (hnone query)
      counted := (congrArg (Counted fun _ => none) hcount).mpr hempty
      balanced := (congrArg (Balanced {}) hcount).mpr rfl
      failures := fun _ => rfl }
  · obtain ⟨hframe, hpool, hnotPending, hslots, hstats, -⟩ :=
      h.preparePool env hconfig hcount hsame
    generalize system.preparePool env config = prepared at *
    obtain ⟨channel, readings, rfl⟩ : ∃ channel readings,
        prepared = { system with channel := channel, readings := readings } := ⟨_, _, hframe⟩
    have hslots : channel.slots = fun _ => none := funext hslots
    exact { h with
      ids := fun _ => ⟨hconfig, hpool, fun id => by simp [hnotPending id, hslots]⟩
      running := fun _ => ⟨rfl, rfl⟩
      stopped := fun hstopped => absurd hstopped (by simp)
      slot := fun id query hslot => absurd hslot (by simp [hslots])
      pending := fun query hpending => absurd hpending (hnone query)
      counted := (congrArg (fun slots => Counted slots 0) hslots).mpr hempty
      balanced := (congrArg (fun stats => Balanced stats 0) hstats).mpr rfl
      failures := fun _ => (congrArg ChannelStats.invariantFailures hstats).trans rfl }

/-! ## Beginning a query -/

theorem Inv.queryUntil (h : Inv none system) (task : TaskId) (header : Header) (question : Question)
    (deadline : TimePoint) : Inv none (system.queryUntil task header question deadline) := by
  have hfresh := h.unmade system.queryCount (Nat.le_refl _)
  have hold : ∀ other, other ≠ system.queryCount → ∀ awaiter : QueryAwaiter,
      Function.update system.queries system.queryCount awaiter other = system.queries other :=
    fun other hne awaiter => Function.update_of_ne hne _ _
  have hpending : ∀ other, (system.queries other).state = .pending → other ≠ system.queryCount := by
    rintro other hother rfl
    rw [hfresh] at hother
    cases hother
  have hstate : ∀ other, ((system.queryUntil task header question deadline).queries other).state =
      (system.queries other).state := by
    intro other
    by_cases hne : other = system.queryCount
    · subst hne
      simp [System.queryUntil, System.setQuery, hfresh]
    · simp [System.queryUntil, System.setQuery, hne]
  refine { h with
    slot := ?_, pending := ?_, heldQuery := ?_, unmade := ?_
    log := h.log.congr (fun other => by rw [hstate]) fun other hother => by rwa [hstate] at hother }
  · intro id other hslot
    obtain ⟨hother, htransaction⟩ := h.slot id other hslot
    refine ⟨(hstate other).trans hother, ?_⟩
    show (Function.update system.queries system.queryCount _ other).transactionId = id
    rw [hold other (hpending other hother)]
    exact htransaction
  · intro other hother
    rw [hstate] at hother
    show PendingOk none _ _ _ _ other (Function.update system.queries system.queryCount _ other)
    rw [hold other (hpending other hother)]
    exact h.pending other hother
  · intro other hheld
    rw [hstate]
    exact h.heldQuery other hheld
  · intro other hother
    change system.queryCount + 1 ≤ other at hother
    show Function.update system.queries system.queryCount _ other = {}
    rw [hold other (Nat.ne_of_gt hother)]
    exact h.unmade other (Nat.le_of_lt hother)

theorem Inv.makeQuery (env : Environment) (h : Inv none system) (task : TaskId) (header : Header)
    (question : Question) : Inv none (system.query env task header question) := by
  have hread : Inv none { system with readings := system.readings + 1 } := { h with }
  exact hread.queryUntil task header question _

/-- A change of the pool that leaves the pending ids as they were. -/
theorem Inv.setPool (h : Inv exempt system) {channel : UpstreamChannel} {log : List Event}
    (hframe : UpstreamChannel.PoolFrame system.channel channel) (hpool : channel.Pool)
    (hpending : ∀ id, channel.idStates id = .pending ↔ system.channel.idStates id = .pending)
    (readings : Nat) (hlog : LogOk log system.queries)
    (hmemory : Event.outOfMemory ∉ log → Event.outOfMemory ∉ system.log) :
    Inv exempt { system with channel := channel, readings := readings, log := log } := by
  unfold UpstreamChannel.PoolFrame at hframe
  generalize channel.idStates = idStates, channel.freeIds = freeIds,
    channel.retiredIds = retiredIds, channel.draws = draws at hframe
  subst hframe
  exact { h with
    ids := fun hstarted => ⟨(h.ids hstarted).config, hpool, fun id =>
      (hpending id).trans ((h.ids hstarted).pending_iff id)⟩
    failures := fun hnone => h.failures (hmemory hnone)
    log := hlog }

/-- `channel` is the one of `system` after an id was taken from the pool. -/
structure Reserved (now : TimePoint) (system : System) (channel : UpstreamChannel) (id : UInt16) :
    Prop where
  frame : UpstreamChannel.PoolFrame system.channel channel
  pool : channel.Pool
  state : channel.idStates id = .pending
  before : system.channel.idStates id ≠ .pending
  pending_iff : ∀ other, other ≠ id →
    (channel.idStates other = .pending ↔ system.channel.idStates other = .pending)
  kept : ∀ retired ∈ system.channel.retiredIds,
    retired ∈ channel.retiredIds ∨ retired.reusableAt ≤ now

theorem Inv.allocateId (env : Environment) (now : TimePoint) (h : Inv exempt system)
    (hstarted : system.channel.hasStarted = true) :
    (∃ channel, system.channel.allocateId env now = (none, channel) ∧
      UpstreamChannel.Reclaimed now system.channel channel) ∨
    ∃ id channel, system.channel.allocateId env now = (some id, channel) ∧
      Reserved now system channel id := by
  have hids := h.ids hstarted
  obtain ⟨middle, hreclaimed, hnone | ⟨id, ids, hfree, hsome, hpool⟩⟩ :=
    UpstreamChannel.allocateId_spec env now hids.pool fun id hslot =>
      (hids.pending_iff id).mpr hslot
  · exact .inl ⟨middle, hnone, hreclaimed⟩
  · refine .inr ⟨id, _, hsome, ?_⟩
    refine ⟨?_, hpool, by simp, ?_, ?_, hreclaimed.kept⟩
    · have hframe := hreclaimed.frame
      unfold UpstreamChannel.PoolFrame at hframe ⊢
      rw [hframe]
    · rw [ne_eq, ← hreclaimed.pending_iff, hfree]
      simp
    · intro other hother
      rw [← hreclaimed.pending_iff]
      simp [hother]

variable {now : TimePoint} {channel : UpstreamChannel} {id : UInt16} {log : List Event}

/-- The id goes back to the pool. -/
theorem Reserved.released (env : Environment) (h : Reserved now system channel id)
    (now' : TimePoint) :
    ∃ ids draws, UpstreamChannel.releaseId env id now' false channel =
        { channel with
          idStates := Function.update channel.idStates id .free, freeIds := ids, draws := draws } ∧
      PoolOk channel.config.transactionIdCapacity (Function.update channel.idStates id .free) ids
        channel.retiredIds ∧
      ∀ other, Function.update channel.idStates id .free other = .pending ↔
        system.channel.idStates other = .pending := by
  obtain ⟨ids, draws, hrelease, hpool⟩ :=
    UpstreamChannel.releaseId_unsent env channel now' h.pool h.state
  refine ⟨ids, draws, hrelease, hpool, ?_⟩
  intro other
  by_cases hother : other = id
  · subst hother
    simp [h.before]
  · rw [Function.update_of_ne hother]
    exact h.pending_iff other hother

theorem Inv.released (env : Environment) (h : Inv exempt system)
    (hreserved : Reserved now system channel id) (now' : TimePoint) (readings : Nat)
    (hlog : LogOk log system.queries)
    (hmemory : Event.outOfMemory ∉ log → Event.outOfMemory ∉ system.log) :
    Inv exempt { system with
      channel := channel.releaseId env id now' false, readings := readings, log := log } := by
  obtain ⟨ids, draws, hrelease, hpool, hpending⟩ := hreserved.released env now'
  rw [hrelease]
  refine h.setPool ?_ ?_ hpending readings hlog hmemory
  · exact hreserved.frame.trans rfl
  · exact hpool

theorem Reserved.slot (h : Reserved now system channel id) (hinv : Inv exempt system)
    (hstarted : system.channel.hasStarted = true) : channel.slots id = none := by
  by_contra hslot
  rw [h.frame.slots_eq] at hslot
  exact h.before (((hinv.ids hstarted).pending_iff id).mpr hslot)

/-- `begin` has given the query its id and its slot, and `timers` is the queue
after the attempt to arm its deadline. -/
def linked (system : System) (query : QueryId) (task : TaskId) (id : UInt16)
    (timers : TimerQueue Timer) : System :=
  { system.setQuery query { system.queries query with
      owner := true, task := some task, transactionId := id, state := .pending } with
    channel := { system.channel with
      slots := Function.update system.channel.slots id (some query)
      pendingCount := system.channel.pendingCount + 1 }
    timers := timers }

/-- `rollback_begin` gives back the slot, the timer and the id. -/
theorem rollbackBegin_linked (env : Environment) (task : TaskId) (timers : TimerQueue Timer)
    (hslot : system.channel.slots id = none) (hpool : system.channel.Pool)
    (hstate : system.channel.idStates id = .pending) :
    (system.linked query task id timers).rollbackBegin env query =
      { system.setQuery query { system.queries query with
          owner := false, task := none, transactionId := id, state := .idle } with
        channel := system.channel.releaseId env id (system.now env) false
        timers :=
          if (timers.registrations (.query query)).owner ∧ system.channel.attached then
            (timers.disarm (.query query)).2
          else timers
        readings := system.readings + 1 } := by
  have hcapacity := UpstreamChannel.capacity_of_pending hpool hstate
  have hrestored : Function.update (Function.update system.channel.slots id (some query)) id none =
      system.channel.slots := by
    rw [Function.update_idem, ← hslot, Function.update_eq_self]
  unfold rollbackBegin linked
  simp only [System.setQuery, System.armed, System.now, Function.update_self, Function.update_idem,
    hrestored, Nat.add_sub_cancel, Nat.lt_of_not_le hcapacity, and_true, if_true]
  rfl

/-- What `begin` leaves when it does not suspend: the query is idle. -/
structure Idle (system : System) (query : QueryId) : Prop where
  inv : Inv none system
  alive : (system.queries query).alive = true
  idle : (system.queries query).state = .idle

theorem Idle.setStats (h : Idle system query) {stats : ChannelStats}
    (hbalanced : Balanced stats system.channel.pendingCount)
    (hfailures : stats.invariantFailures = system.channel.stats.invariantFailures) :
    Idle { system with channel := { system.channel with stats := stats } } query :=
  ⟨h.inv.setStats hbalanced hfailures, h.alive, h.idle⟩

/-- A change of the awaiter that keeps it idle. -/
theorem Idle.setQuery (h : Idle system query) (awaiter : QueryAwaiter)
    (halive : awaiter.alive = true) (hidle : awaiter.state = .idle) :
    Idle (system.setQuery query awaiter) query := by
  refine ⟨h.inv.setQuery h.alive (by simp [h.idle]) (by simp [hidle]) fun _ => h.idle, ?_, ?_⟩
  · simpa [System.setQuery] using halive
  · simpa [System.setQuery] using hidle

/-- The error of a failed `send` is recorded. -/
theorem Idle.sendError (h : Idle system query) (errorNumber : Int) :
    Idle { system.setQuery query { system.queries query with
        result := { (system.queries query).result with errorNumber := errorNumber } } with
      channel := { system.channel with
        stats := { system.channel.stats with
          sendErrors := system.channel.stats.sendErrors + 1 } } } query :=
  (h.setQuery { system.queries query with
    result := { (system.queries query).result with errorNumber := errorNumber } } h.alive
    h.idle).setStats h.inv.balanced rfl

theorem Idle.released (env : Environment) (h : Idle system query)
    (hreserved : Reserved now system channel id) (now' : TimePoint) (readings : Nat)
    (hlog : LogOk log system.queries)
    (hmemory : Event.outOfMemory ∉ log → Event.outOfMemory ∉ system.log) :
    Idle { system with
      channel := channel.releaseId env id now' false, readings := readings, log := log } query :=
  ⟨h.inv.released env hreserved now' readings hlog hmemory, h.alive, h.idle⟩

theorem Idle.unarmed (h : Idle system query) :
    (system.timers.registrations (.query query)).owner = false :=
  h.inv.not_armed (by simp [h.idle])

/-- The timer of an idle query is not armed, before and after. -/
theorem Idle.rearm (h : Idle system query) {timers : TimerQueue Timer}
    (hrearmed : TimerQueue.Rearmed system.timers timers (.query query) false) :
    Idle { system with timers := timers } query :=
  ⟨h.inv.rearmFree hrearmed h.unarmed, h.alive, h.idle⟩

/-- `next` has the retired ids of `channel`, and the log goes on from `log`. -/
structure Continues (channel : UpstreamChannel) (readings : Nat) (log : List Event)
    (query : QueryId) (next : System) : Prop where
  retired : next.channel.retiredIds = channel.retiredIds
  config : next.channel.config = channel.config
  started : next.channel.hasStarted = channel.hasStarted
  readings : readings ≤ next.readings
  log : next.log = log ∨ next.log = log ++ [.suspended query]

theorem Reserved.continues (env : Environment) (h : Reserved now system channel id)
    (now' : TimePoint) {next : System}
    (hchannel : next.channel = channel.releaseId env id now' false) {readings : Nat}
    (hreadings : readings ≤ next.readings) (hlog : next.log = log) :
    Continues channel readings log query next := by
  obtain ⟨ids, draws, hrelease, -⟩ := h.released env now'
  rw [hrelease] at hchannel
  constructor
  · rw [hchannel]
  · rw [hchannel]
  · rw [hchannel]
  · exact hreadings
  · exact .inl hlog

/-- Every way back out of `begin` after the query had its slot. -/
theorem Idle.rolledBack (env : Environment) (h : Idle system query)
    (hstarted : system.channel.hasStarted = true) (hreserved : Reserved now system channel id)
    (task : TaskId) (readings : Nat) (hlog : LogOk log system.queries)
    (hmemory : Event.outOfMemory ∉ log → Event.outOfMemory ∉ system.log)
    {timers timers' : TimerQueue Timer}
    (htimers : (if (timers.registrations (.query query)).owner ∧ channel.attached then
      (timers.disarm (.query query)).2 else timers) = timers')
    (hrearmed : TimerQueue.Rearmed system.timers timers' (.query query) false) :
    Idle ((linked { system with channel := channel, readings := readings, log := log } query task id
      timers).rollbackBegin env query) query ∧
    Continues channel readings log query
      ((linked { system with channel := channel, readings := readings, log := log } query task id
        timers).rollbackBegin env query) := by
  have hslot := hreserved.slot h.inv hstarted
  rw [rollbackBegin_linked env task timers hslot hreserved.pool hreserved.state]
  refine ⟨?_, hreserved.continues env (env.clock readings) rfl (Nat.le_succ _) rfl⟩
  dsimp only
  rw [htimers]
  have hreleased := h.released env hreserved (env.clock readings) (readings + 1) hlog hmemory
  exact Idle.rearm (hreleased.setQuery { system.queries query with
    owner := false, task := none, transactionId := id, state := .idle } h.alive rfl) hrearmed

theorem rearmed_refl {timers : TimerQueue Timer} {timer : Timer} (h : timers.Ok)
    (howner : (timers.registrations timer).owner = false) :
    TimerQueue.Rearmed timers timers timer false :=
  ⟨h, rfl, rfl, howner, fun _ _ => rfl⟩

theorem rearmed_trans {first second third : TimerQueue Timer} {timer : Timer} {armed : Bool}
    (h : TimerQueue.Rearmed first second timer armed)
    (h' : TimerQueue.Rearmed second third timer false) :
    TimerQueue.Rearmed first third timer false :=
  ⟨h'.ok, h'.running.trans h.running, h'.accepting.trans h.accepting, h'.owner_eq,
    fun other hne => (h'.others other hne).trans (h.others other hne)⟩

/-- The query was sent: it has its slot and its timer, and its task waits. -/
theorem Idle.suspended (h : Idle system query) (hrunning : system.channel.running = true)
    (hreserved : Reserved now system channel id)
    (hexecuting : system.executing (system.queries query).frame) (readings : Nat)
    (hlog : LogOk log system.queries)
    (hmemory : Event.outOfMemory ∉ log → Event.outOfMemory ∉ system.log)
    {timers : TimerQueue Timer} (htimers : system.timers.running = true)
    (hrearmed : TimerQueue.Rearmed system.timers timers (.query query) true) :
    Inv none { linked { system with channel := channel, readings := readings, log := log } query
        (system.queries query).frame id timers with
      channel := { channel with
        slots := Function.update channel.slots id (some query)
        pendingCount := channel.pendingCount + 1
        stats := { channel.stats with queriesSent := channel.stats.queriesSent + 1 } }
      log := log ++ [.suspended query]
      scheduler := system.scheduler.setPoint (system.queries query).frame (.query query) } := by
  have hinv := h.inv
  obtain ⟨hstarted, -⟩ := hinv.running hrunning
  have hslot := hreserved.slot hinv hstarted
  have hkeeps := Scheduler.setPoint_executing_keeps hinv.scheduler hexecuting (.query query)
  have hwaiting := hinv.scheduler.waiting_executing hexecuting
  have hmade := hinv.made h.alive
  obtain ⟨idStates, freeIds, retiredIds, draws, rfl⟩ : ∃ idStates freeIds retiredIds draws,
      channel = { system.channel with
        idStates := idStates, freeIds := freeIds, retiredIds := retiredIds, draws := draws } :=
    ⟨_, _, _, _, hreserved.frame⟩
  have hne : ∀ other, (system.queries other).state = .pending → other ≠ query := by
    rintro other hother rfl
    rw [h.idle] at hother
    cases hother
  have hheld : ∀ timer, timer ≠ .query query →
      (Held none timers timer ↔ Held none system.timers timer) := by
    intro timer hother
    unfold Held
    rw [hrearmed.others timer hother]
  have hlinked : ∀ other, other ≠ query → ∀ awaiter : QueryAwaiter,
      Function.update system.queries query awaiter other = system.queries other :=
    fun other hother awaiter => Function.update_of_ne hother _ _
  refine
    { scheduler := hkeeps.ok
      timers := hrearmed.ok
      ids := ?_
      running := hinv.running
      stopped := fun hstopped => Bool.noConfusion (hrunning.symm.trans hstopped)
      slot := ?_
      pending := ?_
      heldQuery := ?_
      heldSleep := ?_
      counted := hinv.counted.occupy hslot
      balanced := ?_
      failures := ?_
      unmade := ?_
      unmadeSleep := hinv.unmadeSleep
      log := hlog.suspend h.idle rfl }
  · intro _
    refine ⟨(hinv.ids hstarted).config, hreserved.pool, fun other => ?_⟩
    show idStates other = .pending ↔
      Function.update system.channel.slots id (some query) other ≠ none
    by_cases hother : other = id
    · subst hother
      simpa using hreserved.state
    · rw [Function.update_of_ne hother]
      exact (hreserved.pending_iff other hother).trans ((hinv.ids hstarted).pending_iff other)
  · intro other owner howner
    change Function.update system.channel.slots id (some query) other = some owner at howner
    show (Function.update system.queries query _ owner).state = _ ∧
      (Function.update system.queries query _ owner).transactionId = other
    by_cases hother : other = id
    · subst hother
      rw [Function.update_self] at howner
      obtain rfl := Option.some.inj howner
      simp
    · rw [Function.update_of_ne hother] at howner
      obtain ⟨hpending, htransaction⟩ := hinv.slot other owner howner
      rw [hlinked owner (hne owner hpending)]
      exact ⟨hpending, htransaction⟩
  · intro other hother
    show PendingOk none (Function.update system.channel.slots id (some query)) _ _ _ other
      (Function.update system.queries query _ other)
    change (Function.update system.queries query _ other).state = .pending at hother
    by_cases hself : other = query
    · subst hself
      rw [Function.update_self]
      exact
        { owner := rfl
          task := rfl
          slot := Function.update_self _ _ _
          running := hrunning
          timersRunning := hrearmed.running.trans htimers
          waiting := by constructor <;> simp [hwaiting.bound, hwaiting.queued]
          held := .inl hrearmed.owner_eq }
    · rw [hlinked other hself] at hother ⊢
      have hok := hinv.pending other hother
      have hid : (system.queries other).transactionId ≠ id := by
        intro heq
        have hoccupied := hok.slot
        rw [heq] at hoccupied
        change system.channel.slots id = none at hslot
        rw [hslot] at hoccupied
        cases hoccupied
      exact
        { hok with
          slot := (Function.update_of_ne hid _ _).trans hok.slot
          timersRunning := hrearmed.running.trans hok.timersRunning
          waiting := hkeeps.waiting _ _ trivial hok.waiting
          held := (hheld _ fun heq => hself (Timer.query.inj heq)).mpr hok.held }
  · intro other hother
    show (Function.update system.queries query _ other).state = .pending
    by_cases hself : other = query
    · subst hself
      simp
    · rw [hlinked other hself]
      exact hinv.heldQuery other ((hheld _ fun heq => hself (Timer.query.inj heq)).mp hother)
  · intro sleep hsleep
    have hok := hinv.heldSleep sleep ((hheld _ (by simp)).mp hsleep)
    exact ⟨hok.task, hkeeps.waiting _ _ trivial hok.waiting⟩
  · have := hinv.balanced
    unfold Balanced at this ⊢
    dsimp only
    omega
  · intro hnone
    exact hinv.failures (hmemory fun hmem => hnone (List.mem_append_left _ hmem))
  · intro other hother
    change system.queryCount ≤ other at hother
    show Function.update system.queries query _ other = {}
    rw [hlinked other (Nat.ne_of_gt (Nat.lt_of_lt_of_le hmade hother))]
    exact hinv.unmade other hother

/-- What `begin` returns: the query is suspended once its task is, or idle. -/
def Begun (query : QueryId) (task : TaskId) (result : Option BeginResult) (next : System) : Prop :=
  (result = some .suspended ∧ Inv none { next with
    scheduler := next.scheduler.setPoint task (.query query) }) ∨
  (result ≠ some .suspended ∧ Idle next query)

/-- What the attempt to send does. -/
theorem Idle.beginSend (env : Environment) (h : Idle system query)
    (hrunning : system.channel.running = true) (htimers : system.timers.running = true)
    (hreserved : Reserved now system channel id)
    (hexecuting : system.executing (system.queries query).frame) (readings : Nat)
    (hlog : LogOk log system.queries)
    (hmemory : Event.outOfMemory ∉ log → Event.outOfMemory ∉ system.log) (wire : Bytes)
    (armFails : Bool) (sent : SendOutcome) {result : Option BeginResult} {next : System}
    (hresult : beginSend env { system with channel := channel, readings := readings, log := log }
      query (system.queries query).frame id wire armFails sent = (result, next)) :
    Continues channel readings log query next ∧
      Begun query (system.queries query).frame result next := by
  obtain ⟨hstarted, hattached⟩ := h.inv.running hrunning
  have hunarmed := h.unarmed
  have hcases := h.inv.timers.arm_cases (.query query) (system.queries query).deadline true armFails
  unfold System.beginSend at hresult
  dsimp only [System.setQuery] at hresult
  generalize system.timers.arm (.query query) (system.queries query).deadline true armFails =
    outcome at hcases hresult
  obtain ⟨attempt, timers⟩ := outcome
  dsimp only at hcases hresult
  have hback : ∀ timers', (if (timers.registrations (.query query)).owner ∧ channel.attached then
        (timers.disarm (.query query)).2 else timers) = timers' →
      TimerQueue.Rearmed system.timers timers' (.query query) false →
      Idle ((linked { system with channel := channel, readings := readings, log := log } query
        (system.queries query).frame id timers).rollbackBegin env query) query ∧
      Continues channel readings log query
        ((linked { system with channel := channel, readings := readings, log := log } query
          (system.queries query).frame id timers).rollbackBegin env query) :=
    fun timers' => h.rolledBack env hstarted hreserved _ readings hlog hmemory
  rcases hcases with ⟨rfl, -, -, hrearmed⟩ | ⟨harmed, rfl⟩ | ⟨rfl, -, hrearmed⟩
  · dsimp only at hresult
    split at hresult
    · obtain ⟨rfl, rfl⟩ := Prod.mk.inj hresult
      exact ⟨⟨rfl, rfl, rfl, Nat.le_refl _, .inr rfl⟩, .inl ⟨rfl, h.suspended hrunning hreserved
        hexecuting readings hlog hmemory htimers hrearmed⟩⟩
    · obtain ⟨rfl, rfl⟩ := Prod.mk.inj hresult
      obtain ⟨-, hdisarmed⟩ := hrearmed.ok.disarm hrearmed.owner_eq
      obtain ⟨hidle, hcontinues⟩ := hback _
        (if_pos ⟨hrearmed.owner_eq, hreserved.frame.attached_eq.trans hattached⟩)
        (rearmed_trans hrearmed hdisarmed)
      exact ⟨{ hcontinues with }, .inr ⟨by simp, hidle.sendError _⟩⟩
  · obtain ⟨hidle, hcontinues⟩ :=
      hback _ (if_neg (by simp [hunarmed])) (rearmed_refl h.inv.timers hunarmed)
    cases attempt with
    | none =>
      obtain ⟨rfl, rfl⟩ := Prod.mk.inj hresult
      exact ⟨hcontinues, .inr ⟨by simp, hidle⟩⟩
    | some attempt =>
      cases attempt with
      | armed => exact absurd rfl harmed
      | _ =>
        obtain ⟨rfl, rfl⟩ := Prod.mk.inj hresult
        exact ⟨hcontinues, .inr ⟨by simp, hidle⟩⟩
  · obtain ⟨hidle, hcontinues⟩ := hback _ (if_neg (by simp [hrearmed.owner_eq])) hrearmed
    obtain ⟨rfl, rfl⟩ := Prod.mk.inj hresult
    exact ⟨hcontinues, .inr ⟨by simp, hidle⟩⟩

/-- The log and the retired ids after `begin`: it refused at once, it found no
free id, or it was given the id that it logs. -/
inductive BeginTrace (env : Environment) (query : QueryId) (system next : System) : Prop where
  | refused (h : next = system)
  | overloaded (channel : UpstreamChannel)
      (h : UpstreamChannel.Reclaimed (system.now env) system.channel channel)
      (hnext : Continues channel (system.readings + 1) system.log query next)
  | allocated (id : UInt16) (channel : UpstreamChannel)
      (h : Reserved (system.now env) system channel id)
      (hnext : Continues channel (system.readings + 1)
        (system.log ++ [.allocated query id (system.now env)]) query next)

/-- What `begin` does with an idle query. -/
theorem Idle.begin (env : Environment) (h : Idle system query)
    (hexecuting : system.executing (system.queries query).frame) (writeFails armFails : Bool)
    (sent : SendOutcome) (result : Option BeginResult) (next : System)
    (hresult : system.begin env query (system.queries query).frame writeFails armFails sent =
      (result, next)) :
    BeginTrace env query system next ∧ Begun query (system.queries query).frame result next := by
  unfold System.begin at hresult
  split at hresult
  · obtain ⟨rfl, rfl⟩ := Prod.mk.inj hresult
    exact ⟨.refused rfl, .inr ⟨by simp, h⟩⟩
  rename_i hopen
  split at hresult
  · obtain ⟨rfl, rfl⟩ := Prod.mk.inj hresult
    exact ⟨.refused rfl, .inr ⟨by simp, h⟩⟩
  rename_i hbound
  have hrunning : system.channel.running = true := by
    simpa using fun hstopped => hopen (.inl hstopped)
  have htimers : system.timers.running = true := by
    simpa using fun hstopped => hbound (.inr (.inr hstopped))
  obtain ⟨hstarted, -⟩ := h.inv.running hrunning
  have hnote : ∀ id, LogOk (system.log ++ [.allocated query id (system.now env)]) system.queries :=
    fun id => h.inv.log.note (by simp [Event.ends]) (by simp)
  have hmemory : ∀ id, Event.outOfMemory ∉ system.log ++ [.allocated query id (system.now env)] →
      Event.outOfMemory ∉ system.log := fun id hnone hmem => hnone (List.mem_append_left _ hmem)
  dsimp only at hresult
  rcases h.inv.allocateId env (system.now env) hstarted with
    ⟨channel, hnone, hreclaimed⟩ | ⟨id, channel, hsome, hreserved⟩
  · rw [hnone] at hresult
    dsimp only at hresult
    obtain ⟨rfl, rfl⟩ := Prod.mk.inj hresult
    have hinv := h.inv.setPool hreclaimed.frame hreclaimed.pool hreclaimed.pending_iff
      (system.readings + 1) h.inv.log id
    exact ⟨.overloaded channel hreclaimed ⟨rfl, rfl, rfl, Nat.le_refl _, .inl rfl⟩,
      .inr ⟨by simp, Idle.setStats ⟨hinv, h.alive, h.idle⟩ hinv.balanced rfl⟩⟩
  · rw [hsome] at hresult
    dsimp only at hresult
    have hreleased := h.released env hreserved (system.now env) (system.readings + 1) (hnote id)
      (hmemory id)
    split at hresult
    · obtain ⟨rfl, rfl⟩ := Prod.mk.inj hresult
      exact ⟨.allocated id channel hreserved
        (hreserved.continues env _ rfl (Nat.le_refl _) rfl), .inr ⟨by simp, hreleased⟩⟩
    split at hresult
    · obtain ⟨rfl, rfl⟩ := Prod.mk.inj hresult
      exact ⟨.allocated id channel hreserved
        (hreserved.continues env _ rfl (Nat.le_refl _) rfl), .inr ⟨by simp, hreleased⟩⟩
    · obtain ⟨hcontinues, hbegun⟩ := h.beginSend env hrunning htimers hreserved hexecuting _
        (hnote id) (hmemory id) _ _ _ hresult
      exact ⟨.allocated id channel hreserved hcontinues, hbegun⟩

theorem Inv.awaitQuery (env : Environment) (h : Inv none system)
    (halive : (system.queries query).alive = true)
    (hexecuting : system.executing (system.queries query).frame) (writeFails armFails : Bool)
    (sent : SendOutcome) : Inv none (system.awaitQuery env query writeFails armFails sent) := by
  -- a pending query suspends its task, so the executing task awaits another one
  have hpending : (system.queries query).state ≠ .pending := by
    intro hpending
    have hpoint := (h.pending query hpending).waiting.point_eq
    rw [hexecuting] at hpoint
    cases hpoint
  unfold System.awaitQuery
  dsimp only
  split
  · exact h.setQuery halive hpending (by simp) (by simp)
  split
  · exact h.setQuery halive hpending (by simp) (by simp)
  split
  · exact h.setQuery halive hpending (by simp) (by simp)
  rename_i hfresh
  have hidle : (system.queries query).state = .idle := by
    by_contra hstate
    exact hfresh (.inr hstate)
  have hbegin := Idle.begin env ⟨h, halive, hidle⟩ hexecuting writeFails armFails sent
  split
  · rename_i next hresult
    exact ((hbegin _ _ hresult).2.resolve_left (by simp)).2.inv
  · rename_i next hresult
    exact ((hbegin _ _ hresult).2.resolve_right (by simp)).2
  · rename_i result next hsuspended hresult
    have hnext := ((hbegin _ _ hresult).2.resolve_left (by
      rintro ⟨heq, -⟩
      exact hsuspended (Option.some.inj heq))).2
    refine hnext.inv.setQuery hnext.alive (by simp [hnext.idle]) ?_ ?_
    · cases result <;> simp [QueryAwaiter.refused, hnext.idle]
    · exact fun _ => hnext.idle

/-! ## Runs -/

theorem inv_initial : Inv none initial where
  scheduler := ⟨rfl, List.nodup_nil, by simp [initial], by simp [initial], by simp [initial],
    by simp [initial], by simp [initial]⟩
  timers := TimerQueue.ok_new
  ids hstarted := by cases hstarted
  running hrunning := by cases hrunning
  stopped _ _ := rfl
  slot _ _ hslot := by cases hslot
  pending _ hpending := by cases hpending
  heldQuery _ hheld := by rcases hheld with howner | hnone <;> contradiction
  heldSleep _ hheld := by rcases hheld with howner | hnone <;> contradiction
  counted := ⟨∅, by simp [initial]⟩
  balanced := rfl
  failures _ := rfl
  unmade _ _ := rfl
  unmadeSleep _ _ := rfl
  log := ⟨fun _ => by simp [initial], fun _ => by simp [initial], fun _ h => by simp [initial] at h⟩

theorem inv_step (env : Environment) (label : Label) {next : System} (h : Inv none system)
    (hstep : step env system label = some next) : Inv none next := by
  cases label with
  | start socketFd config discarded faulty =>
    obtain rfl := Option.some.inj hstep
    exact h.start env socketFd config discarded faulty
  | close =>
    obtain rfl := Option.some.inj hstep
    exact h.close
  | stop =>
    obtain rfl := Option.some.inj hstep
    exact h.stop
  | query task header question =>
    obtain ⟨-, rfl⟩ := Transition.enabled hstep
    exact h.makeQuery env task header question
  | queryUntil task header question deadline =>
    obtain ⟨-, rfl⟩ := Transition.enabled hstep
    exact h.queryUntil task header question deadline
  | awaitQuery query writeFails armFails sent =>
    obtain ⟨⟨halive, hexecuting⟩, rfl⟩ := Transition.enabled hstep
    exact h.awaitQuery env halive hexecuting writeFails armFails sent
  | destroyQuery query =>
    obtain ⟨-, rfl⟩ := Transition.enabled hstep
    exact h.destroyQuery env query
  | handleDatagram packet truncated allocationFails =>
    obtain rfl := Option.some.inj hstep
    exact (inv_kept env).handleDatagram h packet truncated allocationFails
  | drain budget received =>
    obtain rfl := Option.some.inj hstep
    exact (inv_kept env).drain h budget received
  | failAll outcome errorNumber =>
    obtain rfl := Option.some.inj hstep
    exact (inv_kept env).failAll h outcome errorNumber
  | expire now budget =>
    obtain rfl := Option.some.inj hstep
    exact (inv_kept env).expire h now budget
  | cancelTimers =>
    obtain rfl := Option.some.inj hstep
    exact (inv_kept env).cancelTimers h
  | startTimers =>
    obtain rfl := Option.some.inj hstep
    exact h.startTimers _
  | closeTimers =>
    obtain rfl := Option.some.inj hstep
    exact h.closeTimers
  | stopTimers =>
    obtain rfl := Option.some.inj hstep
    exact h.stopTimers
  | sleepUntil task deadline =>
    obtain ⟨-, rfl⟩ := Transition.enabled hstep
    exact h.sleepUntil task deadline
  | awaitSleep sleep armFails =>
    obtain ⟨⟨halive, hexecuting⟩, rfl⟩ := Transition.enabled hstep
    exact h.awaitSleep halive hexecuting armFails
  | destroySleep sleep =>
    obtain ⟨halive, rfl⟩ := Transition.enabled hstep
    exact h.destroySleep halive
  | spawn task =>
    obtain ⟨hfresh, rfl⟩ := Transition.enabled hstep
    exact h.setScheduler (Scheduler.spawn_keeps h.scheduler hfresh)
  | resume =>
    obtain ⟨scheduler, hfront, rfl⟩ := Option.map_eq_some_iff.mp hstep
    exact h.setScheduler (Scheduler.runFront_keeps h.scheduler hfront)
  | yield task =>
    obtain ⟨hexecuting, rfl⟩ := Transition.enabled hstep
    exact h.setScheduler (Scheduler.yield_keeps h.scheduler hexecuting)
  | awaitTask task child =>
    obtain ⟨⟨hexecuting, hfresh⟩, rfl⟩ := Transition.enabled hstep
    exact h.setScheduler (Scheduler.awaitTask_keeps h.scheduler hexecuting hfresh)
  | complete task =>
    obtain ⟨hexecuting, rfl⟩ := Transition.enabled hstep
    exact h.setScheduler (Scheduler.complete_keeps h.scheduler hexecuting)
  | clearReady =>
    obtain rfl := Option.some.inj hstep
    exact h.setScheduler (Scheduler.clearReady_keeps h.scheduler)
  | requestStop =>
    obtain rfl := Option.some.inj hstep
    exact h.requestStop

theorem inv_run (env : Environment) {labels : List Label} (hrun : run env labels = some system) :
    Inv none system :=
  Transition.run_invariant (Inv none) (fun _ label _ h hstep => inv_step env label h hstep)
    inv_initial hrun

end System

end DnsPro.Upstream
