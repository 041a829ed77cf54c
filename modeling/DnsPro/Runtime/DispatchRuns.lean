import DnsPro.Runtime.DispatchInvariant

/-!
# Runs of the dispatcher

Every run keeps the lists well formed and follows the abstract dispatcher, as long as
no task is resumed too early: while it waits for a child that is not done, and the
child, or a frame that the child waits for in its turn, is on the ready list.  The
child is destroyed then, and the ready list leads to a frame that is gone.

`Invariant` is what `Sound` says together with how the flags and the abstract
dispatcher agree with the place where the program is.  `Idle` is the part of it that
holds between two tasks, when the loop of `run_ready` or of `shutdown` decides what
comes next.
-/

namespace DnsPro.Runtime.Dispatch

open Transition

variable {state next : State} {dispatcher : FifoDispatcher} {label : Label} {task : Nat}
  {call : Call} {budget resumed : Nat} {queue roots : List TaskId}

/-- The call of `run_ready` that is under way. -/
def Control.currentCall : Control → Option (Nat × Nat)
  | .outside => none
  | .loop call => some (call.budget, call.resumed)
  | .executing call _ _ => some (call.budget, call.resumed)

/-- The task that the loop has resumed. -/
def Control.currentTask : Control → Option TaskId
  | .executing _ task _ => some task
  | _ => none

namespace State

/-- The task that a step of the loop resumes. -/
def front (state : State) : Option TaskId :=
  match state.control with
  | .loop call => if call.resumed < call.budget then state.readyHead else none
  | _ => none

/-- The task waits for a child, and a frame that would be destroyed with it is on the
ready list. -/
def awaitsQueued (state : State) (task : TaskId) : Bool :=
  match (state.promises task).point with
  | .child child => (state.owned child).any fun other => (state.promises other).queued
  | _ => false

end State

/-- No step resumes a task while it waits for a child that is on the ready list, or
owns a frame that is. -/
def Steady (state : State) (label : Label) : Prop :=
  label = .pass → state.front.any state.awaitsQueued = false

instance (state : State) (label : Label) : Decidable (Steady state label) :=
  inferInstanceAs (Decidable (_ → _))

/-! ## The invariant -/

structure Controlled (state : State) (dispatcher : FifoDispatcher) : Prop where
  call : dispatcher.call = state.control.currentCall
  executing : dispatcher.executing = state.control.currentTask
  pending : dispatcher.pending = state.cancelPending
  dispatching : state.dispatching = state.control.currentTask.isSome
  running : state.control ≠ .outside → state.running = true
  stopped : state.running = false → dispatcher.queue = [] ∧ dispatcher.roots = []
  cancel : state.cancelPending = true → state.dispatching = true
  shutdown : state.shutdownPending = true → state.cancelPending = true
  root : ∀ call task root, state.control = .executing call task root →
    task < state.frames ∧ (root = true ↔ task ∈ dispatcher.roots)

structure Invariant (state : State) (dispatcher : FifoDispatcher) : Prop where
  sound : Sound state dispatcher state.control.currentTask
  controlled : Controlled state dispatcher

/-- No task executes and no cancellation is pending. -/
structure Idle (state : State) (dispatcher : FifoDispatcher) : Prop where
  sound : Sound state dispatcher none
  executing : dispatcher.executing = none
  pending : dispatcher.pending = false
  cancelPending : state.cancelPending = false
  shutdownPending : state.shutdownPending = false
  dispatching : state.dispatching = false
  stopped : state.running = false → dispatcher.queue = [] ∧ dispatcher.roots = []

/-- The invariant holds, and lists that were empty before still are. -/
def Leads (dispatcher : FifoDispatcher) (next : State) : Prop :=
  ∃ after, Invariant next after ∧
    (dispatcher.queue = [] → dispatcher.roots = [] → after.queue = [] ∧ after.roots = [])

/-! ## Between two tasks -/

theorem Idle.invariant (h : Idle state dispatcher)
    (hcall : dispatcher.call = state.control.currentCall)
    (htask : state.control.currentTask = none)
    (hrunning : state.control ≠ .outside → state.running = true) : Invariant state dispatcher := by
  refine ⟨?_, ?_⟩
  · rw [htask]
    exact h.sound
  · refine ⟨hcall, h.executing.trans htask.symm, h.pending.trans h.cancelPending.symm, ?_,
      hrunning, h.stopped, ?_, ?_, ?_⟩
    · rw [h.dispatching, htask]
      rfl
    · intro hpending
      exact absurd (h.cancelPending.symm.trans hpending) Bool.false_ne_true
    · intro hpending
      exact absurd (h.shutdownPending.symm.trans hpending) Bool.false_ne_true
    · intro call task root heq
      rw [heq] at htask
      cases htask

/-- The program goes to another place. -/
theorem Idle.withControl (h : Idle state dispatcher) (control : Control) :
    Idle { state with control := control } dispatcher where
  sound := h.sound.congr ⟨rfl, rfl, rfl⟩ ⟨rfl, rfl⟩ rfl le_rfl rfl rfl
  executing := h.executing
  pending := h.pending
  cancelPending := h.cancelPending
  shutdownPending := h.shutdownPending
  dispatching := h.dispatching
  stopped := h.stopped

theorem Idle.atOutside (h : Idle state dispatcher) (hcall : dispatcher.call = none) :
    Leads dispatcher { state with control := .outside } :=
  ⟨dispatcher, (h.withControl .outside).invariant hcall rfl (fun hne => absurd rfl hne),
    fun hqueue hroots => ⟨hqueue, hroots⟩⟩

theorem Idle.atLoop (h : Idle state dispatcher)
    (hcall : dispatcher.call = some (call.budget, call.resumed))
    (hrunning : state.running = true) : Leads dispatcher { state with control := .loop call } :=
  ⟨dispatcher, (h.withControl (.loop call)).invariant hcall rfl (fun _ => hrunning),
    fun hqueue hroots => ⟨hqueue, hroots⟩⟩

/-- Operations that leave the flags alone. -/
theorem Idle.keep (h : Idle state dispatcher) {after : FifoDispatcher}
    (hsound : Sound next after none) (hstatus : next.status = state.status)
    (hexecuting : after.executing = none) (hpending : after.pending = false)
    (hstopped : state.running = false → after.queue = [] ∧ after.roots = []) :
    Idle next after where
  sound := hsound
  executing := hexecuting
  pending := hpending
  cancelPending := (congrArg Status.cancelPending hstatus).trans h.cancelPending
  shutdownPending := (congrArg Status.shutdownPending hstatus).trans h.shutdownPending
  dispatching := (congrArg Status.dispatching hstatus).trans h.dispatching
  stopped := fun hrunning => hstopped ((congrArg Status.running hstatus).symm.trans hrunning)

theorem Idle.observe (h : Idle state dispatcher) : Idle state.observeExternalStop dispatcher :=
  h.keep h.sound.observe observe_status h.executing h.pending h.stopped

theorem Idle.enter (h : Idle state dispatcher) (hcall : dispatcher.call = none)
    (hrunning : state.running = true) (budget : Nat) (shutdown : Option (Nat × Nat)) :
    Leads dispatcher (state.enter budget shutdown) := by
  have hentered : Idle (state.observeExternalStop.record (.entered budget))
      { dispatcher with call := some (budget, 0) } := by
    refine h.observe.keep (h.observe.sound.record (if_pos ⟨hcall, h.executing⟩) rfl rfl rfl) rfl
      h.executing h.pending ?_
    intro hstopped
    exact h.stopped ((congrArg Status.running observe_status).symm.trans hstopped)
  have hloop := @Idle.atLoop _ _ ⟨budget, 0, shutdown⟩ hentered rfl
    ((congrArg Status.running observe_status).trans hrunning)
  exact hloop

theorem Idle.not_executing (h : Idle state dispatcher) (task : TaskId) :
    (state.promises task).point ≠ .executing := by
  intro heq
  cases h.sound.executing task heq

theorem Idle.cancelAllNow (h : Idle state dispatcher) (hcall : dispatcher.call = none) :
    Idle state.cancelAllNow
      { dispatcher with
        queue := []
        roots := []
        ended := dispatcher.ended ++ dispatcher.roots
        pending := false } :=
  h.keep (h.sound.cancelAllNow h.executing (Or.inr hcall) h.not_executing) cancelAllNow_status
    h.executing rfl fun _ => ⟨rfl, rfl⟩

theorem Idle.deactivate (h : Idle state dispatcher) (hqueue : dispatcher.queue = [])
    (hroots : dispatcher.roots = []) : Idle state.deactivate dispatcher where
  sound := h.sound.congr ⟨rfl, rfl, rfl⟩ ⟨rfl, rfl⟩ rfl le_rfl rfl rfl
  executing := h.executing
  pending := h.pending
  cancelPending := rfl
  shutdownPending := rfl
  dispatching := rfl
  stopped := fun _ => ⟨hqueue, hroots⟩

/-- A `shutdown` that comes to its end leaves both lists empty. -/
theorem Idle.finishShutdown (h : Idle state dispatcher) (hcall : dispatcher.call = none) :
    ∃ after, Invariant state.finishShutdown after ∧ after.queue = [] ∧ after.roots = [] := by
  unfold State.finishShutdown
  dsimp only
  split
  · obtain ⟨after, hinvariant, hempty⟩ := ((h.cancelAllNow hcall).deactivate rfl rfl).atOutside hcall
    exact ⟨after, hinvariant, hempty rfl rfl⟩
  · rename_i hrunning
    obtain ⟨hqueue, hroots⟩ := h.stopped (by simpa using hrunning)
    obtain ⟨after, hinvariant, hempty⟩ := h.atOutside hcall
    exact ⟨after, hinvariant, hempty hqueue hroots⟩

theorem Idle.shutdownLoop (h : Idle state dispatcher) (hcall : dispatcher.call = none)
    (budget resumed : Nat) :
    ∃ after, Invariant (state.shutdownLoop budget resumed) after ∧
      ((state.shutdownLoop budget resumed).control = .outside ∨
        dispatcher.queue = [] ∧ dispatcher.roots = [] → after.queue = [] ∧ after.roots = []) := by
  unfold State.shutdownLoop
  split
  · rename_i hloop
    obtain ⟨after, hinvariant, hempty⟩ :=
      h.enter hcall hloop.1 (budget - resumed) (some (budget, resumed))
    refine ⟨after, hinvariant, ?_⟩
    intro hcases
    obtain houtside | hlists := hcases
    · cases houtside
    · exact hempty hlists.1 hlists.2
  · obtain ⟨after, hinvariant, hempty⟩ := h.finishShutdown hcall
    exact ⟨after, hinvariant, fun _ => hempty⟩

theorem Idle.leave (h : Idle state dispatcher)
    (hcall : dispatcher.call = some (call.budget, call.resumed))
    (hdone : dispatcher.queue = [] ∨ call.budget ≤ call.resumed) :
    ∃ after, Invariant (state.leave call) after ∧
      (call.shutdown ≠ none ∧ (state.leave call).control = .outside ∨
        dispatcher.queue = [] ∧ dispatcher.roots = [] → after.queue = [] ∧ after.roots = []) := by
  have hreturned : Idle (state.record (.returned call.resumed)) { dispatcher with call := none } := by
    refine h.keep (h.sound.record (if_pos ?_) rfl rfl rfl) rfl h.executing h.pending h.stopped
    rw [hcall]
    exact ⟨rfl, h.executing, h.pending, hdone.imp_right fun hle => decide_eq_false hle.not_gt⟩
  unfold State.leave
  dsimp only
  split
  · rename_i hnone
    obtain ⟨after, hinvariant, hempty⟩ := hreturned.atOutside rfl
    refine ⟨after, hinvariant, ?_⟩
    intro hcases
    obtain ⟨hsome, _⟩ | hlists := hcases
    · exact absurd hnone hsome
    · exact hempty hlists.1 hlists.2
  · split
    · obtain ⟨after, hinvariant, hempty⟩ := hreturned.finishShutdown rfl
      exact ⟨after, hinvariant, fun _ => hempty⟩
    · rename_i budget resumed _ _
      obtain ⟨after, hinvariant, hempty⟩ :=
        hreturned.shutdownLoop rfl budget (resumed + call.resumed)
      exact ⟨after, hinvariant, fun hcases => hempty (hcases.imp And.right id)⟩

/-! ## The invariant where the program can call -/

theorem Controlled.not_executing (h : Controlled state dispatcher)
    (htask : state.control.currentTask = none) :
    state.dispatching = false ∧ state.cancelPending = false ∧ state.shutdownPending = false := by
  have hdispatching : state.dispatching = false := by
    rw [h.dispatching, htask]
    rfl
  have hcancel : state.cancelPending = false := by
    rw [← Bool.not_eq_true]
    intro hpending
    exact Bool.false_ne_true (hdispatching.symm.trans (h.cancel hpending))
  refine ⟨hdispatching, hcancel, ?_⟩
  rw [← Bool.not_eq_true]
  intro hpending
  exact Bool.false_ne_true (hcancel.symm.trans (h.shutdown hpending))

theorem Invariant.idle (h : Invariant state dispatcher)
    (htask : state.control.currentTask = none) : Idle state dispatcher := by
  obtain ⟨hdispatching, hcancel, hshutdown⟩ := h.controlled.not_executing htask
  refine ⟨?_, ?_, ?_, hcancel, hshutdown, hdispatching, h.controlled.stopped⟩
  · rw [← htask]
    exact h.sound
  · rw [h.controlled.executing, htask]
  · rw [h.controlled.pending, hcancel]

/-- An operation that leaves the flags alone and changes the lists at most. -/
theorem Invariant.keep (h : Invariant state dispatcher)
    (hsound : Sound next { dispatcher with queue := queue, roots := roots }
      state.control.currentTask)
    {frames : Nat} (hstatus : next.status = { state.status with frames := frames })
    (hframes : state.frames ≤ frames)
    (hstopped : state.running = false → queue = dispatcher.queue ∧ roots = dispatcher.roots)
    (hroots : ∀ task : Nat, task < state.frames → (task ∈ roots ↔ task ∈ dispatcher.roots)) :
    Invariant next { dispatcher with queue := queue, roots := roots } := by
  have hcontrol : next.control = state.control := congrArg Status.control hstatus
  have hrunning : next.running = state.running := congrArg Status.running hstatus
  have hdispatching : next.dispatching = state.dispatching := congrArg Status.dispatching hstatus
  have hcancel : next.cancelPending = state.cancelPending := congrArg Status.cancelPending hstatus
  have hshutdown : next.shutdownPending = state.shutdownPending :=
    congrArg Status.shutdownPending hstatus
  have hc := h.controlled
  constructor
  · rw [hcontrol]
    exact hsound
  · constructor
    · exact hc.call.trans (by rw [hcontrol])
    · exact hc.executing.trans (by rw [hcontrol])
    · exact hc.pending.trans hcancel.symm
    · rw [hdispatching, hcontrol]
      exact hc.dispatching
    · rw [hrunning, hcontrol]
      exact hc.running
    · rw [hrunning]
      intro hnot
      obtain ⟨hqueue, hroots'⟩ := hstopped hnot
      obtain ⟨hqueue', hroots''⟩ := hc.stopped hnot
      exact ⟨hqueue.trans hqueue', hroots'.trans hroots''⟩
    · rw [hcancel, hdispatching]
      exact hc.cancel
    · rw [hshutdown, hcancel]
      exact hc.shutdown
    · intro call task root heq
      rw [hcontrol] at heq
      obtain ⟨hseen, hiff⟩ := hc.root call task root heq
      refine ⟨(Nat.lt_of_lt_of_le hseen hframes).trans_eq ?_, hiff.trans (hroots task hseen).symm⟩
      exact (congrArg Status.frames hstatus).symm

/-- An operation that leaves the flags and the lists alone. -/
theorem Invariant.same (h : Invariant state dispatcher)
    (hsound : Sound next dispatcher state.control.currentTask)
    (hstatus : next.status = state.status) : Invariant next dispatcher := by
  exact @Invariant.keep state next dispatcher dispatcher.queue dispatcher.roots h hsound _ hstatus
    le_rfl (fun _ => ⟨rfl, rfl⟩) (fun _ _ => Iff.rfl)

/-- An operation that leaves the flags alone and changes the queue at most. -/
theorem Invariant.requeue (h : Invariant state dispatcher)
    (hsound : Sound next { dispatcher with queue := queue } state.control.currentTask)
    (hstatus : next.status = state.status)
    (hstopped : state.running = false → queue = dispatcher.queue) :
    Invariant next { dispatcher with queue := queue } := by
  exact @Invariant.keep state next dispatcher queue dispatcher.roots h hsound _ hstatus
    le_rfl (fun hnot => ⟨hstopped hnot, rfl⟩) (fun _ _ => Iff.rfl)

/-- A step of the task that executes. -/
theorem Invariant.asTask (h : Invariant state dispatcher) {action : TaskId → State}
    (hstep : state.asTask action = some next) :
    ∃ task : Nat, state.control.currentTask = some task ∧
      (state.promises task).point = .executing ∧ task < state.frames ∧
      state.running = true ∧ action task = next := by
  unfold State.asTask at hstep
  split at hstep
  · rename_i call task root hcontrol
    obtain ⟨hpoint, heq⟩ := enabled hstep
    refine ⟨task, by rw [hcontrol]; rfl, hpoint, (h.controlled.root call task root hcontrol).1,
      h.controlled.running ?_, heq⟩
    rw [hcontrol]
    exact Control.noConfusion
  · cases hstep

/-- A call is made outside the scheduler or in a task. -/
theorem asCall_cases (hstep : state.asCall next = some other) :
    next = other ∧ (state.control = .outside ∨
      ∃ call task root, state.control = .executing call task root) := by
  unfold State.asCall at hstep
  obtain ⟨hcan, heq⟩ := enabled hstep
  refine ⟨heq, ?_⟩
  unfold State.canCall at hcan
  split at hcan
  · left
    assumption
  · cases hcan
  · right
    exact ⟨_, _, _, by assumption⟩

theorem Point.of_isExternal {point : Point} (h : point.isExternal = true) :
    (∀ child, point ≠ .child child) ∧ point ≠ .destroyed := by
  cases point with
  | query query => simp
  | sleep sleep => simp
  | initial | executing | yielded | child _ | final | destroyed => cases h

/-! ## The steps -/

theorem start_invariant (h : Invariant state dispatcher) (stopped : Bool) :
    Invariant (state.start stopped) dispatcher := by
  unfold State.start
  split
  · exact h
  · dsimp only
    generalize hopened : ({ state with
      stopRequested := false
      externalStopPending := stopped
      running := true } : State) = opened
    have hsound : Sound opened dispatcher state.control.currentTask := by
      rw [← hopened]
      exact h.sound.congr ⟨rfl, rfl, rfl⟩ ⟨rfl, rfl⟩ rfl le_rfl rfl rfl
    have hstatus : opened.observeExternalStop.status = { state.status with running := true } := by
      rw [observe_status, ← hopened]
      rfl
    have hcontrol : opened.observeExternalStop.control = state.control :=
      congrArg Status.control hstatus
    have hc := h.controlled
    refine ⟨?_, ?_⟩
    · show Sound _ dispatcher opened.observeExternalStop.control.currentTask
      rw [hcontrol]
      exact hsound.observe.congr ⟨rfl, rfl, rfl⟩ ⟨rfl, rfl⟩ rfl le_rfl rfl rfl
    · have hrunning : opened.observeExternalStop.running = true := congrArg Status.running hstatus
      refine ⟨hc.call.trans (by rw [← hcontrol]), hc.executing.trans (by rw [← hcontrol]),
        hc.pending.trans (congrArg Status.cancelPending hstatus).symm, ?_, fun _ => hrunning, ?_,
        ?_, ?_, ?_⟩
      · show opened.observeExternalStop.dispatching =
          opened.observeExternalStop.control.currentTask.isSome
        rw [hcontrol]
        exact (congrArg Status.dispatching hstatus).trans hc.dispatching
      · intro hnot
        exact absurd (hnot.symm.trans hrunning) Bool.false_ne_true
      · intro hpending
        exact (congrArg Status.dispatching hstatus).trans
          (hc.cancel ((congrArg Status.cancelPending hstatus).symm.trans hpending))
      · intro hpending
        exact (congrArg Status.cancelPending hstatus).trans
          (hc.shutdown ((congrArg Status.shutdownPending hstatus).symm.trans hpending))
      · intro call task root heq
        have hseen := hc.root call task root (hcontrol.symm.trans heq)
        exact ⟨hseen.1.trans_eq (congrArg Status.frames hstatus).symm, hseen.2⟩

theorem runReady_invariant (h : Invariant state dispatcher) (hcontrol : state.control = .outside ∨
    ∃ call task root, state.control = .executing call task root) (budget : Nat) :
    ∃ after, Invariant (state.runReady budget) after := by
  unfold State.runReady
  split
  · exact ⟨dispatcher, h⟩
  · rename_i hrunning
    split
    · exact ⟨dispatcher, h.same (h.sound.congr ⟨rfl, rfl, rfl⟩ ⟨rfl, rfl⟩ rfl le_rfl rfl rfl) rfl⟩
    · rename_i hdispatching
      obtain houtside | ⟨call, task, root, hexecuting⟩ := hcontrol
      · have hidle := h.idle (by rw [houtside]; rfl)
        have hcall : dispatcher.call = none := by
          rw [h.controlled.call, houtside]
          rfl
        obtain ⟨after, hafter, _⟩ := hidle.enter hcall (by simpa using hrunning) budget none
        exact ⟨after, hafter⟩
      · exfalso
        apply hdispatching
        rw [h.controlled.dispatching, hexecuting]
        rfl

/-- A cancellation is requested while a task executes. -/
theorem request_invariant (h : Invariant state dispatcher) {call : Call} {root : Bool}
    (hcontrol : state.control = .executing call task root) (shutdown : Bool) :
    Invariant ({ state with
        stopRequested := true
        accepting := false
        cancelPending := true
        shutdownPending := shutdown }.record .cancelRequested)
      { dispatcher with pending := true } := by
  have hexecuting : dispatcher.executing = some task := by
    rw [h.controlled.executing, hcontrol]
    rfl
  have hstep : FifoDispatcher.step dispatcher .cancelRequested =
      some { dispatcher with pending := true } := by
    apply if_pos
    rw [hexecuting]
    exact Option.some_ne_none task
  have hsound := h.sound.record hstep rfl rfl rfl
  have hc := h.controlled
  refine ⟨hsound.congr ⟨rfl, rfl, rfl⟩ ⟨rfl, rfl⟩ rfl le_rfl rfl rfl, ?_⟩
  refine ⟨hc.call, hc.executing, rfl, hc.dispatching, hc.running, hc.stopped, ?_, fun _ => rfl,
    hc.root⟩
  intro _
  show state.dispatching = true
  rw [hc.dispatching, hcontrol]
  rfl

theorem Invariant.dispatching (h : Invariant state dispatcher) {call : Call} {root : Bool}
    (hcontrol : state.control = .executing call task root) : state.dispatching = true := by
  rw [h.controlled.dispatching, hcontrol]
  rfl

theorem Invariant.outside (h : Invariant state dispatcher) (hcontrol : state.control = .outside) :
    Idle state dispatcher ∧ dispatcher.call = none := by
  refine ⟨h.idle (by rw [hcontrol]; rfl), ?_⟩
  rw [h.controlled.call, hcontrol]
  rfl

/-- The state that `cancel_all` and `shutdown` begin with. -/
theorem Idle.stop (h : Idle state dispatcher) :
    Idle { state with stopRequested := true, accepting := false } dispatcher :=
  h.keep (h.sound.congr ⟨rfl, rfl, rfl⟩ ⟨rfl, rfl⟩ rfl le_rfl rfl rfl) rfl h.executing h.pending
    h.stopped

theorem cancelAll_invariant (h : Invariant state dispatcher) (hcontrol : state.control = .outside ∨
    ∃ call task root, state.control = .executing call task root) :
    ∃ after, Invariant state.cancelAll after ∧
      (state.control = .outside → after.queue = [] ∧ after.roots = []) := by
  unfold State.cancelAll
  dsimp only
  obtain houtside | ⟨call, task, root, hexecuting⟩ := hcontrol
  · obtain ⟨hidle, hcall⟩ := h.outside houtside
    rw [if_neg (by rw [hidle.dispatching]; exact Bool.false_ne_true)]
    have hcancelled := hidle.stop.cancelAllNow hcall
    generalize hstopping : ({ state with stopRequested := true, accepting := false } : State) =
      stopping at hcancelled ⊢
    have houtside' : stopping.cancelAllNow.control = .outside := by
      have := congrArg Status.control (@cancelAllNow_status stopping)
      rw [← hstopping] at this ⊢
      exact this.trans houtside
    refine ⟨_, hcancelled.invariant ?_ ?_ ?_, fun _ => ⟨rfl, rfl⟩⟩
    · rw [houtside']
      exact hcall
    · rw [houtside']
      rfl
    · exact fun hne => absurd houtside' hne
  · rw [if_pos (h.dispatching hexecuting)]
    refine ⟨_, request_invariant h hexecuting state.shutdownPending, ?_⟩
    intro houtside
    rw [hexecuting] at houtside
    cases houtside

theorem shutdown_invariant (h : Invariant state dispatcher) (hcontrol : state.control = .outside ∨
    ∃ call task root, state.control = .executing call task root) (budget : Nat) :
    ∃ after, Invariant (state.shutdown budget) after ∧
      ((state.shutdown budget).control = .outside → after.queue = [] ∧ after.roots = []) := by
  unfold State.shutdown
  dsimp only
  obtain houtside | ⟨call, task, root, hexecuting⟩ := hcontrol
  · obtain ⟨hidle, hcall⟩ := h.outside houtside
    rw [if_neg (by rw [hidle.dispatching]; exact Bool.false_ne_true)]
    obtain ⟨after, hafter, hempty⟩ := hidle.stop.shutdownLoop hcall budget 0
    exact ⟨after, hafter, fun houtside' => hempty (Or.inl houtside')⟩
  · rw [if_pos (h.dispatching hexecuting)]
    refine ⟨_, request_invariant h hexecuting true, ?_⟩
    intro houtside
    have : state.control = .outside := houtside
    rw [hexecuting] at this
    cases this

/-- The loop of `run_ready` comes to its condition. -/
theorem pass_invariant (h : Invariant state dispatcher) (hcontrol : state.control = .loop call)
    (hsteady : Steady state .pass) (hstep : state.pass call = some next) :
    ∃ after, Invariant next after := by
  have hidle := h.idle (by rw [hcontrol]; rfl)
  have hcall : dispatcher.call = some (call.budget, call.resumed) := by
    rw [h.controlled.call, hcontrol]
    rfl
  have hrunning : state.running = true := by
    apply h.controlled.running
    rw [hcontrol]
    exact Control.noConfusion
  unfold State.pass at hstep
  split at hstep
  · rename_i hhead
    obtain rfl := Option.some.inj hstep
    obtain ⟨after, hafter, _⟩ := hidle.leave hcall (Or.inl (h.sound.ready.eq_nil hhead))
    exact ⟨after, hafter⟩
  · rename_i task hhead
    split at hstep
    · rename_i hlt
      obtain ⟨_, hnext⟩ := enabled hstep
      obtain ⟨rest, hqueue⟩ := h.sound.ready.eq_cons hhead
      have hmay : FifoDispatcher.mayResume dispatcher.call = true := by
        rw [hcall]
        exact decide_eq_true hlt
      have hchild : ∀ child, (state.promises task).point = .child child →
          ∀ other ∈ state.owned child, (state.promises other).queued = false := by
        intro child hpoint other hother
        have hfront : state.front = some task := by
          unfold State.front
          rw [hcontrol]
          exact (if_pos hlt).trans hhead
        have := hsteady rfl
        rw [hfront, Option.any_some] at this
        unfold State.awaitsQueued at this
        rw [hpoint] at this
        simpa using List.any_eq_false.mp this other hother
      have hsound := hidle.sound.resume hqueue hmay hidle.executing hidle.pending hchild
      rw [← hnext]
      refine ⟨{ dispatcher with queue := rest, executing := some task }, ?_⟩
      refine ⟨hsound.congr ⟨rfl, rfl, rfl⟩ ⟨rfl, rfl⟩ rfl le_rfl rfl rfl, ?_⟩
      have hstatus := @resume_status (state.taken task) task
      refine ⟨hcall, rfl, hidle.pending.trans ?_, ?_, fun _ => ?_, ?_, ?_, ?_, ?_⟩
      · exact ((congrArg Status.cancelPending hstatus).trans hidle.cancelPending).symm
      · exact congrArg Status.dispatching hstatus
      · exact (congrArg Status.running hstatus).trans hrunning
      · intro hnot
        have := (congrArg Status.running hstatus).symm.trans hnot
        exact absurd (hrunning.symm.trans this) (by simp)
      · intro _
        exact congrArg Status.dispatching hstatus
      · intro hpending
        have := (congrArg Status.shutdownPending hstatus).symm.trans hpending
        exact absurd (hidle.shutdownPending.symm.trans this) Bool.false_ne_true
      · intro call' task' root heq
        obtain ⟨rfl, rfl, rfl⟩ := Control.executing.inj heq
        have hmem : task ∈ dispatcher.queue := by
          rw [hqueue]
          exact List.mem_cons_self
        refine ⟨(hidle.sound.queued_lt_frames hmem).trans_eq ?_, hidle.sound.roots.root task⟩
        exact (congrArg Status.frames hstatus).symm
    · rename_i hspent
      obtain rfl := Option.some.inj hstep
      obtain ⟨after, hafter, _⟩ := hidle.leave hcall (Or.inr (Nat.not_lt.mp hspent))
      exact ⟨after, hafter⟩

/-- The task that the loop resumed has suspended or ended, and a root task at its end
is destroyed. -/
theorem finished_sound (h : Invariant state dispatcher) {root : Bool}
    (hcontrol : state.control = .executing call task root)
    (hpoint : (state.promises task).point ≠ .executing) :
    ∃ finished after, Sound finished after none ∧ after.executing = none ∧
      after.call = some (call.budget, call.resumed + 1) ∧
      after.pending = state.cancelPending ∧
      finished.status = { state.status with dispatching := false } ∧
      (if root = true ∧ ((({ state with dispatching := false }.record
          (.suspended task)).promises task).point = .final) then
        ({ state with dispatching := false }.record (.suspended task)).finishRoot task
      else { state with dispatching := false }.record (.suspended task)) = finished := by
  have hexecuting : dispatcher.executing = some task := by
    rw [h.controlled.executing, hcontrol]
    rfl
  have hcall : dispatcher.call = some (call.budget, call.resumed) := by
    rw [h.controlled.call, hcontrol]
    rfl
  have hsound : Sound { state with dispatching := false } dispatcher (some task) := by
    have := h.sound
    rw [hcontrol] at this
    exact this.congr ⟨rfl, rfl, rfl⟩ ⟨rfl, rfl⟩ rfl le_rfl rfl rfl
  have hstep : FifoDispatcher.step dispatcher (.suspended task) = some { dispatcher with
      executing := none
      call := dispatcher.call.map fun call => (call.1, call.2 + 1) } := if_pos hexecuting
  have hreturned := hsound.record hstep rfl rfl rfl
  have hroot := (h.controlled.root call task root hcontrol).2
  by_cases hfinal : root = true ∧ (state.promises task).point = .final
  · refine ⟨_, _, hreturned.finishRoot (hroot.mp hfinal.1) hfinal.2 rfl, rfl, ?_, ?_, ?_,
      if_pos hfinal⟩
    · rw [hcall]
      rfl
    · exact h.controlled.pending
    · rw [finishRoot_status]
      rfl
  · refine ⟨_, _, ⟨hreturned.ready, hreturned.roots, hreturned.frames, hreturned.ended, ?_, ?_,
      hreturned.log⟩, rfl, ?_, ?_, rfl, if_neg hfinal⟩
    · intro other heq
      obtain rfl := Option.some.inj (hreturned.executing other heq)
      exact absurd heq hpoint
    · intro other hrooted heq
      obtain rfl := Option.some.inj (hreturned.final other hrooted heq)
      exact absurd ⟨hroot.mpr ((hreturned.roots.root task).mp hrooted), heq⟩ hfinal
    · rw [hcall]
      rfl
    · exact h.controlled.pending

theorem back_invariant (h : Invariant state dispatcher) {root : Bool}
    (hcontrol : state.control = .executing call task root)
    (hpoint : (state.promises task).point ≠ .executing) :
    ∃ after, Invariant (state.afterResume call task root) after ∧
      (state.cancelPending = true ∨ (state.afterResume call task root).control = .outside →
        after.queue = [] ∧ after.roots = []) := by
  obtain ⟨finished, after, hsound, hexecuting, hcall, hpending, hstatus, hfinished⟩ :=
    finished_sound h hcontrol hpoint
  have hcancel : finished.cancelPending = state.cancelPending :=
    congrArg Status.cancelPending hstatus
  have hrunning : finished.running = true := by
    refine (congrArg Status.running hstatus).trans (h.controlled.running ?_)
    rw [hcontrol]
    exact Control.noConfusion
  unfold State.afterResume
  dsimp only
  rw [hfinished]
  split
  · -- The cancellation that the task has asked for.
    rename_i hcancelled
    have hcleared : Sound { finished with cancelPending := false, shutdownPending := false }
        after none :=
      hsound.congr ⟨rfl, rfl, rfl⟩ ⟨rfl, rfl⟩ rfl le_rfl rfl rfl
    have hnone : ∀ other, (finished.promises other).point ≠ .executing := by
      intro other heq
      cases hsound.executing other heq
    have hasked : after.pending = true := hpending.trans (hcancel.symm.trans hcancelled)
    have hempty := hcleared.cancelAllNow hexecuting (Or.inl hasked) hnone
    generalize hclearing : ({ finished with
      cancelPending := false, shutdownPending := false } : State) = cleared at hempty ⊢
    have hstatus' : cleared.cancelAllNow.status =
        { finished.status with cancelPending := false, shutdownPending := false } := by
      rw [cancelAllNow_status, ← hclearing]
      rfl
    have hidle : Idle cleared.cancelAllNow
        { after with
          queue := []
          roots := []
          ended := after.ended ++ after.roots
          pending := false } :=
      { sound := hempty
        executing := hexecuting
        pending := rfl
        cancelPending := congrArg Status.cancelPending hstatus'
        shutdownPending := congrArg Status.shutdownPending hstatus'
        dispatching := (congrArg Status.dispatching hstatus').trans
          (congrArg Status.dispatching hstatus)
        stopped := fun _ => ⟨rfl, rfl⟩ }
    split
    · obtain ⟨final, hinvariant, hlists⟩ := @Idle.leave _ _
        { call with resumed := call.resumed + 1 } (hidle.deactivate rfl rfl) hcall (Or.inl rfl)
      exact ⟨final, hinvariant, fun _ => hlists (Or.inr ⟨rfl, rfl⟩)⟩
    · obtain ⟨final, hinvariant, hlists⟩ := @Idle.leave _ _
        { call with resumed := call.resumed + 1 } hidle hcall (Or.inl rfl)
      exact ⟨final, hinvariant, fun _ => hlists (Or.inr ⟨rfl, rfl⟩)⟩
  · rename_i hnot
    have hnot' : finished.cancelPending = false := by simpa using hnot
    have hidle : Idle finished after :=
      { sound := hsound
        executing := hexecuting
        pending := hpending.trans (hcancel.symm.trans hnot')
        cancelPending := hnot'
        shutdownPending := by
          rw [← Bool.not_eq_true]
          intro hshutdown
          have := h.controlled.shutdown
            ((congrArg Status.shutdownPending hstatus).symm.trans hshutdown)
          exact Bool.false_ne_true (hnot'.symm.trans (hcancel.trans this))
        dispatching := congrArg Status.dispatching hstatus
        stopped := fun hstopped => absurd (hstopped.symm.trans hrunning) Bool.false_ne_true }
    obtain ⟨final, hinvariant, _⟩ := @Idle.atLoop finished after
      { call with resumed := call.resumed + 1 } hidle hcall hrunning
    refine ⟨final, hinvariant, ?_⟩
    intro hcases
    obtain hcancelled | houtside := hcases
    · exact absurd (hcancel.trans hcancelled) hnot
    · cases houtside

theorem back_step (hstep : step state .back = some next) :
    ∃ call task root, state.control = .executing call task root ∧
      (state.promises task).point ≠ .executing ∧ state.afterResume call task root = next := by
  simp only [step] at hstep
  split at hstep
  · rename_i call task root hcontrol
    split at hstep
    · cases hstep
    · rename_i hpoint
      exact ⟨call, task, root, hcontrol, hpoint, Option.some.inj hstep⟩
  · cases hstep

theorem pass_step (hstep : step state .pass = some next) :
    ∃ call, state.control = .loop call ∧ state.pass call = some next := by
  simp only [step] at hstep
  split at hstep
  · rename_i call hcontrol
    exact ⟨call, hcontrol, hstep⟩
  · cases hstep

/-- What one step does to the invariant. -/
theorem step_invariant (h : Invariant state dispatcher) (hsteady : Steady state label)
    (hstep : step state label = some next) : ∃ after, Invariant next after := by
  cases label with
  | externalStop =>
    obtain rfl := Option.some.inj hstep
    exact ⟨dispatcher, h.same (h.sound.congr ⟨rfl, rfl, rfl⟩ ⟨rfl, rfl⟩ rfl le_rfl rfl rfl) rfl⟩
  | start stopped =>
    obtain ⟨rfl, _⟩ := asCall_cases hstep
    exact ⟨dispatcher, start_invariant h stopped⟩
  | spawn =>
    obtain ⟨rfl, _⟩ := asCall_cases hstep
    obtain ⟨queue, roots, hsound, hstopped, hroots⟩ := h.sound.spawn
    exact ⟨_, h.keep hsound (spawn_status h.sound) (Nat.le_succ state.frames) hstopped hroots⟩
  | spawnEmpty =>
    obtain ⟨rfl, _⟩ := asCall_cases hstep
    exact ⟨dispatcher, h⟩
  | schedule task =>
    simp only [step] at hstep
    split at hstep
    · rename_i hsuspended
      obtain ⟨rfl, _⟩ := asCall_cases hstep
      have hpoint : (state.promises task).point ≠ .executing := (of_decide_eq_true hsuspended).2.1
      obtain ⟨queue, hsound, hstopped⟩ := h.sound.schedule hpoint
      exact ⟨_, h.requeue hsound schedule_status hstopped⟩
    · cases hstep
  | runReady budget =>
    obtain ⟨rfl, hcontrol⟩ := asCall_cases hstep
    exact runReady_invariant h hcontrol budget
  | close =>
    obtain ⟨rfl, _⟩ := asCall_cases hstep
    exact ⟨dispatcher, h.same (h.sound.congr ⟨rfl, rfl, rfl⟩ ⟨rfl, rfl⟩ rfl le_rfl rfl rfl) rfl⟩
  | cancelAll =>
    obtain ⟨rfl, hcontrol⟩ := asCall_cases hstep
    obtain ⟨after, hafter, _⟩ := cancelAll_invariant h hcontrol
    exact ⟨after, hafter⟩
  | shutdown budget =>
    obtain ⟨rfl, hcontrol⟩ := asCall_cases hstep
    obtain ⟨after, hafter, _⟩ := shutdown_invariant h hcontrol budget
    exact ⟨after, hafter⟩
  | pass =>
    obtain ⟨call, hcontrol, hpass⟩ := pass_step hstep
    exact pass_invariant h hcontrol hsteady hpass
  | back =>
    obtain ⟨call, task, root, hcontrol, hpoint, rfl⟩ := back_step hstep
    obtain ⟨after, hafter, _⟩ := back_invariant h hcontrol hpoint
    exact ⟨after, hafter⟩
  | observe =>
    obtain ⟨task, htask, _, _, _, rfl⟩ := h.asTask hstep
    exact ⟨dispatcher, h.same h.sound.observe observe_status⟩
  | yield =>
    obtain ⟨task, htask, hpoint, hseen, _, rfl⟩ := h.asTask hstep
    obtain ⟨hstatus, queue, hsound, hstopped⟩ := (htask ▸ h.sound).yield hpoint hseen
    exact ⟨_, h.requeue (htask ▸ hsound) hstatus hstopped⟩
  | suspend point =>
    simp only [step] at hstep
    split at hstep
    · rename_i hexternal
      obtain ⟨task, htask, hpoint, hseen, _, rfl⟩ := h.asTask hstep
      obtain ⟨hchild, hdestroyed⟩ := Point.of_isExternal hexternal
      have hsound := @Sound.suspend state dispatcher task (htask ▸ h.sound) hpoint hseen point
        hchild hdestroyed
      exact ⟨dispatcher, h.same (htask ▸ hsound) rfl⟩
    · cases hstep
  | awaitTask =>
    obtain ⟨task, htask, hpoint, hseen, hrunning, rfl⟩ := h.asTask hstep
    obtain ⟨hstatus, queue, hsound⟩ := (htask ▸ h.sound).awaitTask hpoint hseen hrunning
    refine ⟨_, @Invariant.keep state _ dispatcher queue dispatcher.roots h (htask ▸ hsound) _
      hstatus (Nat.le_succ state.frames) ?_ fun _ _ => Iff.rfl⟩
    exact fun hstopped => absurd (hstopped.symm.trans hrunning) Bool.false_ne_true
  | complete throws =>
    obtain ⟨task, htask, hpoint, hseen, _, rfl⟩ := h.asTask hstep
    obtain ⟨hstatus, queue, hsound, hstopped⟩ := (htask ▸ h.sound).complete hpoint hseen throws
    exact ⟨_, h.requeue (htask ▸ hsound) hstatus hstopped⟩

end DnsPro.Runtime.Dispatch
