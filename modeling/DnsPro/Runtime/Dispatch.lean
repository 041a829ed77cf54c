import DnsPro.Runtime.FifoDispatcher

/-!
# Dispatching

`runtime/Scheduler.cpp` with its lists as they are: the ready list and the list of
root tasks are threaded through the promises of the tasks, and the scheduler keeps
their ends and their lengths.

`handle.resume()` runs the code of a task, which may call the scheduler again, so
the program is a step function.  `Control` says where it is: outside the scheduler,
in the loop of `run_ready`, or in a task that the loop resumed.  The labels are the
calls that the program makes, what the executing task does next, and the steps of
the loop.

A frame that is destroyed takes its promise with it, and the frame of the task it
waits for: the awaiter in a frame owns the handle of the child.

`log`, `destroyed` and `frames` are not part of the scheduler: they say what it did,
which frames it destroyed and how many tasks it has seen.
-/

namespace DnsPro.Runtime

/-- The point is one where a task waits for something outside the scheduler. -/
def Point.isExternal : Point → Bool
  | .query _ | .sleep _ => true
  | _ => false

/-- A frame can be resumed at this point. -/
def Point.isResumable : Point → Bool
  | .executing | .final | .destroyed => false
  | _ => true

namespace Dispatch

/-- `TaskPromiseBase`, with the point where the frame stands. -/
structure Promise where
  bound : Bool := false
  point : Point := .initial
  exception : Bool := false
  continuation : Option TaskId := none
  readyNext : Option TaskId := none
  rootPrevious : Option TaskId := none
  rootNext : Option TaskId := none
  queued : Bool := false
  root : Bool := false
  deriving DecidableEq, Repr

inductive SpawnResult where
  | spawned
  | emptyTask
  | notAccepting
  | invalidTask
  deriving DecidableEq, Repr

/-- A call of `run_ready`: its budget, how many tasks it has resumed, and the
budget and the count of the `shutdown` that made the call. -/
structure Call where
  budget : Nat
  resumed : Nat
  shutdown : Option (Nat × Nat)
  deriving DecidableEq, Repr

/-- Where the program is.  The loop has read `root` before it resumed the task. -/
inductive Control where
  | outside
  | loop (call : Call)
  | executing (call : Call) (task : TaskId) (root : Bool)
  deriving DecidableEq, Repr

structure State where
  readyHead : Option TaskId := none
  readyTail : Option TaskId := none
  rootHead : Option TaskId := none
  readyCount : Nat := 0
  activeCount : Nat := 0
  unhandledRootExceptions : Nat := 0
  invariantFailures : Nat := 0
  stopRequested : Bool := false
  externalStopPending : Bool := false
  running : Bool := false
  accepting : Bool := false
  dispatching : Bool := false
  cancelPending : Bool := false
  shutdownPending : Bool := false
  promises : TaskId → Promise := fun _ => {}
  control : Control := .outside
  log : List DispatchEvent := []
  destroyed : List TaskId := []
  frames : Nat := 0

namespace State

def update (state : State) (task : TaskId) (change : Promise → Promise) : State :=
  { state with promises := Function.update state.promises task (change (state.promises task)) }

def setPoint (state : State) (task : TaskId) (point : Point) : State :=
  state.update task fun promise => { promise with point := point }

def record (state : State) (event : DispatchEvent) : State :=
  { state with log := state.log ++ [event] }

/-- `bind`.  There is one scheduler, so it does not fail. -/
def bind (state : State) (task : TaskId) : State :=
  state.update task fun promise => { promise with bound := true }

/-- `observe_external_stop`. -/
def observeExternalStop (state : State) : State :=
  if state.externalStopPending then { state with stopRequested := true, accepting := false }
  else state

/-- `start` with a token that has been stopped already or not: its callback is
called at once in the first case. -/
def start (state : State) (stopped : Bool) : State :=
  if state.running ∨ state.readyHead ≠ none ∨ state.rootHead ≠ none then state
  else
    let started := observeExternalStop
      { state with stopRequested := false, externalStopPending := stopped, running := true }
    { started with accepting := !started.stopRequested }

/-- The task goes to the end of the ready list. -/
def enqueue (state : State) (task : TaskId) : State :=
  let queued := state.update task fun promise =>
    { promise with readyNext := none, queued := true }
  let linked := match state.readyTail with
    | some tail => queued.update tail fun promise => { promise with readyNext := some task }
    | none => { queued with readyHead := some task }
  { linked with readyTail := some task, readyCount := linked.readyCount + 1 }

/-- `schedule`. -/
def schedule (state : State) (task : TaskId) : ScheduleResult × State :=
  let promise := state.promises task
  if state.running = false then (.notRunning, state)
  else if promise.bound = false then (.wrongScheduler, state)
  else if promise.point = .final ∨ promise.point = .destroyed then (.completed, state)
  else if promise.queued then (.duplicate, state)
  else (.scheduled, (state.enqueue task).record (.scheduled task))

/-- `link_root`. -/
def linkRoot (state : State) (task : TaskId) : State :=
  let linked := state.update task fun promise =>
    { promise with root := true, rootPrevious := none, rootNext := state.rootHead }
  let back := match state.rootHead with
    | some head => linked.update head fun promise => { promise with rootPrevious := some task }
    | none => linked
  { back with rootHead := some task, activeCount := back.activeCount + 1 }

/-- `unlink_root`. -/
def unlinkRoot (state : State) (task : TaskId) : State :=
  let promise := state.promises task
  if promise.root = false then state
  else
    let forward := match promise.rootPrevious with
      | some previous => state.update previous fun other =>
          { other with rootNext := promise.rootNext }
      | none => { state with rootHead := promise.rootNext }
    let backward := match promise.rootNext with
      | some next => forward.update next fun other =>
          { other with rootPrevious := promise.rootPrevious }
      | none => forward
    let unlinked := backward.update task fun promise =>
      { promise with rootPrevious := none, rootNext := none, root := false }
    { unlinked with activeCount := unlinked.activeCount - 1 }

/-- `spawn` of a task that may be empty. -/
def spawn (state : State) (task : Option TaskId) : SpawnResult × State :=
  match task with
  | none => (.emptyTask, state)
  | some task =>
    if state.running = false then (.notAccepting, state)
    else
      let observed := state.observeExternalStop
      if observed.accepting = false ∨ observed.stopRequested then (.notAccepting, observed)
      else
        let bound := observed.bind task
        let promise := bound.promises task
        if promise.root ∨ promise.queued ∨ promise.point = .final then (.invalidTask, bound)
        else
          let (result, scheduled) := (bound.linkRoot task).schedule task
          if result ≠ .scheduled then (.invalidTask, scheduled.unlinkRoot task)
          else (.spawned, scheduled.record (.spawned task))

/-! ## Frames -/

/-- The frame and the frames it owns: that of the task it waits for, and so on. -/
def chain (promises : TaskId → Promise) : Nat → TaskId → List TaskId
  | 0, task => [task]
  | fuel + 1, task =>
    match (promises task).point with
    | .child child => task :: chain promises fuel child
    | _ => [task]

/-- A chain is never longer than there are frames. -/
def owned (state : State) (task : TaskId) : List TaskId :=
  chain state.promises state.frames task

/-- `handle.destroy()`. -/
def destroy (state : State) (task : TaskId) : State :=
  { state with
    promises := fun other =>
      if other ∈ state.owned task then { point := .destroyed } else state.promises other
    destroyed := state.destroyed ++ state.owned task }

/-- The frame goes on from the point where it is suspended.  One that waits for a
child reads its result, or throws when the child is not done; the awaiter destroys
the child in both cases. -/
def resume (state : State) (task : TaskId) : State :=
  let entered := match (state.promises task).point with
    | .child child => state.destroy child
    | _ => state
  entered.setPoint task .executing

/-- `finish_root`. -/
def finishRoot (state : State) (task : TaskId) : State :=
  let counted :=
    if (state.promises task).exception then
      { state with unhandledRootExceptions := state.unhandledRootExceptions + 1 }
    else state
  ((counted.unlinkRoot task).destroy task).record (.finished task)

/-! ## Cancellation -/

/-- The loop of `clear_ready`, which takes the first task off the list. -/
def unqueueAll : Nat → State → State
  | 0, state => state
  | fuel + 1, state =>
    match state.readyHead with
    | none => state
    | some task =>
      let rest := { state with readyHead := (state.promises task).readyNext }
      unqueueAll fuel
        (rest.update task fun promise => { promise with readyNext := none, queued := false })

/-- `clear_ready`.  A task is on the list once at most. -/
def clearReady (state : State) : State :=
  { unqueueAll state.frames state with readyTail := none, readyCount := 0 }

/-- The loop of `cancel_all_now`, which destroys the first root task. -/
def destroyRoots : Nat → State → State
  | 0, state => state
  | fuel + 1, state =>
    match state.rootHead with
    | none => state
    | some task => destroyRoots fuel ((state.unlinkRoot task).destroy task)

/-- `cancel_all_now`. -/
def cancelAllNow (state : State) : State :=
  (destroyRoots state.frames state.clearReady).record .cancelled

/-- `deactivate`. -/
def deactivate (state : State) : State :=
  { state with
    running := false
    accepting := false
    dispatching := false
    cancelPending := false
    shutdownPending := false
    externalStopPending := false }

/-! ## `run_ready` and `shutdown` -/

/-- `run_ready` up to its loop. -/
def enter (state : State) (budget : Nat) (shutdown : Option (Nat × Nat)) : State :=
  { state.observeExternalStop.record (.entered budget) with
    control := .loop ⟨budget, 0, shutdown⟩ }

/-- `run_ready`. -/
def runReady (state : State) (budget : Nat) : State :=
  if state.running = false then state
  else if state.dispatching then
    { state with invariantFailures := state.invariantFailures + 1 }
  else state.enter budget none

/-- What `shutdown` does after its loop. -/
def finishShutdown (state : State) : State :=
  let stopped := if state.running then state.cancelAllNow.deactivate else state
  { stopped with control := .outside }

/-- The loop of `shutdown` comes to its condition after `resumed` tasks. -/
def shutdownLoop (state : State) (budget resumed : Nat) : State :=
  if state.running ∧ resumed < budget ∧ state.readyHead ≠ none then
    state.enter (budget - resumed) (some (budget, resumed))
  else state.finishShutdown

/-- `run_ready` returns to its caller. -/
def leave (state : State) (call : Call) : State :=
  let returned := state.record (.returned call.resumed)
  match call.shutdown with
  | none => { returned with control := .outside }
  | some (budget, resumed) =>
    if call.resumed = 0 then returned.finishShutdown
    else returned.shutdownLoop budget (resumed + call.resumed)

/-- The first task is taken off the ready list. -/
def takeFront (state : State) (task : TaskId) : State :=
  let head := (state.promises task).readyNext
  let popped := { state with
    readyHead := head
    readyTail := if head = none then none else state.readyTail }
  let cleared := popped.update task fun promise =>
    { promise with readyNext := none, queued := false }
  { cleared with readyCount := cleared.readyCount - 1 }

/-- The loop of `run_ready` comes to its condition.  There is no step when it would
resume a frame that cannot be resumed. -/
def pass (state : State) (call : Call) : Option State :=
  match state.readyHead with
  | none => some (state.leave call)
  | some task =>
    if call.resumed < call.budget then
      if (state.promises task).point.isResumable then
        let taken := state.takeFront task
        let resumed := { taken with dispatching := true }.resume task
        some { resumed.record (.resumed task) with
          control := .executing call task (state.promises task).root }
      else none
    else some (state.leave call)

/-- The rest of the loop of `run_ready`, after `handle.resume()` has returned. -/
def afterResume (state : State) (call : Call) (task : TaskId) (root : Bool) : State :=
  let returned := { state with dispatching := false }.record (.suspended task)
  let call := { call with resumed := call.resumed + 1 }
  let finished :=
    if root ∧ (returned.promises task).point = .final then returned.finishRoot task else returned
  if finished.cancelPending then
    let cancelled := { finished with cancelPending := false, shutdownPending := false }.cancelAllNow
    (if finished.shutdownPending then cancelled.deactivate else cancelled).leave call
  else { finished with control := .loop call }

/-- `close`. -/
def close (state : State) : State :=
  { state with accepting := false }

/-- `cancel_all`. -/
def cancelAll (state : State) : State :=
  let stopped := { state with stopRequested := true, accepting := false }
  if state.dispatching then { stopped with cancelPending := true }.record .cancelRequested
  else stopped.cancelAllNow

/-- `shutdown`. -/
def shutdown (state : State) (budget : Nat) : State :=
  let stopped := { state with stopRequested := true, accepting := false }
  if state.dispatching then
    { stopped with cancelPending := true, shutdownPending := true }.record .cancelRequested
  else stopped.shutdownLoop budget 0

/-! ## What a task does -/

/-- `YieldAwaiter::await_suspend`.  The task goes on when it returns false. -/
def yield (state : State) (task : TaskId) : State :=
  let (result, scheduled) := (state.setPoint task .yielded).schedule task
  if result = .scheduled then scheduled else scheduled.setPoint task .executing

/-- `Task::Awaiter::await_suspend`.  When the child cannot be scheduled the task
goes on, and the awaiter destroys the child. -/
def awaitTask (state : State) (task child : TaskId) : State :=
  let suspended := state.observeExternalStop.setPoint task (.child child)
  let linked := (suspended.bind child).update child fun promise =>
    { promise with continuation := some task }
  let (result, scheduled) := linked.schedule child
  if result = .scheduled then scheduled
  else (scheduled.destroy child).setPoint task .executing

/-- The task ends: `unhandled_exception` when it throws, and the `FinalAwaiter`,
which schedules the task that waits for it. -/
def complete (state : State) (task : TaskId) (throws : Bool) : State :=
  let ended := state.update task fun promise =>
    { promise with exception := throws, point := .final }
  match (ended.promises task).continuation with
  | none => ended
  | some continuation =>
    let (result, scheduled) := ended.schedule continuation
    if result = .scheduled then scheduled
    else { scheduled with invariantFailures := scheduled.invariantFailures + 1 }

end State

/-! ## Runs -/

/-- A step of the program.  `schedule` is a call with the promise of a suspended
task, and `pass` and `back` are steps of the loop of `run_ready`. -/
inductive Label where
  | externalStop
  | start (stopped : Bool)
  | spawn
  | spawnEmpty
  | schedule (task : TaskId)
  | runReady (budget : Nat)
  | close
  | cancelAll
  | shutdown (budget : Nat)
  | pass
  | back
  | observe
  | yield
  | suspend (point : Point)
  | awaitTask
  | complete (throws : Bool)
  deriving DecidableEq, Repr

namespace State

/-- The program is where it can call the scheduler: outside, or in a resumed task
that has not ended. -/
def canCall (state : State) : Bool :=
  match state.control with
  | .outside => true
  | .loop _ => false
  | .executing _ task _ => (state.promises task).point ≠ .final

/-- There is a frame, and it is suspended. -/
def isSuspended (state : State) (task : TaskId) : Bool :=
  task < state.frames ∧ (state.promises task).point ≠ .executing ∧
    (state.promises task).point ≠ .destroyed

/-- A step of the task that executes. -/
def asTask (state : State) (action : TaskId → State) : Option State :=
  match state.control with
  | .executing _ task _ =>
    if (state.promises task).point = .executing then some (action task) else none
  | _ => none

/-- A call of the scheduler. -/
def asCall (state : State) (next : State) : Option State :=
  if state.canCall then some next else none

/-- The number of the next task. -/
def withFrame (state : State) : State :=
  { state with frames := state.frames + 1 }

end State

/-- The callback of an external stop is registered while the scheduler runs. -/
def step (state : State) : Label → Option State
  | .externalStop => some { state with
      externalStopPending := state.running || state.externalStopPending }
  | .start stopped => state.asCall (state.start stopped)
  | .spawn => state.asCall (state.withFrame.spawn (some state.frames)).2
  | .spawnEmpty => state.asCall (state.spawn none).2
  | .schedule task =>
    if state.isSuspended task then state.asCall (state.schedule task).2 else none
  | .runReady budget => state.asCall (state.runReady budget)
  | .close => state.asCall state.close
  | .cancelAll => state.asCall state.cancelAll
  | .shutdown budget => state.asCall (state.shutdown budget)
  | .pass =>
    match state.control with
    | .loop call => state.pass call
    | _ => none
  | .back =>
    match state.control with
    | .executing call task root =>
      if (state.promises task).point = .executing then none
      else some (state.afterResume call task root)
    | _ => none
  | .observe => state.asTask fun _ => state.observeExternalStop
  | .yield => state.asTask state.yield
  | .suspend point =>
    if point.isExternal then state.asTask fun task => state.setPoint task point else none
  | .awaitTask => state.asTask fun task => state.withFrame.awaitTask task state.frames
  | .complete throws => state.asTask fun task => state.complete task throws

end Dispatch

end DnsPro.Runtime
