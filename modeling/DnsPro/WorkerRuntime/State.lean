import DnsPro.Lib.Ownership
import DnsPro.Upstream.System

/-!
# The runtime of a worker

The scheduler, the timer queue and the upstream channel of a `WorkerLoop`, with the
tasks that run on them.  `Upstream.System` has the three components, and this adds
what `runtime/Scheduler.cpp` does with frames: the list of the root tasks, which
frame holds the handle of which, `run_ready`, `shutdown`, and destruction.

What a resumed task does until it suspends is a script, and a program says which
script the tasks follow that one call of `run_ready` or `shutdown` resumes, in the
order in which it resumes them.  A script is any list of actions, so a program is any
behaviour of the tasks.  An action that the task cannot take is left out.

A task object or an awaiter in a frame holds the handle of another frame (`held`).
`frames` counts the frames that were made, and `destroyed` lists those that were
destroyed: they are not part of the program.
-/

namespace DnsPro.WorkerRuntime

open DnsPro.Protocol DnsPro.Runtime DnsPro.Upstream

/-- What an executing task does. -/
inductive Action where
  | query (header : Header) (question : Question)
  | queryUntil (header : Header) (question : Question) (deadline : TimePoint)
  | awaitQuery (query : QueryId) (writeFails armFails : Bool) (sent : SendOutcome)
  | destroyQuery (query : QueryId)
  | sleepUntil (deadline : TimePoint)
  | awaitSleep (sleep : Nat) (armFails : Bool)
  | destroySleep (sleep : Nat)
  | stopToken
  | yield
  | make
  | spawn (child : TaskId)
  | awaitTask (child : TaskId)
  | discard (child : TaskId)
  | complete (throws : Bool)

/-- What a task does from a resumption on.  At the end of the script it returns. -/
abbrev Script := List Action

/-- The scripts of the tasks that one call resumes. -/
abbrev Program := Nat → Script

structure State where
  system : System := System.initial
  roots : List TaskId := []
  held : TaskId → List TaskId := fun _ => []
  frames : Nat := 0
  destroyed : List TaskId := []
  unhandledRootExceptions : Nat := 0
  externalStopPending : Bool := false
  dispatching : Bool := false
  cancelPending : Bool := false
  shutdownPending : Bool := false

/-- `kShutdownResumeBudget`. -/
def shutdownResumeBudget : Nat := 4096

/-- The awaiters in the frame of a task are destroyed. -/
def destroyAwaiters (env : Environment) (system : System) (task : TaskId) : System :=
  let queries := (List.range system.queryCount).filter fun query =>
    (system.queries query).alive ∧ (system.queries query).frame = task
  let sleeps := (List.range system.sleepCount).filter fun sleep =>
    (system.sleeps sleep).alive ∧ (system.sleeps sleep).frame = task
  sleeps.foldl System.destroySleep (queries.foldl (System.destroyQuery env) system)

/-- A frame is destroyed, with the awaiters in it.  The scheduler does not know a frame
that was never bound. -/
def destroyFrame (env : Environment) (system : System) (task : TaskId) : System :=
  let cleaned := destroyAwaiters env system task
  if (cleaned.scheduler.tasks task).bound then
    cleaned.setScheduler (cleaned.scheduler.setPoint task .destroyed)
  else cleaned

namespace State

variable (env : Environment)

def setScheduler (state : State) (scheduler : Scheduler) : State :=
  { state with system := state.system.setScheduler scheduler }

/-- `observe_external_stop`. -/
def observeExternalStop (state : State) : State :=
  if state.externalStopPending then
    state.setScheduler { state.system.scheduler with stopRequested := true, accepting := false }
  else state

def executing (state : State) (task : TaskId) : Prop := state.system.executing task

instance (state : State) (task : TaskId) : Decidable (state.executing task) :=
  inferInstanceAs (Decidable (_ = _))

/-! ## Frames -/

/-- The memory of one frame is given back. -/
def reclaim (state : State) (task : TaskId) : State :=
  { state with
    system := destroyFrame env state.system task
    held := Function.update state.held task []
    destroyed := state.destroyed ++ [task] }

/-- `handle.destroy()`: the frame and the frames whose handles are in it, and so on. -/
def destroy (state : State) (task : TaskId) : State :=
  (Ownership.tree state.held state.frames task).foldl (reclaim env) state

/-- The destructor of a `Task` or of its awaiter, in the frame of `task`. -/
def discard (state : State) (task child : TaskId) : State :=
  { state with
    held := Function.update state.held task ((state.held task).erase child) }.destroy env child

/-- A coroutine is called: its frame is suspended at the beginning. -/
def make (state : State) (task : TaskId) : State :=
  { state with
    held := Function.update state.held task (state.held task ++ [state.frames])
    frames := state.frames + 1 }

/-! ## What a task does -/

/-- `spawn` will take the task. -/
def accepts (state : State) : Bool :=
  state.system.scheduler.running && state.system.scheduler.accepting &&
    !state.system.scheduler.stopRequested

/-- `spawn` of a task that is not held any more when the scheduler takes it. -/
def spawn (state : State) (task child : TaskId) : State :=
  if state.system.scheduler.running = false then state
  else
    let observed := state.observeExternalStop
    if observed.accepts then
      { observed.setScheduler (observed.system.scheduler.spawn child) with
        held := Function.update observed.held task ((observed.held task).erase child)
        roots := child :: observed.roots }
    else observed

/-- `Task::Awaiter::await_suspend`.  When the child cannot be scheduled the task goes
on, and the awaiter destroys the child. -/
def awaitTask (state : State) (task child : TaskId) : State :=
  let observed := state.observeExternalStop
  let next := observed.setScheduler (observed.system.scheduler.awaitTask task child)
  if next.executing task then next.discard env task child else next

/-- The task ends: what is in its frame is destroyed, and the task that waits for it
is scheduled. -/
def complete (state : State) (task : TaskId) (throws : Bool) : State :=
  let emptied := (state.held task).foldl (fun state child => state.discard env task child) state
  let system := destroyAwaiters env emptied.system task
  let scheduler :=
    if throws then system.scheduler.unhandledException task else system.scheduler
  { emptied with system := system.setScheduler (scheduler.complete task) }

/-- An awaiter is awaited and destroyed by the task in whose frame it is, and so is a
task object that was not awaited. -/
def act (state : State) (task : TaskId) : Action → State
  | .query header question => { state with system := state.system.query env task header question }
  | .queryUntil header question deadline =>
    { state with system := state.system.queryUntil task header question deadline }
  | .awaitQuery query writeFails armFails sent =>
    if (state.system.queries query).alive ∧ (state.system.queries query).frame = task then
      let observed := state.observeExternalStop
      { observed with system := observed.system.awaitQuery env query writeFails armFails sent }
    else state
  | .destroyQuery query =>
    if (state.system.queries query).alive ∧ (state.system.queries query).frame = task then
      { state with system := state.system.destroyQuery env query }
    else state
  | .sleepUntil deadline => { state with system := state.system.sleepUntil task deadline }
  | .awaitSleep sleep armFails =>
    if (state.system.sleeps sleep).alive ∧ (state.system.sleeps sleep).frame = task then
      let observed := state.observeExternalStop
      { observed with system := observed.system.awaitSleep sleep armFails }
    else state
  | .destroySleep sleep =>
    if (state.system.sleeps sleep).alive ∧ (state.system.sleeps sleep).frame = task then
      { state with system := state.system.destroySleep sleep }
    else state
  | .stopToken => state.observeExternalStop
  | .yield => state.setScheduler (state.system.scheduler.yield task)
  | .make => state.make task
  | .spawn child => if child ∈ state.held task then state.spawn task child else state
  | .awaitTask child => if child ∈ state.held task then state.awaitTask env task child else state
  | .discard child => if child ∈ state.held task then state.discard env task child else state
  | .complete throws => state.complete env task throws

/-- The task follows the script until it suspends or ends. -/
def perform (task : TaskId) : Script → State → State
  | [], state => if state.executing task then state.complete env task false else state
  | action :: rest, state =>
    if state.executing task then perform task rest (state.act env task action) else state

/-! ## `run_ready` and `shutdown` -/

/-- The first ready task is taken off the list and resumed.  One that waited for a
child reads its result, and the awaiter destroys the child. -/
def resume (state : State) (task : TaskId) : State :=
  match state.system.scheduler.runFront with
  | none => state
  | some scheduler =>
    let entered := { state.setScheduler scheduler with dispatching := true }
    match (state.system.scheduler.tasks task).point with
    | .child child => entered.discard env task child
    | _ => entered

/-- `finish_root`. -/
def finishRoot (state : State) (task : TaskId) : State :=
  let counted :=
    if (state.system.scheduler.tasks task).exception then
      { state with unhandledRootExceptions := state.unhandledRootExceptions + 1 }
    else state
  { counted with roots := counted.roots.erase task }.destroy env task

/-- `clear_ready`. -/
def clearReady (state : State) : State := state.setScheduler state.system.scheduler.clearReady

/-- `cancel_all_now`. -/
def cancelAllNow (state : State) : State :=
  state.roots.foldl
    (fun state root => { state with roots := state.roots.erase root }.destroy env root)
    state.clearReady

/-- `deactivate`. -/
def deactivate (state : State) : State :=
  { state.setScheduler { state.system.scheduler with running := false, accepting := false } with
    externalStopPending := false
    dispatching := false
    cancelPending := false
    shutdownPending := false }

/-- What the loop of `run_ready` does after `handle.resume()` has returned, up to the
test of `cancel_pending_`. -/
def afterResume (state : State) (task : TaskId) (root : Bool) : State :=
  let returned := { state with dispatching := false }
  if root ∧ (returned.system.scheduler.tasks task).point = .final then returned.finishRoot env task
  else returned

/-- The loop of `run_ready`, with the resumptions that the budget still allows and
the number of tasks it has resumed. -/
def runLoop (program : Program) : Nat → Nat → State → Nat × State
  | 0, resumed, state => (resumed, state)
  | budget + 1, resumed, state =>
    match state.system.scheduler.ready with
    | [] => (resumed, state)
    | task :: _ =>
      let performed := perform env task (program resumed) (state.resume env task)
      let next := performed.afterResume env task (decide (task ∈ state.roots))
      if next.cancelPending then
        let cancelled :=
          { next with cancelPending := false, shutdownPending := false }.cancelAllNow env
        (resumed + 1, if next.shutdownPending then cancelled.deactivate else cancelled)
      else runLoop program budget (resumed + 1) next

/-- `run_ready`. -/
def runReady (program : Program) (budget : Nat) (state : State) : Nat × State :=
  if state.system.scheduler.running = false then (0, state)
  else if state.dispatching then
    (0, state.setScheduler { state.system.scheduler with
      invariantFailures := state.system.scheduler.invariantFailures + 1 })
  else runLoop env program budget 0 state.observeExternalStop

/-- The loop of `shutdown`, after `resumed` resumptions. -/
def shutdownLoop (program : Program) (budget resumed : Nat) (state : State) : Nat × State :=
  if state.system.scheduler.running ∧ resumed < budget ∧ state.system.scheduler.ready ≠ [] then
    match state.runReady env (fun count => program (resumed + count)) (budget - resumed) with
    | (0, next) => (resumed, next)
    | (count + 1, next) => shutdownLoop program budget (resumed + (count + 1)) next
  else (resumed, state)
termination_by budget - resumed
decreasing_by omega

/-- `shutdown`. -/
def shutdown (program : Program) (budget : Nat) (state : State) : Nat × State :=
  let stopped := state.setScheduler
    { state.system.scheduler with stopRequested := true, accepting := false }
  if stopped.dispatching then (0, { stopped with cancelPending := true, shutdownPending := true })
  else
    let result := shutdownLoop env program budget 0 stopped
    (result.1,
      if result.2.system.scheduler.running then (result.2.cancelAllNow env).deactivate
      else result.2)

/-! ## The worker -/

/-- `Scheduler::close`. -/
def closeScheduler (state : State) : State :=
  state.setScheduler { state.system.scheduler with accepting := false }

/-- The first part of `shutdown_runtime`: the components are closed, and the pending
queries and the timers are cancelled. -/
def cancelPendingWork (state : State) : State × DispatchResult :=
  let closed := state.closeScheduler.system.close
  let failed := (System.cancelAll env { closed with timers := closed.timers.close }).2
  let cancelled := (System.host env).cancelAll failed
  ({ state with system := cancelled.1 }, cancelled.2)

/-- `WorkerLoop::shutdown_runtime`.  The three `close()` return true. -/
def shutdownRuntime (program : Program) (state : State) : Bool × State :=
  let cancelled := state.cancelPendingWork env
  let finished := (cancelled.1.shutdown env program shutdownResumeBudget).2
  let stopped := finished.system.stop
  let stoppedTimers := stopped.2.timers.stop
  (decide (cancelled.2.scheduleFailures = 0) && stopped.1 && stoppedTimers.1,
    { finished with system := { stopped.2 with timers := stoppedTimers.2 } })

/-- The worker spawns a task.  The `Task` that the scheduler does not take is
destroyed. -/
def spawnRoot (state : State) : State :=
  let task := state.frames
  let made := { state with frames := state.frames + 1 }
  if made.system.scheduler.running = false then made.destroy env task
  else
    let observed := made.observeExternalStop
    if observed.accepts then
      { observed.setScheduler (observed.system.scheduler.spawn task) with
        roots := task :: observed.roots }
    else observed.destroy env task

end State

/-- A call of the channel or of the timer queue that the worker makes between two
calls of `run_ready`. -/
def isWorkerCall : System.Label → Bool
  | .start .. | .close | .stop | .handleDatagram .. | .drain .. | .failAll .. => true
  | .expire .. | .cancelTimers | .startTimers | .closeTimers | .stopTimers => true
  | _ => false

/-- A step of the worker. -/
inductive Label where
  | externalStop
  | spawn
  | runReady (budget : Nat) (program : Program)
  | closeScheduler
  | call (label : System.Label)

/-- The callback of an external stop is registered while the scheduler runs. -/
def step (env : Environment) (state : State) : Label → Option State
  | .externalStop => some { state with
      externalStopPending := state.system.scheduler.running || state.externalStopPending }
  | .spawn => some (state.spawnRoot env)
  | .runReady budget program => some (state.runReady env program budget).2
  | .closeScheduler => some state.closeScheduler
  | .call label =>
    if isWorkerCall label then
      (System.step env state.system label).map fun system => { state with system := system }
    else none

/-- The state after a list of steps, from a scheduler and a timer queue that have
been started and a channel that has not. -/
def run (env : Environment) (labels : List Label) : Option State :=
  Transition.run (step env) {} labels

end DnsPro.WorkerRuntime
