import DnsPro.Service.Lifecycle

/-!
# The service as a transition system

Any number of threads call `init`, `start`, `request_stop`, `join`, `wait`,
`replace_blocked_domains` and the `fail_service` of the supervisor, and the three
roles that `start` creates run beside them.  A step is one lock-protected body,
one acquisition of `startup_mutex_` or `join_mutex_`, one call of an owned object
outside the locks, or one join of a role.  A thread is at a `Pc`, between two
steps; it gives up `startup_mutex_` and `join_mutex_` in the step it returns in.

A step that blocks in the source is not enabled: the two acquisitions while the
mutex is held, the waits for a condition, and the join of a role that has not
ended.  `Choice` is what the environment decides in a step: the exceptions, and
the results of the owned objects.  Any result may come at any time.

`log` is a ghost, the newest event first.
-/

namespace DnsPro.Service

open DnsPro.Protocol DnsPro.Publication DnsPro.Update

abbrev ThreadId := Nat

inductive Call where
  | init (config : DNSConfig)
  | start
  | requestStop
  | join
  | wait
  | failService (failure : WorkerFailure)
  | replaceBlockedDomains
  deriving DecidableEq

/-- A part of stopping the runtime. -/
inductive RuntimeStop where
  | requested
  | joined (role : Role)
  | workersJoined
  | released
  deriving DecidableEq, Repr

inductive Event where
  | called (thread : ThreadId) (call : Call)
  | activated
  | fatalAccepted (error : DNSFatalError)
  | runtimeStop (part : RuntimeStop)
  | initReturned (thread : ThreadId) (result : Bool)
  | startReturned (thread : ThreadId) (result : DNSStartResult)
  | exitReturned (thread : ThreadId) (result : DNSServiceExitResult)
  | replaceReturned (thread : ThreadId) (result : Except Lifecycle.ReplaceError FilterVersion)
  deriving DecidableEq

/-! ## Program counters -/

inductive InitStage where
  | check
  | build
  deriving DecidableEq, Repr

/-- Where a call of `start` stands. -/
inductive StartStage where
  | lock
  | check
  | reset
  | supervisor
  | create (role : Role)
  | store (role : Role)
  | ready (role : Role)
  | notReady (role : Role)
  | wait
  | activate (info : SupervisorStartupInfo)
  | activated (info : SupervisorStartupInfo)
  | pause (info : SupervisorStartupInfo)
  | commit (info : SupervisorStartupInfo)
  | fail (error : DNSStartError)
  | failStop (error : DNSStartError)
  | result (error : DNSStartError)
  deriving DecidableEq, Repr

/-- Who called `finish_teardown`; the rollback of `start` has its error. -/
inductive Caller where
  | start (error : DNSStartError)
  | join
  | wait
  deriving DecidableEq, Repr

/-- Where a join of the reclaimer by `join_failed_reclaimer` goes on. -/
inductive FailedReclaimer where
  | exited
  | awaiting
  | successor
  deriving DecidableEq, Repr

/-- The places of `finish_teardown` that join a role. -/
inductive Joining where
  | supervisor
  | failedReclaimer (site : FailedReclaimer)
  | coordinator
  | reclaimer
  deriving DecidableEq, Repr

/-- Where a call of `finish_teardown` stands once it has `join_mutex_`. -/
inductive TeardownStage where
  | check
  | stop
  | take (joining : Joining)
  | join (joining : Joining)
  | restore (joining : Joining)
  | joinWorkers
  | readReclaimer
  | readExited
  | converge (site : FailedReclaimer)
  | detach
  | awaitCoordinator
  | successor
  | successorRetry
  | sealPublication
  | converged
  | completeLast
  | release
  | incomplete
  deriving DecidableEq, Repr

/-- Where a thread stands.  `requestStop` has whether its body has run and the
runtime stop is due, and whether it is the one of `join`; `lockStartup` has
whether the call is `join` or `wait`; `teardown` has the local
`reclaimer_available`. -/
inductive Pc where
  | idle
  | init (stage : InitStage) (config : DNSConfig)
  | start (stage : StartStage) (attempt : UInt64)
  | requestStop (runtimeDue joins : Bool)
  | failService (failure : WorkerFailure)
  | fatalStop
  | waitCheck
  | lockStartup (joins : Bool)
  | lockJoin (caller : Caller)
  | teardown (stage : TeardownStage) (caller : Caller) (reclaimerAvailable : Bool)
  | replaceCheck
  | replaceWait
  deriving DecidableEq

/-- Where the thread of a role stands. -/
inductive RoleStage where
  | idle
  | running (attempt : UInt64)
  | exited (exit : RoleExit) (attempt : UInt64)
  | stopping
  | done
  deriving DecidableEq

/-- What the environment decides in a step of a thread.  `error` is the errno of
an exception that stands for a failed construction, `accepted` the result of a
`bool` function of an owned object. -/
structure Choice where
  inetPton : Bool := true
  ruleCount : Option Nat := some 0
  error : Option Int := none
  accepted : Bool := true
  startup : Except SupervisorStartupError SupervisorStartupInfo := .ok {}
  activation : Except SupervisorActivationError Unit := .ok ()
  successor : FilterSuccessorCompletionResult := .completed
  joinFails : Bool := false
  replaced : FilterUpdateResult := .ok {}

/-! ## The state -/

/-- Everything but the program counters of the threads. -/
structure Shared where
  lifecycle : Lifecycle := {}
  control : ControlPlaneState := {}
  startupMutex : Option ThreadId := none
  joinMutex : Option ThreadId := none
  roles : Role → RoleStage := fun _ => .idle
  log : List Event := []

structure DNS where
  shared : Shared := {}
  threads : ThreadId → Pc := fun _ => .idle

namespace Shared

def setLifecycle (shared : Shared) (lifecycle : Lifecycle) : Shared :=
  { shared with lifecycle := lifecycle }

def record (shared : Shared) (event : Event) : Shared :=
  { shared with log := event :: shared.log }

def setRole (shared : Shared) (role : Role) (stage : RoleStage) : Shared :=
  { shared with roles := Function.update shared.roles role stage }

def releaseStartup (shared : Shared) : Shared := { shared with startupMutex := none }

/-- `request_runtime_stop`. -/
def requestRuntimeStop (shared : Shared) : Shared :=
  (shared.setLifecycle shared.lifecycle.requestRuntimeStop).record (.runtimeStop .requested)

/-! ## `init` -/

def stepInit (shared : Shared) (thread : ThreadId) (choice : Choice) (config : DNSConfig) :
    InitStage → Shared × Pc
  | .check =>
    match shared.lifecycle.beginInit with
    | none => (shared.record (.initReturned thread false), .idle)
    | some lifecycle => (shared.setLifecycle lifecycle, .init .build config)
  | .build =>
    if Lifecycle.validConfig config choice.inetPton then
      match choice.ruleCount with
      | none =>
        ((shared.setLifecycle shared.lifecycle.abandonInit).record (.initReturned thread false),
          .idle)
      | some ruleCount =>
        ((shared.setLifecycle
          (shared.lifecycle.finishInit config ⟨initialFilterGeneration, ruleCount⟩)).record
            (.initReturned thread true), .idle)
    else
      ((shared.setLifecycle shared.lifecycle.abandonInit).record (.initReturned thread false),
        .idle)

/-! ## `start` -/

/-- The stage after the supervisor was constructed. -/
def supervisorBuilt (enabled : Bool) : StartStage :=
  if enabled then .create .reclaimer else .create .supervisor

/-- The stage after the thread of a role was stored. -/
def threadStored (enabled : Bool) : Role → StartStage
  | .reclaimer => .create .coordinator
  | .coordinator => .create .supervisor
  | .supervisor => if enabled then .ready .reclaimer else .wait

/-- The stage after a role was found ready. -/
def roleReady : Role → StartStage
  | .reclaimer => .ready .coordinator
  | .coordinator => .wait
  | .supervisor => .wait

/-- A step of `start` up to the `finish_teardown` of its rollback, and the return
after it. -/
def stepStart (shared : Shared) (thread : ThreadId) (choice : Choice) (attempt : UInt64) :
    StartStage → Option (Shared × Pc)
  | .lock =>
    if shared.startupMutex = none then
      some ({ shared with startupMutex := some thread }, .start .check attempt)
    else none
  | .check =>
    match shared.lifecycle.acceptStart with
    | none =>
      some ((shared.record (.startReturned thread
        (.error (makeStartError .invalidLifecycleState .none 0)))).releaseStartup, .idle)
    | some lifecycle =>
      some (shared.setLifecycle lifecycle, .start .reset lifecycle.startupAttemptId)
  | .reset =>
    some ({ shared with control := shared.control.reset attempt }, .start .supervisor attempt)
  | .supervisor =>
    match choice.error with
    | some error =>
      some (shared,
        .start (.fail (makeStartError .supervisorInitFailed .workerSupervisor error)) attempt)
    | none =>
      some (shared.setLifecycle shared.lifecycle.storeSupervisor,
        .start (supervisorBuilt shared.lifecycle.config.runtimeUpdatesEnabled) attempt)
  | .create role =>
    match choice.error with
    | some error =>
      some (shared,
        .start (.fail (makeStartError role.threadCreationFailed role.controlRole error)) attempt)
    | none => some (shared.setRole role (.running attempt), .start (.store role) attempt)
  | .store role =>
    some (shared.setLifecycle (shared.lifecycle.storeThread role),
      .start (threadStored shared.lifecycle.config.runtimeUpdatesEnabled role) attempt)
  | .ready role =>
    if (shared.control.ready role).isSome ∨ shared.control.result role = true ∨
        shared.lifecycle.startupStopRequested = true then
      if shared.control.ready role ≠ some .ready then
        some (shared, .start (.notReady role) attempt)
      else if shared.control.result role = true then
        some (shared, .start (.fail (makeStartError role.initFailed role.controlRole 0)) attempt)
      else some (shared, .start (roleReady role) attempt)
    else none
  | .notReady role =>
    some (shared, .start (.fail (makeStartError
      (if shared.lifecycle.startupStopRequested then .cancelled else role.initFailed)
      role.controlRole 0)) attempt)
  | .wait =>
    match choice.startup with
    | .error error => some (shared, .start (.fail (mapSupervisorStartError error)) attempt)
    | .ok info => some (shared, .start (.activate info) attempt)
  | .activate info =>
    if shared.lifecycle.startupCurrent attempt ∧ choice.accepted = true then
      some (shared, .start (.activated info) attempt)
    else some (shared, .start (.fail cancelledStartError) attempt)
  | .activated info =>
    match choice.activation with
    | .error error => some (shared, .start (.fail (mapSupervisorActivationError error)) attempt)
    | .ok _ => some (shared, .start (.pause info) attempt)
  | .pause info =>
    -- The pause is armed by tests only; a stop ends it.
    if choice.accepted = false ∧ shared.lifecycle.startupStopRequested = true then
      some (shared, .start (.fail cancelledStartError) attempt)
    else some (shared, .start (.commit info) attempt)
  | .commit info =>
    match shared.lifecycle.commit shared.control attempt info choice.activation with
    | (.ok _, lifecycle) =>
      some ((((shared.setLifecycle lifecycle).record .activated).record (.startReturned thread
        (.ok ⟨info.boundPort, info.workerCount, attempt⟩))).releaseStartup, .idle)
    | (.error error, lifecycle) =>
      some (shared.setLifecycle lifecycle, .start (.fail error) attempt)
  | .fail error =>
    some (shared.setLifecycle (shared.lifecycle.failStart error), .start (.failStop error) attempt)
  | .failStop error => some (shared.requestRuntimeStop, .lockJoin (.start error))
  | .result error =>
    some ((shared.record (.startReturned thread
      (.error (shared.lifecycle.failStartResult error)))).releaseStartup, .idle)


/-! ## `finish_teardown` -/

/-- `finish_teardown` returns: to the rollback of `start`, or out of the service. -/
def finishTeardown (shared : Shared) (thread : ThreadId) (result : DNSServiceExitResult) :
    Caller → Shared × Pc
  | .start error => ({ shared with joinMutex := none }, .start (.result error) 0)
  | .join | .wait =>
    ({ shared with joinMutex := none, startupMutex := none }.record (.exitReturned thread result),
      .idle)

/-- The stage after `join_failed_reclaimer` has succeeded. -/
def reclaimerJoined : FailedReclaimer → TeardownStage
  | .exited => .detach
  | .awaiting => .awaitCoordinator
  | .successor => .successorRetry

end Shared

namespace Joining

def role : Joining → Role
  | .supervisor => .supervisor
  | .failedReclaimer _ => .reclaimer
  | .coordinator => .coordinator
  | .reclaimer => .reclaimer

/-- The stage after the member of the role holds no thread. -/
def joined : Joining → TeardownStage
  | .supervisor => .joinWorkers
  | .failedReclaimer site => .converge site
  | .coordinator => .successor
  | .reclaimer => .converged

/-- `reclaimer_available` after the member of the role holds no thread. -/
def available (joining : Joining) (reclaimerAvailable : Bool) : Bool :=
  match joining with
  | .supervisor | .coordinator => reclaimerAvailable
  | .failedReclaimer _ | .reclaimer => false

end Joining

namespace Shared

/-- A step of `finish_teardown` under `join_mutex_`. -/
def stepTeardown (shared : Shared) (thread : ThreadId) (choice : Choice) (caller : Caller)
    (reclaimerAvailable : Bool) : TeardownStage → Option (Shared × Pc)
  | .check =>
    if shared.lifecycle.teardownDone then
      some (shared.finishTeardown thread shared.lifecycle.exitResultLocked caller)
    else some (shared, .teardown .stop caller reclaimerAvailable)
  | .stop =>
    some (shared.requestRuntimeStop, .teardown (.take .supervisor) caller reclaimerAvailable)
  | .take joining =>
    if shared.lifecycle.joinable joining.role then
      -- The supervisor thread is also told to stop, through the local it was moved to.
      some (shared.setLifecycle
          (if joining = .supervisor then (shared.lifecycle.takeThread joining.role).stopThread
            joining.role
          else shared.lifecycle.takeThread joining.role),
        .teardown (.join joining) caller reclaimerAvailable)
    else
      some (shared, .teardown joining.joined caller (joining.available reclaimerAvailable))
  | .join joining =>
    if choice.joinFails then some (shared, .teardown (.restore joining) caller reclaimerAvailable)
    else if shared.roles joining.role = .done then
      some (shared.record (.runtimeStop (.joined joining.role)),
        .teardown joining.joined caller (joining.available reclaimerAvailable))
    else none
  | .restore joining =>
    some (shared.setLifecycle (shared.lifecycle.storeThread joining.role),
      .teardown .incomplete caller reclaimerAvailable)
  | .joinWorkers =>
    if shared.lifecycle.supervisor = false then
      some (shared, .teardown .readReclaimer caller reclaimerAvailable)
    else if choice.accepted then
      some (shared.record (.runtimeStop .workersJoined),
        .teardown .readReclaimer caller reclaimerAvailable)
    else some (shared, .teardown .incomplete caller reclaimerAvailable)
  | .readReclaimer =>
    some (shared, .teardown .readExited caller (shared.lifecycle.joinable .reclaimer))
  | .readExited =>
    if shared.lifecycle.control && shared.control.result .reclaimer then
      some (shared, .teardown (.take (.failedReclaimer .exited)) caller reclaimerAvailable)
    else some (shared, .teardown .detach caller reclaimerAvailable)
  | .converge site =>
    if shared.lifecycle.control && !choice.accepted then
      some (shared, .teardown .incomplete caller reclaimerAvailable)
    else some (shared, .teardown (reclaimerJoined site) caller reclaimerAvailable)
  | .detach =>
    if shared.lifecycle.config.runtimeUpdatesEnabled && shared.lifecycle.filterUpdates &&
        shared.lifecycle.joinable .coordinator then
      some (shared, .teardown .awaitCoordinator caller reclaimerAvailable)
    else some (shared, .teardown (.take .coordinator) caller reclaimerAvailable)
  | .awaitCoordinator =>
    if shared.control.result .coordinator then
      some (shared, .teardown (.take .coordinator) caller reclaimerAvailable)
    else if reclaimerAvailable && shared.control.result .reclaimer then
      some (shared, .teardown (.take (.failedReclaimer .awaiting)) caller reclaimerAvailable)
    else none
  | .successor =>
    if shared.lifecycle.filterUpdates = false ∨ choice.successor = .completed then
      some (shared, .teardown .sealPublication caller reclaimerAvailable)
    else if choice.successor = .reclaimerUnavailable ∧ reclaimerAvailable = true then
      some (shared, .teardown (.take (.failedReclaimer .successor)) caller reclaimerAvailable)
    else some (shared, .teardown .incomplete caller reclaimerAvailable)
  | .successorRetry =>
    if choice.successor = .completed then
      some (shared, .teardown .sealPublication caller reclaimerAvailable)
    else some (shared, .teardown .incomplete caller reclaimerAvailable)
  | .sealPublication =>
    if shared.lifecycle.control && !choice.accepted then
      some (shared, .teardown .incomplete caller reclaimerAvailable)
    else if reclaimerAvailable then
      some (shared, .teardown (.take .reclaimer) caller reclaimerAvailable)
    else some (shared, .teardown .converged caller reclaimerAvailable)
  | .converged =>
    if shared.lifecycle.control && !choice.accepted then
      some (shared, .teardown .incomplete caller reclaimerAvailable)
    else some (shared, .teardown .completeLast caller reclaimerAvailable)
  | .completeLast =>
    if shared.lifecycle.filterUpdates = true ∧ choice.successor ≠ .completed then
      some (shared, .teardown .incomplete caller reclaimerAvailable)
    else some (shared, .teardown .release caller reclaimerAvailable)
  | .release =>
    let released :=
      (shared.setLifecycle shared.lifecycle.release).record (.runtimeStop .released)
    some (released.finishTeardown thread released.lifecycle.exitResultLocked caller)
  | .incomplete =>
    let kept := shared.setLifecycle shared.lifecycle.teardownIncomplete
    some (kept.finishTeardown thread kept.lifecycle.incompleteResult caller)

/-! ## The other calls -/

/-- `request_stop` has returned, to its caller or to `join`. -/
def stopReturned (joins : Bool) : Pc := if joins then .lockStartup true else .idle

/-- The states in which `wait` stops waiting. -/
def waitOver (shared : Shared) : Prop :=
  shared.lifecycle.state ≠ .starting ∧ shared.lifecycle.state ≠ .active

instance (shared : Shared) : Decidable shared.waitOver := inferInstanceAs (Decidable (_ ∧ _))

/-- A step of the thread, which stands at the given place. -/
def stepThread (shared : Shared) (thread : ThreadId) (choice : Choice) :
    Pc → Option (Shared × Pc)
  | .idle => none
  | .init stage config => some (shared.stepInit thread choice config stage)
  | .start stage attempt => shared.stepStart thread choice attempt stage
  | .requestStop false joins =>
    match shared.lifecycle.requestStop with
    | (.nothing, lifecycle) => some (shared.setLifecycle lifecycle, stopReturned joins)
    | (.stopRuntime, lifecycle) => some (shared.setLifecycle lifecycle, .requestStop true joins)
  | .requestStop true joins => some (shared.requestRuntimeStop, stopReturned joins)
  | .failService failure =>
    match shared.lifecycle.acceptFatalLocked (mapWorkerFailure failure) with
    | none => some (shared, .idle)
    | some lifecycle =>
      some ((shared.setLifecycle lifecycle).record (.fatalAccepted (mapWorkerFailure failure)),
        .fatalStop)
  | .fatalStop => some (shared.requestRuntimeStop, .idle)
  | .waitCheck =>
    if shared.waitOver then
      if shared.lifecycle.state = .empty then
        some (shared.record (.exitReturned thread shared.lifecycle.exitResultLocked), .idle)
      else some (shared, .lockStartup false)
    else none
  | .lockStartup joins =>
    if shared.startupMutex = none then
      some ({ shared with startupMutex := some thread },
        .lockJoin (if joins then .join else .wait))
    else none
  | .lockJoin caller =>
    if shared.joinMutex = none then
      some ({ shared with joinMutex := some thread }, .teardown .check caller false)
    else none
  | .teardown stage caller reclaimerAvailable =>
    shared.stepTeardown thread choice caller reclaimerAvailable stage
  | .replaceCheck =>
    match shared.lifecycle.replaceRefused, choice.error with
    | some error, _ => some (shared.record (.replaceReturned thread (.error error)), .idle)
    | none, some _ =>
      some (shared.record (.replaceReturned thread (.error (.update { code := .internalError }))),
        .idle)
    | none, none => some (shared, .replaceWait)
  | .replaceWait =>
    match choice.replaced with
    | .error error => some (shared.record (.replaceReturned thread (.error (.update error))), .idle)
    | .ok version =>
      -- A version that the controller reports has been published.
      if version.generation ≤ shared.lifecycle.currentVersion.generation then
        some ((shared.setLifecycle (shared.lifecycle.replaceCompleted version)).record
          (.replaceReturned thread (.ok version)), .idle)
      else none

/-! ## The roles -/

/-- What the thread of a role does.  `abort` is the failed initialization that
tests inject, after which the role does not look at the service. -/
inductive RoleAction where
  | reportReady (code : ReadyCode)
  | abort
  | exit (exit : RoleExit)
  | account
  | stopRuntime
  deriving DecidableEq, Repr

/-- A step of the thread of a role. -/
def stepRole (shared : Shared) (role : Role) (action : RoleAction) : Option Shared :=
  match shared.roles role, action with
  | .running _, .reportReady code =>
    if role ≠ .supervisor then
      some { shared with control := shared.control.reportReady role code }
    else none
  | .running _, .abort =>
    if role ≠ .supervisor then
      some ({ shared with control := shared.control.publishResult role }.setRole role .done)
    else none
  | .running attempt, .exit exit =>
    if exit.role = role then
      some ({ shared with control := shared.control.publishResult role }.setRole role
        (.exited exit attempt))
    else none
  | .exited exit attempt, .account =>
    match shared.lifecycle.roleExited exit attempt with
    | (.expected, lifecycle) => some ((shared.setLifecycle lifecycle).setRole role .done)
    | (.startupFailure, lifecycle) =>
      some ((shared.setLifecycle lifecycle).setRole role .stopping)
    | (.runtimeFailure error, lifecycle) =>
      some (((shared.setLifecycle lifecycle).record (.fatalAccepted error)).setRole role .stopping)
  | .stopping, .stopRuntime => some (shared.requestRuntimeStop.setRole role .done)
  | _, _ => none

end Shared

/-! ## Steps -/

/-- Where a call begins. -/
def Call.entry : Call → Pc
  | .init config => .init .check config
  | .start => .start .lock 0
  | .requestStop => .requestStop false false
  | .join => .requestStop false true
  | .wait => .waitCheck
  | .failService failure => .failService failure
  | .replaceBlockedDomains => .replaceCheck

inductive Label where
  | call (thread : ThreadId) (call : Call)
  | act (thread : ThreadId) (choice : Choice)
  | role (role : Role) (action : Shared.RoleAction)
  | reportHealth (snapshot : SupervisorHealthSnapshot)
  | publish (ruleCount : Nat)

namespace DNS

def setThread (service : DNS) (shared : Shared) (thread : ThreadId) (pc : Pc) : DNS :=
  { shared := shared, threads := Function.update service.threads thread pc }

/-- One step of the service.  A health report of the supervisor may come at any
time, a version of the update controller while the service owns the controller. -/
def step (service : DNS) : Label → Option DNS
  | .call thread call =>
    if service.threads thread = .idle then
      some (service.setThread (service.shared.record (.called thread call)) thread call.entry)
    else none
  | .act thread choice =>
    (service.shared.stepThread thread choice (service.threads thread)).map fun next =>
      service.setThread next.1 thread next.2
  | .role role action =>
    (service.shared.stepRole role action).map fun shared => { service with shared := shared }
  | .reportHealth snapshot =>
    some { service with
      shared := service.shared.setLifecycle (service.shared.lifecycle.reportHealth snapshot) }
  | .publish ruleCount =>
    let version := service.shared.lifecycle.currentVersion
    if service.shared.lifecycle.filterUpdates = true ∧ version.generation < maximumGeneration then
      some { service with
        shared := service.shared.setLifecycle { service.shared.lifecycle with
          currentVersion := ⟨version.generation + 1, ruleCount⟩ } }
    else none

/-- Some steps of a thread, in each of which the owned objects do what they are
asked to. -/
def acts (count : Nat) (thread : ThreadId) : List Label := List.replicate count (.act thread {})

end DNS

end DnsPro.Service
