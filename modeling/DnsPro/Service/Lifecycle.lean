import DnsPro.Service.Errors
import DnsPro.Update.Controller
import DnsPro.Upstream.Channel

/-!
# The lifecycle record of the service

`Lifecycle` is what `lifecycle_mutex_` of a `DNS` guards, and
`ControlPlaneState` what its own mutex guards.  Every definition below is one
lock-protected body of `DNS.cpp` as a function of these records, under the name
of the function it is a part of.  How the bodies of several threads interleave
is in `Service.System`.

An owning pointer is a `Bool`: whether it is set.  What the owned objects have
been told is in fields of its own: `updatesSealed`, `supervisorStopRequested`,
`dataPlaneReleased` and the version that the update controller has published.
-/

namespace DnsPro.Service

open DnsPro.Protocol DnsPro.Publication DnsPro.Update
open DnsPro.Upstream (transactionIdSpace)

/-! ## Configuration -/

inductive WorkerFailurePolicy where
  | failService
  | restart
  deriving DecidableEq, Repr

/-- Durations are in milliseconds. -/
structure WorkerRecoveryConfig where
  policy : WorkerFailurePolicy := .failService
  maxAttempts : Nat := 3
  initialBackoff : Int := 100
  maxBackoff : Int := 5000
  stabilityWindow : Int := 30000
  deriving DecidableEq, Repr

def isValidRecoveryConfig (config : WorkerRecoveryConfig) : Bool :=
  config.policy == .failService ||
    (config.policy == .restart && config.maxAttempts != 0 && decide (0 ≤ config.initialBackoff) &&
      decide (config.initialBackoff ≤ config.maxBackoff) && decide (0 ≤ config.stabilityWindow))

/-- Durations are in nanoseconds. -/
structure UpstreamConfig where
  address : String := "127.0.0.1"
  port : UInt16 := 53
  queryTimeout : Int := 2000000000
  idReuseGuard : Int := 4000000000
  transactionIdCapacity : Nat := 65536
  deriving DecidableEq, Repr

/-- `is_valid_upstream_config`; `inetPton` is whether `inet_pton` takes the address. -/
def isValidUpstreamConfig (config : UpstreamConfig) (inetPton : Bool) : Bool :=
  if config.address.isEmpty || config.port == 0 || decide (config.queryTimeout ≤ 0) ||
      decide (config.idReuseGuard < config.queryTimeout) || config.transactionIdCapacity == 0 ||
      decide (transactionIdSpace < config.transactionIdCapacity) then false
  else inetPton

structure DNSConfig where
  workerCount : Nat := 1
  runtimeUpdatesEnabled : Bool := true
  recovery : WorkerRecoveryConfig := {}
  blockedDomains : List Bytes := []
  upstream : UpstreamConfig := {}
  deriving DecidableEq, Repr

/-- The part of `RuntimeConfig` that the lifecycle reads. -/
structure RuntimeConfig where
  workerCount : Nat := 1
  runtimeUpdatesEnabled : Bool := true
  deriving DecidableEq, Repr

/-- `kInitialFilterGeneration`. -/
def initialFilterGeneration : Nat := 1

/-! ## The record -/

inductive DNSLifecycleState where
  | empty
  | initialized
  | starting
  | active
  | stopping
  | stopped
  | failed
  deriving DecidableEq, Repr

inductive DNSHealthState where
  | healthy
  | degraded
  | unavailable
  deriving DecidableEq, Repr

inductive StopCause where
  | none
  | explicit
  | startupFailure
  | fatal
  deriving DecidableEq, Repr

/-- The threads that `start` creates. -/
inductive Role where
  | coordinator
  | reclaimer
  | supervisor
  deriving DecidableEq, Repr

structure DNSHealthSnapshot where
  state : DNSHealthState := .unavailable
  availableWorkers : Nat := 0
  desiredWorkers : Nat := 0
  restartCount : Nat := 0
  restartSuccessCount : Nat := 0
  restartFailureCount : Nat := 0
  effectiveBoundPort : Option UInt16 := none
  filterVersion : Option FilterVersion := none
  lastError : Option DNSFatalError := none
  deriving DecidableEq, Repr

/-- What `lifecycle_mutex_` guards.  `joinable` says which of the three thread
members hold a thread, `stopToken` for which of them a stop was requested. -/
structure Lifecycle where
  state : DNSLifecycleState := .empty
  initInProgress : Bool := false
  stopCause : StopCause := .none
  startupAttemptId : UInt64 := 0
  startupStopRequested : Bool := false
  updateAdmissionOpen : Bool := false
  config : RuntimeConfig := {}
  health : DNSHealthSnapshot := {}
  startupError : Option DNSStartError := none
  fatalError : Option DNSFatalError := none
  control : Bool := false
  faults : Bool := false
  filterUpdates : Bool := false
  cache : Bool := false
  supervisor : Bool := false
  joinable : Role → Bool := fun _ => false
  stopToken : Role → Bool := fun _ => false
  currentVersion : FilterVersion := {}
  updatesSealed : Bool := false
  supervisorStopRequested : Bool := false
  dataPlaneReleased : Bool := false

/-- `ReadyCode` of the reclaimer and of the filter runner. -/
inductive ReadyCode where
  | ready
  | alreadyRunning
  deriving DecidableEq, Repr

/-- What the mutex of the control plane guards.  The service only asks whether a
role has published a result, never which one. -/
structure ControlPlaneState where
  attemptId : UInt64 := 0
  ready : Role → Option ReadyCode := fun _ => none
  result : Role → Bool := fun _ => false

namespace ControlPlaneState

def reset (_ : ControlPlaneState) (attemptId : UInt64) : ControlPlaneState :=
  { attemptId := attemptId }

/-- `report_reclaimer_ready` and `report_ready`: the first report stays. -/
def reportReady (control : ControlPlaneState) (role : Role) (code : ReadyCode) :
    ControlPlaneState :=
  if (control.ready role).isSome then control
  else { control with ready := Function.update control.ready role (some code) }

/-- `publish_coordinator_result`, `publish_reclaimer_result` and
`publish_supervisor_result`. -/
def publishResult (control : ControlPlaneState) (role : Role) : ControlPlaneState :=
  { control with result := Function.update control.result role true }

end ControlPlaneState

/-! ## What the code says of a role -/

namespace Role

def controlRole : Role → DNSControlRole
  | .coordinator => .filterUpdateCoordinator
  | .reclaimer => .snapshotReclaimer
  | .supervisor => .workerSupervisor

def threadCreationFailed : Role → DNSStartErrorCode
  | .coordinator => .coordinatorThreadCreationFailed
  | .reclaimer => .reclaimerThreadCreationFailed
  | .supervisor => .supervisorThreadCreationFailed

def initFailed : Role → DNSStartErrorCode
  | .coordinator => .coordinatorInitFailed
  | .reclaimer => .reclaimerInitFailed
  | .supervisor => .supervisorInitFailed

end Role

/-- What the body of a role ended with, as far as its `main` reads it. -/
inductive RoleExit where
  | coordinator
  | reclaimer (result : SnapshotReclaimerResult)
  | supervisor (result : SupervisorRunResult)
  deriving DecidableEq, Repr

namespace RoleExit

def role : RoleExit → Role
  | .coordinator => .coordinator
  | .reclaimer _ => .reclaimer
  | .supervisor _ => .supervisor

/-- The startup error that the exit of the role is reported as. -/
def startError : RoleExit → DNSStartError
  | .coordinator => makeStartError .coordinatorInitFailed .filterUpdateCoordinator 0
  | .reclaimer _ => makeStartError .reclaimerInitFailed .snapshotReclaimer 0
  | .supervisor result =>
    match result.startupError with
    | some error => mapSupervisorStartError error
    | none =>
      if result.workerId ≠ kInvalidWorkerId then
        { makeStartError .workerRuntimeInitFailed .worker result.errorNumber with
          workerId := result.workerId
          instanceId := result.instanceId
          workerRuntimeError := result.workerResult.bind (·.error) }
      else makeStartError .supervisorInitFailed .workerSupervisor 0

/-- The fatal error that the exit of the role is reported as. -/
def fatalError : RoleExit → DNSFatalError
  | .coordinator => makeRoleFatal .coordinatorExited .filterUpdateCoordinator
  | .reclaimer result =>
    { makeRoleFatal
        (if result.code = .gracePeriodStalled then .gracePeriodStalled else .reclaimerExited)
        .snapshotReclaimer with
      graceDiagnostic := result.diagnostic }
  | .supervisor _ => makeRoleFatal .supervisorExited .workerSupervisor

end RoleExit

namespace Lifecycle

/-- `exit_result_locked`. -/
def exitResultLocked (lifecycle : Lifecycle) : DNSServiceExitResult :=
  match lifecycle.stopCause with
  | .explicit => { code := .explicitStop }
  | .startupFailure => { code := .startupFailure, startupError := lifecycle.startupError }
  | .fatal => { code := .fatal, fatalError := lifecycle.fatalError }
  | .none => {}

/-! ## `init` -/

/-- The first body of `init`: `none` when the call returns false here. -/
def beginInit (lifecycle : Lifecycle) : Option Lifecycle :=
  if lifecycle.state ≠ .empty ∨ lifecycle.initInProgress = true then none
  else some { lifecycle with initInProgress := true }

/-- The checks of `init` between its bodies, up to the build of the snapshot. -/
def validConfig (config : DNSConfig) (inetPton : Bool) : Bool :=
  config.workerCount != 0 && isValidUpstreamConfig config.upstream inetPton &&
    isValidRecoveryConfig config.recovery &&
    (validateFilterRuleSet config.blockedDomains {}).isOk

/-- The body of every `init` that fails after the first. -/
def abandonInit (lifecycle : Lifecycle) : Lifecycle := { lifecycle with initInProgress := false }

/-- The last body of `init`. -/
def finishInit (lifecycle : Lifecycle) (config : DNSConfig) (version : FilterVersion) :
    Lifecycle :=
  { lifecycle with
    config :=
      { workerCount := config.workerCount, runtimeUpdatesEnabled := config.runtimeUpdatesEnabled }
    health := { desiredWorkers := config.workerCount, filterVersion := some version }
    currentVersion := version
    filterUpdates := true
    cache := true
    control := true
    faults := true
    initInProgress := false
    state := .initialized }

/-! ## `start` -/

/-- The first body of `start`: `none` when the call is refused. -/
def acceptStart (lifecycle : Lifecycle) : Option Lifecycle :=
  if lifecycle.state ≠ .initialized ∨ lifecycle.filterUpdates = false ∨
      lifecycle.cache = false ∨ lifecycle.control = false ∨ lifecycle.faults = false then none
  else
    some { lifecycle with
      state := .starting
      stopCause := .none
      startupError := none
      fatalError := none
      updateAdmissionOpen := false
      startupStopRequested := false
      startupAttemptId := lifecycle.startupAttemptId + 1
      health := { lifecycle.health with
        state := .unavailable
        availableWorkers := 0
        effectiveBoundPort := none
        lastError := none } }

def storeSupervisor (lifecycle : Lifecycle) : Lifecycle := { lifecycle with supervisor := true }

/-- A thread is moved into the member of its role. -/
def storeThread (lifecycle : Lifecycle) (role : Role) : Lifecycle :=
  { lifecycle with joinable := Function.update lifecycle.joinable role true }

/-- The member of the role is moved out of the service. -/
def takeThread (lifecycle : Lifecycle) (role : Role) : Lifecycle :=
  { lifecycle with joinable := Function.update lifecycle.joinable role false }

/-- `request_stop` of the thread of the role. -/
def stopThread (lifecycle : Lifecycle) (role : Role) : Lifecycle :=
  { lifecycle with stopToken := Function.update lifecycle.stopToken role true }

/-- Whether the start attempt is still the one that may go on. -/
def startupCurrent (lifecycle : Lifecycle) (attempt : UInt64) : Prop :=
  lifecycle.state = .starting ∧ lifecycle.stopCause = .none ∧ lifecycle.startupAttemptId = attempt

instance (lifecycle : Lifecycle) (attempt : UInt64) :
    Decidable (lifecycle.startupCurrent attempt) :=
  inferInstanceAs (Decidable (_ ∧ _ ∧ _))

/-- `commit_startup`.  `released` is what `release_data_plane` returns; the
tentative `Active` of a commit that fails ends before the lock does. -/
def commitStartup (lifecycle : Lifecycle) (attempt : UInt64) (info : SupervisorStartupInfo)
    (released : Except SupervisorActivationError Unit) : Except DNSStartError Unit × Lifecycle :=
  if lifecycle.startupCurrent attempt then
    let active : Lifecycle :=
      { lifecycle with
        state := .active
        health := { lifecycle.health with
          state := .healthy
          availableWorkers := lifecycle.config.workerCount
          effectiveBoundPort := some info.boundPort
          filterVersion := some lifecycle.currentVersion } }
    match released with
    | .ok _ =>
      (.ok (),
        { active with
          dataPlaneReleased := true
          updateAdmissionOpen := lifecycle.config.runtimeUpdatesEnabled })
    | .error error =>
      (.error (mapSupervisorActivationError error),
        { active with
          state := .starting
          health := { active.health with
            state := .unavailable
            availableWorkers := 0
            effectiveBoundPort := none }
          updateAdmissionOpen := false })
  else (.error cancelledStartError, lifecycle)

/-- The body in which `start` commits, with the result channels it looks at. -/
def commit (lifecycle : Lifecycle) (control : ControlPlaneState) (attempt : UInt64)
    (info : SupervisorStartupInfo) (released : Except SupervisorActivationError Unit) :
    Except DNSStartError Unit × Lifecycle :=
  if lifecycle.config.runtimeUpdatesEnabled then
    if !control.result .coordinator && !control.result .reclaimer then
      lifecycle.commitStartup attempt info released
    else if control.result .reclaimer then
      (.error (makeStartError .reclaimerInitFailed .snapshotReclaimer 0), lifecycle)
    else (.error (makeStartError .coordinatorInitFailed .filterUpdateCoordinator 0), lifecycle)
  else lifecycle.commitStartup attempt info released

/-- The first body of `fail_start`. -/
def failStart (lifecycle : Lifecycle) (error : DNSStartError) : Lifecycle :=
  let recorded : Lifecycle :=
    if lifecycle.stopCause = .none then
      { lifecycle with stopCause := .startupFailure, startupError := some error }
    else lifecycle
  { recorded with
    state :=
      if recorded.state = .starting ∨ recorded.state = .active then .stopping else recorded.state
    updateAdmissionOpen := false
    health := { recorded.health with state := .unavailable }
    startupStopRequested := true }

/-- The last body of `fail_start`: the error that the call returns. -/
def failStartResult (lifecycle : Lifecycle) (error : DNSStartError) : DNSStartError :=
  if lifecycle.stopCause = .explicit then cancelledStartError
  else lifecycle.startupError.getD error

/-! ## `request_stop`, `request_runtime_stop` and the fatal path -/

/-- What a call of `request_stop` has left to do after its body. -/
inductive StopAction where
  | nothing
  | stopRuntime
  deriving DecidableEq, Repr

/-- The body of `request_stop`. -/
def requestStop (lifecycle : Lifecycle) : StopAction × Lifecycle :=
  if lifecycle.state = .empty ∨ lifecycle.state = .stopped ∨ lifecycle.state = .failed then
    (.nothing, lifecycle)
  else if lifecycle.state = .initialized then
    (.nothing,
      { lifecycle with
        stopCause := .explicit
        state := .stopped
        updateAdmissionOpen := false
        health := { lifecycle.health with state := .unavailable, availableWorkers := 0 }
        filterUpdates := false
        cache := false
        control := false
        faults := false })
  else
    (.stopRuntime,
      { lifecycle with
        stopCause := if lifecycle.stopCause = .none then .explicit else lifecycle.stopCause
        state :=
          if lifecycle.state = .starting ∨ lifecycle.state = .active then .stopping
          else lifecycle.state
        updateAdmissionOpen := false
        health := { lifecycle.health with state := .unavailable, availableWorkers := 0 }
        startupStopRequested := true })

/-- `request_runtime_stop`. -/
def requestRuntimeStop (lifecycle : Lifecycle) : Lifecycle :=
  { lifecycle with
    startupStopRequested := true
    updateAdmissionOpen := false
    updatesSealed := lifecycle.updatesSealed || lifecycle.filterUpdates
    supervisorStopRequested := lifecycle.supervisorStopRequested || lifecycle.supervisor
    stopToken :=
      if lifecycle.joinable .supervisor then Function.update lifecycle.stopToken .supervisor true
      else lifecycle.stopToken }

/-- `accept_fatal_locked`: `none` when it returns false. -/
def acceptFatalLocked (lifecycle : Lifecycle) (error : DNSFatalError) : Option Lifecycle :=
  if lifecycle.state ≠ .active ∨ lifecycle.stopCause ≠ .none then none
  else
    some { lifecycle with
      stopCause := .fatal
      fatalError := some error
      state := .stopping
      updateAdmissionOpen := false
      health := { lifecycle.health with
        state := .unavailable, availableWorkers := 0, lastError := some error }
      startupStopRequested := true }

/-! ## The role mains -/

/-- `expected_stop`.  `reclaimer_main` does not look at its own token. -/
def expectedStop (lifecycle : Lifecycle) (role : Role) : Prop :=
  (role ≠ .reclaimer ∧ lifecycle.stopToken role = true) ∨ lifecycle.startupStopRequested = true ∨
    lifecycle.state = .stopping ∨ lifecycle.state = .stopped ∨ lifecycle.state = .failed

instance (lifecycle : Lifecycle) (role : Role) : Decidable (lifecycle.expectedStop role) :=
  inferInstanceAs (Decidable (_ ∨ _))

/-- What the last body of a role main has found. -/
inductive RoleVerdict where
  | expected
  | startupFailure
  | runtimeFailure (error : DNSFatalError)
  deriving DecidableEq, Repr

/-- The body of `coordinator_main`, `reclaimer_main` and `supervisor_main` after
the result of the role was published. -/
def roleExited (lifecycle : Lifecycle) (exit : RoleExit) (attempt : UInt64) :
    RoleVerdict × Lifecycle :=
  if lifecycle.expectedStop exit.role ∨ lifecycle.startupAttemptId ≠ attempt then
    (.expected, lifecycle)
  else if lifecycle.state = .starting then
    let recorded : Lifecycle :=
      if lifecycle.stopCause = .none then
        { lifecycle with stopCause := .startupFailure, startupError := some exit.startError }
      else lifecycle
    (.startupFailure, { recorded with state := .stopping, startupStopRequested := true })
  else if lifecycle.state = .active then
    match lifecycle.acceptFatalLocked exit.fatalError with
    | some accepted => (.runtimeFailure exit.fatalError, accepted)
    | none => (.expected, lifecycle)
  else (.expected, lifecycle)

/-- The `health_reporter` that `start` hands to the supervisor. -/
def reportHealth (lifecycle : Lifecycle) (snapshot : SupervisorHealthSnapshot) : Lifecycle :=
  if lifecycle.state ≠ .active ∧ lifecycle.state ≠ .stopping then lifecycle
  else
    let counted : DNSHealthSnapshot :=
      { lifecycle.health with
        restartCount := snapshot.restartCount
        restartSuccessCount := snapshot.restartSuccessCount
        restartFailureCount := snapshot.restartFailureCount }
    if lifecycle.state ≠ .active ∨ lifecycle.stopCause ≠ .none then
      { lifecycle with health := counted }
    else
      { lifecycle with
        health := { counted with
          availableWorkers := snapshot.availableWorkers
          state :=
            if snapshot.availableWorkers = counted.desiredWorkers then .healthy
            else if snapshot.availableWorkers = 0 then .unavailable
            else .degraded
          lastError :=
            match snapshot.lastError with
            | some failure => some (mapWorkerFailure failure)
            | none => counted.lastError } }

/-! ## `replace_blocked_domains` -/

/-- The errors of an update: those of the controller and the two that only the
service reports. -/
inductive ReplaceError where
  | serviceNotRunning
  | controlPlaneDisabled
  | update (error : FilterUpdateError)
  deriving DecidableEq, Repr

/-- The first body of `replace_blocked_domains` up to the submission: the error
with which the update is refused. -/
def replaceRefused (lifecycle : Lifecycle) : Option ReplaceError :=
  if lifecycle.state = .stopping ∨ lifecycle.state = .stopped ∨ lifecycle.state = .failed then
    some (.update { code := .shuttingDown })
  else if lifecycle.state ≠ .active then some .serviceNotRunning
  else if lifecycle.config.runtimeUpdatesEnabled = false then some .controlPlaneDisabled
  else if lifecycle.updateAdmissionOpen = false then some .serviceNotRunning
  else if lifecycle.filterUpdates = false then some (.update { code := .internalError })
  else none

/-- The last body of `replace_blocked_domains`. -/
def replaceCompleted (lifecycle : Lifecycle) (version : FilterVersion) : Lifecycle :=
  if (lifecycle.health.filterVersion.map (·.generation)).all (· < version.generation) then
    { lifecycle with health := { lifecycle.health with filterVersion := some version } }
  else lifecycle

/-! ## `finish_teardown` -/

/-- The states in which `finish_teardown` returns at once. -/
def teardownDone (lifecycle : Lifecycle) : Prop :=
  lifecycle.state = .empty ∨ lifecycle.state = .initialized ∨ lifecycle.state = .stopped ∨
    lifecycle.state = .failed

instance (lifecycle : Lifecycle) : Decidable lifecycle.teardownDone :=
  inferInstanceAs (Decidable (_ ∨ _))

/-- The state that `teardown_incomplete` leaves. -/
def teardownIncomplete (lifecycle : Lifecycle) : Lifecycle :=
  { lifecycle with
    state := .stopping
    health := { lifecycle.health with state := .unavailable, availableWorkers := 0 } }

/-- The result that `teardown_incomplete` returns. -/
def incompleteResult (lifecycle : Lifecycle) : DNSServiceExitResult :=
  { code := .teardownIncomplete
    startupError := lifecycle.startupError
    fatalError := lifecycle.fatalError }

/-- The last body of `finish_teardown`: the owners leave the service. -/
def release (lifecycle : Lifecycle) : Lifecycle :=
  { lifecycle with
    health := { lifecycle.health with
      state := .unavailable
      availableWorkers := 0
      filterVersion :=
        if lifecycle.filterUpdates then some lifecycle.currentVersion
        else lifecycle.health.filterVersion }
    supervisor := false
    filterUpdates := false
    cache := false
    control := false
    faults := false
    state := if lifecycle.stopCause = .explicit then .stopped else .failed }

end Lifecycle

end DnsPro.Service
