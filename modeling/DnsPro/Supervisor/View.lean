import DnsPro.Supervisor.System

/-!
# One record in a step

`View` is what one record sees of the system: its slot, its part of the
publication, the point where the control thread stands, and the events of the log
that are about it.  `Move` lists what one step can do to a view, with the tests
that the code makes first.  Every result about a record is a case analysis over
`Move`.
-/

namespace DnsPro.Supervisor

open DnsPro.Runtime (TimePoint)
open DnsPro.Publication (WorkerEpoch FilterPublicationState WorkerRegistrationState
  unobservedFilterGeneration)
open DnsPro.Service (WorkerRunResult WorkerFailure WorkerRecoveryConfig SupervisorStartupError)

/-! ## The control thread, seen from a record -/

/-- The place of the control thread for one record: work on the record itself, or
one of the phases in which the record waits for it. -/
inductive Place where
  | fresh
  | created
  | starting
  | activating
  | away
  /-- The run is over but for the joins; no instance is created any more. -/
  | closing
  | here (point : Point)

/-- The place of a record while the control thread works on another one; `later`
says that it has not come to this record yet. -/
def Point.elsewhere (later : Bool) : Point → Place
  | .create .startup _ _ => if later then .fresh else .created
  | .start .startup _ => if later then .created else .starting
  | .readiness => .starting
  | .activationExits | .activationMarks => .activating
  | .fail _ | .report _ _ | .join (.all ..) _ | .join (.emergency _) _ => .closing
  | _ => .away

def Pc.place (worker : Nat) : Pc → Place
  | .notStarted | .entered | .checking => .fresh
  | .publishing _ _ .awaitActivation => .activating
  | .publishing _ _ .monitor => .away
  | .record other point =>
    if worker = other then .here point else point.elsewhere (decide (other < worker))
  | .readinessTop => .starting
  | .activationTop => .activating
  | .monitorTop => .away
  | _ => .closing

/-- An instance has been built and is not stored yet. -/
def Place.storing : Place → Bool
  | .here (.create _ _ (.store _)) => true
  | _ => false

def Pc.storing : Pc → Bool
  | .record _ (.create _ _ (.store _)) => true
  | _ => false

def Place.windingDown : Place → Bool
  | .closing | .here (.fail _) | .here (.report _ _) => true
  | .here (.join (.all ..) _) | .here (.join (.emergency _) _) => true
  | _ => false

/-- The supervisor has not come to its monitor. -/
def Place.startup : Place → Bool
  | .fresh | .created | .starting | .activating => true
  | .here (.create .startup ..) | .here (.start .startup _) => true
  | .here .readiness | .here .activationExits | .here .activationMarks => true
  | _ => false

/-- A failure of the record is being handled. -/
def Place.failing : Place → Bool
  | .here (.createHealth (some _)) | .here (.beginFailure _) | .here (.failureHealth _) => true
  | .here (.join (.failure _) _) | .here (.decide _) => true
  | _ => false

/-! ## Views -/

/-- The worker that an event is about. -/
def Event.worker? : Event → Option Nat
  | .instanceCreated worker _ | .registered worker _ | .becameRunning worker _ _
  | .joinFailed worker _ | .quiesced worker _ | .gateReturned worker _ _ _
  | .episodeBegan worker | .episodeEnded worker | .scheduled worker _ | .restarted worker =>
    some worker
  | .healthReported _ | .fatalReported _ | .runReturned _ => none

/-- The events about a worker, the newest first. -/
def System.history (system : System) (worker : Nat) : List Event :=
  system.log.filter fun event => event.worker? == some worker

structure View where
  slot : Slot
  /-- Whether the registry holds the epoch of the worker. -/
  registered : Bool
  epoch : WorkerEpoch
  released : Bool
  clock : TimePoint
  place : Place
  history : List Event

/-- The registry holds the epoch of the worker. -/
def registeredIn (publication : FilterPublicationState) (worker : Nat) : Bool :=
  decide (worker < publication.maximumWorkers) && publication.registry worker

def System.view (system : System) (worker : Nat) : View where
  slot := system.slots worker
  registered := registeredIn system.publication.publication worker
  epoch := system.publication.publication.epochs worker
  released := system.shared.dataPlaneReleased
  clock := system.clock
  place := system.pc.place worker
  history := system.history worker

namespace View

def record (view : View) : WorkerRecord := view.slot.record

def put (view : View) (record : WorkerRecord) : View :=
  { view with slot := { view.slot with record := record } }

def goto (view : View) (place : Place) : View := { view with place := place }

def note (view : View) (event : Event) : View :=
  { view with history := event :: view.history }

/-- The attempt that an admission counts. -/
def counted (worker : Nat) (view : View) : View :=
  if view.record.recoveryEpisode then
    (view.put view.record.countAttempt).note (.restarted worker)
  else view

/-- The events of the first locked body of `handle_worker_failure`. -/
def noteFailure (worker : Nat) (before view : View) : View :=
  let view := if before.record.endedStable then view.note (.episodeEnded worker) else view
  if (before.record.endedStable || !before.record.recoveryEpisode) && before.released then
    view.note (.episodeBegan worker)
  else view

end View

/-- The flag of a gate. -/
def WorkerRecord.allowed (record : WorkerRecord) : Gate → Bool
  | .activation => record.activationAllowed
  | .dataPlane => record.dataPlaneAllowed

/-! ## Moves -/

/-- The control thread goes on and leaves the slot alone. -/
inductive Goes (view : View) : Place → Place → Prop where
  | giveUp {place : Place} (hplace : place.storing = false) : Goes view place .closing
  | leave {place : Place} (hplace : place.storing = false) (hdown : place.windingDown = false)
      (hfailing : place.failing = false) : Goes view place .away
  -- the startup
  | create (port : UInt16) : Goes view .fresh (.here (.create .startup port .admission))
  | start : Goes view .created (.here (.start .startup false))
  | readiness : Goes view .starting (.here .readiness)
  | starting : Goes view (.here .readiness) .starting
  | allReady (hstate : view.record.state = .ready) : Goes view .starting .activating
  | exits : Goes view .activating (.here .activationExits)
  | marks : Goes view .activating (.here .activationMarks)
  | activating {point : Point} (hpoint : point = .activationExits ∨ point = .activationMarks) :
      Goes view (.here point) .activating
  -- the monitor
  | monitor : Goes view .away (.here .monitor)
  | failure {failure : WorkerFailure} {worker : Nat}
      (hfailure : view.record.observedFailure worker = some failure) :
      Goes view (.here .monitor) (.here (.beginFailure failure))
  | ready {worker : Nat} (hfailure : view.record.observedFailure worker = none)
      (hstate : view.record.state = .starting) (hreported : view.record.reported = true) :
      Goes view (.here .monitor) (.here .readyPoint)
  | checkActivated : Goes view (.here .monitor) (.here .checkActivated)
  | activated (hstate : view.record.state = .ready) (hactivated : view.record.isActivated = true) :
      Goes view (.here .checkActivated) (.here .activatedPoint)
  | checkStable : Goes view (.here .checkActivated) (.here .checkStable)
  | running : Goes view (.here .runningPoint) (.here .checkStable)
  | due (port : UInt16) (hstate : view.record.state = .backoff)
      (hdue : view.record.restartAt ≤ view.clock) :
      Goes view (.here .checkStable) (.here (.create .restart port .admission))
  -- the creation and the start of an instance
  | createFailed {port : UInt16} {point : CreatePoint} (error : SupervisorStartupError)
      (hpoint : point = .admission ∨ point = .register ∨ point = .build) :
      Goes view (.here (.create .restart port point)) (.here (.createHealth (some error)))
  | failedHealth (error : SupervisorStartupError) :
      Goes view (.here (.createHealth (some error))) (.here (.beginFailure (creationFailure error)))
  | createdHealth : Goes view (.here (.createHealth none)) (.here (.start .restart false))
  | spawning (caller : Caller) :
      Goes view (.here (.start caller false)) (.here (.start caller true))
  -- failures and joins
  | joinFailure (failure : WorkerFailure) :
      Goes view (.here (.failureHealth failure)) (.here (.join (.failure failure) .request))
  | report (failure : WorkerFailure) (reports : Bool) :
      Goes view (.here (.fail failure)) (.here (.report failure reports))
  | noThread {caller : JoinCaller} (hthread : view.record.currentThread = false) :
      Goes view (.here (.join caller .join)) (.here (.join caller .record))
  | join {caller : JoinCaller} (hcaller : (Place.here (.join caller .request)).windingDown = true) :
      Goes view .closing (.here (.join caller .request))

/-- What one step does to the view of a worker.  `stopped` is `stop_requested_locked`
before the step. -/
inductive Move (config : WorkerRecoveryConfig) (worker : Nat) (stopped : Bool) (view : View) :
    View → Prop where
  -- the other threads
  | still : Move config worker stopped view view
  | requestStop : Move config worker stopped view
      (view.put { view.record with instanceStop := true })
  | allowActivation (hstop : stopped = false) : Move config worker stopped view
      (view.put { view.record with activationAllowed := true })
  | release (hstop : stopped = false) (hstate : view.record.state = .running)
      (hcompleted : view.record.completed = false) :
      Move config worker stopped view
        { view.put { view.record with dataPlaneAllowed := true } with released := true }
  | reportReady (instanceId : Nat) (result : WorkerReadyResult) :
      Move config worker stopped view (view.put (view.record.reportReady instanceId result))
  | reportActivated (instanceId : Nat) :
      Move config worker stopped view (view.put (view.record.reportActivated instanceId))
  | reportCompletion (instanceId : Nat) (result : WorkerRunResult) (now : TimePoint)
      (threads : List WorkerThread)
      (hthreads : threads.map (·.instanceId) = view.slot.threads.map (·.instanceId)) :
      Move config worker stopped view { view with
        slot := { view.slot with
          record := view.record.reportCompletion instanceId result now
          threads := threads } }
  | gate (instanceId : Nat) (gate : Gate) (action : GateAction)
      (hproceed : action = .proceed → stopped = false ∧ instanceId = view.record.instanceId ∧
        view.record.allowed gate = true) :
      Move config worker stopped view (view.note (.gateReturned worker instanceId gate action))
  | observe {epoch : WorkerEpoch}
      (hpublished : epoch.publishedInstanceId = view.epoch.publishedInstanceId)
      (hquiesced : epoch.quiescedThroughInstanceId = view.epoch.quiescedThroughInstanceId) :
      Move config worker stopped view { view with epoch := epoch }
  -- the control thread
  | goes {place : Place} (h : Goes view view.place place) :
      Move config worker stopped view (view.goto place)
  | refused {caller : Caller} {port : UInt16} {place : Place}
      (hplace : view.place = .here (.create caller port .admission)) (hstop : stopped = false)
      (hnext : place = .closing ∨ ∃ error, place = .here (.createHealth (some error))) :
      Move config worker stopped view ((view.counted worker).goto place)
  | admission {caller : Caller} {port : UInt16}
      (hplace : view.place = .here (.create caller port .admission)) (hstop : stopped = false)
      (hinstance : view.record.currentInstance = none)
      (hthread : view.record.currentThread = false) :
      Move config worker stopped view
        ((((view.counted worker).put (view.counted worker).record.admission).note
          (.instanceCreated worker (view.record.instanceId + 1))).goto
            (.here (.create caller port .register)))
  | register {caller : Caller} {port : UInt16}
      (hplace : view.place = .here (.create caller port .register))
      (hregistered : view.registered = false) :
      Move config worker stopped view
        (({ view with
          registered := true
          epoch := { view.epoch with
            observedGeneration := unobservedFilterGeneration
            registrationState := .starting
            publishedInstanceId := view.record.instanceId } } : View).note
          (.registered worker view.record.instanceId) |>.goto (.here (.create caller port .build)))
  | build {caller : Caller} {port : UInt16} (boundPort : UInt16)
      (hplace : view.place = .here (.create caller port .build)) :
      Move config worker stopped view
        (({ view with slot := { view.slot with
            loops := ⟨view.record.instanceId, worker, port, boundPort⟩ ::
              view.slot.loops } } : View).goto
          (.here (.create caller port (.store ⟨view.record.instanceId, worker, port, boundPort⟩))))
  | store {caller : Caller} {port : UInt16} {loop : WorkerLoop} {place : Place}
      (hplace : view.place = .here (.create caller port (.store loop)))
      (hnext : caller = .startup ∧ (place = .created ∨ place = .here (.start .startup false)) ∨
        caller = .restart ∧ place = .here (.createHealth none)) :
      Move config worker stopped view
        ((view.put { view.record with currentInstance := some loop, state := .starting }).goto place)
  | threadFailed {caller : Caller} {place : Place}
      (hplace : view.place = .here (.start caller true))
      (hnext : place = .closing ∨ ∃ error, place = .here (.beginFailure (creationFailure error))) :
      Move config worker stopped view
        ((view.put { view.record with observer := view.record.instanceId }).goto place)
  | thread {caller : Caller} {place : Place}
      (hplace : view.place = .here (.start caller true))
      (hnext : caller = .startup ∧ place = .starting ∨ caller = .restart ∧ place = .away) :
      Move config worker stopped view
        (({ view with slot := { view.slot with
            record := { view.record with
              observer := view.record.instanceId
              currentThread := true }
            threads := ⟨view.record.instanceId, false⟩ :: view.slot.threads } } : View).goto place)
  | markReady {epoch : WorkerEpoch} (hplace : view.place = .here .readiness)
      (hreported : view.record.reported = true)
      (houtcome : view.record.ready.result.outcome = .ready)
      (hpublished : epoch.publishedInstanceId = view.epoch.publishedInstanceId)
      (hquiesced : epoch.quiescedThroughInstanceId = view.epoch.quiescedThroughInstanceId) :
      Move config worker stopped view
        (({ view.put { view.record with state := .ready } with epoch := epoch } : View).goto
          .starting)
  | exited {point : Point} (hplace : view.place = .here point)
      (hpoint : point = .readiness ∨ point = .activationExits)
      (hcompleted : view.record.completed = true) :
      Move config worker stopped view
        ((view.put { view.record with
          state := .exited
          lastResult := some view.record.completion.result }).goto .closing)
  | markRunning (hplace : view.place = .here .activationMarks)
      (hactivated : view.record.isActivated = true) :
      Move config worker stopped view
        ((view.put { view.record with state := .running }).goto .activating)
  | ready {epoch : WorkerEpoch} (hplace : view.place = .here .readyPoint)
      (hstop : stopped = false) (hcompletion : view.record.completion.published = false)
      (hpublished : epoch.publishedInstanceId = view.epoch.publishedInstanceId)
      (hquiesced : epoch.quiescedThroughInstanceId = view.epoch.quiescedThroughInstanceId) :
      Move config worker stopped view
        (({ view.put { view.record with state := .ready, activationAllowed := true } with
          epoch := epoch } : View).goto (.here .checkActivated))
  | activate (hplace : view.place = .here .activatedPoint) (hstop : stopped = false)
      (hcompletion : view.record.completion.published = false) :
      Move config worker stopped view
        (((view.put (view.record.activate config view.clock)).note
          (.becameRunning worker view.record.instanceId view.clock)).goto (.here .runningPoint))
  | stable (hplace : view.place = .here .checkStable)
      (hcompletion : view.record.completion.published = false)
      (hstable : view.record.isStable view.clock = true) :
      Move config worker stopped view
        (((view.put (view.record.closeEpisode config)).note (.episodeEnded worker)).goto .away)
  | beginFailure {failure : WorkerFailure} (hplace : view.place = .here (.beginFailure failure))
      (hstop : stopped = false) :
      Move config worker stopped view
        ((view.noteFailure worker
          (view.put (view.record.beginFailure config view.released))).goto
          (.here (.failureHealth failure)))
  | decided {failure : WorkerFailure} {place : Place}
      (hplace : view.place = .here (.decide failure))
      (hnext : place = .closing ∨
        (place = .here (.fail { failure with budgetExhausted := true }) ∧
          view.record.restartable config view.released failure = true ∧
          config.maxAttempts ≤ view.record.recoveryAttempts) ∨
        (place = .here (.fail failure) ∧
          view.record.restartable config view.released failure = false)) :
      Move config worker stopped view ((view.put (view.record.keepResult failure)).goto place)
  | schedule {failure : WorkerFailure} (hplace : view.place = .here (.decide failure))
      (hstop : stopped = false)
      (hrestartable : view.record.restartable config view.released failure = true)
      (hbudget : view.record.recoveryAttempts < config.maxAttempts) :
      Move config worker stopped view
        (((view.put ((view.record.keepResult failure).schedule config view.clock)).note
          (.scheduled worker view.record.nextBackoff)).goto .away)
  -- the joins
  | stopping {place : Place} (hplace : view.place = .closing)
      (hnext : place = .closing ∨ ∃ caller, place = .here (.join caller .request) ∧
        place.windingDown = true) :
      Move config worker stopped view
        ((view.put { view.record with instanceStop := true }).goto place)
  | joinFailed {caller : JoinCaller} {point : JoinPoint} {place : Place} (stop : Bool)
      (hplace : view.place = .here (.join caller point))
      (hnext : place = .closing ∨ ∃ failure, caller = .failure failure ∧
        place = .here (.fail { failure with code := .joinFailed })) :
      Move config worker stopped view
        (((view.put { view.record with instanceStop := stop }).note
          (.joinFailed worker view.record.instanceId)).goto place)
  | joinRequest {caller : JoinCaller} (hplace : view.place = .here (.join caller .request)) :
      Move config worker stopped view
        ((view.put (WorkerRecord.beginJoin { view.record with instanceStop := true })).goto
          (.here (.join caller .join)))
  | joined {caller : JoinCaller} (hplace : view.place = .here (.join caller .join)) :
      Move config worker stopped view
        (({ view with slot := { view.slot with
            record := { view.record with currentThread := false }
            threads := [] } } : View).goto (.here (.join caller .record)))
  | recordJoin {caller : JoinCaller} (hplace : view.place = .here (.join caller .record)) :
      Move config worker stopped view
        ((view.put view.record.recordJoin).goto (.here (.join caller .reset)))
  | reset {caller : JoinCaller} (hplace : view.place = .here (.join caller .reset)) :
      Move config worker stopped view
        (({ view with slot := { view.slot with
            record := { view.record with currentInstance := none }
            loops := view.record.currentInstance.elim view.slot.loops
              view.slot.loops.erase } } : View).goto (.here (.join caller .quiesce)))
  | quiesce {caller : JoinCaller} {registered : Bool} {epoch : WorkerEpoch}
      (hplace : view.place = .here (.join caller .quiesce))
      (hquiesced :
        (view.registered = true ∧ view.epoch.publishedInstanceId = view.record.instanceId ∧
          registered = false ∧ epoch = { view.epoch with
            quiescedThroughInstanceId := view.record.instanceId
            registrationState := .unregistered }) ∨
        (¬(view.registered = true ∧ view.epoch.publishedInstanceId = view.record.instanceId) ∧
          registered = view.registered ∧ epoch = view.epoch)) :
      Move config worker stopped view
        (({ view with registered := registered, epoch := epoch } : View).note
          (.quiesced worker view.record.instanceId) |>.goto (.here (.join caller .offline)))
  | offline {caller : JoinCaller} {place : Place}
      (hplace : view.place = .here (.join caller .offline))
      (hnext : place = .closing ∨ ∃ failure, caller = .failure failure ∧
        place = .here (.decide failure)) :
      Move config worker stopped view ((view.put view.record.goOffline).goto place)

end DnsPro.Supervisor
