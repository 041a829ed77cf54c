import DnsPro.Publication.State

/-!
# The publication protocol as a transition system

The parties are the worker instances, each with its local snapshot, the
publisher, the reclaimer thread and the teardown code.  A label is one
lock-protected body of `FilterPublicationState` together with what the
environment decides, and `System.step` is `none` where the callers' protocol
forbids the call:

* the instance ids of a slot strictly increase;
* an instance has a local snapshot only from `register_worker` and
  `refresh_worker_snapshot`, and drops it before its `quiesce_worker`;
* the terminal detach comes after the seal.

`published` and `released` are ghosts: the snapshots that were ever active,
and those whose record let go of its owner.
-/

namespace DnsPro.Publication

open FilterPublicationState (RecordName Iteration)

/-- The local snapshot of a live worker instance. -/
structure LocalSnapshot where
  workerId : Nat
  instanceId : Nat
  snapshot : FilterSnapshot
  deriving DecidableEq, Repr

/-- Whether the local snapshot belongs to this instance. -/
def LocalSnapshot.of (entry : LocalSnapshot) (workerId instanceId : Nat) : Bool :=
  entry.workerId = workerId ∧ entry.instanceId = instanceId

/-- Where the thread of `run_reclaimer` stands. -/
inductive Reclaimer where
  | stopped
  | looping
  | destroying (name : RecordName) (soleOwner : Option FilterSnapshot)
      (generation retiredBytes : Nat)
  | exiting (code : SnapshotReclaimerExitCode)
  deriving DecidableEq, Repr

/-- `sole_owner`, the local of `run_reclaimer`. -/
def Reclaimer.soleOwner : Reclaimer → Option FilterSnapshot
  | .destroying _ soleOwner _ _ => soleOwner
  | _ => none

structure System where
  publication : FilterPublicationState
  locals : List LocalSnapshot := []
  reclaimer : Reclaimer := .stopped
  latestInstance : Nat → Nat := fun _ => 0
  published : List FilterSnapshot
  released : List FilterSnapshot := []

namespace System

/-- The owners that live in the state and on the reclaimer's stack. -/
def held (system : System) : List FilterSnapshot :=
  system.publication.activeSnapshot.toList ++ system.publication.retired.owner.toList ++
    system.publication.terminal.owner.toList ++ system.reclaimer.soleOwner.toList

/-- `use_count` of the object that `snapshot` owns. -/
def useCount (system : System) (snapshot : FilterSnapshot) : Nat :=
  system.held.count snapshot + (system.locals.map (·.snapshot)).count snapshot

/-- The local snapshot of an instance, null when it has none. -/
def localSnapshot (system : System) (workerId instanceId : Nat) : Option FilterSnapshot :=
  (system.locals.find? fun entry => entry.of workerId instanceId).map (·.snapshot)

/-- The system around a newly constructed publication state. -/
def new (initialSnapshot : FilterSnapshot) (maximumWorkers graceTimeout : Nat) : Option System :=
  (FilterPublicationState.new (some initialSnapshot) maximumWorkers graceTimeout).map
    fun publication => { publication := publication, published := [initialSnapshot] }

/-- One lock-protected body, with its arguments and what it reads of the world. -/
inductive Label where
  | registerWorker (workerId instanceId : Nat)
  | markWorkerRegistered (workerId instanceId : Nat)
  | refreshWorkerSnapshot (workerId instanceId : Nat)
  | dropLocalSnapshot (workerId instanceId : Nat)
  | quiesceWorker (workerId instanceId : Nat)
  | publishProgress
  | acquireRetirementCredit (stopRequested : Bool)
  | releaseUncommittedCredit
  | commit (candidate : Option FilterSnapshot) (now : Nat)
  | sealPublication
  | detachTerminalSnapshot (now : Nat)
  | startReclaimer
  | reclaimerIteration (now : Nat) (stopRequested : Bool)
  | resetSoleOwner
  | finishDestroy
  | exitReclaimer
  | requestReclaimerShutdown
  | injectReclaimerFailure
  | injectReclaimerFailureAfterNextCommit
  | emergencyReclaimConverged
  deriving DecidableEq, Repr

/-- `register_worker` by the thread that starts the instance. -/
def register (system : System) (workerId instanceId : Nat) : System :=
  let system := { system with
    latestInstance := Function.update system.latestInstance workerId instanceId }
  match system.publication.registerWorker workerId instanceId with
  | (some (snapshot, _), publication) =>
    { system with
      publication := publication
      locals := ⟨workerId, instanceId, snapshot⟩ :: system.locals }
  | (none, publication) => { system with publication := publication }

/-- `refresh_worker_snapshot` by the instance itself. -/
def refresh (system : System) (workerId instanceId : Nat) : System :=
  let result := system.publication.refreshWorkerSnapshot
    (system.localSnapshot workerId instanceId) workerId instanceId
  match result.localSnapshot with
  | some snapshot =>
    { system with
      publication := result.state
      locals := system.locals.map fun entry =>
        if entry.of workerId instanceId then { entry with snapshot := snapshot } else entry }
  | none => { system with publication := result.state }

/-- `commit`; an owner that the record still had would be released by the store. -/
def publish (system : System) (candidate : Option FilterSnapshot) (now : Nat) : System :=
  match candidate, system.publication.commit candidate now with
  | some candidate, (.ok _, publication) =>
    { system with
      publication := publication
      published := system.published ++ [candidate]
      released := system.released ++ system.publication.retired.owner.toList }
  | _, (_, publication) => { system with publication := publication }

/-- The owners of the records that are pending. -/
def pendingOwners (publication : FilterPublicationState) : List FilterSnapshot :=
  (if publication.retired.pending then publication.retired.owner.toList else []) ++
    (if publication.terminal.pending then publication.terminal.owner.toList else [])

/-- `emergency_reclaim_converged`. -/
def emergencyReclaim (system : System) : System :=
  match system.publication.emergencyReclaimConverged system.useCount with
  | (true, publication) =>
    { system with
      publication := publication
      released := system.released ++ pendingOwners system.publication }
  | (false, publication) => { system with publication := publication }

/-- One iteration of the reclaimer's loop, up to where it releases the lock. -/
def iterateReclaimer (system : System) (now : Nat) (stopRequested : Bool) : System :=
  match system.publication.reclaimerIteration system.useCount now stopRequested with
  | (.exit code, publication) =>
    { system with publication := publication, reclaimer := .exiting code }
  | (.destroy name soleOwner generation retiredBytes, publication) =>
    { system with
      publication := publication
      reclaimer := .destroying name soleOwner generation retiredBytes }
  | (.wait, publication) => { system with publication := publication }

/-- One step of the protocol; `none` where a party is not at that point of its
code, or its protocol forbids the call. -/
def step (system : System) : Label → Option System
  | .registerWorker workerId instanceId =>
    if system.latestInstance workerId < instanceId then some (system.register workerId instanceId)
    else none
  | .markWorkerRegistered workerId instanceId =>
    some { system with
      publication := (system.publication.markWorkerRegistered workerId instanceId).2 }
  | .refreshWorkerSnapshot workerId instanceId => some (system.refresh workerId instanceId)
  | .dropLocalSnapshot workerId instanceId =>
    some { system with
      locals := system.locals.filter fun entry => !entry.of workerId instanceId }
  | .quiesceWorker workerId instanceId =>
    if system.localSnapshot workerId instanceId = none then
      some { system with publication := system.publication.quiesceWorker workerId instanceId }
    else none
  | .publishProgress => some { system with publication := system.publication.publishProgress }
  | .acquireRetirementCredit stopRequested =>
    (system.publication.acquireRetirementCredit stopRequested).map
      fun result => { system with publication := result.2 }
  | .releaseUncommittedCredit =>
    some { system with publication := system.publication.releaseUncommittedCredit }
  | .commit candidate now => some (system.publish candidate now)
  | .sealPublication => some { system with publication := system.publication.sealPublication }
  | .detachTerminalSnapshot now =>
    if system.publication.publicationSealed then
      some { system with publication := system.publication.detachTerminalSnapshot now }
    else none
  | .startReclaimer =>
    match system.reclaimer with
    | .stopped => system.publication.startReclaimer.map
        fun publication => { system with publication := publication, reclaimer := .looping }
    | _ => none
  | .reclaimerIteration now stopRequested =>
    match system.reclaimer with
    | .looping => some (system.iterateReclaimer now stopRequested)
    | _ => none
  | .resetSoleOwner =>
    match system.reclaimer with
    | .destroying name (some soleOwner) generation retiredBytes =>
      some { system with
        reclaimer := .destroying name none generation retiredBytes
        released := system.released ++ [soleOwner] }
    | _ => none
  | .finishDestroy =>
    match system.reclaimer with
    | .destroying name none generation retiredBytes =>
      some { system with
        publication := system.publication.finishDestroy name generation retiredBytes
        reclaimer := .looping }
    | _ => none
  | .exitReclaimer =>
    match system.reclaimer with
    | .exiting _ =>
      some { system with publication := system.publication.exitReclaimer, reclaimer := .stopped }
    | _ => none
  | .requestReclaimerShutdown =>
    some { system with
      publication := { system.publication with reclaimerShutdownRequested := true } }
  | .injectReclaimerFailure =>
    some { system with
      publication := { system.publication with reclaimerFailureRequested := true } }
  | .injectReclaimerFailureAfterNextCommit =>
    some { system with
      publication := { system.publication with reclaimerFailureAfterCommitRequested := true } }
  | .emergencyReclaimConverged => some system.emergencyReclaim

end System

end DnsPro.Publication
