import DnsPro.Update.Controller

/-!
# The update controller as a transition system

The parties are the submitters, the runner thread, any number of calls of
`seal`, `request_terminal_detach` and `complete_committed_by_successor`, and
the publication with its workers and its reclaimer.  A step is one body under
the controller's mutex, one operation of the publication, one read of the stop
token, or one promise being set; promises are set outside the mutex, so other
steps come between.

`run` is the body of one thread and is called once.  The builder is a parameter.
It may return anything at each call: its first argument is what the call depends
on besides the rules and the generation.

`accepted`, `results`, `commits`, `runnerExited` and `successorCompleted` are
ghosts: the commands that joined the queue, in order, each promise as it is
set, the candidates that were committed, and whether the runner has returned
and a successor after it has returned `Completed`.
-/

namespace DnsPro.Update

open DnsPro.Protocol DnsPro.Publication
open DnsPro.Filter (BlocklistBuildError)

/-- What a call of the builder can end in. -/
inductive BuildOutcome where
  | candidate (snapshot : Option FilterSnapshot)
  | failure (error : BlocklistBuildError)
  | exception
  deriving DecidableEq, Repr

/-- `Builder`. -/
abbrev Builder := Nat → List Bytes → Nat → BuildOutcome

/-- Where a call of `seal` stands. -/
inductive SealPoint where
  | requestStop
  | sealPublication
  | swap
  | completing (cancelled : List Command)
  deriving DecidableEq, Repr

/-- Where the runner thread stands: in the loop of `run`, in `apply`, or in
`finish_run`. -/
inductive Runner where
  | idle
  | waiting
  | detaching
  | checkingStop
  | readingVersion
  | acquiring (current : FilterVersion)
  | building (nextGeneration : Nat)
  | built (nextGeneration : Nat) (outcome : BuildOutcome)
  | buildFailed (error : BlocklistBuildError)
  | caught
  | releasing (code : FilterUpdateErrorCode)
  | publishing (candidate : FilterSnapshot)
  | committed (version : FilterVersion)
  | awaiting (version : FilterVersion)
  | returned (result : FilterUpdateResult)
  | completed
  | sealing (point : SealPoint)
  | cancelling
  | completingCancelled (cancelled : List Command)
  | closing
  deriving DecidableEq

/-- Where a call of `complete_committed_by_successor` stands. -/
inductive SuccessorPoint where
  | entering
  | waiting (published : FilterVersion)
  | taking (published : FilterVersion)
  | completing (command : Command) (result : FilterUpdateResult)
  deriving DecidableEq

/-- A call that some other thread has begun. -/
inductive Call where
  | sealCall (point : SealPoint) (terminalDetach : Bool)
  | requestDetach
  | successor (point : SuccessorPoint)
  deriving DecidableEq

structure System where
  publication : Publication.System
  controller : FilterUpdateController
  runner : Runner := .idle
  calls : List Call := []
  accepted : List Command := []
  results : List (Nat × FilterUpdateResult) := []
  commits : List (Nat × FilterSnapshot) := []
  runnerExited : Bool := false
  successorCompleted : Bool := false

namespace System

/-- A controller over a new publication state. -/
def new (initialSnapshot : FilterSnapshot) (maximumWorkers graceTimeout : Nat)
    (limits : FilterUpdateLimits) : Option System :=
  match Publication.System.new initialSnapshot maximumWorkers graceTimeout with
  | none => none
  | some publication =>
    (FilterUpdateController.new publication.publication limits).map fun controller =>
      { publication := publication, controller := controller }

inductive Label where
  | submitReplace (rules : List Bytes) (allocationFails pushFails : Bool)
  | startRunner
  | runner (choice now : Nat) (throws : Bool)
  | callSeal (terminalDetach : Bool)
  | callSuccessor
  | call (index : Nat)
  | injectPostcommitFailure
  | publication (label : Publication.System.Label)
  deriving DecidableEq, Repr

/-- `complete`: the promise of the command is set. -/
def complete (system : System) (command : Command) (result : FilterUpdateResult) : System :=
  { system with results := system.results ++ [(command.id, result)] }

def setPublicationState (system : System) (state : FilterPublicationState) : System :=
  { system with publication := { system.publication with publication := state } }

/-- `submit_replace`.  The promise of a rejected command is set before the
future is returned, and the command never joins the queue. -/
def submitReplace (system : System) (rules : List Bytes) (allocationFails pushFails : Bool) :
    System :=
  match validateFilterRuleSet rules system.controller.limits with
  | .error _ => system
  | .ok measured =>
    if allocationFails then system
    else
      let command : Command :=
        { id := system.accepted.length, rules := rules, accountedBytes := measured.rawBytes }
      match system.controller.enqueue command pushFails with
      | .error _ => system
      | .ok controller =>
        { system with controller := controller, accepted := system.accepted ++ [command] }

/-- One step of `seal`: the new point, or `none` when the call is done. -/
def stepSeal (system : System) : SealPoint → Option SealPoint × System
  | .requestStop =>
    (some .sealPublication,
      { system with controller := { system.controller with buildStopRequested := true } })
  | .sealPublication =>
    (some .swap, system.setPublicationState system.publication.publication.sealPublication)
  | .swap =>
    let (cancelled, controller) := system.controller.sealQueue
    (some (.completing cancelled), { system with controller := controller })
  | .completing [] => (none, system)
  | .completing (command :: cancelled) =>
    (some (.completing cancelled), system.complete command (.error { code := .shuttingDown }))

/-- `release_credit` in `apply`. -/
def releaseCredit (system : System) : System :=
  system.setPublicationState system.publication.publication.releaseUncommittedCredit

/-- The commit in `apply` and what follows it. -/
def commitCandidate (system : System) (command : Command) (candidate : FilterSnapshot)
    (now : Nat) : System :=
  let committed := (system.publication.publication.commit (some candidate) now).1
  let system := { system with publication := system.publication.publish (some candidate) now }
  match committed with
  | .error error =>
    { system with
      controller := system.controller.setInflight
        { command with phase := .building, target := none }
      runner := .releasing
        (if error = .publicationSealed then .shuttingDown else .internalError) }
  | .ok version =>
    { system with
      controller := system.controller.setInflight
        { command with phase := .committed, published := some version }
      commits := system.commits ++ [(command.id, candidate)]
      runner := .committed version }

/-- One step of `apply` on the inflight command. -/
def stepApply (builder : Builder) (system : System) (command : Command) (choice now : Nat) :
    Option System :=
  match system.runner with
  | .checkingStop =>
    some { system with
      runner := if system.controller.buildStopRequested then
        .returned (.error { code := .shuttingDown }) else .readingVersion }
  | .readingVersion =>
    let current := system.publication.publication.currentVersion
    some { system with
      runner := if current.generation = maximumGeneration then
        .returned (.error { code := .generationExhausted }) else .acquiring current }
  | .acquiring current =>
    (system.publication.publication.acquireRetirementCredit
      system.controller.buildStopRequested).map fun (acquired, state) =>
        { system.setPublicationState state with
          runner := if acquired then .building (current.generation + 1)
            else .returned (.error { code := .shuttingDown }) }
  | .building nextGeneration =>
    some { system with
      runner := .built nextGeneration (builder choice command.rules nextGeneration) }
  | .built _ (.failure error) => some { system.releaseCredit with runner := .buildFailed error }
  | .built _ .exception => some { system.releaseCredit with runner := .caught }
  | .built nextGeneration (.candidate snapshot) =>
    match snapshot with
    | none => some { system with runner := .releasing .internalError }
    | some candidate =>
      if candidate.generation ≠ nextGeneration then
        some { system with runner := .releasing .internalError }
      else if system.controller.buildStopRequested then
        some { system with runner := .releasing .shuttingDown }
      else
        some { system with
          controller := system.controller.setInflight
            { command with target := some candidate.version, phase := .publishing }
          runner := .publishing candidate }
  | .buildFailed error =>
    some { system with
      runner := .returned (.error
        (if system.controller.buildStopRequested ∨ error.code = .cancelled then
          { code := .shuttingDown }
        else { code := .buildFailed, buildError := some error })) }
  | .caught =>
    some { system with
      runner := .returned (.error { code := if system.controller.buildStopRequested then
        .shuttingDown else .internalError }) }
  | .releasing code =>
    some { system.releaseCredit with runner := .returned (.error { code := code }) }
  | .publishing candidate => some (system.commitCandidate command candidate now)
  | .committed version =>
    if system.controller.failAfterCommit then
      some { system with
        controller := { system.controller with failAfterCommit := false }
        runner := .caught }
    else some { system with runner := .awaiting version }
  | .awaiting version =>
    (system.publication.publication.waitUntilConverged version.generation).map fun result =>
      { system with
        runner := .returned (if result = .converged then .ok version
          else .error { code := .internalError }) }
  | _ => none

/-- What `run` does with the result of `apply`. -/
def stepReturned (system : System) (command : Command) (result : FilterUpdateResult) : System :=
  match result, command.phase with
  | .error _, .committed => { system with runner := .sealing .requestStop }
  | _, _ => { system.complete command result with runner := .completed }

/-- One step of the runner thread. -/
def stepRunner (builder : Builder) (system : System) (choice now : Nat) (throws : Bool) :
    Option System :=
  match system.runner with
  | .idle => none
  | .waiting =>
    if throws then some { system with runner := .sealing .requestStop }
    else
      system.controller.takeCommand.map fun (wakeup, controller) =>
        { system with
          controller := controller
          runner := match wakeup with
            | .detach => .detaching
            | .take _ => .checkingStop }
  | .detaching =>
    some { system.setPublicationState
        (system.publication.publication.detachTerminalSnapshot now) with
      runner := .sealing .requestStop }
  | .returned result =>
    system.controller.inflight.map fun command => system.stepReturned command result
  | .completed =>
    some { system with
      controller := { system.controller with inflight := none }
      runner := .waiting }
  | .sealing point =>
    match system.stepSeal point with
    | (some point, system) => some { system with runner := .sealing point }
    | (none, system) => some { system with runner := .cancelling }
  | .cancelling =>
    let (cancelled, controller) := system.controller.cancelPending
    some { system with controller := controller, runner := .completingCancelled cancelled }
  | .completingCancelled [] => some { system with runner := .closing }
  | .completingCancelled (command :: cancelled) =>
    some { system.complete command (.error { code := .shuttingDown }) with
      runner := .completingCancelled cancelled }
  | .closing =>
    let (failed, controller) :=
      system.controller.finishRun system.publication.publication.currentVersion
    let system := { system with controller := controller, runner := .idle, runnerExited := true }
    match failed with
    | some command => some (system.complete command (.error { code := .internalError }))
    | none => some system
  | _ => system.controller.inflight.bind fun command =>
      system.stepApply builder command choice now

/-- `complete_committed_by_successor` returns. -/
def returnSuccessor (system : System) (result : FilterSuccessorCompletionResult) : System :=
  { system with
    successorCompleted := system.successorCompleted ||
      (decide (result = .completed) && system.runnerExited) }

/-- One step of `complete_committed_by_successor`: the new point, or `none` when
the call has returned. -/
def stepSuccessor (system : System) : SuccessorPoint → Option (Option SuccessorPoint × System)
  | .entering =>
    let (entry, controller) :=
      system.controller.enterSuccessor system.publication.publication.currentVersion
    let system := { system with controller := controller }
    match entry with
    | .returns result => some (none, system.returnSuccessor result)
    | .wait published => some (some (.waiting published), system)
    | .take command => some (some (.completing command (.error { code := .internalError })), system)
  | .waiting published =>
    (system.publication.publication.waitUntilConverged published.generation).map fun result =>
      match result with
      | .converged => (some (.taking published), system)
      | .reclaimerUnavailable => (none, system.returnSuccessor .reclaimerUnavailable)
      | .internalError => (none, system.returnSuccessor .internalError)
  | .taking published =>
    let (entry, controller) := system.controller.takeCommitted published
    let system := { system with controller := controller }
    match entry with
    | .returns result => some (none, system.returnSuccessor result)
    | .wait published => some (some (.waiting published), system)
    | .take command => some (some (.completing command (.ok published)), system)
  | .completing command result =>
    some (none, (system.complete command result).returnSuccessor .completed)

/-- One step of the call at `index`; a call that has returned leaves the list. -/
def stepCall (system : System) (index : Nat) : Option System :=
  match system.calls[index]? with
  | none => none
  | some (.sealCall point terminalDetach) =>
    match system.stepSeal point with
    | (some point, system) =>
      some { system with calls := system.calls.set index (.sealCall point terminalDetach) }
    | (none, system) =>
      if terminalDetach then some { system with calls := system.calls.set index .requestDetach }
      else some { system with calls := system.calls.eraseIdx index }
  | some .requestDetach =>
    some { system with
      controller := { system.controller with terminalDetachRequested := true }
      calls := system.calls.eraseIdx index }
  | some (.successor point) =>
    match system.stepSuccessor point with
    | none => none
    | some (some point, system) =>
      some { system with calls := system.calls.set index (.successor point) }
    | some (none, system) => some { system with calls := system.calls.eraseIdx index }

/-- One step of the whole system.  Only the runner commits. -/
def step (builder : Builder) (system : System) : Label → Option System
  | .submitReplace rules allocationFails pushFails =>
    some (system.submitReplace rules allocationFails pushFails)
  | .startRunner =>
    if system.controller.runnerActive ∨ system.runnerExited then none
    else some { system with
      controller := { system.controller with runnerActive := true }
      runner := .waiting }
  | .runner choice now throws => system.stepRunner builder choice now throws
  | .callSeal terminalDetach =>
    some { system with calls := system.calls ++ [.sealCall .requestStop terminalDetach] }
  | .callSuccessor => some { system with calls := system.calls ++ [.successor .entering] }
  | .call index => system.stepCall index
  | .injectPostcommitFailure =>
    some { system with controller := { system.controller with failAfterCommit := true } }
  | .publication (.commit _ _) => none
  | .publication label =>
    (system.publication.step label).map fun publication =>
      { system with publication := publication }

end System

end DnsPro.Update
