import DnsPro.Publication.Visibility
import DnsPro.Update.System

/-!
# The invariant of the update controller

Every accepted command is owed one promise, and `owed` counts where: in the
queue, in the journal of the runner, in the hands of a call that has taken it,
or nowhere once it is set.  `Inv` ties these places to the phases of the runner
and to the commits: a command outside the journal is not committed, and the
journal is committed exactly from the commit on.

The publication inside the system moves only by steps of its own protocol, so
everything that is proved there holds here.
-/

namespace DnsPro.Update.System

open DnsPro.Protocol DnsPro.Publication

/-! ## Where a promise is owed -/

/-- How many of the commands have this id. -/
def countId (commands : List Command) (id : Nat) : Nat := (commands.map (·.id)).count id

@[simp] theorem countId_nil (id : Nat) : countId [] id = 0 := rfl

@[simp] theorem countId_append (commands commands' : List Command) (id : Nat) :
    countId (commands ++ commands') id = countId commands id + countId commands' id := by
  simp [countId]

@[simp] theorem countId_cons (command : Command) (commands : List Command) (id : Nat) :
    countId (command :: commands) id = (if command.id = id then 1 else 0) + countId commands id := by
  by_cases h : command.id = id <;> simp [countId, h, Nat.add_comm]

theorem countId_pos {commands : List Command} {command : Command} (h : command ∈ commands) :
    0 < countId commands command.id :=
  List.count_pos_iff.mpr (List.mem_map_of_mem h)

theorem countId_perm {commands commands' : List Command} (h : commands.Perm commands')
    (id : Nat) : countId commands id = countId commands' id :=
  (h.map _).count_eq id

end DnsPro.Update.System

namespace DnsPro.Update

open DnsPro.Protocol DnsPro.Publication

/-- The commands that a call of `seal` holds. -/
def SealPoint.held : SealPoint → List Command
  | .completing cancelled => cancelled
  | _ => []

/-- The commands that the runner holds outside the journal. -/
def Runner.held : Runner → List Command
  | .sealing point => point.held
  | .completingCancelled cancelled => cancelled
  | _ => []

/-- The points of `apply`, and its return. -/
def Runner.inApply : Runner → Bool
  | .checkingStop | .readingVersion | .acquiring _ | .building _ | .built _ _ | .buildFailed _
  | .caught | .releasing _ | .publishing _ | .committed _ | .awaiting _ | .returned _ => true
  | _ => false

theorem Runner.inApply_spec {runner : Runner} (h : runner.inApply = true) :
    runner.held = [] ∧ runner ≠ .completed ∧ runner ≠ .idle := by
  cases runner <;> first
    | exact absurd h Bool.false_ne_true
    | exact ⟨rfl, by simp, by simp⟩

/-- The commands that a call holds. -/
def Call.held : Call → List Command
  | .sealCall point _ => point.held
  | .successor (.completing command _) => [command]
  | _ => []

namespace System

/-- The journal, unless the runner has just set its promise. -/
def owedJournal (runner : Runner) (inflight : Option Command) : List Command :=
  match runner with
  | .completed => []
  | _ => inflight.toList

theorem owedJournal_eq {runner : Runner} (h : runner ≠ .completed) (inflight : Option Command) :
    owedJournal runner inflight = inflight.toList := by
  cases runner <;> first | rfl | exact absurd rfl h

/-- The number of promises of this id that some party still has to set. -/
def owed (system : System) (id : Nat) : Nat :=
  countId system.controller.pending id +
    countId (owedJournal system.runner system.controller.inflight) id +
    countId system.runner.held id + countId (system.calls.flatMap Call.held) id

/-! ## Results and commits -/

/-- The result agrees with the commits: success exactly with the version of the
candidate that was committed for the command. -/
def Settled (commits : List (Nat × FilterSnapshot)) (id : Nat) : FilterUpdateResult → Prop
  | .ok version => ∃ snapshot, (id, snapshot) ∈ commits ∧ snapshot.version = version
  | .error _ => id ∉ commits.map Prod.fst

/-- No command that was accepted later is committed. -/
def Newest (commits : List (Nat × FilterSnapshot)) (command : Command) : Prop :=
  ∀ commit ∈ commits, commit.1 ≤ command.id

/-- What the phase of the journal says about the commits. -/
def JournalOk (commits : List (Nat × FilterSnapshot)) (command : Command) : Prop :=
  Newest commits command ∧
  (command.phase = .committed → ∃ version, command.published = some version ∧
    Settled commits command.id (.ok version)) ∧
  (command.phase ≠ .committed → ∀ commit ∈ commits, commit.1 < command.id)

/-- A command that was not committed. -/
def Uncommitted (commits : List (Nat × FilterSnapshot)) (command : Command) : Prop :=
  command.id ∉ commits.map Prod.fst

/-- What holds at each point of a call of `seal`. -/
def SealOk (publicationSealed isSealed : Bool) (commits : List (Nat × FilterSnapshot)) :
    SealPoint → Prop
  | .requestStop | .sealPublication => True
  | .swap => publicationSealed = true
  | .completing cancelled => isSealed = true ∧ ∀ command ∈ cancelled, Uncommitted commits command

/-- After the loop the journal is empty, or left for a successor. -/
def LeftForSuccessor (inflight : Option Command) : Prop :=
  ∀ command, inflight = some command → command.phase = .committed

/-- The journal at each point of the runner. -/
def RunnerOk (builder : Builder) (publicationSealed isSealed exited : Bool)
    (pending : List Command) (inflight : Option Command)
    (commits : List (Nat × FilterSnapshot)) : Runner → Prop
  | .idle => (exited = false → inflight = none) ∧ LeftForSuccessor inflight
  | .waiting => inflight = none
  | .detaching => inflight = none ∧ publicationSealed = true
  | .checkingStop | .readingVersion | .acquiring _ | .building _ | .buildFailed _
  | .releasing _ => ∃ command, inflight = some command ∧ command.phase = .building
  | .built generation outcome => ∃ command choice, inflight = some command ∧
      command.phase = .building ∧ outcome = builder choice command.rules generation
  | .caught => ∃ command, inflight = some command ∧
      (command.phase = .building ∨ command.phase = .committed)
  | .publishing candidate => ∃ command choice, inflight = some command ∧
      command.phase = .publishing ∧
      builder choice command.rules candidate.generation = .candidate (some candidate)
  | .committed version | .awaiting version => ∃ command, inflight = some command ∧
      command.phase = .committed ∧ command.published = some version
  | .returned result => ∃ command, inflight = some command ∧
      (command.phase = .building ∧ (∃ error, result = .error error) ∨
        command.phase = .committed ∧ ∀ version, result = .ok version →
          command.published = some version)
  | .completed => ∃ command, inflight = some command
  | .sealing point => SealOk publicationSealed isSealed commits point ∧ LeftForSuccessor inflight
  | .cancelling => isSealed = true ∧ LeftForSuccessor inflight
  | .completingCancelled cancelled => isSealed = true ∧ pending = [] ∧
      (∀ command ∈ cancelled, Uncommitted commits command) ∧ LeftForSuccessor inflight
  | .closing => isSealed = true ∧ pending = [] ∧ LeftForSuccessor inflight

/-- What holds of a call that has begun. -/
def CallOk (publicationSealed isSealed exited : Bool) (inflight : Option Command)
    (commits : List (Nat × FilterSnapshot)) : Call → Prop
  | .sealCall point _ => SealOk publicationSealed isSealed commits point
  | .requestDetach => isSealed = true
  | .successor .entering => True
  | .successor (.waiting _) | .successor (.taking _) => exited = true
  | .successor (.completing command result) => exited = true ∧ inflight = none ∧
      Newest commits command ∧ Settled commits command.id result

/-- The command is an accepted one, with the rules that were submitted. -/
def Known (accepted : List Command) (command : Command) : Prop :=
  ∃ original ∈ accepted, original.id = command.id ∧ original.rules = command.rules

/-- The snapshot that was committed last. -/
def lastSnapshot (initialSnapshot : FilterSnapshot) (commits : List (Nat × FilterSnapshot)) :
    FilterSnapshot :=
  (commits.map Prod.snd).getLastD initialSnapshot

structure Inv (builder : Builder) (start : Publication.System) (initialSnapshot : FilterSnapshot)
    (system : System) : Prop where
  reachable : Transition.Reachable Publication.System.step start system.publication
  ids : system.accepted.map (·.id) = List.range system.accepted.length
  owed : ∀ id, system.owed id + (system.results.map Prod.fst).count id =
    if id < system.accepted.length then 1 else 0
  known_pending : ∀ command ∈ system.controller.pending, Known system.accepted command
  known_inflight : ∀ command, system.controller.inflight = some command →
    Known system.accepted command
  active : system.controller.runnerActive = true ↔ system.runner ≠ .idle
  exited : system.runnerExited = true →
    system.runner = .idle ∧ system.controller.isSealed = true ∧ system.controller.pending = []
  sealed_publication : system.controller.isSealed = true →
    system.publication.publication.publicationSealed = true
  detach_sealed : system.controller.terminalDetachRequested = true →
    system.controller.isSealed = true
  runner_ok : RunnerOk builder system.publication.publication.publicationSealed
    system.controller.isSealed system.runnerExited system.controller.pending
    system.controller.inflight system.commits system.runner
  journal_ok : system.runner ≠ .completed → ∀ command,
    system.controller.inflight = some command → JournalOk system.commits command
  calls_ok : ∀ call ∈ system.calls, CallOk system.publication.publication.publicationSealed
    system.controller.isSealed system.runnerExited system.controller.inflight system.commits call
  settled : ∀ result ∈ system.results, Settled system.commits result.1 result.2
  successor : system.successorCompleted = true →
    system.runnerExited = true ∧ system.controller.inflight = none
  pending_sorted : (system.controller.pending.map (·.id)).Pairwise (· < ·)
  inflight_lt : ∀ command, system.controller.inflight = some command →
    ∀ later ∈ system.controller.pending, command.id < later.id
  commits_lt : ∀ commit ∈ system.commits, ∀ later ∈ system.controller.pending,
    commit.1 < later.id
  commits_sorted : (system.commits.map Prod.fst).Pairwise (· < ·)
  generations : system.commits.map (·.2.generation) =
    List.range' (initialSnapshot.generation + 1) system.commits.length
  current : system.publication.publication.currentGeneration =
      (lastSnapshot initialSnapshot system.commits).generation ∧
    system.publication.publication.currentRuleCount =
      (lastSnapshot initialSnapshot system.commits).ruleCount ∧
    system.publication.publication.currentNormalizedRuleBytes =
      (lastSnapshot initialSnapshot system.commits).normalizedRuleBytes
  active_snapshot : ∀ active, system.publication.publication.activeSnapshot = some active →
    active = lastSnapshot initialSnapshot system.commits
  built : ∀ commit ∈ system.commits, ∃ original ∈ system.accepted, original.id = commit.1 ∧
    ∃ choice, builder choice original.rules commit.2.generation = .candidate (some commit.2)

namespace Inv

variable {builder : Builder} {start : Publication.System} {initialSnapshot : FilterSnapshot}
  {system : System}

theorem of_new {publicationStart : Publication.System} {maximumWorkers graceTimeout : Nat}
    {limits : FilterUpdateLimits}
    (hpublication : Publication.System.new initialSnapshot maximumWorkers graceTimeout =
      some publicationStart)
    (hnew : System.new initialSnapshot maximumWorkers graceTimeout limits = some system) :
    Inv builder publicationStart initialSnapshot system := by
  unfold System.new at hnew
  rw [hpublication] at hnew
  unfold FilterUpdateController.new at hnew
  simp only at hnew
  split at hnew
  · simp at hnew
  · simp only [Option.map_some, Option.some.injEq] at hnew
    subst hnew
    unfold Publication.System.new FilterPublicationState.new at hpublication
    simp only at hpublication
    split at hpublication
    · simp at hpublication
    · simp only [Option.map_some, Option.some.injEq] at hpublication
      subst hpublication
      constructor <;>
        simp [System.owed, owedJournal, Runner.held, RunnerOk, LeftForSuccessor, lastSnapshot,
          Transition.Reachable]
      exact ⟨[], rfl⟩

/-! ## Consequences of the counts -/

/-- The command of the journal is owed nowhere else, and its promise is not set. -/
theorem journal_alone (h : Inv builder start initialSnapshot system)
    (hrunner : system.runner ≠ .completed) {command : Command}
    (hinflight : system.controller.inflight = some command) :
    countId system.runner.held command.id = 0 ∧
    countId (system.calls.flatMap Call.held) command.id = 0 ∧
    (system.results.map Prod.fst).count command.id = 0 := by
  have howed := h.owed command.id
  unfold System.owed at howed
  rw [owedJournal_eq hrunner, hinflight] at howed
  simp only [Option.toList_some, countId_cons, countId_nil, if_true] at howed
  split_ifs at howed <;> omega

theorem not_mem_of_countId {commands : List Command} {id : Nat} (h : countId commands id = 0)
    {command : Command} (hmem : command ∈ commands) : command.id ≠ id := by
  rintro rfl
  have := countId_pos hmem
  omega

/-! ## Calls change places -/

theorem countId_calls_set {calls : List Call} {index : Nat} {call : Call} (call' : Call)
    (hget : calls[index]? = some call) (id : Nat) :
    countId ((calls.set index call').flatMap Call.held) id + countId call.held id =
      countId (calls.flatMap Call.held) id + countId call'.held id := by
  obtain ⟨hlt, hcall⟩ := List.getElem?_eq_some_iff.mp hget
  have hset := countId_perm ((List.set_perm_cons_eraseIdx hlt call').flatMap_right Call.held) id
  have hold := countId_perm ((List.getElem_cons_eraseIdx_perm hlt).flatMap_right Call.held) id
  rw [hcall] at hold
  simp only [List.flatMap_cons, countId_append] at hset hold
  omega

theorem countId_calls_eraseIdx {calls : List Call} {index : Nat} {call : Call}
    (hget : calls[index]? = some call) (id : Nat) :
    countId ((calls.eraseIdx index).flatMap Call.held) id + countId call.held id =
      countId (calls.flatMap Call.held) id := by
  obtain ⟨hlt, hcall⟩ := List.getElem?_eq_some_iff.mp hget
  have hold := countId_perm ((List.getElem_cons_eraseIdx_perm hlt).flatMap_right Call.held) id
  rw [hcall] at hold
  simp only [List.flatMap_cons, countId_append] at hold
  omega

/-- A call moves on without taking or giving away a command. -/
theorem setCall (h : Inv builder start initialSnapshot system) {index : Nat} {call : Call}
    (call' : Call) (hget : system.calls[index]? = some call) (hheld : call'.held = call.held)
    (hok : CallOk system.publication.publication.publicationSealed system.controller.isSealed
      system.runnerExited system.controller.inflight system.commits call') :
    Inv builder start initialSnapshot
      { system with calls := system.calls.set index call' } := by
  refine { h with owed := ?_, calls_ok := ?_ }
  · intro id
    have howed := h.owed id
    have hset := countId_calls_set call' hget id
    unfold System.owed at howed ⊢
    rw [hheld] at hset
    simp only
    omega
  · intro other hother
    rcases List.mem_or_eq_of_mem_set hother with hold | rfl
    · exact h.calls_ok other hold
    · exact hok

/-- A call that holds nothing returns. -/
theorem dropCall (h : Inv builder start initialSnapshot system) {index : Nat} {call : Call}
    (hget : system.calls[index]? = some call) (hheld : call.held = []) :
    Inv builder start initialSnapshot
      { system with calls := system.calls.eraseIdx index } := by
  refine { h with owed := ?_, calls_ok := ?_ }
  · intro id
    have howed := h.owed id
    have herase := countId_calls_eraseIdx hget id
    unfold System.owed at howed ⊢
    rw [hheld] at herase
    simp only [countId_nil] at herase
    simp only
    omega
  · intro other hother
    exact h.calls_ok other (List.mem_of_mem_eraseIdx hother)

theorem addCall (h : Inv builder start initialSnapshot system) {call : Call}
    (hheld : call.held = [])
    (hok : CallOk system.publication.publication.publicationSealed system.controller.isSealed
      system.runnerExited system.controller.inflight system.commits call) :
    Inv builder start initialSnapshot { system with calls := system.calls ++ [call] } := by
  refine { h with owed := ?_, calls_ok := ?_ }
  · intro id
    have howed := h.owed id
    unfold System.owed at howed ⊢
    simp only [List.flatMap_append, List.flatMap_cons, List.flatMap_nil, hheld, List.append_nil]
    exact howed
  · intro other hother
    rcases List.mem_append.mp hother with hold | hnew
    · exact h.calls_ok other hold
    · obtain rfl := List.mem_singleton.mp hnew
      exact hok

/-! ## The runner changes places -/

/-- The runner moves on without taking or giving away a command. -/
theorem setRunner (h : Inv builder start initialSnapshot system) {runner : Runner}
    (hheld : runner.held = system.runner.held) (hcompleted : system.runner ≠ .completed)
    (hcompleted' : runner ≠ .completed) (hidle : system.runner ≠ .idle) (hidle' : runner ≠ .idle)
    (hok : RunnerOk builder system.publication.publication.publicationSealed
      system.controller.isSealed system.runnerExited system.controller.pending
      system.controller.inflight system.commits runner) :
    Inv builder start initialSnapshot { system with runner := runner } := by
  refine { h with owed := ?_, active := ?_, exited := ?_, runner_ok := hok, journal_ok := ?_ }
  · intro id
    have howed := h.owed id
    unfold System.owed at howed ⊢
    rw [owedJournal_eq hcompleted] at howed
    simp only [owedJournal_eq hcompleted', hheld]
    exact howed
  · exact ⟨fun _ => hidle', fun _ => h.active.mpr hidle⟩
  · intro hexited
    exact absurd (h.exited hexited).1 hidle
  · intro _
    exact h.journal_ok hcompleted

/-- The runner moves on inside `apply`. -/
theorem advance (h : Inv builder start initialSnapshot system) {runner : Runner}
    (hold : system.runner.inApply = true) (hnew : runner.inApply = true)
    (hok : RunnerOk builder system.publication.publication.publicationSealed
      system.controller.isSealed system.runnerExited system.controller.pending
      system.controller.inflight system.commits runner) :
    Inv builder start initialSnapshot { system with runner := runner } := by
  obtain ⟨hheld, hcompleted, hidle⟩ := Runner.inApply_spec hold
  obtain ⟨hheld', hcompleted', hidle'⟩ := Runner.inApply_spec hnew
  exact h.setRunner (hheld'.trans hheld.symm) hcompleted hcompleted' hidle hidle' hok

/-- While the runner is in `run`, it has not exited. -/
theorem not_exited (h : Inv builder start initialSnapshot system) (hidle : system.runner ≠ .idle) :
    system.runnerExited = false := by
  cases hexited : system.runnerExited with
  | false => rfl
  | true => exact absurd (h.exited hexited).1 hidle

/-! ## The publication moves -/

theorem SealOk_mono {publicationSealed publicationSealed' isSealed isSealed' : Bool}
    {commits : List (Nat × FilterSnapshot)} {point : SealPoint}
    (hpublication : publicationSealed = true → publicationSealed' = true)
    (hcontroller : isSealed = true → isSealed' = true)
    (h : SealOk publicationSealed isSealed commits point) :
    SealOk publicationSealed' isSealed' commits point := by
  cases point with
  | requestStop => trivial
  | sealPublication => trivial
  | swap => exact hpublication h
  | completing cancelled => exact ⟨hcontroller h.1, h.2⟩

theorem RunnerOk_mono {publicationSealed publicationSealed' : Bool} {isSealed exited : Bool}
    {pending : List Command} {inflight : Option Command} {commits : List (Nat × FilterSnapshot)}
    {runner : Runner} (hpublication : publicationSealed = true → publicationSealed' = true)
    (h : RunnerOk builder publicationSealed isSealed exited pending inflight commits runner) :
    RunnerOk builder publicationSealed' isSealed exited pending inflight commits runner := by
  cases runner with
  | detaching => exact ⟨h.1, hpublication h.2⟩
  | sealing point => exact ⟨SealOk_mono hpublication id h.1, h.2⟩
  | idle | waiting | checkingStop | readingVersion | acquiring _ | building _ | built _ _
  | buildFailed _ | caught | releasing _ | publishing _ | committed _ | awaiting _ | returned _
  | completed | cancelling | completingCancelled _ | closing => exact h

theorem CallOk_mono {publicationSealed publicationSealed' isSealed isSealed' exited : Bool}
    {inflight : Option Command} {commits : List (Nat × FilterSnapshot)} {call : Call}
    (hpublication : publicationSealed = true → publicationSealed' = true)
    (hcontroller : isSealed = true → isSealed' = true)
    (h : CallOk publicationSealed isSealed exited inflight commits call) :
    CallOk publicationSealed' isSealed' exited inflight commits call := by
  cases call with
  | sealCall point terminalDetach => exact SealOk_mono hpublication hcontroller h
  | requestDetach => exact hcontroller h
  | successor point => cases point <;> exact h

/-- A step of the publication that keeps what is published. -/
theorem movePublication (h : Inv builder start initialSnapshot system)
    (label : Publication.System.Label) {next : Publication.System}
    (hstep : system.publication.step label = some next)
    (hlabel : ∀ candidate now, label ≠ .commit candidate now) :
    Inv builder start initialSnapshot { system with publication := next } := by
  have hreachable : Transition.Reachable Publication.System.step start next := by
    obtain ⟨labels, hrun⟩ := h.reachable
    refine ⟨labels ++ [label], Transition.run_append.mpr ⟨_, hrun, ?_⟩⟩
    exact Transition.run_cons.mpr ⟨next, hstep, rfl⟩
  have hcurrent : next.publication.currentGeneration =
        system.publication.publication.currentGeneration ∧
      next.publication.currentRuleCount = system.publication.publication.currentRuleCount ∧
      next.publication.currentNormalizedRuleBytes =
        system.publication.publication.currentNormalizedRuleBytes ∧
      (system.publication.publication.publicationSealed = true →
        next.publication.publicationSealed = true) ∧
      ∀ active, next.publication.activeSnapshot = some active →
        system.publication.publication.activeSnapshot = some active := by
    by_cases hdetach : ∃ now, label = .detachTerminalSnapshot now
    · obtain ⟨now, rfl⟩ := hdetach
      unfold Publication.System.step at hstep
      simp only at hstep
      split_ifs at hstep
      obtain rfl := Option.some.inj hstep
      obtain ⟨hgeneration, hrules, hbytes, hsealed, hactive⟩ :=
        Publication.System.Inv.current_detachTerminalSnapshot system.publication.publication now
      exact ⟨hgeneration, hrules, hbytes, fun hyes => hsealed.trans hyes, hactive⟩
    · have hsame := Publication.System.Inv.current_step hstep hlabel
        (fun now heq => hdetach ⟨now, heq⟩)
      refine ⟨hsame.currentGeneration, hsame.currentRuleCount, hsame.currentNormalizedRuleBytes,
        hsame.stays_sealed, fun active hactive => ?_⟩
      rw [← hsame.activeSnapshot]
      exact hactive
  obtain ⟨hgeneration, hrules, hbytes, hsealed, hactive⟩ := hcurrent
  refine { h with
    reachable := hreachable, sealed_publication := fun hyes => hsealed (h.sealed_publication hyes),
    runner_ok := RunnerOk_mono hsealed h.runner_ok,
    calls_ok := fun call hcall => CallOk_mono hsealed id (h.calls_ok call hcall),
    current := ?_, active_snapshot := fun active hyes => h.active_snapshot active (hactive _ hyes) }
  simp only [hgeneration, hrules, hbytes]
  exact h.current

/-! ## Submission -/

theorem known_lt (h : Inv builder start initialSnapshot system) {command : Command}
    (hknown : Known system.accepted command) : command.id < system.accepted.length := by
  obtain ⟨original, horiginal, hid, -⟩ := hknown
  have hmem : original.id ∈ system.accepted.map (·.id) := List.mem_map_of_mem horiginal
  rw [h.ids, List.mem_range] at hmem
  omega

theorem commit_lt (h : Inv builder start initialSnapshot system) {commit : Nat × FilterSnapshot}
    (hcommit : commit ∈ system.commits) : commit.1 < system.accepted.length := by
  obtain ⟨original, horiginal, hid, -⟩ := h.built commit hcommit
  have hmem : original.id ∈ system.accepted.map (·.id) := List.mem_map_of_mem horiginal
  rw [h.ids, List.mem_range] at hmem
  omega

theorem known_append {accepted : List Command} {command : Command} (h : Known accepted command)
    (more : List Command) : Known (accepted ++ more) command := by
  obtain ⟨original, horiginal, hsame⟩ := h
  exact ⟨original, List.mem_append_left _ horiginal, hsame⟩

theorem enqueue_ok {controller next : FilterUpdateController} {command : Command}
    {pushFails : Bool} (h : controller.enqueue command pushFails = .ok next) :
    controller.isSealed = false ∧
    next = { controller with
      pending := controller.pending ++ [command]
      queuedRuleBytes := controller.queuedRuleBytes + command.accountedBytes } := by
  unfold FilterUpdateController.enqueue at h
  split_ifs at h with hsealed
  simp only [Except.ok.injEq] at h
  exact ⟨by simpa using hsealed, h.symm⟩

theorem submitReplace (h : Inv builder start initialSnapshot system) (rules : List Bytes)
    (allocationFails pushFails : Bool) :
    Inv builder start initialSnapshot
      (system.submitReplace rules allocationFails pushFails) := by
  unfold System.submitReplace
  split
  · exact h
  split
  · exact h
  simp only
  split
  · exact h
  rename_i measured hmeasured hfails controller henqueue
  obtain ⟨hsealed, rfl⟩ := enqueue_ok henqueue
  refine { h with
    ids := ?_, owed := ?_, known_pending := ?_, known_inflight := ?_, exited := ?_,
    runner_ok := ?_, pending_sorted := ?_, inflight_lt := ?_, commits_lt := ?_, built := ?_ }
  · rw [List.map_append, h.ids, List.length_append]
    exact (List.range_succ).symm
  · intro id
    have howed := h.owed id
    unfold System.owed at howed ⊢
    simp only [countId_append, countId_cons, countId_nil, List.length_append,
      List.length_singleton]
    split_ifs at howed ⊢ <;> omega
  · intro command hcommand
    rcases List.mem_append.mp hcommand with hold | hnew
    · exact known_append (h.known_pending command hold) _
    · obtain rfl := List.mem_singleton.mp hnew
      exact ⟨_, List.mem_append_right _ (List.mem_singleton_self _), rfl, rfl⟩
  · intro command hinflight
    exact known_append (h.known_inflight command hinflight) _
  · intro hexited
    exact absurd (h.exited hexited).2.1 (by simp [hsealed])
  · -- the points that need an empty queue come after the seal
    have hok := h.runner_ok
    simp only
    cases hrunner : system.runner with
    | completingCancelled cancelled =>
      rw [hrunner] at hok
      exact absurd hok.1 (by simp [hsealed])
    | closing =>
      rw [hrunner] at hok
      exact absurd hok.1 (by simp [hsealed])
    | idle | waiting | detaching | checkingStop | readingVersion | acquiring _ | building _
    | built _ _ | buildFailed _ | caught | releasing _ | publishing _ | committed _ | awaiting _
    | returned _ | completed | sealing _ | cancelling =>
      rw [hrunner] at hok
      exact hok
  · rw [List.map_append, List.pairwise_append]
    refine ⟨h.pending_sorted, List.pairwise_singleton _ _, ?_⟩
    intro id hid last hlast
    obtain ⟨command, hcommand, rfl⟩ := List.mem_map.mp hid
    obtain rfl : last = system.accepted.length := by simpa using hlast
    exact h.known_lt (h.known_pending command hcommand)
  · intro command hinflight later hlater
    rcases List.mem_append.mp hlater with hold | hnew
    · exact h.inflight_lt command hinflight later hold
    · obtain rfl := List.mem_singleton.mp hnew
      exact h.known_lt (h.known_inflight command hinflight)
  · intro commit hcommit later hlater
    rcases List.mem_append.mp hlater with hold | hnew
    · exact h.commits_lt commit hcommit later hold
    · obtain rfl := List.mem_singleton.mp hnew
      exact h.commit_lt hcommit
  · intro commit hcommit
    obtain ⟨original, horiginal, hbuilt⟩ := h.built commit hcommit
    exact ⟨original, List.mem_append_left _ horiginal, hbuilt⟩

/-! ## The queue is taken -/

theorem RunnerOk_seal {publicationSealed isSealed exited : Bool} {pending : List Command}
    {inflight : Option Command} {commits : List (Nat × FilterSnapshot)} {runner : Runner}
    (h : RunnerOk builder publicationSealed isSealed exited pending inflight commits runner) :
    RunnerOk builder publicationSealed true exited [] inflight commits runner := by
  cases runner with
  | sealing point => exact ⟨SealOk_mono id (fun _ => rfl) h.1, h.2⟩
  | cancelling => exact ⟨rfl, h.2⟩
  | completingCancelled cancelled => exact ⟨rfl, rfl, h.2.2⟩
  | closing => exact ⟨rfl, rfl, h.2.2⟩
  | idle | waiting | detaching | checkingStop | readingVersion | acquiring _ | building _
  | built _ _ | buildFailed _ | caught | releasing _ | publishing _ | committed _ | awaiting _
  | returned _ | completed => exact h

/-- The queued commands are not committed. -/
theorem pending_uncommitted (h : Inv builder start initialSnapshot system) :
    ∀ command ∈ system.controller.pending, Uncommitted system.commits command := by
  intro command hcommand hmem
  obtain ⟨commit, hcommit, hid⟩ := List.mem_map.mp hmem
  have := h.commits_lt commit hcommit command hcommand
  omega

/-- `seal` on another thread takes the queue. -/
theorem swapCall (h : Inv builder start initialSnapshot system) {index : Nat}
    {terminalDetach : Bool}
    (hget : system.calls[index]? = some (.sealCall .swap terminalDetach)) :
    Inv builder start initialSnapshot
      { system with
        controller := system.controller.sealQueue.2
        calls := system.calls.set index
          (.sealCall (.completing system.controller.sealQueue.1) terminalDetach) } := by
  have hpublication : system.publication.publication.publicationSealed = true :=
    h.calls_ok _ (List.mem_of_getElem? hget)
  unfold FilterUpdateController.sealQueue
  split
  · refine { h with
      owed := ?_, known_pending := ?_, exited := ?_, sealed_publication := fun _ => hpublication,
      detach_sealed := fun _ => rfl, runner_ok := RunnerOk_seal h.runner_ok, calls_ok := ?_,
      pending_sorted := List.Pairwise.nil, inflight_lt := ?_, commits_lt := ?_ }
    · intro id
      have howed := h.owed id
      have hset := countId_calls_set
        (.sealCall (.completing system.controller.pending) terminalDetach) hget id
      unfold System.owed at howed ⊢
      simp only [Call.held, SealPoint.held, countId_nil] at hset ⊢
      omega
    · simp
    · intro hexited
      exact ⟨(h.exited hexited).1, rfl, rfl⟩
    · intro call hcall
      rcases List.mem_or_eq_of_mem_set hcall with hold | rfl
      · exact CallOk_mono id (fun _ => rfl) (h.calls_ok call hold)
      · exact ⟨rfl, h.pending_uncommitted⟩
    · simp
    · simp
  · rename_i hsealed
    have hsealed : system.controller.isSealed = true := by simpa using hsealed
    have hcall := h.setCall (.sealCall (.completing []) terminalDetach) hget rfl
      ⟨hsealed, by simp⟩
    exact { hcall with }

/-- The runner takes the queue, in its own `seal` or in `cancel_pending`. -/
theorem swapRunner (h : Inv builder start initialSnapshot system) {runner : Runner}
    (hheld : system.runner.held = []) (hcompleted : system.runner ≠ .completed)
    (hidle : system.runner ≠ .idle) (hleft : LeftForSuccessor system.controller.inflight)
    (hpublication : system.publication.publication.publicationSealed = true)
    (hrunner : runner = .sealing (.completing system.controller.pending) ∨
      runner = .completingCancelled system.controller.pending)
    (controller : FilterUpdateController)
    (hcontroller : controller = { system.controller with
      isSealed := true
      pending := []
      queuedRuleBytes := controller.queuedRuleBytes
      sealedAcknowledged := controller.sealedAcknowledged }) :
    Inv builder start initialSnapshot
      { system with controller := controller, runner := runner } := by
  have hheld' : runner.held = system.controller.pending := by
    rcases hrunner with rfl | rfl <;> rfl
  have hcompleted' : runner ≠ .completed := by rcases hrunner with rfl | rfl <;> simp
  have hidle' : runner ≠ .idle := by rcases hrunner with rfl | rfl <;> simp
  rw [hcontroller]
  refine { h with
    owed := ?_, known_pending := by simp, active := ?_, exited := ?_,
    sealed_publication := fun _ => hpublication, detach_sealed := fun _ => rfl,
    runner_ok := ?_, journal_ok := fun _ => h.journal_ok hcompleted, calls_ok := ?_,
    pending_sorted := List.Pairwise.nil, inflight_lt := by simp, commits_lt := by simp }
  · intro id
    have howed := h.owed id
    unfold System.owed at howed ⊢
    rw [owedJournal_eq hcompleted, hheld] at howed
    simp only [owedJournal_eq hcompleted', hheld', countId_nil] at howed ⊢
    omega
  · exact ⟨fun _ => hidle', fun _ => h.active.mpr hidle⟩
  · intro hexited
    exact absurd (h.exited hexited).1 hidle
  · rcases hrunner with rfl | rfl
    · exact ⟨⟨rfl, h.pending_uncommitted⟩, hleft⟩
    · exact ⟨rfl, rfl, h.pending_uncommitted, hleft⟩
  · intro call hcall
    exact CallOk_mono id (fun _ => rfl) (h.calls_ok call hcall)

/-! ## Promises are set -/

theorem settled_append {commits : List (Nat × FilterSnapshot)}
    {results : List (Nat × FilterUpdateResult)} {id : Nat} {result : FilterUpdateResult}
    (h : ∀ old ∈ results, Settled commits old.1 old.2) (hnew : Settled commits id result) :
    ∀ old ∈ results ++ [(id, result)], Settled commits old.1 old.2 := by
  intro old hold
  rcases List.mem_append.mp hold with hold | hold
  · exact h old hold
  · obtain rfl := List.mem_singleton.mp hold
    exact hnew

/-- A call of `seal` sets the promise of a command that it took. -/
theorem completeCall (h : Inv builder start initialSnapshot system) {index : Nat}
    {command : Command} {cancelled : List Command} {terminalDetach : Bool}
    (error : FilterUpdateError)
    (hget : system.calls[index]? =
      some (.sealCall (.completing (command :: cancelled)) terminalDetach)) :
    Inv builder start initialSnapshot
      { system.complete command (.error error) with
        calls := system.calls.set index (.sealCall (.completing cancelled) terminalDetach) } := by
  obtain ⟨hsealed, huncommitted⟩ := h.calls_ok _ (List.mem_of_getElem? hget)
  refine { h with owed := ?_, calls_ok := ?_, settled := ?_ }
  · intro id
    have hset := countId_calls_set (.sealCall (.completing cancelled) terminalDetach) hget id
    show System.owed _ id + _ = if id < system.accepted.length then 1 else 0
    rw [← h.owed id]
    unfold System.owed
    simp only [Call.held, SealPoint.held, countId_cons] at hset
    simp only [System.complete, List.map_append, List.map_cons, List.map_nil, List.count_append,
      List.count_singleton, beq_iff_eq]
    omega
  · intro call hcall
    rcases List.mem_or_eq_of_mem_set hcall with hold | rfl
    · exact h.calls_ok call hold
    · exact ⟨hsealed, fun other hother => huncommitted other (List.mem_cons_of_mem _ hother)⟩
  · exact settled_append h.settled (huncommitted command List.mem_cons_self)

/-- The runner sets the promise of a command that it took off the queue. -/
theorem completeRunner (h : Inv builder start initialSnapshot system) {runner : Runner}
    {command : Command} {cancelled : List Command} (error : FilterUpdateError)
    (hheld : system.runner.held = command :: cancelled) (hheld' : runner.held = cancelled)
    (hcompleted : system.runner ≠ .completed) (hcompleted' : runner ≠ .completed)
    (hidle : system.runner ≠ .idle) (hidle' : runner ≠ .idle)
    (huncommitted : Uncommitted system.commits command)
    (hok : RunnerOk builder system.publication.publication.publicationSealed
      system.controller.isSealed system.runnerExited system.controller.pending
      system.controller.inflight system.commits runner) :
    Inv builder start initialSnapshot
      { system.complete command (.error error) with runner := runner } := by
  refine { h with
    owed := ?_, active := ?_, exited := ?_, runner_ok := hok,
    journal_ok := fun _ => h.journal_ok hcompleted, settled := ?_ }
  · intro id
    show System.owed _ id + _ = if id < system.accepted.length then 1 else 0
    rw [← h.owed id]
    unfold System.owed
    rw [owedJournal_eq hcompleted, hheld]
    simp only [owedJournal_eq hcompleted', hheld', System.complete, List.map_append,
      List.map_cons, List.map_nil, List.count_append, List.count_singleton, beq_iff_eq,
      countId_cons]
    omega
  · exact ⟨fun _ => hidle', fun _ => h.active.mpr hidle⟩
  · intro hexited
    exact absurd (h.exited hexited).1 hidle
  · exact settled_append h.settled huncommitted

/-! ## The journal -/

/-- While the runner is in `run`, no successor has taken a command. -/
theorem callOk_running {publicationSealed isSealed : Bool} {inflight inflight' : Option Command}
    {commits : List (Nat × FilterSnapshot)} {call : Call}
    (h : CallOk publicationSealed isSealed false inflight commits call) :
    CallOk publicationSealed isSealed false inflight' commits call := by
  cases call with
  | sealCall point terminalDetach => exact h
  | requestDetach => exact h
  | successor point =>
    cases point with
    | entering => trivial
    | waiting published => exact h
    | taking published => exact h
    | completing command result => exact absurd h.1 Bool.false_ne_true

/-- The runner takes the first command of the queue. -/
theorem take (h : Inv builder start initialSnapshot system) (hrunner : system.runner = .waiting)
    {command : Command} {pending : List Command}
    (hpending : system.controller.pending = command :: pending) (queuedRuleBytes : Nat) :
    Inv builder start initialSnapshot
      { system with
        controller := { system.controller with
          inflight := some { command with phase := .building }
          pending := pending
          queuedRuleBytes := queuedRuleBytes }
        runner := .checkingStop } := by
  have hrunning := h.not_exited (by simp [hrunner])
  have hjournal : system.controller.inflight = none := by
    have hok := h.runner_ok
    rwa [hrunner] at hok
  have hsorted := h.pending_sorted
  rw [hpending, List.map_cons, List.pairwise_cons] at hsorted
  refine { h with
    owed := ?_, known_pending := ?_, known_inflight := ?_, active := ?_, exited := ?_,
    runner_ok := ⟨_, rfl, rfl⟩, journal_ok := ?_, calls_ok := ?_, successor := ?_,
    pending_sorted := hsorted.2, inflight_lt := ?_, commits_lt := ?_ }
  · intro id
    have howed := h.owed id
    unfold System.owed at howed ⊢
    rw [hrunner, hjournal, hpending] at howed
    simp only [owedJournal, Option.toList_some, Option.toList_none, Runner.held, countId_cons,
      countId_nil] at howed ⊢
    omega
  · intro other hother
    exact h.known_pending other (by rw [hpending]; exact List.mem_cons_of_mem _ hother)
  · rintro other ⟨⟩
    obtain ⟨original, horiginal, hsame⟩ :=
      h.known_pending command (by rw [hpending]; exact List.mem_cons_self)
    exact ⟨original, horiginal, hsame⟩
  · have hactive := h.active.mpr (by simp [hrunner])
    simp [hactive]
  · intro hexited
    simp [hrunning] at hexited
  · rintro - other ⟨⟩
    have hlt : ∀ commit ∈ system.commits, commit.1 < command.id := fun commit hcommit =>
      h.commits_lt commit hcommit command (by rw [hpending]; exact List.mem_cons_self)
    exact ⟨fun commit hcommit => (hlt commit hcommit).le, fun hphase => by simp at hphase,
      fun _ => hlt⟩
  · intro call hcall
    have hok := h.calls_ok call hcall
    rw [hrunning] at hok
    simp only [hrunning]
    exact callOk_running hok
  · intro hsuccessor
    exact absurd (h.successor hsuccessor).1 (by simp [hrunning])
  · rintro other ⟨⟩ later hlater
    exact hsorted.1 later.id (List.mem_map_of_mem hlater)
  · intro commit hcommit later hlater
    exact h.commits_lt commit hcommit later
      (by rw [hpending]; exact List.mem_cons_of_mem _ hlater)

/-- The runner writes to the command of the journal. -/
theorem setJournal (h : Inv builder start initialSnapshot system) {runner : Runner}
    {command command' : Command} (hinflight : system.controller.inflight = some command)
    (hid : command'.id = command.id) (hrules : command'.rules = command.rules)
    (hheld : system.runner.held = []) (hheld' : runner.held = [])
    (hcompleted : system.runner ≠ .completed) (hcompleted' : runner ≠ .completed)
    (hidle : system.runner ≠ .idle) (hidle' : runner ≠ .idle)
    (hjournal : JournalOk system.commits command')
    (hok : RunnerOk builder system.publication.publication.publicationSealed
      system.controller.isSealed system.runnerExited system.controller.pending
      (some command') system.commits runner) :
    Inv builder start initialSnapshot
      { system with
        controller := system.controller.setInflight command'
        runner := runner } := by
  have hrunning := h.not_exited hidle
  refine { h with
    owed := ?_, known_inflight := ?_, active := ?_, exited := ?_, runner_ok := hok,
    journal_ok := ?_, calls_ok := ?_, successor := ?_, inflight_lt := ?_ }
  · intro id
    have howed := h.owed id
    unfold System.owed at howed ⊢
    rw [owedJournal_eq hcompleted, hinflight, hheld] at howed
    simp only [owedJournal_eq hcompleted', hheld', FilterUpdateController.setInflight,
      Option.toList_some, countId_cons, countId_nil, hid] at howed ⊢
    exact howed
  · rintro other ⟨⟩
    obtain ⟨original, horiginal, hsameId, hsameRules⟩ := h.known_inflight command hinflight
    exact ⟨original, horiginal, hsameId.trans hid.symm, hsameRules.trans hrules.symm⟩
  · exact ⟨fun _ => hidle', fun _ => h.active.mpr hidle⟩
  · intro hexited
    exact absurd (h.exited hexited).1 hidle
  · rintro - other ⟨⟩
    exact hjournal
  · intro call hcall
    have hcallOk := h.calls_ok call hcall
    rw [hrunning] at hcallOk
    simp only [hrunning]
    exact callOk_running hcallOk
  · intro hsuccessor
    exact absurd (h.successor hsuccessor).1 (by simp [hrunning])
  · rintro other ⟨⟩ later hlater
    rw [hid]
    exact h.inflight_lt command hinflight later hlater

/-! ## The commit -/

theorem lastSnapshot_append (initialSnapshot : FilterSnapshot)
    (commits : List (Nat × FilterSnapshot)) (id : Nat) (candidate : FilterSnapshot) :
    lastSnapshot initialSnapshot (commits ++ [(id, candidate)]) = candidate := by
  unfold lastSnapshot
  rw [List.map_append]
  exact List.getLastD_concat

/-- The generation of the last snapshot, from the number of commits. -/
theorem generation_eq (h : Inv builder start initialSnapshot system) :
    (lastSnapshot initialSnapshot system.commits).generation =
      initialSnapshot.generation + system.commits.length := by
  have hgenerations := h.generations
  rcases List.eq_nil_or_concat system.commits with hnil | ⟨commits, ⟨id, last⟩, hlast⟩
  · rw [hnil]
    rfl
  · rw [List.concat_eq_append] at hlast
    rw [hlast] at hgenerations ⊢
    rw [lastSnapshot_append]
    rw [List.map_append, List.length_append, List.length_singleton,
      List.range'_concat] at hgenerations
    have hequal := List.append_inj_right' hgenerations rfl
    simp only [List.map_cons, List.map_nil, List.cons.injEq, and_true, Nat.one_mul] at hequal
    rw [List.length_append, List.length_singleton]
    omega

theorem settled_commit {commits : List (Nat × FilterSnapshot)} {id other : Nat}
    {candidate : FilterSnapshot} {result : FilterUpdateResult} (hne : other ≠ id)
    (h : Settled commits other result) : Settled (commits ++ [(id, candidate)]) other result := by
  cases result with
  | error error =>
    unfold Settled at h ⊢
    simp only [List.map_append, List.map_cons, List.map_nil, List.mem_append,
      List.mem_singleton, not_or]
    exact ⟨h, hne⟩
  | ok version =>
    obtain ⟨snapshot, hmem, hversion⟩ := h
    exact ⟨snapshot, List.mem_append_left _ hmem, hversion⟩

theorem sealOk_commit {publicationSealed isSealed : Bool} {commits : List (Nat × FilterSnapshot)}
    {id : Nat} {candidate : FilterSnapshot} {point : SealPoint}
    (hne : ∀ command ∈ point.held, command.id ≠ id)
    (h : SealOk publicationSealed isSealed commits point) :
    SealOk publicationSealed isSealed (commits ++ [(id, candidate)]) point := by
  cases point with
  | requestStop => trivial
  | sealPublication => trivial
  | swap => exact h
  | completing cancelled =>
    refine ⟨h.1, fun command hcommand => ?_⟩
    have hold := h.2 command hcommand
    unfold Uncommitted at hold ⊢
    simp only [List.map_append, List.map_cons, List.map_nil, List.mem_append,
      List.mem_singleton, not_or]
    exact ⟨hold, hne command hcommand⟩

/-- The commit of the command in the journal. -/
theorem commitOk (h : Inv builder start initialSnapshot system) {command : Command}
    {candidate : FilterSnapshot} {now : Nat} {publication : FilterPublicationState}
    (hrunner : system.runner = .publishing candidate)
    (hinflight : system.controller.inflight = some command)
    (hcommit : system.publication.publication.commit (some candidate) now =
      (.ok candidate.version, publication)) :
    Inv builder start initialSnapshot
      { system with
        publication := system.publication.publish (some candidate) now
        controller := system.controller.setInflight
          { command with phase := .committed, published := some candidate.version }
        commits := system.commits ++ [(command.id, candidate)]
        runner := .committed candidate.version } := by
  have hrunning := h.not_exited (by simp [hrunner])
  obtain ⟨-, halone, hunset⟩ := h.journal_alone (by simp [hrunner]) hinflight
  obtain ⟨other, choice, hsame, hphase, hbuilt⟩ : ∃ other choice,
      system.controller.inflight = some other ∧ other.phase = .publishing ∧
        builder choice other.rules candidate.generation = .candidate (some candidate) := by
    have hok := h.runner_ok
    rwa [hrunner] at hok
  obtain rfl : command = other := Option.some.inj (hinflight.symm.trans hsame)
  have hbefore : ∀ commit ∈ system.commits, commit.1 < command.id :=
    (h.journal_ok (by simp [hrunner]) command hinflight).2.2 (by simp [hphase])
  rcases FilterPublicationState.commit_cases system.publication.publication (some candidate) now
    with ⟨error, herror⟩ | ⟨next, hnext, -, -, hopen, -, hgeneration, hok⟩
  · rw [hcommit] at herror
    simp at herror
  obtain rfl := Option.some.inj hnext
  have hunsealed : system.controller.isSealed ≠ true := fun hsealed =>
    absurd (h.sealed_publication hsealed) (by simp [hopen])
  have hpublish : system.publication.publish (some candidate) now =
      { system.publication with
        publication := (system.publication.publication.commit (some candidate) now).2
        published := system.publication.published ++ [candidate]
        released := system.publication.released ++
          system.publication.publication.retired.owner.toList } := by
    unfold Publication.System.publish
    rw [hok]
  have hlast := lastSnapshot_append initialSnapshot system.commits command.id candidate
  refine { h with
    reachable := ?_, owed := ?_, known_inflight := ?_, active := ?_, exited := ?_,
    sealed_publication := fun hsealed => absurd hsealed hunsealed,
    runner_ok := ⟨_, rfl, rfl, rfl⟩, journal_ok := ?_, calls_ok := ?_, settled := ?_,
    successor := ?_, inflight_lt := ?_, commits_lt := ?_, commits_sorted := ?_,
    generations := ?_, current := ?_, active_snapshot := ?_, built := ?_ }
  · obtain ⟨labels, hrun⟩ := h.reachable
    refine ⟨labels ++ [.commit (some candidate) now], Transition.run_append.mpr ⟨_, hrun, ?_⟩⟩
    exact Transition.run_cons.mpr ⟨_, rfl, rfl⟩
  · intro id
    have howed := h.owed id
    unfold System.owed at howed ⊢
    rw [hrunner, hinflight] at howed
    exact howed
  · rintro changed ⟨⟩
    exact h.known_inflight command hinflight
  · have hactive := h.active.mpr (by simp [hrunner])
    exact ⟨fun _ => by simp, fun _ => hactive⟩
  · intro hexited
    exact absurd hexited (by simp [hrunning])
  · rintro - changed ⟨⟩
    refine ⟨fun commit hmem => ?_, fun _ => ⟨candidate.version, rfl, candidate, ?_, rfl⟩,
      fun hne => by simp at hne⟩
    · rcases List.mem_append.mp hmem with hold | hnew
      · exact (hbefore commit hold).le
      · rw [List.mem_singleton.mp hnew]
    · exact List.mem_append_right _ (List.mem_singleton_self _)
  · intro call hcall
    have hcallOk := h.calls_ok call hcall
    have hother : ∀ held ∈ call.held, held.id ≠ command.id := fun held hheld =>
      not_mem_of_countId halone (List.mem_flatMap.mpr ⟨call, hcall, hheld⟩)
    rw [hrunning] at hcallOk
    simp only [hrunning, hpublish, hok]
    cases call with
    | sealCall point terminalDetach => exact sealOk_commit hother hcallOk
    | requestDetach => exact hcallOk
    | successor point =>
      cases point with
      | entering => trivial
      | waiting published => exact hcallOk
      | taking published => exact hcallOk
      | completing held result => exact absurd hcallOk.1 Bool.false_ne_true
  · intro result hresult
    refine settled_commit ?_ (h.settled result hresult)
    intro heq
    have hset : 0 < (system.results.map Prod.fst).count result.1 :=
      List.count_pos_iff.mpr (List.mem_map_of_mem hresult)
    rw [heq] at hset
    omega
  · intro hsuccessor
    exact absurd (h.successor hsuccessor).1 (by simp [hrunning])
  · rintro changed ⟨⟩ later hlater
    exact h.inflight_lt command hinflight later hlater
  · intro commit hmem later hlater
    rcases List.mem_append.mp hmem with hold | hnew
    · exact h.commits_lt commit hold later hlater
    · obtain rfl := List.mem_singleton.mp hnew
      exact h.inflight_lt command hinflight later hlater
  · rw [List.map_append, List.pairwise_append]
    refine ⟨h.commits_sorted, List.pairwise_singleton _ _, ?_⟩
    intro id hid last hmem
    obtain ⟨commit, hmemCommit, rfl⟩ := List.mem_map.mp hid
    obtain rfl : last = command.id := by simpa using hmem
    exact hbefore commit hmemCommit
  · have hcurrent := h.current.1
    have hcount := h.generation_eq
    rw [List.map_append, h.generations, List.length_append, List.length_singleton,
      List.range'_concat]
    congr 1
    simp only [List.map_cons, List.map_nil, List.cons.injEq, and_true, Nat.one_mul]
    omega
  · simp only [hpublish, hok, hlast, and_self]
  · intro active hactive
    simp only [hpublish, hok, Option.some.injEq] at hactive
    rw [hlast]
    exact hactive.symm
  · intro commit hmem
    rcases List.mem_append.mp hmem with hold | hnew
    · exact h.built commit hold
    · obtain rfl := List.mem_singleton.mp hnew
      obtain ⟨original, horiginal, hsameId, hsameRules⟩ := h.known_inflight command hinflight
      exact ⟨original, horiginal, hsameId, choice, by rw [hsameRules]; exact hbuilt⟩

/-! ## The runner -/

theorem commitCandidate (h : Inv builder start initialSnapshot system) {command : Command}
    {candidate : FilterSnapshot} (now : Nat) (hrunner : system.runner = .publishing candidate)
    (hinflight : system.controller.inflight = some command) :
    Inv builder start initialSnapshot (system.commitCandidate command candidate now) := by
  have hjournal := h.journal_ok (by simp [hrunner]) command hinflight
  obtain ⟨other, -, hsame, hphase, -⟩ : ∃ other choice,
      system.controller.inflight = some other ∧ other.phase = .publishing ∧
        builder choice other.rules candidate.generation = .candidate (some candidate) := by
    have hok := h.runner_ok
    rwa [hrunner] at hok
  obtain rfl : command = other := Option.some.inj (hinflight.symm.trans hsame)
  unfold System.commitCandidate
  rcases FilterPublicationState.commit_cases system.publication.publication (some candidate) now
    with ⟨error, herror⟩ | ⟨next, hnext, -, -, -, -, -, hok⟩
  · have hpublish : system.publication.publish (some candidate) now = system.publication := by
      unfold Publication.System.publish
      rw [herror]
    simp only [herror, hpublish]
    refine h.setJournal hinflight rfl rfl (by simp [hrunner, Runner.held]) rfl
      (by simp [hrunner]) (by simp) (by simp [hrunner]) (by simp) ?_ ⟨_, rfl, rfl⟩
    exact ⟨hjournal.1, fun hcommitted => by simp at hcommitted,
      fun _ => hjournal.2.2 (by simp [hphase])⟩
  · obtain rfl := Option.some.inj hnext
    simp only [hok]
    exact h.commitOk hrunner hinflight hok

/-- `release_credit` moves the publication only. -/
theorem releaseCredit (h : Inv builder start initialSnapshot system) :
    Inv builder start initialSnapshot system.releaseCredit :=
  h.movePublication .releaseUncommittedCredit rfl (by simp)

/-- The runner's steps inside `apply`. -/
theorem stepApply (h : Inv builder start initialSnapshot system) {command : Command}
    {choice now : Nat} {next : System}
    (hinflight : system.controller.inflight = some command)
    (hstep : system.stepApply builder command choice now = some next) :
    Inv builder start initialSnapshot next := by
  have hok := h.runner_ok
  unfold System.stepApply at hstep
  cases hrunner : system.runner with
  | checkingStop =>
    simp only [hrunner, Option.some.injEq] at hstep hok
    obtain ⟨other, hsame, hphase⟩ := hok
    subst hstep
    split_ifs
    · exact h.advance (by rw [hrunner]; rfl) rfl ⟨other, hsame, Or.inl ⟨hphase, _, rfl⟩⟩
    · exact h.advance (by rw [hrunner]; rfl) rfl ⟨other, hsame, hphase⟩
  | readingVersion =>
    simp only [hrunner, Option.some.injEq] at hstep hok
    obtain ⟨other, hsame, hphase⟩ := hok
    subst hstep
    split_ifs
    · exact h.advance (by rw [hrunner]; rfl) rfl ⟨other, hsame, Or.inl ⟨hphase, _, rfl⟩⟩
    · exact h.advance (by rw [hrunner]; rfl) rfl ⟨other, hsame, hphase⟩
  | acquiring current =>
    simp only [hrunner] at hstep hok
    obtain ⟨other, hsame, hphase⟩ := hok
    obtain ⟨⟨acquired, state⟩, hacquire, rfl⟩ := Option.map_eq_some_iff.mp hstep
    have hmoved : Inv builder start initialSnapshot (system.setPublicationState state) := by
      apply h.movePublication (.acquireRetirementCredit system.controller.buildStopRequested) _
        (by simp)
      show (system.publication.publication.acquireRetirementCredit _).map _ = _
      rw [hacquire]
      rfl
    simp only
    split_ifs
    · exact hmoved.advance (by simp [System.setPublicationState, hrunner, Runner.inApply]) rfl
        ⟨other, hsame, hphase⟩
    · exact hmoved.advance (by simp [System.setPublicationState, hrunner, Runner.inApply]) rfl
        ⟨other, hsame, Or.inl ⟨hphase, _, rfl⟩⟩
  | building nextGeneration =>
    simp only [hrunner, Option.some.injEq] at hstep hok
    obtain ⟨other, hsame, hphase⟩ := hok
    obtain rfl : command = other := Option.some.inj (hinflight.symm.trans hsame)
    subst hstep
    exact h.advance (by rw [hrunner]; rfl) rfl ⟨command, choice, hsame, hphase, rfl⟩
  | built nextGeneration outcome =>
    rw [hrunner] at hstep hok
    obtain ⟨other, builtChoice, hsame, hphase, houtcome⟩ := hok
    obtain rfl : command = other := Option.some.inj (hinflight.symm.trans hsame)
    have hreleased : system.releaseCredit.runner.inApply = true := by
      show system.runner.inApply = true
      rw [hrunner]
      rfl
    cases outcome with
    | failure error =>
      obtain rfl := Option.some.inj hstep
      exact h.releaseCredit.advance hreleased rfl ⟨command, hsame, hphase⟩
    | exception =>
      obtain rfl := Option.some.inj hstep
      exact h.releaseCredit.advance hreleased rfl ⟨command, hsame, Or.inl hphase⟩
    | candidate snapshot =>
      cases snapshot with
      | none =>
        obtain rfl := Option.some.inj hstep
        exact h.advance (by rw [hrunner]; rfl) rfl ⟨command, hsame, hphase⟩
      | some candidate =>
        simp only at hstep
        split_ifs at hstep with hgeneration hstop
        · obtain rfl := Option.some.inj hstep
          exact h.advance (by rw [hrunner]; rfl) rfl ⟨command, hsame, hphase⟩
        · obtain rfl := Option.some.inj hstep
          exact h.advance (by rw [hrunner]; rfl) rfl ⟨command, hsame, hphase⟩
        · obtain rfl := Option.some.inj hstep
          have hjournal := h.journal_ok (by simp [hrunner]) command hinflight
          obtain rfl : candidate.generation = nextGeneration := by simpa using hgeneration
          refine h.setJournal hinflight rfl rfl (by simp [hrunner, Runner.held]) rfl
            (by simp [hrunner]) (by simp) (by simp [hrunner]) (by simp) ?_
            ⟨_, builtChoice, rfl, rfl, houtcome.symm⟩
          exact ⟨hjournal.1, fun hcommitted => by simp at hcommitted,
            fun _ => hjournal.2.2 (by simp [hphase])⟩
  | buildFailed error =>
    simp only [hrunner, Option.some.injEq] at hstep hok
    obtain ⟨other, hsame, hphase⟩ := hok
    subst hstep
    exact h.advance (by rw [hrunner]; rfl) rfl ⟨other, hsame, Or.inl ⟨hphase, _, rfl⟩⟩
  | caught =>
    simp only [hrunner, Option.some.injEq] at hstep hok
    obtain ⟨other, hsame, hphase⟩ := hok
    subst hstep
    refine h.advance (by rw [hrunner]; rfl) rfl ⟨other, hsame, ?_⟩
    rcases hphase with hphase | hphase
    · exact Or.inl ⟨hphase, _, rfl⟩
    · exact Or.inr ⟨hphase, fun version hresult => by simp at hresult⟩
  | releasing code =>
    simp only [hrunner, Option.some.injEq] at hstep hok
    obtain ⟨other, hsame, hphase⟩ := hok
    subst hstep
    have hreleased : system.releaseCredit.runner.inApply = true := by
      show system.runner.inApply = true
      rw [hrunner]
      rfl
    exact h.releaseCredit.advance hreleased rfl ⟨other, hsame, Or.inl ⟨hphase, _, rfl⟩⟩
  | publishing candidate =>
    simp only [hrunner, Option.some.injEq] at hstep
    subst hstep
    exact h.commitCandidate now hrunner hinflight
  | committed version =>
    simp only [hrunner] at hstep hok
    obtain ⟨other, hsame, hphase, hpublished⟩ := hok
    split_ifs at hstep
    · obtain rfl := Option.some.inj hstep
      have hflag : Inv builder start initialSnapshot { system with
          controller := { system.controller with failAfterCommit := false } } := { h with }
      have hold : ({ system with controller := { system.controller with failAfterCommit := false } }
          : System).runner.inApply = true := by
        show system.runner.inApply = true
        rw [hrunner]
        rfl
      exact hflag.advance hold rfl ⟨other, hsame, Or.inr hphase⟩
    · obtain rfl := Option.some.inj hstep
      exact h.advance (by rw [hrunner]; rfl) rfl ⟨other, hsame, hphase, hpublished⟩
  | awaiting version =>
    simp only [hrunner] at hstep hok
    obtain ⟨other, hsame, hphase, hpublished⟩ := hok
    obtain ⟨result, -, rfl⟩ := Option.map_eq_some_iff.mp hstep
    refine h.advance (by rw [hrunner]; rfl) rfl ⟨other, hsame, Or.inr ⟨hphase, ?_⟩⟩
    intro reported hreported
    split_ifs at hreported
    obtain rfl := Except.ok.inj hreported
    exact hpublished
  | idle | waiting | detaching | returned _ | completed | sealing _ | cancelling
  | completingCancelled _ | closing =>
    rw [hrunner] at hstep
    exact absurd hstep (by simp)

/-- The runner sets the promise of the journal, or leaves it for a successor. -/
theorem stepReturned (h : Inv builder start initialSnapshot system) {command : Command}
    {result : FilterUpdateResult} (hrunner : system.runner = .returned result)
    (hinflight : system.controller.inflight = some command) :
    Inv builder start initialSnapshot (system.stepReturned command result) := by
  have hok := h.runner_ok
  rw [hrunner] at hok
  obtain ⟨other, hsame, hreturned⟩ := hok
  obtain rfl : command = other := Option.some.inj (hinflight.symm.trans hsame)
  obtain ⟨-, hcommittedOk, huncommittedOk⟩ := h.journal_ok (by simp [hrunner]) command hinflight
  -- a promise set here agrees with the commits
  have hcomplete : Settled system.commits command.id result →
      Inv builder start initialSnapshot
        { system.complete command result with runner := .completed } := by
    intro hsettled
    refine { h with
      owed := ?_, active := ?_, exited := ?_, runner_ok := ⟨command, hinflight⟩,
      journal_ok := fun hne => absurd rfl hne, settled := settled_append h.settled hsettled }
    · intro id
      show System.owed _ id + _ = if id < system.accepted.length then 1 else 0
      rw [← h.owed id]
      unfold System.owed
      rw [hrunner, hinflight]
      simp only [owedJournal, System.complete, Runner.held, Option.toList_some, List.map_append,
        List.map_cons, List.map_nil, List.count_append, List.count_singleton, beq_iff_eq,
        countId_cons, countId_nil]
      omega
    · have hactive := h.active.mpr (by simp [hrunner])
      exact ⟨fun _ => by simp, fun _ => hactive⟩
    · intro hexited
      exact absurd (h.exited hexited).1 (by simp [hrunner])
  rcases hreturned with ⟨hphase, error, rfl⟩ | ⟨hphase, hversion⟩
  · have huncommitted : Settled system.commits command.id (.error error) := by
      intro hmem
      obtain ⟨commit, hcommit, hid⟩ := List.mem_map.mp hmem
      have := huncommittedOk (by simp [hphase]) commit hcommit
      omega
    unfold System.stepReturned
    simp only [hphase]
    exact hcomplete huncommitted
  · cases result with
    | error error =>
      unfold System.stepReturned
      simp only [hphase]
      refine h.setRunner (by simp [hrunner, Runner.held, SealPoint.held]) (by simp [hrunner])
        (by simp) (by simp [hrunner]) (by simp) ⟨trivial, ?_⟩
      intro other hother
      obtain rfl := Option.some.inj (hinflight.symm.trans hother)
      exact hphase
    | ok version =>
      obtain ⟨published, hpublished, hsettled⟩ := hcommittedOk hphase
      obtain rfl := Option.some.inj (hpublished.symm.trans (hversion version rfl))
      exact hcomplete hsettled

/-- The journal is cleared after its promise was set. -/
theorem clearJournal (h : Inv builder start initialSnapshot system)
    (hrunner : system.runner = .completed) :
    Inv builder start initialSnapshot
      { system with
        controller := { system.controller with inflight := none }
        runner := .waiting } := by
  have hrunning := h.not_exited (by simp [hrunner])
  refine { h with
    owed := ?_, known_inflight := by simp, active := ?_, exited := ?_, runner_ok := rfl,
    journal_ok := by simp, calls_ok := ?_, successor := ?_, inflight_lt := by simp }
  · intro id
    have howed := h.owed id
    unfold System.owed at howed ⊢
    rw [hrunner] at howed
    exact howed
  · have hactive := h.active.mpr (by simp [hrunner])
    exact ⟨fun _ => by simp, fun _ => hactive⟩
  · intro hexited
    exact absurd (h.exited hexited).1 (by simp [hrunner])
  · intro call hcall
    have hcallOk := h.calls_ok call hcall
    rw [hrunning] at hcallOk
    simp only [hrunning]
    exact callOk_running hcallOk
  · intro hsuccessor
    exact absurd (h.successor hsuccessor).1 (by simp [hrunning])

/-- A committed journal needs no reconciliation. -/
theorem reconcileInflight_committed {controller : FilterUpdateController}
    (hleft : LeftForSuccessor controller.inflight) (current : FilterVersion) :
    controller.reconcileInflight current = controller := by
  unfold FilterUpdateController.reconcileInflight
  split
  · rfl
  · rename_i command hinflight
    simp only [hleft command hinflight]

/-- The end of `finish_run`: the journal is empty or left for a successor. -/
theorem close (h : Inv builder start initialSnapshot system) (hrunner : system.runner = .closing) :
    system.controller.finishRun system.publication.publication.currentVersion =
      (none, { system.controller with runnerActive := false }) ∧
    Inv builder start initialSnapshot
      { system with
        controller := { system.controller with runnerActive := false }
        runner := .idle
        runnerExited := true } := by
  have hok := h.runner_ok
  rw [hrunner] at hok
  obtain ⟨hsealed, hpending, hleft⟩ := hok
  have hrunning := h.not_exited (by simp [hrunner])
  refine ⟨?_, ?_⟩
  · unfold FilterUpdateController.finishRun
    simp only [reconcileInflight_committed hleft]
    split
    · rename_i command hinflight
      rw [if_neg (by simp [hleft command hinflight])]
    · rfl
  · refine { h with
      owed := ?_, active := by simp, exited := fun _ => ⟨rfl, hsealed, hpending⟩,
      runner_ok := ⟨by simp, hleft⟩, journal_ok := fun _ => h.journal_ok (by simp [hrunner]),
      calls_ok := ?_, successor := ?_ }
    · intro id
      have howed := h.owed id
      unfold System.owed at howed ⊢
      rw [hrunner] at howed
      exact howed
    · intro call hcall
      have hcallOk := h.calls_ok call hcall
      rw [hrunning] at hcallOk
      cases call with
      | sealCall point terminalDetach => exact hcallOk
      | requestDetach => exact hcallOk
      | successor point =>
        cases point with
        | entering => trivial
        | waiting published => rfl
        | taking published => rfl
        | completing command result => exact absurd hcallOk.1 Bool.false_ne_true
    · intro hsuccessor
      exact absurd (h.successor hsuccessor).1 (by simp [hrunning])

/-- The first action of `seal`. -/
theorem requestStop (h : Inv builder start initialSnapshot system) :
    Inv builder start initialSnapshot
      { system with controller := { system.controller with buildStopRequested := true } } :=
  { h with }

/-- The second action of `seal`. -/
theorem sealPublication (h : Inv builder start initialSnapshot system) :
    Inv builder start initialSnapshot
      (system.setPublicationState system.publication.publication.sealPublication) :=
  h.movePublication .sealPublication rfl (by simp)

/-- The runner's own call of `seal`. -/
theorem sealingRunner (h : Inv builder start initialSnapshot system) {point : SealPoint}
    (hrunner : system.runner = .sealing point) :
    Inv builder start initialSnapshot
      (match system.stepSeal point with
        | (some point, system) => { system with runner := .sealing point }
        | (none, system) => { system with runner := .cancelling }) := by
  have hok := h.runner_ok
  rw [hrunner] at hok
  obtain ⟨hseal, hleft⟩ := hok
  cases point with
  | requestStop =>
    have hheld : system.runner.held = [] := by rw [hrunner]; rfl
    exact h.requestStop.setRunner hheld.symm (by simp [hrunner]) (by simp) (by simp [hrunner])
      (by simp) ⟨trivial, hleft⟩
  | sealPublication =>
    have hheld : system.runner.held = [] := by rw [hrunner]; rfl
    exact h.sealPublication.setRunner hheld.symm
      (by simp [System.setPublicationState, hrunner]) (by simp)
      (by simp [System.setPublicationState, hrunner]) (by simp) ⟨rfl, hleft⟩
  | swap =>
    simp only [System.stepSeal]
    unfold FilterUpdateController.sealQueue
    by_cases hsealed : system.controller.isSealed = true
    · have hmoved : Inv builder start initialSnapshot
          { system with runner := .sealing (.completing []) } :=
        h.setRunner (by rw [hrunner]; rfl) (by simp [hrunner]) (by simp) (by simp [hrunner])
          (by simp) ⟨⟨hsealed, by simp⟩, hleft⟩
      have hno : ¬(!system.controller.isSealed) = true := by simp [hsealed]
      simp only [if_neg hno]
      exact { hmoved with }
    · have hyes : (!system.controller.isSealed) = true := by simpa using hsealed
      simp only [if_pos hyes]
      exact h.swapRunner (by rw [hrunner]; rfl) (by simp [hrunner]) (by simp [hrunner]) hleft
        hseal (Or.inl rfl) _ rfl
  | completing cancelled =>
    cases cancelled with
    | nil =>
      exact h.setRunner (by rw [hrunner]; rfl) (by simp [hrunner]) (by simp) (by simp [hrunner])
        (by simp) ⟨hseal.1, hleft⟩
    | cons command cancelled =>
      have hrest : ∀ other ∈ cancelled, Uncommitted system.commits other := fun other hother =>
        hseal.2 other (List.mem_cons_of_mem _ hother)
      exact h.completeRunner { code := .shuttingDown } (by rw [hrunner]; rfl) rfl
        (by simp [hrunner]) (by simp) (by simp [hrunner]) (by simp)
        (hseal.2 command List.mem_cons_self) ⟨⟨hseal.1, hrest⟩, hleft⟩

theorem stepRunner (h : Inv builder start initialSnapshot system) {choice now : Nat}
    {throws : Bool} {next : System}
    (hstep : system.stepRunner builder choice now throws = some next) :
    Inv builder start initialSnapshot next := by
  have hok := h.runner_ok
  unfold System.stepRunner at hstep
  cases hrunner : system.runner with
  | idle =>
    rw [hrunner] at hstep
    exact absurd hstep (by simp)
  | waiting =>
    simp only [hrunner] at hstep hok
    have hnone : system.controller.inflight = none := hok
    split_ifs at hstep
    · obtain rfl := Option.some.inj hstep
      exact h.setRunner (by rw [hrunner]; rfl) (by simp [hrunner]) (by simp) (by simp [hrunner])
        (by simp) ⟨trivial, fun command hinflight => by simp [hnone] at hinflight⟩
    · obtain ⟨⟨wakeup, controller⟩, htake, rfl⟩ := Option.map_eq_some_iff.mp hstep
      unfold FilterUpdateController.takeCommand at htake
      cases hpending : system.controller.pending with
      | nil =>
        simp only [hpending] at htake
        split_ifs at htake with hdetach
        obtain ⟨rfl, rfl⟩ := Prod.mk.inj (Option.some.inj htake)
        exact h.setRunner (by rw [hrunner]; rfl) (by simp [hrunner]) (by simp)
          (by simp [hrunner]) (by simp)
          ⟨hok, h.sealed_publication (h.detach_sealed hdetach)⟩
      | cons command pending =>
        simp only [hpending] at htake
        obtain ⟨rfl, rfl⟩ := Prod.mk.inj (Option.some.inj htake)
        exact h.take hrunner hpending _
  | detaching =>
    simp only [hrunner, Option.some.injEq] at hstep hok
    subst hstep
    have hmoved : Inv builder start initialSnapshot (system.setPublicationState
        (system.publication.publication.detachTerminalSnapshot now)) := by
      apply h.movePublication (.detachTerminalSnapshot now) _ (by simp)
      show (if system.publication.publication.publicationSealed = true then _ else _) = _
      rw [if_pos hok.2]
    have hheld : system.runner.held = [] := by rw [hrunner]; rfl
    refine hmoved.setRunner hheld.symm (by simp [System.setPublicationState, hrunner]) (by simp)
      (by simp [System.setPublicationState, hrunner]) (by simp) ⟨trivial, ?_⟩
    intro command hinflight
    have hnone : system.controller.inflight = some command := hinflight
    simp [hok.1] at hnone
  | returned result =>
    simp only [hrunner] at hstep
    obtain ⟨command, hinflight, rfl⟩ := Option.map_eq_some_iff.mp hstep
    exact h.stepReturned hrunner hinflight
  | completed =>
    simp only [hrunner, Option.some.injEq] at hstep
    subst hstep
    exact h.clearJournal hrunner
  | sealing point =>
    have hsealing := h.sealingRunner hrunner
    simp only [hrunner] at hstep
    split at hstep <;> rename_i hpoint <;> rw [hpoint] at hsealing <;>
      obtain rfl := Option.some.inj hstep <;> exact hsealing
  | cancelling =>
    simp only [hrunner, Option.some.injEq] at hstep hok
    subst hstep
    refine h.swapRunner (by rw [hrunner]; rfl) (by simp [hrunner]) (by simp [hrunner]) hok.2
      (h.sealed_publication hok.1) (Or.inr rfl) _ ?_
    simp only [FilterUpdateController.cancelPending, hok.1]
  | completingCancelled cancelled =>
    rw [hrunner] at hstep hok
    obtain ⟨hsealed, hpending, huncommitted, hleft⟩ := hok
    cases cancelled with
    | nil =>
      obtain rfl := Option.some.inj hstep
      exact h.setRunner (by rw [hrunner]; rfl) (by simp [hrunner]) (by simp) (by simp [hrunner])
        (by simp) ⟨hsealed, hpending, hleft⟩
    | cons command cancelled =>
      obtain rfl := Option.some.inj hstep
      have hrest : ∀ other ∈ cancelled, Uncommitted system.commits other := fun other hother =>
        huncommitted other (List.mem_cons_of_mem _ hother)
      exact h.completeRunner { code := .shuttingDown } (by rw [hrunner]; rfl) rfl
        (by simp [hrunner]) (by simp) (by simp [hrunner]) (by simp)
        (huncommitted command List.mem_cons_self) ⟨hsealed, hpending, hrest, hleft⟩
  | closing =>
    obtain ⟨hfinish, hclosed⟩ := h.close hrunner
    simp only [hrunner, hfinish, Option.some.injEq] at hstep
    subst hstep
    exact hclosed
  | checkingStop | readingVersion | acquiring _ | building _ | built _ _ | buildFailed _ | caught
  | releasing _ | publishing _ | committed _ | awaiting _ =>
    simp only [hrunner] at hstep
    obtain ⟨command, hinflight, hstep⟩ := Option.bind_eq_some_iff.mp hstep
    exact h.stepApply hinflight hstep

/-! ## The other calls -/

/-- One step of a call of `seal` or `request_terminal_detach`. -/
theorem stepSealCall (h : Inv builder start initialSnapshot system) {index : Nat}
    {point : SealPoint} {terminalDetach : Bool}
    (hget : system.calls[index]? = some (.sealCall point terminalDetach)) :
    Inv builder start initialSnapshot
      (match system.stepSeal point with
        | (some point, system) =>
          { system with calls := system.calls.set index (.sealCall point terminalDetach) }
        | (none, system) =>
          if terminalDetach then { system with calls := system.calls.set index .requestDetach }
          else { system with calls := system.calls.eraseIdx index }) := by
  have hseal : SealOk _ _ _ point := h.calls_ok _ (List.mem_of_getElem? hget)
  cases point with
  | requestStop =>
    exact h.requestStop.setCall (.sealCall .sealPublication terminalDetach) hget rfl trivial
  | sealPublication =>
    have hget' : (system.setPublicationState
        system.publication.publication.sealPublication).calls[index]? =
        some (.sealCall .sealPublication terminalDetach) := hget
    exact h.sealPublication.setCall (.sealCall .swap terminalDetach) hget' rfl rfl
  | swap => exact h.swapCall hget
  | completing cancelled =>
    cases cancelled with
    | nil =>
      simp only [System.stepSeal]
      split_ifs
      · exact h.setCall .requestDetach hget rfl hseal.1
      · exact h.dropCall hget rfl
    | cons command cancelled => exact h.completeCall { code := .shuttingDown } hget

theorem requestDetach (h : Inv builder start initialSnapshot system) {index : Nat}
    (hget : system.calls[index]? = some .requestDetach) :
    Inv builder start initialSnapshot
      { system with
        controller := { system.controller with terminalDetachRequested := true }
        calls := system.calls.eraseIdx index } := by
  have hsealed : system.controller.isSealed = true := h.calls_ok _ (List.mem_of_getElem? hget)
  have hdropped := h.dropCall hget rfl
  exact { hdropped with detach_sealed := fun _ => hsealed }

/-- The successor returns with the journal empty. -/
theorem successorReturns (h : Inv builder start initialSnapshot system)
    (result : FilterSuccessorCompletionResult)
    (hresult : result = .completed → system.controller.inflight = none) :
    Inv builder start initialSnapshot (system.returnSuccessor result) := by
  refine { h with successor := ?_ }
  intro hsuccessor
  simp only [System.returnSuccessor, Bool.or_eq_true, Bool.and_eq_true, decide_eq_true_eq]
    at hsuccessor
  rcases hsuccessor with hbefore | ⟨hcompleted, hexited⟩
  · exact h.successor hbefore
  · exact ⟨hexited, hresult hcompleted⟩

/-- When the runner is out, the journal is empty or committed. -/
theorem journal_after_exit (h : Inv builder start initialSnapshot system)
    (hidle : system.runner = .idle) {command : Command}
    (hinflight : system.controller.inflight = some command) :
    system.runnerExited = true ∧ command.phase = .committed ∧ Newest system.commits command ∧
      ∃ version, command.published = some version ∧
        Settled system.commits command.id (.ok version) := by
  have hok := h.runner_ok
  rw [hidle] at hok
  obtain ⟨hfresh, hleft⟩ := hok
  have hphase := hleft command hinflight
  obtain ⟨hnewest, hcommitted, -⟩ := h.journal_ok (by simp [hidle]) command hinflight
  refine ⟨?_, hphase, hnewest, hcommitted hphase⟩
  cases hexited : system.runnerExited with
  | true => rfl
  | false => simp [hfresh hexited] at hinflight

/-- The first locked body of the successor. -/
theorem enterSuccessor_cases (h : Inv builder start initialSnapshot system) :
    system.controller.enterSuccessor system.publication.publication.currentVersion =
        (.returns .writerStillRunning, system.controller) ∨
    system.controller.enterSuccessor system.publication.publication.currentVersion =
        (.returns .completed, system.controller) ∧ system.controller.inflight = none ∨
    ∃ published, system.controller.enterSuccessor system.publication.publication.currentVersion =
        (.wait published, system.controller) ∧ system.runnerExited = true := by
  unfold FilterUpdateController.enterSuccessor
  split
  · exact Or.inl rfl
  · rename_i hinactive
    have hidle : system.runner = .idle := by
      by_contra hne
      exact hinactive (h.active.mpr hne)
    have hleft : LeftForSuccessor system.controller.inflight := fun command hinflight =>
      (h.journal_after_exit hidle hinflight).2.1
    simp only [reconcileInflight_committed hleft]
    cases hinflight : system.controller.inflight with
    | none => exact Or.inr (Or.inl ⟨rfl, rfl⟩)
    | some command =>
      obtain ⟨hexited, hphase, -, version, hpublished, -⟩ := h.journal_after_exit hidle hinflight
      simp only [hphase, hpublished]
      exact Or.inr (Or.inr ⟨version, rfl, hexited⟩)

/-- The successor takes the committed command out of the journal. -/
theorem takeCommitted (h : Inv builder start initialSnapshot system) {index : Nat}
    {command : Command} {published : FilterVersion}
    (hget : system.calls[index]? = some (.successor (.taking published)))
    (hinflight : system.controller.inflight = some command)
    (hpublished : command.published = some published) :
    Inv builder start initialSnapshot
      { system with
        controller := { system.controller with inflight := none }
        calls := system.calls.set index
          (.successor (.completing { command with phase := .completed } (.ok published))) } := by
  have hexited : system.runnerExited = true := h.calls_ok _ (List.mem_of_getElem? hget)
  have hidle := (h.exited hexited).1
  obtain ⟨-, -, hnewest, version, hversion, hsettled⟩ := h.journal_after_exit hidle hinflight
  obtain rfl := Option.some.inj (hpublished.symm.trans hversion)
  refine { h with
    owed := ?_, known_inflight := by simp, runner_ok := ?_, journal_ok := by simp,
    calls_ok := ?_, successor := fun _ => ⟨hexited, rfl⟩, inflight_lt := by simp }
  · intro id
    have howed := h.owed id
    have hset := countId_calls_set
      (.successor (.completing { command with phase := .completed } (.ok published))) hget id
    unfold System.owed at howed ⊢
    rw [owedJournal_eq (by simp [hidle]), hinflight] at howed
    simp only [owedJournal_eq (show system.runner ≠ .completed by simp [hidle]), Call.held,
      Option.toList_some, Option.toList_none, countId_cons, countId_nil] at howed hset ⊢
    omega
  · simp only [hidle]
    exact ⟨fun _ => rfl, by simp [LeftForSuccessor]⟩
  · intro call hcall
    rcases List.mem_or_eq_of_mem_set hcall with hold | rfl
    · have hcallOk := h.calls_ok call hold
      cases call with
      | sealCall point terminalDetach => exact hcallOk
      | requestDetach => exact hcallOk
      | successor point =>
        cases point with
        | entering => trivial
        | waiting published => exact hcallOk
        | taking published => exact hcallOk
        | completing other result => exact ⟨hcallOk.1, rfl, hcallOk.2.2⟩
    · exact ⟨hexited, rfl, hnewest, hsettled⟩

/-- The successor sets the promise and returns. -/
theorem completeSuccessor (h : Inv builder start initialSnapshot system) {index : Nat}
    {command : Command} {result : FilterUpdateResult}
    (hget : system.calls[index]? = some (.successor (.completing command result))) :
    Inv builder start initialSnapshot
      { (system.complete command result).returnSuccessor .completed with
        calls := system.calls.eraseIdx index } := by
  obtain ⟨hexited, hnone, -, hsettled⟩ := h.calls_ok _ (List.mem_of_getElem? hget)
  refine { h with
    owed := ?_, calls_ok := ?_, settled := settled_append h.settled hsettled,
    successor := fun _ => ⟨hexited, hnone⟩ }
  · intro id
    have herase := countId_calls_eraseIdx hget id
    show System.owed _ id + _ = if id < system.accepted.length then 1 else 0
    rw [← h.owed id]
    unfold System.owed
    simp only [Call.held, countId_cons, countId_nil] at herase
    simp only [System.complete, System.returnSuccessor, List.map_append, List.map_cons,
      List.map_nil, List.count_append, List.count_singleton, beq_iff_eq]
    omega
  · intro call hcall
    exact h.calls_ok call (List.mem_of_mem_eraseIdx hcall)

theorem stepSuccessorCall (h : Inv builder start initialSnapshot system) {index : Nat}
    {point : SuccessorPoint} {outcome : Option SuccessorPoint × System}
    (hget : system.calls[index]? = some (.successor point))
    (hstep : system.stepSuccessor point = some outcome) :
    Inv builder start initialSnapshot
      (match outcome with
        | (some point, system) =>
          { system with calls := system.calls.set index (.successor point) }
        | (none, system) => { system with calls := system.calls.eraseIdx index }) := by
  have hcallOk := h.calls_ok _ (List.mem_of_getElem? hget)
  cases point with
  | entering =>
    simp only [System.stepSuccessor] at hstep
    rcases h.enterSuccessor_cases with hrunning | ⟨hempty, hnone⟩ | ⟨published, hwait, hexited⟩
    · simp only [hrunning] at hstep
      obtain rfl := Option.some.inj hstep
      have hreturned := h.successorReturns .writerStillRunning (by simp)
      exact hreturned.dropCall hget rfl
    · simp only [hempty] at hstep
      obtain rfl := Option.some.inj hstep
      have hreturned := h.successorReturns .completed (fun _ => hnone)
      exact hreturned.dropCall hget rfl
    · simp only [hwait] at hstep
      obtain rfl := Option.some.inj hstep
      exact h.setCall (.successor (.waiting published)) hget rfl hexited
  | waiting published =>
    simp only [System.stepSuccessor] at hstep
    obtain ⟨result, -, rfl⟩ := Option.map_eq_some_iff.mp hstep
    cases result with
    | converged => exact h.setCall (.successor (.taking published)) hget rfl hcallOk
    | reclaimerUnavailable =>
      have hreturned := h.successorReturns .reclaimerUnavailable (by simp)
      exact hreturned.dropCall hget rfl
    | internalError =>
      have hreturned := h.successorReturns .internalError (by simp)
      exact hreturned.dropCall hget rfl
  | taking published =>
    simp only [System.stepSuccessor] at hstep
    unfold FilterUpdateController.takeCommitted at hstep
    cases hinflight : system.controller.inflight with
    | none =>
      simp only [hinflight] at hstep
      obtain rfl := Option.some.inj hstep
      have hreturned := h.successorReturns .completed (fun _ => hinflight)
      exact hreturned.dropCall hget rfl
    | some command =>
      simp only [hinflight] at hstep
      by_cases hmismatch : command.phase ≠ .committed ∨ command.published ≠ some published
      · simp only [if_pos hmismatch] at hstep
        obtain rfl := Option.some.inj hstep
        have hreturned := h.successorReturns .internalError (by simp)
        exact hreturned.dropCall hget rfl
      · simp only [if_neg hmismatch] at hstep
        obtain rfl := Option.some.inj hstep
        simp only [not_or, not_not] at hmismatch
        exact h.takeCommitted hget hinflight hmismatch.2
  | completing command result =>
    obtain rfl := Option.some.inj hstep
    exact h.completeSuccessor hget

theorem stepCall (h : Inv builder start initialSnapshot system) {index : Nat} {next : System}
    (hstep : system.stepCall index = some next) : Inv builder start initialSnapshot next := by
  unfold System.stepCall at hstep
  cases hget : system.calls[index]? with
  | none =>
    rw [hget] at hstep
    exact absurd hstep (by simp)
  | some call =>
    cases call with
    | sealCall point terminalDetach =>
      have hsealed := h.stepSealCall hget
      simp only [hget] at hstep
      split at hstep
      · rename_i hpoint
        rw [hpoint] at hsealed
        obtain rfl := Option.some.inj hstep
        exact hsealed
      · rename_i hpoint
        rw [hpoint] at hsealed
        simp only at hsealed
        split_ifs at hstep hsealed <;> obtain rfl := Option.some.inj hstep <;> exact hsealed
    | requestDetach =>
      simp only [hget, Option.some.injEq] at hstep
      subst hstep
      exact h.requestDetach hget
    | successor point =>
      simp only [hget] at hstep
      split at hstep
      · exact absurd hstep (by simp)
      · rename_i hpoint
        obtain rfl := Option.some.inj hstep
        exact h.stepSuccessorCall hget hpoint
      · rename_i hpoint
        obtain rfl := Option.some.inj hstep
        exact h.stepSuccessorCall hget hpoint

/-! ## Runs -/

theorem startRunner (h : Inv builder start initialSnapshot system)
    (hinactive : ¬system.controller.runnerActive = true)
    (hfresh : ¬system.runnerExited = true) :
    Inv builder start initialSnapshot
      { system with
        controller := { system.controller with runnerActive := true }
        runner := .waiting } := by
  have hidle : system.runner = .idle := by
    by_contra hne
    exact hinactive (h.active.mpr hne)
  have hok := h.runner_ok
  rw [hidle] at hok
  have hnone : system.controller.inflight = none := hok.1 (by simpa using hfresh)
  refine { h with
    owed := ?_, active := by simp, exited := fun hexited => absurd hexited hfresh,
    runner_ok := hnone, journal_ok := fun _ => h.journal_ok (by simp [hidle]) }
  intro id
  have howed := h.owed id
  unfold System.owed at howed ⊢
  rw [hidle] at howed
  exact howed

/-- A step of the publication that is not the runner's is not a commit. -/
theorem step_publication {label : Publication.System.Label} {next : System}
    (hstep : system.step builder (.publication label) = some next) :
    (∀ candidate now, label ≠ .commit candidate now) ∧
    ∃ publication, system.publication.step label = some publication ∧
      next = { system with publication := publication } := by
  by_cases hcommit : ∃ candidate now, label = .commit candidate now
  · obtain ⟨candidate, now, rfl⟩ := hcommit
    exact absurd hstep (by simp [System.step])
  · have hmove : (system.publication.step label).map
        (fun publication => ({ system with publication := publication } : System)) =
        some next := by
      cases label <;> first
        | exact absurd ⟨_, _, rfl⟩ hcommit
        | exact hstep
    obtain ⟨publication, hpublication, hnext⟩ := Option.map_eq_some_iff.mp hmove
    exact ⟨fun candidate now heq => hcommit ⟨candidate, now, heq⟩, publication, hpublication,
      hnext.symm⟩

theorem step (h : Inv builder start initialSnapshot system) {label : Label} {next : System}
    (hstep : system.step builder label = some next) : Inv builder start initialSnapshot next := by
  cases label with
  | submitReplace rules allocationFails pushFails =>
    obtain rfl := Option.some.inj hstep
    exact h.submitReplace rules allocationFails pushFails
  | startRunner =>
    unfold System.step at hstep
    simp only at hstep
    split_ifs at hstep with hguard
    obtain rfl := Option.some.inj hstep
    simp only [not_or] at hguard
    exact h.startRunner hguard.1 hguard.2
  | runner choice now throws => exact h.stepRunner hstep
  | callSeal terminalDetach =>
    obtain rfl := Option.some.inj hstep
    exact h.addCall rfl trivial
  | callSuccessor =>
    obtain rfl := Option.some.inj hstep
    exact h.addCall rfl trivial
  | call index => exact h.stepCall hstep
  | injectPostcommitFailure =>
    obtain rfl := Option.some.inj hstep
    exact { h with }
  | publication label =>
    obtain ⟨hcommit, publication, hpublication, rfl⟩ := step_publication hstep
    exact h.movePublication label hpublication hcommit

/-- The invariant holds after every run. -/
theorem run (h : Inv builder start initialSnapshot system) {labels : List Label} {final : System}
    (hrun : Transition.run (System.step builder) system labels = some final) :
    Inv builder start initialSnapshot final :=
  Transition.run_invariant (Inv builder start initialSnapshot)
    (fun _ _ _ hinv hstep => hinv.step hstep) h hrun

/-- Every state of a run satisfies the invariant, over the publication that the
run starts from. -/
theorem reached {maximumWorkers graceTimeout : Nat} {limits : FilterUpdateLimits}
    {first : System} {labels : List Label}
    (hstart : System.new initialSnapshot maximumWorkers graceTimeout limits = some first)
    (hrun : Transition.run (System.step builder) first labels = some system) :
    ∃ publication, Publication.System.new initialSnapshot maximumWorkers graceTimeout =
      some publication ∧ Inv builder publication initialSnapshot system := by
  cases hcase : Publication.System.new initialSnapshot maximumWorkers graceTimeout with
  | none =>
    unfold System.new at hstart
    simp [hcase] at hstart
  | some publication => exact ⟨publication, rfl, (Inv.of_new hcase hstart).run hrun⟩

end Inv

end System

end DnsPro.Update
