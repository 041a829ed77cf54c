import DnsPro.Update.Invariant

/-!
# Exactly-once completion

Every accepted command has its promise set at most once, is never lost on the
way, and is told the truth: success exactly with the version that its candidate
was committed as.

`seal` and the successor set promises after they have let go of the mutex.  So
when the runner is gone and a successor has returned `Completed`, a promise can
still be unset, but only in the hands of a call that is about to set it.
-/

namespace DnsPro.Update.System

open DnsPro.Protocol DnsPro.Publication

namespace Inv

variable {builder : Builder} {start : Publication.System} {initialSnapshot : FilterSnapshot}
  {system : System}

theorem accepted_lt (h : Inv builder start initialSnapshot system) {command : Command}
    (hcommand : command ∈ system.accepted) : command.id < system.accepted.length :=
  h.known_lt ⟨command, hcommand, rfl, rfl⟩

theorem set_at_most_once (h : Inv builder start initialSnapshot system) (id : Nat) :
    (system.results.map Prod.fst).count id ≤ 1 := by
  have howed := h.owed id
  split_ifs at howed <;> omega

theorem mem_of_countId_pos {commands : List Command} {id : Nat} (h : 0 < countId commands id) :
    ∃ command ∈ commands, command.id = id := by
  have hmem := List.count_pos_iff.mp h
  obtain ⟨command, hcommand, hid⟩ := List.mem_map.mp hmem
  exact ⟨command, hcommand, hid⟩

/-- A promise that is not set is owed somewhere. -/
theorem unset_is_owed (h : Inv builder start initialSnapshot system) {command : Command}
    (hcommand : command ∈ system.accepted) (hunset : command.id ∉ system.results.map Prod.fst) :
    (∃ queued ∈ system.controller.pending, queued.id = command.id) ∨
    (system.runner ≠ .completed ∧
      ∃ journal, system.controller.inflight = some journal ∧ journal.id = command.id) ∨
    (∃ held ∈ system.runner.held, held.id = command.id) ∨
    ∃ call ∈ system.calls, ∃ held ∈ call.held, held.id = command.id := by
  have howed := h.owed command.id
  rw [if_pos (h.accepted_lt hcommand), List.count_eq_zero.mpr hunset] at howed
  unfold System.owed at howed
  by_cases hpending : 0 < countId system.controller.pending command.id
  · exact Or.inl (mem_of_countId_pos hpending)
  by_cases hrunner : 0 < countId system.runner.held command.id
  · exact Or.inr (Or.inr (Or.inl (mem_of_countId_pos hrunner)))
  by_cases hcalls : 0 < countId (system.calls.flatMap Call.held) command.id
  · obtain ⟨held, hheld, hid⟩ := mem_of_countId_pos hcalls
    obtain ⟨call, hcall, hmem⟩ := List.mem_flatMap.mp hheld
    exact Or.inr (Or.inr (Or.inr ⟨call, hcall, held, hmem, hid⟩))
  · have hjournal : 0 < countId (owedJournal system.runner system.controller.inflight)
        command.id := by omega
    obtain ⟨journal, hmem, hid⟩ := mem_of_countId_pos hjournal
    by_cases hcompleted : system.runner = .completed
    · rw [hcompleted] at hmem
      simp [owedJournal] at hmem
    · rw [owedJournal_eq hcompleted] at hmem
      exact Or.inr (Or.inl ⟨hcompleted, journal, by simpa using hmem, hid⟩)

/-- A command is committed at most once. -/
theorem commit_unique (h : Inv builder start initialSnapshot system) {id : Nat}
    {snapshot snapshot' : FilterSnapshot} (hmem : (id, snapshot) ∈ system.commits)
    (hmem' : (id, snapshot') ∈ system.commits) : snapshot = snapshot' := by
  have hnodup : (system.commits.map Prod.fst).Nodup :=
    h.commits_sorted.imp fun hlt => Nat.ne_of_lt hlt
  have hequal := List.inj_on_of_nodup_map hnodup hmem hmem' rfl
  exact (Prod.mk.inj hequal).2

/-- A result reports success exactly with the committed version. -/
theorem result_iff_committed (h : Inv builder start initialSnapshot system) {id : Nat}
    {result : FilterUpdateResult} (hresult : (id, result) ∈ system.results)
    (version : FilterVersion) :
    result = .ok version ↔
      ∃ snapshot, (id, snapshot) ∈ system.commits ∧ snapshot.version = version := by
  have hsettled := h.settled _ hresult
  constructor
  · rintro rfl
    exact hsettled
  · rintro ⟨snapshot, hmem, rfl⟩
    cases result with
    | error error => exact absurd (List.mem_map_of_mem hmem) hsettled
    | ok reported =>
      obtain ⟨other, hother, rfl⟩ := hsettled
      rw [h.commit_unique hother hmem]

/-- After the runner and a successor are done, only a running call owes a promise. -/
theorem owed_by_call (h : Inv builder start initialSnapshot system)
    (hexited : system.runnerExited = true) (hsuccessor : system.successorCompleted = true)
    {command : Command} (hcommand : command ∈ system.accepted)
    (hunset : command.id ∉ system.results.map Prod.fst) :
    ∃ call ∈ system.calls, ∃ held ∈ call.held, held.id = command.id := by
  obtain ⟨hidle, -, hpending⟩ := h.exited hexited
  have hnone := (h.successor hsuccessor).2
  rcases h.unset_is_owed hcommand hunset with ⟨queued, hqueued, -⟩ | ⟨-, journal, hjournal, -⟩ |
    ⟨held, hheld, -⟩ | hcall
  · simp [hpending] at hqueued
  · simp [hnone] at hjournal
  · simp [hidle, Runner.held] at hheld
  · exact hcall

end Inv

/-- Exactly-once completion, in every state that an interleaving reaches.  The
promise of an accepted command is set at most once.  Until it is set the command
is in the queue, in the journal, or in the hands of the runner or of a call that
took it.  Its result is success exactly with the version that was committed for
it.  Once the runner has exited and a successor has returned `Completed`, only a
call that is still running can owe a promise, so all are set when none is. -/
theorem exactly_once_completion {builder : Builder} {initialSnapshot : FilterSnapshot}
    {maximumWorkers graceTimeout : Nat} {limits : FilterUpdateLimits} {start system : System}
    {labels : List Label}
    (hstart : System.new initialSnapshot maximumWorkers graceTimeout limits = some start)
    (hrun : Transition.run (System.step builder) start labels = some system) :
    (∀ command ∈ system.accepted,
      (system.results.map Prod.fst).count command.id ≤ 1) ∧
    (∀ command ∈ system.accepted, command.id ∉ system.results.map Prod.fst →
      (∃ queued ∈ system.controller.pending, queued.id = command.id) ∨
      (∃ journal, system.controller.inflight = some journal ∧ journal.id = command.id) ∨
      (∃ held ∈ system.runner.held, held.id = command.id) ∨
      ∃ call ∈ system.calls, ∃ held ∈ call.held, held.id = command.id) ∧
    (∀ command ∈ system.accepted, ∀ result, (command.id, result) ∈ system.results →
      ∀ version, result = .ok version ↔
        ∃ snapshot, (command.id, snapshot) ∈ system.commits ∧ snapshot.version = version) ∧
    (system.runnerExited = true → system.successorCompleted = true →
      ∀ command ∈ system.accepted, command.id ∉ system.results.map Prod.fst →
        ∃ call ∈ system.calls, ∃ held ∈ call.held, held.id = command.id) ∧
    (system.runnerExited = true → system.successorCompleted = true → system.calls = [] →
      ∀ command ∈ system.accepted, command.id ∈ system.results.map Prod.fst) := by
  obtain ⟨publicationStart, -, h⟩ := Inv.reached hstart hrun
  refine ⟨fun command _ => h.set_at_most_once command.id,
    fun command hcommand hunset => (h.unset_is_owed hcommand hunset).imp_right
      (Or.imp_left And.right),
    fun command _ result hresult version => h.result_iff_committed hresult version,
    fun hexited hsuccessor command hcommand => h.owed_by_call hexited hsuccessor hcommand, ?_⟩
  intro hexited hsuccessor hcalls command hcommand
  by_contra hunset
  obtain ⟨call, hcall, -⟩ := h.owed_by_call hexited hsuccessor hcommand hunset
  simp [hcalls] at hcall

/-- A run in which one call of `seal` has taken the queued command, a second
thread requests the terminal detach, the runner exits, and a successor returns
`Completed` before the first call has set the promise. -/
def sealInterrupted : List Label :=
  [.submitReplace [] false false, .callSeal false, .call 0, .call 0, .call 0, .callSeal true,
    .call 1, .call 1, .call 1, .call 1, .call 1, .startRunner, .runner 0 0 false,
    .runner 0 0 false, .runner 0 0 false, .runner 0 0 false, .runner 0 0 false,
    .runner 0 0 false, .runner 0 0 false, .runner 0 0 false, .runner 0 0 false,
    .callSuccessor, .call 1]

/-- The promise can be unset although the runner has exited and a successor has
returned `Completed`. -/
theorem unset_after_successor_completed : ∃ start system,
    System.new ⟨0, 1, 0, 0⟩ 1 1 {} = some start ∧
    Transition.run (System.step fun _ _ _ => .exception) start sealInterrupted = some system ∧
    system.runnerExited = true ∧ system.successorCompleted = true ∧
    ∃ command ∈ system.accepted, command.id ∉ system.results.map Prod.fst := by
  refine ⟨_, _, rfl, rfl, rfl, rfl, ⟨0, [], 0, .queued, none, none⟩, ?_, ?_⟩
  · exact List.mem_singleton_self _
  · exact List.not_mem_nil

/-- When the interrupted call goes on, the promise is set. -/
theorem set_when_seal_returns : ∃ start system,
    System.new ⟨0, 1, 0, 0⟩ 1 1 {} = some start ∧
    Transition.run (System.step fun _ _ _ => .exception) start
      (sealInterrupted ++ [.call 0, .call 0]) = some system ∧
    system.accepted.length = 1 ∧
    ∀ command ∈ system.accepted, command.id ∈ system.results.map Prod.fst := by
  refine ⟨_, _, rfl, rfl, rfl, ?_⟩
  exact (@exactly_once_completion (fun _ _ _ => .exception) ⟨0, 1, 0, 0⟩ 1 1 {} _ _
    (sealInterrupted ++ [.call 0, .call 0]) rfl rfl).2.2.2.2 rfl rfl rfl

end DnsPro.Update.System
