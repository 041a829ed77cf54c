import DnsPro.Lib.Keyed
import DnsPro.Update.Completion

/-!
# Linearized updates

Updates take effect one at a time, in the order of the queue: the successful
commands get consecutive generations, what is published is always what the last
commit published, and a command that ends in an error has published nothing.

`commits_step` says which steps commit.  Everything else follows from the
invariant, in which the published numbers are a function of the commits.
-/

namespace DnsPro.Update.System

open DnsPro.Protocol DnsPro.Publication

variable {builder : Builder} {start : Publication.System} {initialSnapshot : FilterSnapshot}
  {system : System}

/-! ## Which steps commit -/

theorem commits_stepSeal (system : System) (point : SealPoint) :
    (system.stepSeal point).2.commits = system.commits := by
  cases point with
  | requestStop => rfl
  | sealPublication => rfl
  | swap => rfl
  | completing cancelled => cases cancelled <;> rfl

theorem commits_commitCandidate (system : System) (command : Command)
    (candidate : FilterSnapshot) (now : Nat) :
    (system.commitCandidate command candidate now).commits = system.commits ∨
    system.publication.publication.currentGeneration ≠ maximumGeneration ∧
      (system.commitCandidate command candidate now).commits =
        system.commits ++ [(command.id, candidate)] := by
  unfold System.commitCandidate
  rcases FilterPublicationState.commit_cases system.publication.publication (some candidate) now
    with ⟨error, herror⟩ | ⟨next, hnext, -, -, -, hmaximum, -, hok⟩
  · simp only [herror]
    exact Or.inl trivial
  · simp only [hok]
    exact Or.inr ⟨hmaximum, trivial⟩

/-- Inside `apply`, only the commit of the inflight command commits. -/
theorem commits_stepApply {command : Command} {choice now : Nat} {next : System}
    (hstep : system.stepApply builder command choice now = some next) :
    next.commits = system.commits ∨
    system.publication.publication.currentGeneration ≠ maximumGeneration ∧
      ∃ candidate, next.commits = system.commits ++ [(command.id, candidate)] := by
  unfold System.stepApply at hstep
  cases hrunner : system.runner with
  | publishing candidate =>
    simp only [hrunner, Option.some.injEq] at hstep
    subst hstep
    rcases commits_commitCandidate system command candidate now with hsame | ⟨hmaximum, hnew⟩
    · exact Or.inl hsame
    · exact Or.inr ⟨hmaximum, candidate, hnew⟩
  | acquiring current =>
    simp only [hrunner] at hstep
    obtain ⟨acquired, -, rfl⟩ := Option.map_eq_some_iff.mp hstep
    exact Or.inl rfl
  | awaiting version =>
    simp only [hrunner] at hstep
    obtain ⟨result, -, rfl⟩ := Option.map_eq_some_iff.mp hstep
    exact Or.inl rfl
  | built nextGeneration outcome =>
    rw [hrunner] at hstep
    cases outcome with
    | failure error =>
      obtain rfl := Option.some.inj hstep
      exact Or.inl rfl
    | exception =>
      obtain rfl := Option.some.inj hstep
      exact Or.inl rfl
    | candidate snapshot =>
      cases snapshot with
      | none =>
        obtain rfl := Option.some.inj hstep
        exact Or.inl rfl
      | some candidate =>
        simp only at hstep
        split_ifs at hstep <;> obtain rfl := Option.some.inj hstep <;> exact Or.inl rfl
  | committed version =>
    simp only [hrunner] at hstep
    split_ifs at hstep <;> obtain rfl := Option.some.inj hstep <;> exact Or.inl rfl
  | checkingStop | readingVersion | building _ | buildFailed _ | caught | releasing _ =>
    rw [hrunner] at hstep
    obtain rfl := Option.some.inj hstep
    exact Or.inl rfl
  | idle | waiting | detaching | returned _ | completed | sealing _ | cancelling
  | completingCancelled _ | closing =>
    rw [hrunner] at hstep
    exact absurd hstep (by simp)

theorem commits_stepRunner {choice now : Nat} {throws : Bool} {next : System}
    (hstep : system.stepRunner builder choice now throws = some next) :
    next.commits = system.commits ∨
    system.publication.publication.currentGeneration ≠ maximumGeneration ∧
      ∃ command candidate, system.controller.inflight = some command ∧
        next.commits = system.commits ++ [(command.id, candidate)] := by
  unfold System.stepRunner at hstep
  cases hrunner : system.runner with
  | idle =>
    rw [hrunner] at hstep
    exact absurd hstep (by simp)
  | waiting =>
    simp only [hrunner] at hstep
    split_ifs at hstep
    · obtain rfl := Option.some.inj hstep
      exact Or.inl rfl
    · obtain ⟨wakeup, -, rfl⟩ := Option.map_eq_some_iff.mp hstep
      exact Or.inl rfl
  | returned result =>
    simp only [hrunner] at hstep
    obtain ⟨command, -, rfl⟩ := Option.map_eq_some_iff.mp hstep
    unfold System.stepReturned
    split <;> exact Or.inl rfl
  | sealing point =>
    have hsame := commits_stepSeal system point
    simp only [hrunner] at hstep
    split at hstep <;> rename_i hpoint <;> rw [hpoint] at hsame <;>
      obtain rfl := Option.some.inj hstep <;> exact Or.inl hsame
  | completingCancelled cancelled =>
    rw [hrunner] at hstep
    cases cancelled <;> obtain rfl := Option.some.inj hstep <;> exact Or.inl rfl
  | closing =>
    simp only [hrunner] at hstep
    split at hstep <;> obtain rfl := Option.some.inj hstep <;> exact Or.inl rfl
  | detaching | completed | cancelling =>
    rw [hrunner] at hstep
    obtain rfl := Option.some.inj hstep
    exact Or.inl rfl
  | checkingStop | readingVersion | acquiring _ | building _ | built _ _ | buildFailed _ | caught
  | releasing _ | publishing _ | committed _ | awaiting _ =>
    simp only [hrunner] at hstep
    obtain ⟨command, hinflight, hstep⟩ := Option.bind_eq_some_iff.mp hstep
    rcases commits_stepApply hstep with hsame | ⟨hmaximum, candidate, hnew⟩
    · exact Or.inl hsame
    · exact Or.inr ⟨hmaximum, command, candidate, hinflight, hnew⟩

theorem commits_stepSuccessor {point : SuccessorPoint} {outcome : Option SuccessorPoint × System}
    (hstep : system.stepSuccessor point = some outcome) :
    outcome.2.commits = system.commits := by
  cases point with
  | entering =>
    simp only [System.stepSuccessor] at hstep
    split at hstep <;> obtain rfl := Option.some.inj hstep <;> rfl
  | waiting published =>
    simp only [System.stepSuccessor] at hstep
    obtain ⟨result, -, rfl⟩ := Option.map_eq_some_iff.mp hstep
    cases result <;> rfl
  | taking published =>
    simp only [System.stepSuccessor] at hstep
    split at hstep <;> obtain rfl := Option.some.inj hstep <;> rfl
  | completing command result =>
    obtain rfl := Option.some.inj hstep
    rfl

theorem commits_stepCall {index : Nat} {next : System}
    (hstep : system.stepCall index = some next) : next.commits = system.commits := by
  unfold System.stepCall at hstep
  cases hget : system.calls[index]? with
  | none =>
    rw [hget] at hstep
    exact absurd hstep (by simp)
  | some call =>
    cases call with
    | sealCall point terminalDetach =>
      have hsame := commits_stepSeal system point
      simp only [hget] at hstep
      split at hstep
      · rename_i hpoint
        rw [hpoint] at hsame
        obtain rfl := Option.some.inj hstep
        exact hsame
      · rename_i hpoint
        rw [hpoint] at hsame
        split_ifs at hstep <;> obtain rfl := Option.some.inj hstep <;> exact hsame
    | requestDetach =>
      simp only [hget, Option.some.injEq] at hstep
      subst hstep
      rfl
    | successor point =>
      simp only [hget] at hstep
      split at hstep
      · exact absurd hstep (by simp)
      · rename_i hpoint
        obtain rfl := Option.some.inj hstep
        exact commits_stepSuccessor hpoint
      · rename_i hpoint
        obtain rfl := Option.some.inj hstep
        exact commits_stepSuccessor hpoint

/-- A step commits nothing, or it is the commit of the command in the journal,
and then the generation was not exhausted. -/
theorem commits_step {label : Label} {next : System}
    (hstep : system.step builder label = some next) :
    next.commits = system.commits ∨
    system.publication.publication.currentGeneration ≠ maximumGeneration ∧
      ∃ command candidate, system.controller.inflight = some command ∧
        next.commits = system.commits ++ [(command.id, candidate)] := by
  cases label with
  | submitReplace rules allocationFails pushFails =>
    obtain rfl := Option.some.inj hstep
    unfold System.submitReplace
    split
    · exact Or.inl rfl
    · split
      · exact Or.inl rfl
      · simp only
        split <;> exact Or.inl rfl
  | startRunner =>
    unfold System.step at hstep
    simp only at hstep
    split_ifs at hstep
    obtain rfl := Option.some.inj hstep
    exact Or.inl rfl
  | runner choice now throws => exact commits_stepRunner hstep
  | call index => exact Or.inl (commits_stepCall hstep)
  | publication label =>
    obtain ⟨-, publication, -, rfl⟩ := Inv.step_publication hstep
    exact Or.inl rfl
  | callSeal _ | callSuccessor | injectPostcommitFailure =>
    obtain rfl := Option.some.inj hstep
    exact Or.inl rfl

/-! ## Consecutive generations -/

/-- The generation that the command was told, if its promise was set to success. -/
def successGeneration (system : System) (id : Nat) : Option Nat :=
  match system.results.lookup id with
  | some (.ok version) => some version.generation
  | _ => none

/-- The commits whose promise is set. -/
def reportedCommits (system : System) : List (Nat × FilterSnapshot) :=
  system.commits.filter fun commit => commit.1 ∈ system.results.map Prod.fst

namespace Inv

theorem results_nodup (h : Inv builder start initialSnapshot system) :
    (system.results.map Prod.fst).Nodup :=
  List.nodup_iff_count_le_one.mpr h.set_at_most_once

theorem mem_accepted_of_commit (h : Inv builder start initialSnapshot system)
    {commit : Nat × FilterSnapshot} (hcommit : commit ∈ system.commits) :
    ∃ command ∈ system.accepted, command.id = commit.1 := by
  obtain ⟨original, horiginal, hid, -⟩ := h.built commit hcommit
  exact ⟨original, horiginal, hid⟩

/-- A commit that is not reported yet is the last one. -/
theorem unreported_newest (h : Inv builder start initialSnapshot system)
    {commit : Nat × FilterSnapshot} (hcommit : commit ∈ system.commits)
    (hunset : commit.1 ∉ system.results.map Prod.fst) :
    ∀ other ∈ system.commits, other.1 ≤ commit.1 := by
  obtain ⟨command, hcommand, hid⟩ := h.mem_accepted_of_commit hcommit
  have hmem : commit.1 ∈ system.commits.map Prod.fst := List.mem_map_of_mem hcommit
  rw [← hid] at hunset hmem ⊢
  rcases h.unset_is_owed hcommand hunset with ⟨queued, hqueued, hsame⟩ |
    ⟨hrunner, journal, hjournal, hsame⟩ | ⟨held, hheld, hsame⟩ | ⟨call, hcall, held, hheld, hsame⟩
  · exact absurd (hsame ▸ hmem) (h.pending_uncommitted queued hqueued)
  · rw [← hsame]
    exact (h.journal_ok hrunner journal hjournal).1
  · -- what the runner took off the queue is not committed
    have hok := h.runner_ok
    cases hrunner : system.runner with
    | sealing point =>
      rw [hrunner] at hok hheld
      cases point with
      | completing cancelled => exact absurd (hsame ▸ hmem) (hok.1.2 held hheld)
      | requestStop | sealPublication | swap => exact absurd hheld List.not_mem_nil
    | completingCancelled cancelled =>
      rw [hrunner] at hok hheld
      exact absurd (hsame ▸ hmem) (hok.2.2.1 held hheld)
    | idle | waiting | detaching | checkingStop | readingVersion | acquiring _ | building _
    | built _ _ | buildFailed _ | caught | releasing _ | publishing _ | committed _ | awaiting _
    | returned _ | completed | cancelling | closing =>
      rw [hrunner] at hheld
      exact absurd hheld List.not_mem_nil
  · have hok := h.calls_ok call hcall
    cases call with
    | sealCall point terminalDetach =>
      cases point with
      | completing cancelled => exact absurd (hsame ▸ hmem) (hok.2 held hheld)
      | requestStop | sealPublication | swap => exact absurd hheld List.not_mem_nil
    | requestDetach => exact absurd hheld List.not_mem_nil
    | successor point =>
      cases point with
      | completing journal result =>
        rw [← hsame, List.mem_singleton.mp hheld]
        exact hok.2.2.1
      | entering | waiting _ | taking _ => exact absurd hheld List.not_mem_nil

/-- The reported commits have consecutive generations. -/
theorem reported_generations (h : Inv builder start initialSnapshot system) :
    ∃ count, system.reportedCommits.map (·.2.generation) =
      List.range' (initialSnapshot.generation + 1) count := by
  have hgenerations := h.generations
  rcases List.eq_nil_or_concat system.commits with hnil | ⟨before, last, hlast⟩
  · exact ⟨0, by simp [reportedCommits, hnil]⟩
  rw [List.concat_eq_append] at hlast
  have hsorted := h.commits_sorted
  rw [hlast, List.map_append, List.pairwise_append] at hsorted
  have hbefore : before.filter (fun commit => commit.1 ∈ system.results.map Prod.fst) = before := by
    refine List.filter_eq_self.mpr fun commit hcommit => ?_
    by_contra hunset
    have hnewest := h.unreported_newest (by simp [hlast, hcommit] : commit ∈ system.commits)
      (by simpa using hunset) last (by simp [hlast])
    have := hsorted.2.2 commit.1 (List.mem_map_of_mem hcommit) last.1 (by simp)
    omega
  unfold reportedCommits
  rw [hlast, List.filter_append, hbefore]
  rw [hlast, List.length_append, List.length_singleton, List.range'_concat] at hgenerations
  by_cases hset : last.1 ∈ system.results.map Prod.fst
  · refine ⟨before.length + 1, ?_⟩
    rw [List.filter_cons_of_pos (by simpa using hset), List.filter_nil, List.range'_concat]
    exact hgenerations
  · refine ⟨before.length, ?_⟩
    rw [List.filter_cons_of_neg (by simpa using hset), List.filter_nil, List.append_nil]
    rw [List.map_append] at hgenerations
    exact List.append_inj_left' hgenerations rfl

/-- The generation a command was told is that of its reported commit. -/
theorem successGeneration_eq (h : Inv builder start initialSnapshot system) (id : Nat) :
    system.successGeneration id =
      (system.reportedCommits.map fun commit => (commit.1, commit.2.generation)).lookup id := by
  have hsorted : (system.reportedCommits.map Prod.fst).Nodup := by
    have hall : (system.commits.map Prod.fst).Nodup :=
      h.commits_sorted.imp fun hlt => Nat.ne_of_lt hlt
    exact hall.sublist (List.filter_sublist.map _)
  have hkeys : ((system.reportedCommits.map fun commit => (commit.1, commit.2.generation)).map
      Prod.fst).Nodup := by
    rw [List.map_map]
    exact hsorted
  refine Option.ext fun generation => ?_
  rw [Keyed.lookup_eq_some_iff hkeys]
  constructor
  · intro hsuccess
    unfold successGeneration at hsuccess
    split at hsuccess
    · rename_i version hlookup
      have hresult := (Keyed.lookup_eq_some_iff h.results_nodup id _).mp hlookup
      obtain ⟨snapshot, hmem, hversion⟩ := (h.result_iff_committed hresult version).mp rfl
      obtain rfl := Option.some.inj hsuccess
      refine List.mem_map.mpr ⟨(id, snapshot), ?_, by rw [← hversion]; rfl⟩
      exact List.mem_filter.mpr ⟨hmem, by simpa using ⟨_, hresult⟩⟩
    · simp at hsuccess
  · intro hmem
    obtain ⟨⟨commitId, snapshot⟩, hcommit, hpair⟩ := List.mem_map.mp hmem
    obtain ⟨rfl, rfl⟩ := Prod.mk.inj hpair
    obtain ⟨hcommit, hset⟩ := List.mem_filter.mp hcommit
    obtain ⟨result, hresult⟩ : ∃ result, (commitId, result) ∈ system.results := by
      simpa using hset
    have hok := (h.result_iff_committed hresult snapshot.version).mpr ⟨snapshot, hcommit, rfl⟩
    have hlookup := (Keyed.lookup_eq_some_iff h.results_nodup _ _).mpr hresult
    unfold successGeneration
    rw [hlookup, hok]
    rfl

/-- Read in queue order, the successes have consecutive generations. -/
theorem success_generations (h : Inv builder start initialSnapshot system) :
    ∃ count, system.accepted.filterMap (fun command => system.successGeneration command.id) =
      List.range' (initialSnapshot.generation + 1) count := by
  obtain ⟨count, hcount⟩ := h.reported_generations
  refine ⟨count, ?_⟩
  have hkeys : ((system.reportedCommits.map fun commit => (commit.1, commit.2.generation)).map
      Prod.fst).Pairwise (· < ·) := by
    rw [List.map_map]
    exact h.commits_sorted.sublist (List.filter_sublist.map _)
  have hbound : ∀ entry ∈ system.reportedCommits.map
      (fun commit => (commit.1, commit.2.generation)), entry.1 < system.accepted.length := by
    intro entry hentry
    obtain ⟨commit, hcommit, rfl⟩ := List.mem_map.mp hentry
    exact h.commit_lt (List.mem_filter.mp hcommit).1
  calc system.accepted.filterMap (fun command => system.successGeneration command.id)
      = (system.accepted.map (·.id)).filterMap system.successGeneration := by
        rw [List.filterMap_map]
        rfl
    _ = (List.range system.accepted.length).filterMap fun id =>
          (system.reportedCommits.map fun commit => (commit.1, commit.2.generation)).lookup id := by
        rw [h.ids]
        exact List.filterMap_congr fun id _ => h.successGeneration_eq id
    _ = system.reportedCommits.map (·.2.generation) := by
        rw [Keyed.filterMap_lookup_range _ hkeys hbound, List.map_map]
        rfl
    _ = List.range' (initialSnapshot.generation + 1) count := hcount

/-! ## What is published -/

/-- Before the seal, the last committed snapshot is the active one. -/
theorem active_unsealed (h : Inv builder start initialSnapshot system)
    (hstart : Publication.System.Inv start)
    (hopen : system.publication.publication.publicationSealed = false) :
    system.publication.publication.activeSnapshot =
      some (lastSnapshot initialSnapshot system.commits) := by
  obtain ⟨labels, hrun⟩ := h.reachable
  cases hactive : system.publication.publication.activeSnapshot with
  | none => exact absurd ((hstart.run hrun).detached_sealed hactive) (by simp [hopen])
  | some active => rw [h.active_snapshot active hactive]

/-- The last snapshot is the initial one, or the one that the builder returned
for the rules of the command committed last. -/
theorem lastSnapshot_origin (h : Inv builder start initialSnapshot system) :
    system.commits = [] ∧ lastSnapshot initialSnapshot system.commits = initialSnapshot ∨
    ∃ command ∈ system.accepted, ∃ choice,
      system.commits.getLast? =
        some (command.id, lastSnapshot initialSnapshot system.commits) ∧
      builder choice command.rules (lastSnapshot initialSnapshot system.commits).generation =
        .candidate (some (lastSnapshot initialSnapshot system.commits)) := by
  rcases List.eq_nil_or_concat system.commits with hnil | ⟨before, ⟨id, last⟩, hlast⟩
  · exact Or.inl ⟨hnil, by rw [hnil]; rfl⟩
  · rw [List.concat_eq_append] at hlast
    obtain ⟨command, hcommand, hid, choice, hbuilt⟩ := h.built (id, last) (by simp [hlast])
    rw [hlast, lastSnapshot_append]
    exact Or.inr ⟨command, hcommand, choice, by simp [hid], hbuilt⟩

/-- Two states with the same commits publish the same. -/
theorem published_eq (h : Inv builder start initialSnapshot system) {next : System}
    (hnext : Inv builder start initialSnapshot next) (hsame : next.commits = system.commits) :
    next.publication.publication.currentGeneration =
      system.publication.publication.currentGeneration ∧
    next.publication.publication.currentRuleCount =
      system.publication.publication.currentRuleCount ∧
    next.publication.publication.currentNormalizedRuleBytes =
      system.publication.publication.currentNormalizedRuleBytes ∧
    ∀ active active', system.publication.publication.activeSnapshot = some active →
      next.publication.publication.activeSnapshot = some active' → active' = active := by
  obtain ⟨hgeneration, hrules, hbytes⟩ := h.current
  obtain ⟨hgeneration', hrules', hbytes'⟩ := hnext.current
  rw [hsame] at hgeneration' hrules' hbytes'
  refine ⟨hgeneration'.trans hgeneration.symm, hrules'.trans hrules.symm,
    hbytes'.trans hbytes.symm, fun active active' hactive hactive' => ?_⟩
  rw [h.active_snapshot active hactive, hnext.active_snapshot active' hactive', hsame]

/-- At the greatest generation nothing is committed any more. -/
theorem commits_exhausted (h : Inv builder start initialSnapshot system)
    (hmaximum : system.publication.publication.currentGeneration = maximumGeneration)
    {labels : List Label} {later : System}
    (hrun : Transition.run (System.step builder) system labels = some later) :
    later.commits = system.commits := by
  have hboth := Transition.run_invariant
    (fun state : System => Inv builder start initialSnapshot state ∧
      state.commits = system.commits)
    (fun state label next hstate hstep => by
      obtain ⟨hinv, hsame⟩ := hstate
      refine ⟨hinv.step hstep, ?_⟩
      rcases commits_step hstep with hkept | ⟨hnotMaximum, -⟩
      · exact hkept.trans hsame
      · exact absurd ((h.published_eq hinv hsame).1.trans hmaximum) hnotMaximum)
    ⟨h, rfl⟩ hrun
  exact hboth.2

end Inv

/-- Linearized updates, in every state that an interleaving reaches.  Read in
queue order, the successful commands have the generations after the initial one,
without a gap.  What is published is the snapshot committed last, which the
builder returned for the rules of its command.  A command whose result is an
error committed nothing, and a step that commits nothing leaves alone what is
published.  At the greatest generation a command ends in `GenerationExhausted`,
and nothing that is published changes any more. -/
theorem linearized_updates {maximumWorkers graceTimeout : Nat} {limits : FilterUpdateLimits}
    {first : System} {labels : List Label}
    (hstart : System.new initialSnapshot maximumWorkers graceTimeout limits = some first)
    (hrun : Transition.run (System.step builder) first labels = some system) :
    (∃ count, system.accepted.filterMap (fun command => system.successGeneration command.id) =
      List.range' (initialSnapshot.generation + 1) count) ∧
    (system.publication.publication.currentGeneration =
        (lastSnapshot initialSnapshot system.commits).generation ∧
      system.publication.publication.currentRuleCount =
        (lastSnapshot initialSnapshot system.commits).ruleCount ∧
      system.publication.publication.currentNormalizedRuleBytes =
        (lastSnapshot initialSnapshot system.commits).normalizedRuleBytes ∧
      (∀ active, system.publication.publication.activeSnapshot = some active →
        active = lastSnapshot initialSnapshot system.commits) ∧
      (system.publication.publication.publicationSealed = false →
        system.publication.publication.activeSnapshot =
          some (lastSnapshot initialSnapshot system.commits))) ∧
    (system.commits = [] ∧ lastSnapshot initialSnapshot system.commits = initialSnapshot ∨
      ∃ command ∈ system.accepted, ∃ choice,
        system.commits.getLast? =
          some (command.id, lastSnapshot initialSnapshot system.commits) ∧
        builder choice command.rules (lastSnapshot initialSnapshot system.commits).generation =
          .candidate (some (lastSnapshot initialSnapshot system.commits))) ∧
    (∀ command ∈ system.accepted, ∀ error, (command.id, .error error) ∈ system.results →
      ∀ snapshot, (command.id, snapshot) ∉ system.commits) ∧
    (∀ label next, system.step builder label = some next →
      (next.commits = system.commits ∧
        next.publication.publication.currentGeneration =
          system.publication.publication.currentGeneration ∧
        next.publication.publication.currentRuleCount =
          system.publication.publication.currentRuleCount ∧
        next.publication.publication.currentNormalizedRuleBytes =
          system.publication.publication.currentNormalizedRuleBytes ∧
        ∀ active active', system.publication.publication.activeSnapshot = some active →
          next.publication.publication.activeSnapshot = some active' → active' = active) ∨
      ∃ command candidate, system.controller.inflight = some command ∧
        next.commits = system.commits ++ [(command.id, candidate)]) ∧
    (system.publication.publication.currentGeneration = maximumGeneration →
      (system.runner = .readingVersion → ∀ choice now throws,
        system.step builder (.runner choice now throws) = some { system with
          runner := .returned (.error { code := .generationExhausted }) }) ∧
      ∀ labels' later, Transition.run (System.step builder) system labels' = some later →
        later.commits = system.commits ∧
        later.publication.publication.currentGeneration = maximumGeneration) := by
  obtain ⟨publication, hpublication, h⟩ := Inv.reached hstart hrun
  have hpublicationInv := Publication.System.Inv.start hpublication
  obtain ⟨hgeneration, hrules, hbytes⟩ := h.current
  refine ⟨h.success_generations, ⟨hgeneration, hrules, hbytes, h.active_snapshot,
    h.active_unsealed hpublicationInv⟩, h.lastSnapshot_origin, ?_, ?_, ?_⟩
  · intro command _ error herror snapshot hmem
    exact absurd (List.mem_map_of_mem hmem) (h.settled _ herror)
  · intro label next hstep
    rcases commits_step hstep with hsame | ⟨-, command, candidate, hinflight, hnew⟩
    · exact Or.inl ⟨hsame, h.published_eq (h.step hstep) hsame⟩
    · exact Or.inr ⟨command, candidate, hinflight, hnew⟩
  · intro hmaximum
    refine ⟨fun hrunner choice now throws => ?_, fun labels' later hlater => ?_⟩
    · have hok := h.runner_ok
      rw [hrunner] at hok
      obtain ⟨command, hinflight, -⟩ := hok
      show system.stepRunner builder choice now throws = _
      unfold System.stepRunner
      simp only [hrunner, hinflight, Option.bind_some]
      unfold System.stepApply
      simp only [hrunner]
      rw [if_pos (show system.publication.publication.currentVersion.generation = _ from hmaximum)]
    · have hsame := h.commits_exhausted hmaximum hlater
      exact ⟨hsame, (h.published_eq (h.run hlater) hsame).1.trans hmaximum⟩

/-- A builder that rejects the empty rule set. -/
def sampleBuilder : Builder := fun _ rules generation =>
  if rules = [] then .failure ⟨.invalidDomain, 0⟩
  else .candidate (some ⟨generation, generation, rules.length, 7⟩)

/-- The empty rule set and then the rule `a` are submitted; the first command
fails, and the second is committed and converges. -/
def rejectedThenCommitted : List Label :=
  [.submitReplace [] false false, .submitReplace [[0x61]] false false, .startRunner] ++
    List.replicate 17 (.runner 0 0 false) ++
    [.publication .startReclaimer, .publication (.reclaimerIteration 0 false)] ++
    List.replicate 2 (.runner 0 0 false)

theorem linearized_rejectedThenCommitted : ∃ first system,
    System.new ⟨0, 1, 0, 0⟩ 1 1 {} = some first ∧
    Transition.run (System.step sampleBuilder) first rejectedThenCommitted = some system ∧
    system.results = [(0, .error { code := .buildFailed, buildError := some ⟨.invalidDomain, 0⟩ }),
      (1, .ok ⟨2, 1⟩)] ∧
    ∃ count, system.accepted.filterMap (fun command => system.successGeneration command.id) =
      List.range' 2 count := by
  refine ⟨_, _, rfl, rfl, rfl, ?_⟩
  exact (@linearized_updates sampleBuilder ⟨0, 1, 0, 0⟩ _ 1 1 {} _ rejectedThenCommitted rfl
    rfl).1

end DnsPro.Update.System
