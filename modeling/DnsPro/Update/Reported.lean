import DnsPro.Publication.Locals
import DnsPro.Update.Linearization

/-!
# What a success says

A promise is set to success only after the generation has converged, and the published
snapshots are the initial one and those of the commits, in this order.  `Publishes` is what a
step of the controller does to the publication, and `Told` are the versions that a promise was
told, or is about to be.
-/

namespace DnsPro.Update

open DnsPro.Protocol DnsPro.Publication

/-- The success that the runner is about to report. -/
def Runner.told : Runner → Option FilterVersion
  | .returned (.ok version) => some version
  | _ => none

/-- The success that the call is about to report. -/
def Call.told : Call → Option FilterVersion
  | .successor (.taking version) => some version
  | .successor (.completing _ (.ok version)) => some version
  | _ => none

namespace System

variable {builder : Builder} {start : Publication.System} {initialSnapshot : FilterSnapshot}
  {system next : System}

/-- The publication and the commits before and after a step of the controller.  No worker
calls. -/
inductive Publishes : Publication.System → List (Nat × FilterSnapshot) → Publication.System →
    List (Nat × FilterSnapshot) → Prop where
  | stay (publication commits) : Publishes publication commits publication commits
  | call {publication next} (commits) (label : Publication.System.Label)
      (hcaller : label.caller = none) (hcommit : ∀ candidate now, label ≠ .commit candidate now)
      (hstep : publication.step label = some next) : Publishes publication commits next commits
  | refused {publication : Publication.System} (commits) {candidate : FilterSnapshot} {now : Nat}
      {error : FilterCommitError}
      (herror : (publication.publication.commit (some candidate) now).1 = .error error) :
      Publishes publication commits (publication.publish (some candidate) now) commits
  | commit {publication : Publication.System} (commits) (id : Nat) {candidate : FilterSnapshot}
      {now : Nat} {version : FilterVersion}
      (hok : (publication.publication.commit (some candidate) now).1 = .ok version) :
      Publishes publication commits (publication.publish (some candidate) now)
        (commits ++ [(id, candidate)])

/-- Success with the version was reported, or is about to be. -/
def Told (system : System) (version : FilterVersion) : Prop :=
  (∃ id, (id, .ok version) ∈ system.results) ∨ system.runner.told = some version ∨
    ∃ call ∈ system.calls, call.told = some version

/-- The version was told, or its generation has converged. -/
def Confirmed (system : System) (version : FilterVersion) : Prop :=
  system.Told version ∨
    system.publication.publication.waitUntilConverged version.generation = some .converged

/-! ## What is published -/

theorem Publishes.step {publication next : Publication.System}
    {commits commits' : List (Nat × FilterSnapshot)}
    (h : Publishes publication commits next commits') :
    next = publication ∨ ∃ label, label.caller = none ∧ publication.step label = some next := by
  cases h with
  | stay => exact .inl rfl
  | call _ label hcaller _ hstep => exact .inr ⟨label, hcaller, hstep⟩
  | @refused _ candidate now => exact .inr ⟨.commit (some candidate) now, rfl, rfl⟩
  | @commit _ _ candidate now => exact .inr ⟨.commit (some candidate) now, rfl, rfl⟩

theorem Publishes.published {publication next : Publication.System}
    {commits commits' : List (Nat × FilterSnapshot)}
    (h : Publishes publication commits next commits')
    (hpublished : publication.published = initialSnapshot :: commits.map Prod.snd) :
    next.published = initialSnapshot :: commits'.map Prod.snd := by
  cases h with
  | stay => exact hpublished
  | call _ _ _ hcommit hstep =>
    exact (Publication.System.published_of_step hcommit hstep).trans hpublished
  | @refused _ candidate now _ herror =>
    rw [← hpublished]
    unfold Publication.System.publish
    rcases FilterPublicationState.commit_cases publication.publication (some candidate) now with
      ⟨error, hcommit⟩ | ⟨active, -, -, -, -, -, -, hcommit⟩
    · rw [hcommit]
    · rw [hcommit] at herror
      cases herror
  | @commit _ _ candidate now version hok =>
    rw [List.map_append, ← List.cons_append, ← hpublished]
    unfold Publication.System.publish
    rcases FilterPublicationState.commit_cases publication.publication (some candidate) now with
      ⟨error, hcommit⟩ | ⟨active, hactive, -, -, -, -, -, hcommit⟩
    · rw [hcommit] at hok
      cases hok
    · rw [hcommit]
      rfl

/-! ## What is told -/

theorem told_of (hresults : ∀ id version, (id, .ok version) ∈ next.results →
      (id, .ok version) ∈ system.results ∨ system.Confirmed version)
    (hrunner : ∀ version, next.runner.told = some version → system.Confirmed version)
    (hcalls : ∀ call ∈ next.calls, call ∈ system.calls ∨
      ∀ version, call.told = some version → system.Confirmed version)
    (version : FilterVersion) (htold : next.Told version) : system.Confirmed version := by
  rcases htold with ⟨id, hresult⟩ | hrunning | ⟨call, hcall, hcalled⟩
  · rcases hresults id version hresult with hbefore | hconfirmed
    · exact .inl (.inl ⟨id, hbefore⟩)
    · exact hconfirmed
  · exact hrunner version hrunning
  · rcases hcalls call hcall with hbefore | hconfirmed
    · exact .inl (.inr (.inr ⟨call, hbefore, hcalled⟩))
    · exact hconfirmed version hcalled

/-- A runner that is not about to report success. -/
theorem confirmed_of_silent (system : System) {runner : Runner} (hsilent : runner.told = none)
    (version : FilterVersion) (htold : runner.told = some version) : system.Confirmed version := by
  rw [hsilent] at htold
  cases htold

/-- What a step of the controller does: to the publication, and what it says. -/
structure Moved (system next : System) : Prop where
  publishes : Publishes system.publication system.commits next.publication next.commits
  confirmed : ∀ version, next.Told version → system.Confirmed version

/-- A step of the runner that reports nothing. -/
theorem Moved.running
    (hpublishes : Publishes system.publication system.commits next.publication next.commits)
    (hresults : next.results = system.results) (hcalls : next.calls = system.calls)
    (hrunner : next.runner.told = none) : Moved system next where
  publishes := hpublishes
  confirmed := by
    refine told_of (fun id version hmem => .inl (hresults ▸ hmem))
      (system.confirmed_of_silent hrunner) fun call hmem => .inl (hcalls ▸ hmem)

/-- The promise of a command is set to an error. -/
theorem mem_complete_error {command : Command} {error : FilterUpdateError} {id : Nat}
    {version : FilterVersion}
    (hmem : (id, .ok version) ∈ (system.complete command (.error error)).results) :
    (id, .ok version) ∈ system.results := by
  rcases List.mem_append.mp hmem with hbefore | hnew
  · exact hbefore
  · cases List.mem_singleton.mp hnew

/-! ## The runner -/

/-- A step of `seal`. -/
theorem stepSeal_publishes (system : System) (point : SealPoint) :
    Publishes system.publication system.commits (system.stepSeal point).2.publication
        (system.stepSeal point).2.commits ∧
      (system.stepSeal point).2.runner = system.runner ∧
      (system.stepSeal point).2.calls = system.calls ∧
      ∀ id version, (id, .ok version) ∈ (system.stepSeal point).2.results →
        (id, .ok version) ∈ system.results := by
  cases point with
  | sealPublication =>
    have hcall : Publishes system.publication system.commits
        { system.publication with publication := system.publication.publication.sealPublication }
        system.commits := .call _ .sealPublication rfl (fun _ _ heq => by cases heq) rfl
    exact ⟨hcall, rfl, rfl, fun _ _ hmem => hmem⟩
  | requestStop | swap => exact ⟨.stay _ _, rfl, rfl, fun _ _ hmem => hmem⟩
  | completing cancelled =>
    cases cancelled with
    | nil => exact ⟨.stay _ _, rfl, rfl, fun _ _ hmem => hmem⟩
    | cons command cancelled =>
      exact ⟨.stay _ _, rfl, rfl, fun _ _ hmem => mem_complete_error hmem⟩

theorem releaseCredit_publishes (system : System) :
    Publishes system.publication system.commits system.releaseCredit.publication
      system.releaseCredit.commits :=
  .call _ .releaseUncommittedCredit rfl (fun _ _ heq => by cases heq) rfl

theorem commitCandidate_moved (system : System) (command : Command) (candidate : FilterSnapshot)
    (now : Nat) : Moved system (system.commitCandidate command candidate now) := by
  unfold System.commitCandidate
  cases hcommit : (system.publication.publication.commit (some candidate) now).1 with
  | error error => exact .running (.refused _ hcommit) rfl rfl rfl
  | ok version => exact .running (.commit _ _ hcommit) rfl rfl rfl

theorem stepApply_moved {command : Command} {choice now : Nat}
    (hstep : system.stepApply builder command choice now = some next) : Moved system next := by
  unfold System.stepApply at hstep
  cases hrunner : system.runner with
  | checkingStop | readingVersion =>
    rw [hrunner] at hstep
    obtain rfl := Option.some.inj hstep
    refine .running (.stay _ _) rfl rfl ?_
    dsimp only
    split <;> rfl
  | acquiring current =>
    simp only [hrunner] at hstep
    obtain ⟨⟨acquired, state⟩, hacquire, rfl⟩ := Option.map_eq_some_iff.mp hstep
    refine .running (.call _ (.acquireRetirementCredit system.controller.buildStopRequested) rfl
      (fun _ _ heq => by cases heq) ?_) rfl rfl ?_
    · simp only [Publication.System.step, hacquire, Option.map_some]
      rfl
    · cases acquired <;> rfl
  | built nextGeneration outcome =>
    rw [hrunner] at hstep
    cases outcome with
    | failure error | exception =>
      obtain rfl := Option.some.inj hstep
      exact .running system.releaseCredit_publishes rfl rfl rfl
    | candidate snapshot =>
      cases snapshot with
      | none =>
        obtain rfl := Option.some.inj hstep
        exact .running (.stay _ _) rfl rfl rfl
      | some candidate =>
        simp only at hstep
        split_ifs at hstep <;> obtain rfl := Option.some.inj hstep <;>
          exact .running (.stay _ _) rfl rfl rfl
  | releasing code =>
    rw [hrunner] at hstep
    obtain rfl := Option.some.inj hstep
    exact .running system.releaseCredit_publishes rfl rfl rfl
  | publishing candidate =>
    simp only [hrunner, Option.some.injEq] at hstep
    subst hstep
    exact system.commitCandidate_moved command candidate now
  | committed version =>
    simp only [hrunner] at hstep
    split_ifs at hstep <;> obtain rfl := Option.some.inj hstep <;>
      exact .running (.stay _ _) rfl rfl rfl
  | awaiting version =>
    simp only [hrunner] at hstep
    obtain ⟨result, hresult, rfl⟩ := Option.map_eq_some_iff.mp hstep
    refine ⟨.stay _ _, told_of (fun id version hmem => .inl hmem) ?_ fun call hmem => .inl hmem⟩
    intro told htold
    cases result with
    | converged =>
      obtain rfl := Option.some.inj htold
      exact .inr hresult
    | reclaimerUnavailable | internalError => cases htold
  | building _ | buildFailed _ | caught =>
    rw [hrunner] at hstep
    obtain rfl := Option.some.inj hstep
    exact .running (.stay _ _) rfl rfl rfl
  | idle | waiting | detaching | returned _ | completed | sealing _ | cancelling
  | completingCancelled _ | closing =>
    rw [hrunner] at hstep
    cases hstep

/-- The result of `apply` reaches the promise. -/
theorem stepReturned_moved {command : Command} {result : FilterUpdateResult}
    (hrunner : system.runner = .returned result) :
    Moved system (system.stepReturned command result) := by
  unfold System.stepReturned
  split
  · exact .running (.stay _ _) rfl rfl rfl
  · refine ⟨.stay _ _, told_of (fun id version hmem => ?_)
      (system.confirmed_of_silent rfl) fun call hmem => .inl hmem⟩
    rcases List.mem_append.mp hmem with hbefore | hnew
    · exact .inl hbefore
    · obtain ⟨-, rfl⟩ := Prod.mk.inj (List.mem_singleton.mp hnew)
      exact .inr (.inl (.inr (.inl (by rw [hrunner]; rfl))))

theorem stepRunner_moved (h : Inv builder start initialSnapshot system) {choice now : Nat}
    {throws : Bool} (hstep : system.stepRunner builder choice now throws = some next) :
    Moved system next := by
  have hok := h.runner_ok
  unfold System.stepRunner at hstep
  cases hrunner : system.runner with
  | idle =>
    rw [hrunner] at hstep
    cases hstep
  | waiting =>
    simp only [hrunner] at hstep
    split_ifs at hstep
    · obtain rfl := Option.some.inj hstep
      exact .running (.stay _ _) rfl rfl rfl
    · obtain ⟨⟨wakeup, controller⟩, -, rfl⟩ := Option.map_eq_some_iff.mp hstep
      refine .running (.stay _ _) rfl rfl ?_
      cases wakeup <;> rfl
  | detaching =>
    rw [hrunner] at hstep hok
    obtain rfl := Option.some.inj hstep
    exact .running (.call _ (.detachTerminalSnapshot now) rfl (fun _ _ heq => by cases heq)
      (if_pos hok.2)) rfl rfl rfl
  | returned result =>
    simp only [hrunner] at hstep
    obtain ⟨command, -, rfl⟩ := Option.map_eq_some_iff.mp hstep
    exact stepReturned_moved hrunner
  | sealing point =>
    obtain ⟨hpublishes, -, hcalls, hresults⟩ := system.stepSeal_publishes point
    simp only [hrunner] at hstep
    split at hstep <;> rename_i hpoint <;> rw [hpoint] at hpublishes hcalls hresults <;>
      obtain rfl := Option.some.inj hstep
    all_goals exact ⟨hpublishes, told_of (fun id version hmem => .inl (hresults id version hmem))
      (system.confirmed_of_silent rfl) fun call hmem => .inl (hcalls ▸ hmem)⟩
  | completingCancelled cancelled =>
    rw [hrunner] at hstep
    cases cancelled with
    | nil =>
      obtain rfl := Option.some.inj hstep
      exact .running (.stay _ _) rfl rfl rfl
    | cons command cancelled =>
      obtain rfl := Option.some.inj hstep
      exact ⟨.stay _ _, told_of (fun id version hmem => .inl (mem_complete_error hmem))
        (system.confirmed_of_silent rfl) fun call hmem => .inl hmem⟩
  | closing =>
    simp only [hrunner] at hstep
    split at hstep
    · obtain rfl := Option.some.inj hstep
      exact ⟨.stay _ _, told_of (fun id version hmem => .inl (mem_complete_error hmem))
        (system.confirmed_of_silent rfl) fun call hmem => .inl hmem⟩
    · obtain rfl := Option.some.inj hstep
      exact .running (.stay _ _) rfl rfl rfl
  | completed | cancelling =>
    rw [hrunner] at hstep
    obtain rfl := Option.some.inj hstep
    exact .running (.stay _ _) rfl rfl rfl
  | checkingStop | readingVersion | acquiring _ | building _ | built _ _ | buildFailed _ | caught
  | releasing _ | publishing _ | committed _ | awaiting _ =>
    simp only [hrunner] at hstep
    obtain ⟨command, -, hstep⟩ := Option.bind_eq_some_iff.mp hstep
    exact stepApply_moved hstep

/-! ## The calls of other threads -/

/-- A step of `complete_committed_by_successor`. -/
theorem stepSuccessor_told {point : SuccessorPoint} {outcome : Option SuccessorPoint × System}
    (hstep : system.stepSuccessor point = some outcome) :
    Publishes system.publication system.commits outcome.2.publication outcome.2.commits ∧
      outcome.2.runner = system.runner ∧ outcome.2.calls = system.calls ∧
      (∀ id version, (id, .ok version) ∈ outcome.2.results →
        (id, .ok version) ∈ system.results ∨
          (Call.successor point).told = some version) ∧
      ∀ after, outcome.1 = some after → ∀ version, (Call.successor after).told = some version →
        (Call.successor point).told = some version ∨
          system.publication.publication.waitUntilConverged version.generation =
            some .converged := by
  have hsame : ∀ id (version : FilterVersion), (id, .ok version) ∈ system.results →
      (id, .ok version) ∈ system.results ∨ (Call.successor point).told = some version :=
    fun _ _ hmem => .inl hmem
  cases point with
  | entering =>
    simp only [System.stepSuccessor] at hstep
    split at hstep <;> obtain rfl := Option.some.inj hstep <;>
      refine ⟨.stay _ _, rfl, rfl, hsame, fun after hafter version htold => ?_⟩ <;>
      cases hafter <;> cases htold
  | waiting published =>
    simp only [System.stepSuccessor] at hstep
    obtain ⟨result, hresult, rfl⟩ := Option.map_eq_some_iff.mp hstep
    cases result with
    | converged =>
      refine ⟨.stay _ _, rfl, rfl, hsame, fun after hafter version htold => .inr ?_⟩
      obtain rfl := Option.some.inj hafter
      obtain rfl := Option.some.inj htold
      exact hresult
    | reclaimerUnavailable | internalError =>
      exact ⟨.stay _ _, rfl, rfl, hsame, fun after hafter => by cases hafter⟩
  | taking published =>
    simp only [System.stepSuccessor] at hstep
    split at hstep <;> obtain rfl := Option.some.inj hstep <;>
      refine ⟨.stay _ _, rfl, rfl, hsame, fun after hafter version htold => .inl ?_⟩
    · cases hafter
    · obtain rfl := Option.some.inj hafter
      cases htold
    · obtain rfl := Option.some.inj hafter
      exact htold
  | completing command result =>
    obtain rfl := Option.some.inj hstep
    refine ⟨.stay _ _, rfl, rfl, fun id version hmem => ?_, fun after hafter => by cases hafter⟩
    rcases List.mem_append.mp hmem with hbefore | hnew
    · exact .inl hbefore
    · obtain ⟨-, rfl⟩ := Prod.mk.inj (List.mem_singleton.mp hnew)
      exact .inr rfl

theorem stepCall_moved {index : Nat} (hstep : system.stepCall index = some next) :
    Moved system next := by
  unfold System.stepCall at hstep
  cases hget : system.calls[index]? with
  | none =>
    rw [hget] at hstep
    cases hstep
  | some call =>
    have hcall : call ∈ system.calls := List.mem_of_getElem? hget
    have hrunning : ∀ version, system.runner.told = some version → system.Confirmed version :=
      fun version htold => .inl (.inr (.inl htold))
    cases call with
    | sealCall point terminalDetach =>
      obtain ⟨hpublishes, hrunner, hcalls, hresults⟩ := system.stepSeal_publishes point
      simp only [hget] at hstep
      split at hstep
      · rename_i hpoint
        rw [hpoint] at hpublishes hrunner hcalls hresults
        obtain rfl := Option.some.inj hstep
        refine ⟨hpublishes, told_of (fun id version hmem => .inl (hresults id version hmem))
          (fun version htold => hrunning version (hrunner ▸ htold)) fun call hmem => ?_⟩
        rcases List.mem_or_eq_of_mem_set hmem with hbefore | rfl
        · exact .inl (hcalls ▸ hbefore)
        · exact .inr fun version htold => by cases htold
      · rename_i hpoint
        rw [hpoint] at hpublishes hrunner hcalls hresults
        split_ifs at hstep
        · obtain rfl := Option.some.inj hstep
          refine ⟨hpublishes, told_of (fun id version hmem => .inl (hresults id version hmem))
            (fun version htold => hrunning version (hrunner ▸ htold)) fun call hmem => ?_⟩
          rcases List.mem_or_eq_of_mem_set hmem with hbefore | rfl
          · exact .inl (hcalls ▸ hbefore)
          · exact .inr fun version htold => by cases htold
        · obtain rfl := Option.some.inj hstep
          exact ⟨hpublishes, told_of (fun id version hmem => .inl (hresults id version hmem))
            (fun version htold => hrunning version (hrunner ▸ htold))
            fun call hmem => .inl (hcalls ▸ List.mem_of_mem_eraseIdx hmem)⟩
    | requestDetach =>
      simp only [hget, Option.some.injEq] at hstep
      subst hstep
      exact ⟨.stay _ _, told_of (fun id version hmem => .inl hmem) hrunning
        fun call hmem => .inl (List.mem_of_mem_eraseIdx hmem)⟩
    | successor point =>
      have hpast : ∀ version, (Call.successor point).told = some version →
          system.Confirmed version :=
        fun version htold => .inl (.inr (.inr ⟨_, hcall, htold⟩))
      simp only [hget] at hstep
      split at hstep
      · cases hstep
      · rename_i hpoint
        obtain rfl := Option.some.inj hstep
        obtain ⟨hpublishes, hrunner, hcalls, hresults, hafter⟩ := stepSuccessor_told hpoint
        refine ⟨hpublishes, told_of (fun id version hmem => (hresults id version hmem).imp_right
          (hpast version)) (fun version htold => hrunning version (hrunner ▸ htold))
          fun call hmem => ?_⟩
        rcases List.mem_or_eq_of_mem_set hmem with hbefore | rfl
        · exact .inl (hcalls ▸ hbefore)
        · refine .inr fun version htold => ?_
          rcases hafter _ rfl version htold with hbefore | hconverged
          · exact hpast version hbefore
          · exact .inr hconverged
      · rename_i hpoint
        obtain rfl := Option.some.inj hstep
        obtain ⟨hpublishes, hrunner, hcalls, hresults, -⟩ := stepSuccessor_told hpoint
        exact ⟨hpublishes, told_of (fun id version hmem => (hresults id version hmem).imp_right
          (hpast version)) (fun version htold => hrunning version (hrunner ▸ htold))
          fun call hmem => .inl (hcalls ▸ List.mem_of_mem_eraseIdx hmem)⟩

/-! ## All steps -/

/-- What a step of the controller does.  Those of the publication are apart. -/
theorem moved_of_step (h : Inv builder start initialSnapshot system) {label : Label}
    (hlabel : ∀ label', label ≠ .publication label')
    (hstep : system.step builder label = some next) : Moved system next := by
  have hkept : ∀ version, system.runner.told = some version → system.Confirmed version :=
    fun version htold => .inl (.inr (.inl htold))
  cases label with
  | submitReplace rules allocationFails pushFails =>
    obtain rfl := Option.some.inj hstep
    unfold System.submitReplace
    have hrefl : Moved system system :=
      ⟨.stay _ _, told_of (fun id version hmem => .inl hmem) hkept fun call hmem => .inl hmem⟩
    split
    · exact hrefl
    · split
      · exact hrefl
      · dsimp only
        split
        · exact hrefl
        · exact ⟨.stay _ _, told_of (fun id version hmem => .inl hmem) hkept
            fun call hmem => .inl hmem⟩
  | startRunner =>
    unfold System.step at hstep
    dsimp only at hstep
    split_ifs at hstep
    obtain rfl := Option.some.inj hstep
    exact .running (.stay _ _) rfl rfl rfl
  | runner choice now throws => exact stepRunner_moved h hstep
  | call index => exact stepCall_moved hstep
  | publication label => exact absurd rfl (hlabel label)
  | callSeal terminalDetach | callSuccessor =>
    obtain rfl := Option.some.inj hstep
    refine ⟨.stay _ _, told_of (fun id version hmem => .inl hmem) hkept fun call hmem => ?_⟩
    rcases List.mem_append.mp hmem with hbefore | hnew
    · exact .inl hbefore
    · rw [List.mem_singleton.mp hnew]
      exact .inr fun version htold => by cases htold
  | injectPostcommitFailure =>
    obtain rfl := Option.some.inj hstep
    exact ⟨.stay _ _, told_of (fun id version hmem => .inl hmem) hkept fun call hmem => .inl hmem⟩

end System

end DnsPro.Update
