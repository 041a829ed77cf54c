import DnsPro.Publication.GracePeriod

/-!
# Update visibility

Once a generation has converged, no instance reads an older snapshot again:
the live ones have moved on, and the later ones start from a newer snapshot.
The bounds are fields of the invariant.  What a run never decreases is proved
from `Advances`, which lists what one step can do to the instances: where the
local snapshots after it come from, and how an epoch can change.
-/

namespace DnsPro.Publication.System

open FilterPublicationState

variable {system : System}

/-! ## What one step does to an instance -/

/-- Where a local snapshot after a step comes from. -/
def LocalOrigin (system : System) (entry : LocalSnapshot) : Prop :=
  system.latestInstance entry.workerId < entry.instanceId ∨
  ∃ old ∈ system.locals, old.workerId = entry.workerId ∧ old.instanceId = entry.instanceId ∧
    old.snapshot.generation ≤ entry.snapshot.generation

theorem LocalOrigin.of_mem {entry : LocalSnapshot} (hentry : entry ∈ system.locals) :
    LocalOrigin system entry :=
  Or.inr ⟨entry, hentry, rfl, rfl, le_rfl⟩

/-- How an epoch can change: a new instance comes in with a greater id, or the
instance stays and its acknowledgement does not decrease. -/
def EpochAdvances (old new : WorkerEpoch) : Prop :=
  old.publishedInstanceId < new.publishedInstanceId ∨
  old.publishedInstanceId = new.publishedInstanceId ∧
    old.observedGeneration ≤ new.observedGeneration

theorem EpochAdvances.refl (epoch : WorkerEpoch) : EpochAdvances epoch epoch :=
  Or.inr ⟨rfl, le_rfl⟩

theorem EpochAdvances.trans {first second third : WorkerEpoch}
    (h : EpochAdvances first second) (h' : EpochAdvances second third) :
    EpochAdvances first third := by
  unfold EpochAdvances at *
  omega

/-- What one step may do to the instances. -/
structure Advances (system next : System) : Prop where
  locals : ∀ entry ∈ next.locals, LocalOrigin system entry
  epochs : ∀ worker,
    EpochAdvances (system.publication.epochs worker) (next.publication.epochs worker)
  latest : ∀ worker, system.latestInstance worker ≤ next.latestInstance worker
  converged : system.publication.lastConvergedGeneration ≤
    next.publication.lastConvergedGeneration

/-- A step that changes neither the local snapshots nor the epochs. -/
theorem Advances.of_eq {next : System} (hlocals : next.locals = system.locals)
    (hepochs : next.publication.epochs = system.publication.epochs)
    (hlatest : next.latestInstance = system.latestInstance)
    (hconverged : system.publication.lastConvergedGeneration ≤
      next.publication.lastConvergedGeneration) : Advances system next where
  locals entry hentry := LocalOrigin.of_mem (hlocals ▸ hentry)
  epochs worker := by
    rw [hepochs]
    exact EpochAdvances.refl _
  latest worker := by rw [hlatest]
  converged := hconverged

/-- The steps that leave the workers' side of the state alone: those of the
reclaimer, of the emergency path and of the credit. -/
def Label.leavesFront : Label → Bool
  | .registerWorker _ _ | .markWorkerRegistered _ _ | .refreshWorkerSnapshot _ _
  | .dropLocalSnapshot _ _ | .quiesceWorker _ _ | .commit _ _ | .detachTerminalSnapshot _ => false
  | _ => true

theorem maximumWorkers_reclaimRecord (state : FilterPublicationState) (name : RecordName)
    (returnsCredit : Bool) :
    (state.reclaimRecord name returnsCredit).maximumWorkers = state.maximumWorkers := by
  cases name <;> cases returnsCredit <;> rfl

/-- No step changes how many workers there can be. -/
theorem maximumWorkers_step {label : System.Label} {next : System}
    (hstep : system.step label = some next) :
    next.publication.maximumWorkers = system.publication.maximumWorkers := by
  cases label with
  | registerWorker workerId instanceId =>
    obtain ⟨_, rfl⟩ := Transition.enabled hstep
    unfold System.register
    obtain heq | ⟨snapshot, -, -, -, -, heq⟩ :=
      registerWorker_cases system.publication workerId instanceId
    · simp only [heq]
    · simp only [heq]
  | refreshWorkerSnapshot workerId instanceId =>
    obtain rfl := Option.some.inj hstep
    unfold System.refresh
    obtain heq | ⟨next, held, advanced, -, -, -, -, heq⟩ := refreshWorkerSnapshot_cases
      system.publication (system.localSnapshot workerId instanceId) workerId instanceId
    · simp only [heq]
      split <;> rfl
    · simp only [heq]
  | markWorkerRegistered workerId instanceId =>
    obtain rfl := Option.some.inj hstep
    simp only [markWorkerRegistered]
    split_ifs <;> rfl
  | quiesceWorker workerId instanceId =>
    obtain ⟨_, rfl⟩ := Transition.enabled hstep
    simp only [quiesceWorker]
    split_ifs <;> rfl
  | acquireRetirementCredit stopRequested =>
    unfold System.step at hstep
    obtain ⟨result, hresult, rfl⟩ := Option.map_eq_some_iff.mp hstep
    unfold acquireRetirementCredit at hresult
    dsimp only at hresult
    split_ifs at hresult <;> obtain rfl := Option.some.inj hresult <;> rfl
  | releaseUncommittedCredit =>
    obtain rfl := Option.some.inj hstep
    simp only [releaseUncommittedCredit]
    split_ifs <;> rfl
  | commit candidate now =>
    obtain rfl := Option.some.inj hstep
    unfold System.publish
    rcases commit_cases system.publication candidate now with
      ⟨error, herror⟩ | ⟨next, rfl, -, -, -, -, -, hok⟩
    · rw [herror]
      cases candidate <;> rfl
    · rw [hok]
  | detachTerminalSnapshot now =>
    obtain ⟨_, rfl⟩ := Transition.enabled hstep
    unfold FilterPublicationState.detachTerminalSnapshot
    split_ifs
    · rfl
    · split <;> rfl
  | startReclaimer =>
    unfold System.step at hstep
    simp only at hstep
    split at hstep
    · obtain ⟨publication, hpublication, rfl⟩ := Option.map_eq_some_iff.mp hstep
      unfold startReclaimer at hpublication
      split_ifs at hpublication
      obtain rfl := Option.some.inj hpublication
      rfl
    · simp at hstep
  | reclaimerIteration now stopRequested =>
    unfold System.step at hstep
    simp only at hstep
    split at hstep
    · obtain rfl := Option.some.inj hstep
      unfold System.iterateReclaimer
      obtain ⟨code, failure, heq⟩ | heq | ⟨name, -, -, heq⟩ := reclaimerIteration_cases
        system.publication system.useCount now stopRequested
      · rw [heq]
      · rw [heq]
      · rw [heq]
        cases name <;> rfl
    · simp at hstep
  | resetSoleOwner | exitReclaimer =>
    unfold System.step at hstep
    simp only at hstep
    split at hstep
    · obtain rfl := Option.some.inj hstep
      rfl
    · simp at hstep
  | finishDestroy =>
    unfold System.step at hstep
    simp only at hstep
    split at hstep
    · rename_i name _ _ _
      obtain rfl := Option.some.inj hstep
      cases name <;> rfl
    · simp at hstep
  | emergencyReclaimConverged =>
    obtain rfl := Option.some.inj hstep
    unfold System.emergencyReclaim
    obtain heq | ⟨-, -, -, heq⟩ := emergencyReclaimConverged_cases system.publication
      system.useCount
    · rw [heq]
    · rw [heq]
      dsimp only
      split_ifs <;> simp only [maximumWorkers_reclaimRecord]
  | dropLocalSnapshot _ _ | sealPublication | publishProgress | requestReclaimerShutdown
  | injectReclaimerFailure | injectReclaimerFailureAfterNextCommit =>
    obtain rfl := Option.some.inj hstep
    rfl

namespace Inv

theorem advances_register (h : Inv system) {workerId instanceId : Nat}
    (hfresh : system.latestInstance workerId < instanceId) :
    Advances system (system.register workerId instanceId) := by
  have hlatest := latestInstance_le_update hfresh
  unfold System.register
  rcases registerWorker_cases system.publication workerId instanceId with
    hnone | ⟨snapshot, -, -, -, -, hsome⟩
  · simp only [hnone]
    exact ⟨fun entry hentry => LocalOrigin.of_mem hentry, fun _ => EpochAdvances.refl _, hlatest,
      le_rfl⟩
  · simp only [hsome]
    refine ⟨fun entry hentry => ?_, fun worker => ?_, hlatest, le_rfl⟩
    · rcases List.mem_cons.mp hentry with rfl | hentry
      · exact Or.inl hfresh
      · exact LocalOrigin.of_mem hentry
    · by_cases hw : worker = workerId
      · subst hw
        have := (h.instances worker).1
        refine Or.inl ?_
        simp only [Function.update_self]
        omega
      · simp only [Function.update_of_ne hw]
        exact EpochAdvances.refl _

theorem advances_markWorkerRegistered (workerId instanceId : Nat) :
    Advances system { system with
      publication := (system.publication.markWorkerRegistered workerId instanceId).2 } := by
  have hconverged : (system.publication.markWorkerRegistered workerId
      instanceId).2.lastConvergedGeneration = system.publication.lastConvergedGeneration := by
    unfold FilterPublicationState.markWorkerRegistered
    simp only
    split_ifs <;> rfl
  refine ⟨fun entry hentry => LocalOrigin.of_mem hentry, fun worker => ?_, fun _ => le_rfl,
    hconverged.ge⟩
  unfold FilterPublicationState.markWorkerRegistered
  simp only
  split_ifs
  · exact EpochAdvances.refl _
  · exact EpochAdvances.refl _
  · by_cases hw : worker = workerId
    · subst hw
      simp only [FilterPublicationState.setEpoch, Function.update_self]
      exact Or.inr ⟨rfl, le_rfl⟩
    · simp only [FilterPublicationState.setEpoch, Function.update_of_ne hw]
      exact EpochAdvances.refl _

theorem advances_quiesceWorker (workerId instanceId : Nat) :
    Advances system { system with
      publication := system.publication.quiesceWorker workerId instanceId } := by
  have hconverged : (system.publication.quiesceWorker workerId
      instanceId).lastConvergedGeneration = system.publication.lastConvergedGeneration := by
    unfold FilterPublicationState.quiesceWorker
    simp only
    split_ifs <;> rfl
  refine ⟨fun entry hentry => LocalOrigin.of_mem hentry, fun worker => ?_, fun _ => le_rfl,
    hconverged.ge⟩
  unfold FilterPublicationState.quiesceWorker
  simp only
  split_ifs
  · by_cases hw : worker = workerId
    · subst hw
      simp only [FilterPublicationState.setEpoch, Function.update_self]
      exact Or.inr ⟨rfl, le_rfl⟩
    · simp only [FilterPublicationState.setEpoch, Function.update_of_ne hw]
      exact EpochAdvances.refl _
  · exact EpochAdvances.refl _

theorem advances_refresh (h : Inv system) (workerId instanceId : Nat) :
    Advances system (system.refresh workerId instanceId) := by
  unfold System.refresh
  rcases refreshWorkerSnapshot_cases system.publication
    (system.localSnapshot workerId instanceId) workerId instanceId with
    hfail | ⟨next, held, advanced, hactive, hheld, hle, hobserved, hok⟩
  · simp only [hfail]
    split
    · rename_i snapshot hsnapshot
      refine ⟨fun entry hentry => ?_, fun _ => EpochAdvances.refl _, fun _ => le_rfl, le_rfl⟩
      obtain ⟨old, hold, rfl⟩ := List.mem_map.mp hentry
      refine Or.inr ⟨old, hold, ?_⟩
      split_ifs with hof
      · simp only [LocalSnapshot.of, decide_eq_true_eq] at hof
        rw [h.entry_eq hold (localSnapshot_eq_some hsnapshot) hof.1]
        exact ⟨rfl, rfl, le_rfl⟩
      · exact ⟨rfl, rfl, le_rfl⟩
    · exact Advances.of_eq rfl rfl rfl le_rfl
  · simp only [hok]
    refine ⟨fun entry hentry => ?_, fun worker => ?_, fun _ => le_rfl, le_rfl⟩
    · obtain ⟨old, hold, rfl⟩ := List.mem_map.mp hentry
      refine Or.inr ⟨old, hold, ?_⟩
      split_ifs with hof
      · simp only [LocalSnapshot.of, decide_eq_true_eq] at hof
        rw [h.entry_eq hold (localSnapshot_eq_some hheld) hof.1]
        exact ⟨rfl, rfl, hle⟩
      · exact ⟨rfl, rfl, le_rfl⟩
    · by_cases hw : worker = workerId
      · subst hw
        simp only [Function.update_self]
        exact Or.inr ⟨rfl, hobserved⟩
      · simp only [Function.update_of_ne hw]
        exact EpochAdvances.refl _

/-! ## Frames of the system's steps -/

theorem front_iterateReclaimer (system : System) (now : Nat) (stopRequested : Bool) :
    FrontEq system.publication (system.iterateReclaimer now stopRequested).publication ∧
      (system.iterateReclaimer now stopRequested).locals = system.locals ∧
      (system.iterateReclaimer now stopRequested).latestInstance = system.latestInstance := by
  have hfront := frontEq_reclaimerIteration system.publication system.useCount now stopRequested
  unfold System.iterateReclaimer
  split <;> rename_i hiteration <;> rw [hiteration] at hfront <;> exact ⟨hfront, rfl, rfl⟩

theorem front_emergencyReclaim (system : System) :
    FrontEq system.publication system.emergencyReclaim.publication ∧
      system.emergencyReclaim.locals = system.locals ∧
      system.emergencyReclaim.latestInstance = system.latestInstance := by
  have hfront := frontEq_emergencyReclaimConverged system.publication system.useCount
  unfold System.emergencyReclaim
  split <;> rename_i hreclaim <;> rw [hreclaim] at hfront <;> exact ⟨hfront, rfl, rfl⟩

theorem publish_frame (system : System) (candidate : Option FilterSnapshot) (now : Nat) :
    (system.publish candidate now).publication.epochs = system.publication.epochs ∧
      (system.publish candidate now).locals = system.locals ∧
      (system.publish candidate now).latestInstance = system.latestInstance ∧
      (system.publish candidate now).publication.lastConvergedGeneration =
        system.publication.lastConvergedGeneration ∧
      (system.publication.activeSnapshot ≠ none →
        (system.publish candidate now).publication.activeSnapshot ≠ none) := by
  unfold System.publish
  rcases commit_cases system.publication candidate now with
    ⟨error, herror⟩ | ⟨next, rfl, -, -, -, -, -, hok⟩
  · rw [herror]
    cases candidate <;> exact ⟨rfl, rfl, rfl, rfl, id⟩
  · rw [hok]
    exact ⟨rfl, rfl, rfl, rfl, fun _ => by simp⟩

theorem detachTerminalSnapshot_frame (publication : FilterPublicationState) (now : Nat) :
    (publication.detachTerminalSnapshot now).epochs = publication.epochs ∧
      (publication.detachTerminalSnapshot now).lastConvergedGeneration =
        publication.lastConvergedGeneration := by
  unfold FilterPublicationState.detachTerminalSnapshot
  split_ifs
  · exact ⟨rfl, rfl⟩
  · split <;> exact ⟨rfl, rfl⟩

theorem front_step {label : Label} {next : System} (hlabel : label.leavesFront = true)
    (hstep : system.step label = some next) :
    FrontEq system.publication next.publication ∧ next.locals = system.locals ∧
      next.latestInstance = system.latestInstance := by
  cases label with
  | registerWorker _ _ | markWorkerRegistered _ _ | refreshWorkerSnapshot _ _
  | dropLocalSnapshot _ _ | quiesceWorker _ _ | commit _ _ | detachTerminalSnapshot _ =>
    exact absurd hlabel Bool.false_ne_true
  | acquireRetirementCredit stopRequested =>
    unfold System.step at hstep
    obtain ⟨result, hresult, rfl⟩ := Option.map_eq_some_iff.mp hstep
    exact ⟨frontEq_acquireRetirementCredit hresult, rfl, rfl⟩
  | releaseUncommittedCredit =>
    obtain rfl := Option.some.inj hstep
    exact ⟨frontEq_releaseUncommittedCredit _, rfl, rfl⟩
  | startReclaimer =>
    unfold System.step at hstep
    simp only at hstep
    split at hstep
    · obtain ⟨publication, hpublication, rfl⟩ := Option.map_eq_some_iff.mp hstep
      exact ⟨frontEq_startReclaimer hpublication, rfl, rfl⟩
    · simp at hstep
  | reclaimerIteration now stopRequested =>
    unfold System.step at hstep
    simp only at hstep
    split at hstep
    · obtain rfl := Option.some.inj hstep
      exact front_iterateReclaimer system now stopRequested
    · simp at hstep
  | resetSoleOwner =>
    unfold System.step at hstep
    simp only at hstep
    split at hstep
    · obtain rfl := Option.some.inj hstep
      exact ⟨FrontEq.refl _, rfl, rfl⟩
    · simp at hstep
  | finishDestroy =>
    unfold System.step at hstep
    simp only at hstep
    split at hstep
    · obtain rfl := Option.some.inj hstep
      exact ⟨frontEq_finishDestroy _ _ _ _, rfl, rfl⟩
    · simp at hstep
  | exitReclaimer =>
    unfold System.step at hstep
    simp only at hstep
    split at hstep
    · obtain rfl := Option.some.inj hstep
      exact ⟨⟨⟨rfl, rfl, rfl, rfl, id⟩, rfl, rfl, le_rfl⟩, rfl, rfl⟩
    · simp at hstep
  | emergencyReclaimConverged =>
    obtain rfl := Option.some.inj hstep
    exact front_emergencyReclaim system
  | sealPublication =>
    obtain rfl := Option.some.inj hstep
    exact ⟨⟨⟨rfl, rfl, rfl, rfl, fun _ => rfl⟩, rfl, rfl, le_rfl⟩, rfl, rfl⟩
  | publishProgress | requestReclaimerShutdown | injectReclaimerFailure
  | injectReclaimerFailureAfterNextCommit =>
    obtain rfl := Option.some.inj hstep
    exact ⟨⟨⟨rfl, rfl, rfl, rfl, id⟩, rfl, rfl, le_rfl⟩, rfl, rfl⟩

/-- Every step only advances the instances. -/
theorem advances_step (h : Inv system) {label : Label} {next : System}
    (hstep : system.step label = some next) : Advances system next := by
  by_cases hfront : label.leavesFront = true
  · obtain ⟨hfront, hlocals, hlatest⟩ := front_step hfront hstep
    exact Advances.of_eq hlocals hfront.epochs hlatest hfront.converged
  cases label with
  | registerWorker workerId instanceId =>
    unfold System.step at hstep
    simp only at hstep
    split_ifs at hstep with hfresh
    obtain rfl := Option.some.inj hstep
    exact h.advances_register hfresh
  | markWorkerRegistered workerId instanceId =>
    obtain rfl := Option.some.inj hstep
    exact advances_markWorkerRegistered workerId instanceId
  | refreshWorkerSnapshot workerId instanceId =>
    obtain rfl := Option.some.inj hstep
    exact h.advances_refresh workerId instanceId
  | dropLocalSnapshot workerId instanceId =>
    obtain rfl := Option.some.inj hstep
    exact ⟨fun entry hentry => LocalOrigin.of_mem (List.mem_of_mem_filter hentry),
      fun _ => EpochAdvances.refl _, fun _ => le_rfl, le_rfl⟩
  | quiesceWorker workerId instanceId =>
    unfold System.step at hstep
    simp only at hstep
    split_ifs at hstep
    obtain rfl := Option.some.inj hstep
    exact advances_quiesceWorker workerId instanceId
  | commit candidate now =>
    obtain rfl := Option.some.inj hstep
    obtain ⟨hepochs, hlocals, hlatest, hconverged, -⟩ := publish_frame system candidate now
    exact Advances.of_eq hlocals hepochs hlatest hconverged.ge
  | detachTerminalSnapshot now =>
    unfold System.step at hstep
    simp only at hstep
    split_ifs at hstep
    obtain rfl := Option.some.inj hstep
    obtain ⟨hepochs, hconverged⟩ := detachTerminalSnapshot_frame system.publication now
    exact Advances.of_eq rfl hepochs rfl hconverged.ge
  | publishProgress | acquireRetirementCredit _ | releaseUncommittedCredit | sealPublication
  | startReclaimer | reclaimerIteration _ _ | resetSoleOwner | finishDestroy | exitReclaimer
  | requestReclaimerShutdown | injectReclaimerFailure | injectReclaimerFailureAfterNextCommit
  | emergencyReclaimConverged => exact absurd rfl hfront

/-! ## Whole runs -/

/-- Along a run, the acknowledgement of an instance does not decrease. -/
theorem epochs_run (h : Inv system) {labels : List Label} {later : System}
    (hrun : Transition.run System.step system labels = some later) (worker : Nat) :
    EpochAdvances (system.publication.epochs worker) (later.publication.epochs worker) := by
  have hboth := Transition.run_invariant
    (fun state : System => Inv state ∧
      EpochAdvances (system.publication.epochs worker) (state.publication.epochs worker))
    (fun state label next hstate hstep =>
      ⟨hstate.1.step hstep, hstate.2.trans ((hstate.1.advances_step hstep).epochs worker)⟩)
    ⟨h, EpochAdvances.refl _⟩ hrun
  exact hboth.2

/-- Along a run, the local snapshot of an instance does not get older. -/
theorem locals_run (h : Inv system) {labels : List Label} {later : System}
    (hrun : Transition.run System.step system labels = some later) {entry : LocalSnapshot}
    (hentry : entry ∈ system.locals) :
    ∀ after ∈ later.locals, after.workerId = entry.workerId →
      after.instanceId = entry.instanceId →
      entry.snapshot.generation ≤ after.snapshot.generation := by
  -- the id stays taken, so a later entry of the instance comes from this one
  have hboth := Transition.run_invariant
    (fun state : System => Inv state ∧
      entry.instanceId ≤ state.latestInstance entry.workerId ∧
      ∀ after ∈ state.locals, after.workerId = entry.workerId →
        after.instanceId = entry.instanceId →
        entry.snapshot.generation ≤ after.snapshot.generation)
    (fun state label next hstate hstep => by
      obtain ⟨hinv, htaken, hlocals⟩ := hstate
      have hadvances := hinv.advances_step hstep
      refine ⟨hinv.step hstep, htaken.trans (hadvances.latest _), ?_⟩
      intro after hafter hworker hinstance
      rcases hadvances.locals after hafter with hnew | ⟨old, hold, holdWorker, holdInstance, hle⟩
      · rw [hworker, hinstance] at hnew
        omega
      · exact (hlocals old hold (holdWorker.trans hworker) (holdInstance.trans hinstance)).trans
          hle)
    ⟨h, by
      have hpublished := (h.live entry hentry).published
      have := (h.instances entry.workerId).1
      omega, fun after hafter hworker _ => by rw [h.entry_eq hafter hentry hworker]⟩ hrun
  exact hboth.2.2

/-- The last converged generation does not decrease along a run. -/
theorem converged_run (h : Inv system) {labels : List Label} {later : System}
    (hrun : Transition.run System.step system labels = some later) :
    system.publication.lastConvergedGeneration ≤ later.publication.lastConvergedGeneration := by
  have hboth := Transition.run_invariant
    (fun state : System => Inv state ∧ system.publication.lastConvergedGeneration ≤
      state.publication.lastConvergedGeneration)
    (fun state label next hstate hstep =>
      ⟨hstate.1.step hstep, hstate.2.trans (hstate.1.advances_step hstep).converged⟩)
    ⟨h, le_rfl⟩ hrun
  exact hboth.2

/-- A live instance holds no more than the current generation. -/
theorem local_le_current (h : Inv system) {entry : LocalSnapshot}
    (hentry : entry ∈ system.locals) :
    entry.snapshot.generation ≤ system.publication.currentGeneration := by
  rcases h.place entry hentry with hactive | hretired | hterminal
  · exact (h.active_generation _ hactive).1.le
  · exact (h.retired_owner _ hretired.1).le
  · exact (h.terminal_owner _ hterminal.1).le

/-- The refresh of a live instance succeeds while a snapshot is active. -/
theorem refresh_ok (h : Inv system) {entry : LocalSnapshot} (hentry : entry ∈ system.locals)
    (hactive : system.publication.activeSnapshot ≠ none) :
    (system.publication.refreshWorkerSnapshot
      (system.localSnapshot entry.workerId entry.instanceId) entry.workerId
      entry.instanceId).ok = true := by
  have hlive := h.live entry hentry
  have hle := h.local_le_current hentry
  obtain ⟨next, hnext⟩ := Option.ne_none_iff_exists'.mp hactive
  have hgeneration := (h.active_generation next hnext).1
  have hlocal : system.localSnapshot entry.workerId entry.instanceId = some entry.snapshot := by
    cases hcase : system.localSnapshot entry.workerId entry.instanceId with
    | none => exact absurd ⟨rfl, rfl⟩ (localSnapshot_eq_none hcase entry hentry)
    | some snapshot =>
      have hsame := h.entry_eq hentry (localSnapshot_eq_some hcase) rfl
      rw [hsame]
  have hobserved := hlive.observed
  have hguard : ¬(entry.snapshot.generation > next.generation ∨
      (system.publication.epochs entry.workerId).observedGeneration >
        entry.snapshot.generation) := by
    omega
  unfold FilterPublicationState.refreshWorkerSnapshot
  rw [hlocal]
  simp only [hnext]
  rw [if_neg (by simp [hlive.published, hlive.state]), if_neg hguard]
  split_ifs <;> rfl

theorem current_register (workerId instanceId : Nat) :
    CurrentEq system.publication (system.register workerId instanceId).publication := by
  have hcurrent := currentEq_registerWorker system.publication workerId instanceId
  unfold System.register
  simp only
  split <;> rename_i hregister <;> rw [hregister] at hcurrent <;> exact hcurrent

theorem current_refresh (workerId instanceId : Nat) :
    CurrentEq system.publication (system.refresh workerId instanceId).publication := by
  have hcurrent := currentEq_refreshWorkerSnapshot system.publication
    (system.localSnapshot workerId instanceId) workerId instanceId
  unfold System.refresh
  simp only
  split <;> exact hcurrent

/-- A step that is neither a commit nor the detach leaves alone what is published. -/
theorem current_step {label : Label} {next : System} (hstep : system.step label = some next)
    (hcommit : ∀ candidate now, label ≠ .commit candidate now)
    (hdetach : ∀ now, label ≠ .detachTerminalSnapshot now) :
    CurrentEq system.publication next.publication := by
  by_cases hfront : label.leavesFront = true
  · exact (front_step hfront hstep).1.toCurrentEq
  cases label with
  | registerWorker workerId instanceId =>
    unfold System.step at hstep
    simp only at hstep
    split_ifs at hstep
    obtain rfl := Option.some.inj hstep
    exact current_register workerId instanceId
  | markWorkerRegistered workerId instanceId =>
    obtain rfl := Option.some.inj hstep
    exact currentEq_markWorkerRegistered _ workerId instanceId
  | refreshWorkerSnapshot workerId instanceId =>
    obtain rfl := Option.some.inj hstep
    exact current_refresh workerId instanceId
  | dropLocalSnapshot workerId instanceId =>
    obtain rfl := Option.some.inj hstep
    exact CurrentEq.refl _
  | quiesceWorker workerId instanceId =>
    unfold System.step at hstep
    simp only at hstep
    split_ifs at hstep
    obtain rfl := Option.some.inj hstep
    exact currentEq_quiesceWorker _ workerId instanceId
  | commit candidate now => exact absurd rfl (hcommit candidate now)
  | detachTerminalSnapshot now => exact absurd rfl (hdetach now)
  | publishProgress | acquireRetirementCredit _ | releaseUncommittedCredit | sealPublication
  | startReclaimer | reclaimerIteration _ _ | resetSoleOwner | finishDestroy | exitReclaimer
  | requestReclaimerShutdown | injectReclaimerFailure | injectReclaimerFailureAfterNextCommit
  | emergencyReclaimConverged => exact absurd rfl hfront

/-- The detach keeps the numbers and takes the active snapshot away. -/
theorem current_detachTerminalSnapshot (publication : FilterPublicationState) (now : Nat) :
    (publication.detachTerminalSnapshot now).currentGeneration = publication.currentGeneration ∧
    (publication.detachTerminalSnapshot now).currentRuleCount = publication.currentRuleCount ∧
    (publication.detachTerminalSnapshot now).currentNormalizedRuleBytes =
      publication.currentNormalizedRuleBytes ∧
    (publication.detachTerminalSnapshot now).publicationSealed = publication.publicationSealed ∧
    ∀ active, (publication.detachTerminalSnapshot now).activeSnapshot = some active →
      publication.activeSnapshot = some active := by
  unfold FilterPublicationState.detachTerminalSnapshot
  split_ifs
  · exact ⟨rfl, rfl, rfl, rfl, fun _ => id⟩
  · split
    · exact ⟨rfl, rfl, rfl, rfl, fun _ => id⟩
    · exact ⟨rfl, rfl, rfl, rfl, fun _ hactive => by simp at hactive⟩

/-- Only the terminal detach takes the active snapshot away. -/
theorem active_step {label : Label} {next : System} (hstep : system.step label = some next)
    (hlabel : ∀ now, label ≠ .detachTerminalSnapshot now)
    (hactive : system.publication.activeSnapshot ≠ none) :
    next.publication.activeSnapshot ≠ none := by
  by_cases hcommit : ∃ candidate now, label = .commit candidate now
  · obtain ⟨candidate, now, rfl⟩ := hcommit
    obtain rfl := Option.some.inj hstep
    exact (publish_frame system candidate now).2.2.2.2 hactive
  · have hcurrent := current_step hstep (fun candidate now heq => hcommit ⟨candidate, now, heq⟩)
      hlabel
    rw [hcurrent.activeSnapshot]
    exact hactive

/-- A snapshot is active until the terminal detach. -/
theorem active_run {start : System} {labels : List Label}
    (hstart : start.publication.activeSnapshot ≠ none)
    (hrun : Transition.run System.step start labels = some system)
    (hlabels : ∀ now, Label.detachTerminalSnapshot now ∉ labels) :
    system.publication.activeSnapshot ≠ none := by
  have htrace := Transition.run_trace_invariant
    (fun past (state : System) => (∀ now, Label.detachTerminalSnapshot now ∉ past) →
      state.publication.activeSnapshot ≠ none)
    (fun past state label next hstate hstep hpast => by
      refine active_step hstep (fun now heq => ?_) (hstate fun now hmem => ?_)
      · exact hpast now (by simp [heq])
      · exact hpast now (List.mem_append_left _ hmem))
    [] (fun _ => hstart) hrun
  exact htrace hlabels

end Inv

/-- The constructor publishes the initial snapshot. -/
theorem active_new {initialSnapshot : FilterSnapshot} {maximumWorkers graceTimeout : Nat}
    (h : System.new initialSnapshot maximumWorkers graceTimeout = some system) :
    system.publication.activeSnapshot ≠ none := by
  unfold System.new FilterPublicationState.new at h
  simp only at h
  split at h
  · simp at h
  · simp only [Option.map_some, Option.some.injEq] at h
    subst h
    simp

/-- Update visibility, in every state that a run reaches.  Once generation `g`
has converged, `wait_until_converged` reports it, and in this state and in every
later one each live instance holds a snapshot of generation at least `g`.  An
instance acknowledges at most what it holds and holds at most the active
generation, neither ever decreases, and its refresh succeeds until the terminal
detach. -/
theorem update_visibility {initialSnapshot : FilterSnapshot} {maximumWorkers graceTimeout : Nat}
    {start : System} {labels : List Label}
    (hstart : System.new initialSnapshot maximumWorkers graceTimeout = some start)
    (hrun : Transition.run System.step start labels = some system) :
    (∀ generation, generation ≤ system.publication.lastConvergedGeneration →
      system.publication.waitUntilConverged generation = some .converged ∧
      ∀ labels' later, Transition.run System.step system labels' = some later →
        ∀ entry ∈ later.locals, generation ≤ entry.snapshot.generation) ∧
    (∀ labels' later, Transition.run System.step system labels' = some later →
      (∀ entry ∈ system.locals, ∀ after ∈ later.locals, after.workerId = entry.workerId →
        after.instanceId = entry.instanceId →
        entry.snapshot.generation ≤ after.snapshot.generation) ∧
      ∀ worker, (later.publication.epochs worker).publishedInstanceId =
          (system.publication.epochs worker).publishedInstanceId →
        (system.publication.epochs worker).observedGeneration ≤
          (later.publication.epochs worker).observedGeneration) ∧
    (∀ entry ∈ system.locals,
      (system.publication.epochs entry.workerId).publishedInstanceId = entry.instanceId ∧
      (system.publication.epochs entry.workerId).observedGeneration ≤
        entry.snapshot.generation ∧
      entry.snapshot.generation ≤ system.publication.currentGeneration) ∧
    (∀ active, system.publication.activeSnapshot = some active →
      active.generation = system.publication.currentGeneration) ∧
    ((∀ now, Label.detachTerminalSnapshot now ∉ labels) → ∀ entry ∈ system.locals,
      (system.publication.refreshWorkerSnapshot
        (system.localSnapshot entry.workerId entry.instanceId) entry.workerId
        entry.instanceId).ok = true) := by
  have h : Inv system := (Inv.start hstart).run hrun
  refine ⟨?_, ?_, ?_, fun active hactive => (h.active_generation active hactive).1, ?_⟩
  · intro generation hconverged
    refine ⟨?_, ?_⟩
    · unfold FilterPublicationState.waitUntilConverged
      rw [if_pos hconverged]
    · intro labels' later hlater entry hentry
      have hmonotone := h.converged_run hlater
      have hholds := (h.run hlater).converged.2 entry hentry
      omega
  · intro labels' later hlater
    refine ⟨fun entry hentry => h.locals_run hlater hentry, fun worker hsame => ?_⟩
    rcases h.epochs_run hlater worker with hlt | ⟨-, hle⟩
    · omega
    · exact hle
  · intro entry hentry
    have hlive := h.live entry hentry
    exact ⟨hlive.published, hlive.observed, h.local_le_current hentry⟩
  · intro hlabels entry hentry
    exact h.refresh_ok hentry (Inv.active_run (active_new hstart) hrun hlabels)

/-- After one update has converged, the worker reads the new snapshot. -/
theorem visibility_of_one_update : ∃ start system,
    System.new ⟨0, 1, 0, 0⟩ 1 1 = some start ∧
    Transition.run System.step start oneUpdate = some system ∧
    system.publication.lastConvergedGeneration = 2 ∧
    system.publication.waitUntilConverged 2 = some .converged ∧
    ∀ labels' later, Transition.run System.step system labels' = some later →
      ∀ entry ∈ later.locals, 2 ≤ entry.snapshot.generation := by
  refine ⟨_, _, rfl, rfl, rfl, ?_⟩
  exact (@update_visibility _ ⟨0, 1, 0, 0⟩ 1 1 _ oneUpdate rfl rfl).1 2 le_rfl

end DnsPro.Publication.System
