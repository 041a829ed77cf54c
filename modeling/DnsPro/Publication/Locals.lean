import DnsPro.Publication.Visibility

/-!
# The local snapshot of one instance

What the steps of the publication do to the local snapshot of an instance: only its own calls
change it, it is always a snapshot that was published, and a refresh that succeeds makes it
the active one.
-/

namespace DnsPro.Publication.System

open FilterPublicationState

variable {system next : System} {entry : LocalSnapshot}

/-- The instance that makes the call itself, with its own local snapshot. -/
def Label.caller : Label → Option (Nat × Nat)
  | .refreshWorkerSnapshot workerId instanceId => some (workerId, instanceId)
  | .dropLocalSnapshot workerId instanceId => some (workerId, instanceId)
  | _ => none

/-! ## What was published -/

theorem published_register (system : System) (workerId instanceId : Nat) :
    (system.register workerId instanceId).published = system.published := by
  unfold register
  dsimp only
  split
  · rfl
  · rfl

theorem published_refresh (system : System) (workerId instanceId : Nat) :
    (system.refresh workerId instanceId).published = system.published := by
  unfold refresh
  dsimp only
  split
  · rfl
  · rfl

theorem published_iterateReclaimer (system : System) (now : Nat) (stopRequested : Bool) :
    (system.iterateReclaimer now stopRequested).published = system.published := by
  unfold iterateReclaimer
  split
  · rfl
  · rfl
  · rfl

theorem published_emergencyReclaim (system : System) :
    system.emergencyReclaim.published = system.published := by
  unfold emergencyReclaim
  split
  · rfl
  · rfl

/-- Only a commit publishes. -/
theorem published_of_step {label : Label} (hcommit : ∀ candidate now, label ≠ .commit candidate now)
    (hstep : system.step label = some next) : next.published = system.published := by
  cases label with
  | registerWorker workerId instanceId =>
    obtain ⟨-, rfl⟩ := Transition.enabled hstep
    exact published_register system workerId instanceId
  | refreshWorkerSnapshot workerId instanceId =>
    obtain rfl := Option.some.inj hstep
    exact published_refresh system workerId instanceId
  | commit candidate now => exact absurd rfl (hcommit candidate now)
  | quiesceWorker | detachTerminalSnapshot =>
    obtain ⟨-, rfl⟩ := Transition.enabled hstep
    rfl
  | acquireRetirementCredit =>
    obtain ⟨result, -, rfl⟩ := Option.map_eq_some_iff.mp hstep
    rfl
  | startReclaimer =>
    unfold System.step at hstep
    dsimp only at hstep
    split at hstep
    · obtain ⟨publication, -, rfl⟩ := Option.map_eq_some_iff.mp hstep
      rfl
    · cases hstep
  | reclaimerIteration now stopRequested =>
    unfold System.step at hstep
    dsimp only at hstep
    split at hstep
    · obtain rfl := Option.some.inj hstep
      exact published_iterateReclaimer system now stopRequested
    · cases hstep
  | resetSoleOwner | finishDestroy | exitReclaimer =>
    unfold System.step at hstep
    dsimp only at hstep
    split at hstep
    · obtain rfl := Option.some.inj hstep
      rfl
    · cases hstep
  | emergencyReclaimConverged =>
    obtain rfl := Option.some.inj hstep
    exact published_emergencyReclaim system
  | markWorkerRegistered | dropLocalSnapshot | publishProgress | releaseUncommittedCredit
  | sealPublication | requestReclaimerShutdown | injectReclaimerFailure
  | injectReclaimerFailureAfterNextCommit =>
    obtain rfl := Option.some.inj hstep
    rfl

/-- What was published stays published. -/
theorem published_step {label : Label} (hstep : system.step label = some next) :
    system.published ⊆ next.published := by
  by_cases hcommit : ∃ candidate now, label = .commit candidate now
  · obtain ⟨candidate, now, rfl⟩ := hcommit
    obtain rfl := Option.some.inj hstep
    unfold publish
    split
    · exact List.subset_append_left _ _
    · exact List.Subset.refl _
  · have hsame := published_of_step (fun candidate now heq => hcommit ⟨candidate, now, heq⟩) hstep
    exact hsame.symm ▸ List.Subset.refl _

/-- What `wait_until_converged` reports. -/
theorem converged_of_wait {publication : FilterPublicationState} {generation : Nat}
    (h : publication.waitUntilConverged generation = some .converged) :
    generation ≤ publication.lastConvergedGeneration := by
  unfold waitUntilConverged at h
  split at h
  · assumption
  · split at h
    · cases h
    · cases h

/-- An instance holds a snapshot that was published. -/
theorem Inv.local_published (h : Inv system) (hentry : entry ∈ system.locals) :
    entry.snapshot ∈ system.published := by
  rw [h.accounted.mem_iff, List.mem_append]
  refine .inr ?_
  unfold held
  rcases h.place entry hentry with hactive | ⟨howner, -⟩ | ⟨howner, -⟩
  · simp [hactive]
  · simp [howner]
  · simp [howner]

/-- The current generation only grows. -/
theorem generation_step {label : Label} (hstep : system.step label = some next) :
    system.publication.currentGeneration ≤ next.publication.currentGeneration := by
  by_cases hcommit : ∃ candidate now, label = .commit candidate now
  · obtain ⟨candidate, now, rfl⟩ := hcommit
    obtain rfl := Option.some.inj hstep
    unfold publish
    rcases commit_cases system.publication candidate now with
      ⟨error, herror⟩ | ⟨active, rfl, -, -, -, -, hgeneration, hok⟩
    · rw [herror]
      cases candidate with
      | none | some => exact Nat.le_refl _
    · rw [hok]
      show system.publication.currentGeneration ≤ active.generation
      omega
  · by_cases hdetach : ∃ now, label = .detachTerminalSnapshot now
    · obtain ⟨now, rfl⟩ := hdetach
      obtain ⟨-, rfl⟩ := Transition.enabled hstep
      exact (Inv.current_detachTerminalSnapshot system.publication now).1.ge
    · have hcurrent := Inv.current_step hstep (fun candidate now heq => hcommit ⟨candidate, now, heq⟩)
        fun now heq => hdetach ⟨now, heq⟩
      exact hcurrent.currentGeneration.ge

/-! ## The calls of the instance -/

theorem Inv.localSnapshot_eq (h : Inv system) (hentry : entry ∈ system.locals) :
    system.localSnapshot entry.workerId entry.instanceId = some entry.snapshot := by
  cases hlocal : system.localSnapshot entry.workerId entry.instanceId with
  | none => exact absurd ⟨rfl, rfl⟩ (Inv.localSnapshot_eq_none hlocal entry hentry)
  | some snapshot => rw [h.entry_eq hentry (Inv.localSnapshot_eq_some hlocal) rfl]

theorem local_refresh (hentry : entry ∈ system.locals) {workerId instanceId : Nat}
    (hother : entry.of workerId instanceId = false) :
    entry ∈ (system.refresh workerId instanceId).locals := by
  unfold refresh
  dsimp only
  split
  · refine List.mem_map.mpr ⟨entry, hentry, ?_⟩
    rw [if_neg (by simp [hother])]
  · exact hentry

theorem local_register (hentry : entry ∈ system.locals) (workerId instanceId : Nat) :
    entry ∈ (system.register workerId instanceId).locals := by
  unfold register
  dsimp only
  split
  · exact List.mem_cons_of_mem _ hentry
  · exact hentry

/-- Only the instance itself changes its local snapshot. -/
theorem local_step {label : Label} (hstep : system.step label = some next)
    (hentry : entry ∈ system.locals)
    (hcaller : label.caller ≠ some (entry.workerId, entry.instanceId)) : entry ∈ next.locals := by
  have hother : ∀ workerId instanceId, some (workerId, instanceId) = label.caller →
      entry.of workerId instanceId = false := by
    intro workerId instanceId heq
    rw [← heq] at hcaller
    simp only [LocalSnapshot.of, decide_eq_false_iff_not]
    rintro ⟨rfl, rfl⟩
    exact hcaller rfl
  by_cases hfront : label.leavesFront = true
  · rw [(Inv.front_step hfront hstep).2.1]
    exact hentry
  cases label with
  | registerWorker workerId instanceId =>
    obtain ⟨-, rfl⟩ := Transition.enabled hstep
    exact local_register hentry workerId instanceId
  | refreshWorkerSnapshot workerId instanceId =>
    obtain rfl := Option.some.inj hstep
    exact local_refresh hentry (hother _ _ rfl)
  | dropLocalSnapshot workerId instanceId =>
    obtain rfl := Option.some.inj hstep
    refine List.mem_filter.mpr ⟨hentry, ?_⟩
    rw [hother _ _ rfl]
    rfl
  | markWorkerRegistered workerId instanceId =>
    obtain rfl := Option.some.inj hstep
    exact hentry
  | quiesceWorker workerId instanceId =>
    obtain ⟨-, rfl⟩ := Transition.enabled hstep
    exact hentry
  | commit candidate now =>
    obtain rfl := Option.some.inj hstep
    rw [(Inv.publish_frame system candidate now).2.1]
    exact hentry
  | detachTerminalSnapshot now =>
    obtain ⟨-, rfl⟩ := Transition.enabled hstep
    exact hentry
  | _ => exact absurd rfl hfront

/-- The two outcomes of the refresh of an instance: it fails and changes nothing, or the
instance holds the active snapshot and has acknowledged it. -/
theorem Inv.refresh_cases (h : Inv system) (hentry : entry ∈ system.locals) :
    let result := system.publication.refreshWorkerSnapshot
      (system.localSnapshot entry.workerId entry.instanceId) entry.workerId entry.instanceId
    let next := system.refresh entry.workerId entry.instanceId
    (result.ok = false ∧ entry ∈ next.locals) ∨
      ∃ active, system.publication.activeSnapshot = some active ∧ result.ok = true ∧
        result.localSnapshot = some active ∧
        ⟨entry.workerId, entry.instanceId, active⟩ ∈ next.locals ∧
        (next.publication.epochs entry.workerId).observedGeneration = active.generation := by
  intro result refreshed
  have hlocal := h.localSnapshot_eq hentry
  rcases refreshWorkerSnapshot_cases system.publication
    (system.localSnapshot entry.workerId entry.instanceId) entry.workerId entry.instanceId with
    hfail | ⟨active, held, advanced, hactive, -, -, -, hok⟩
  · have hresult : result = ⟨false, some entry.snapshot, false, system.publication⟩ := by
      rw [← hlocal]
      exact hfail
    refine .inl ⟨by rw [hresult], ?_⟩
    show entry ∈ (system.refresh entry.workerId entry.instanceId).locals
    unfold System.refresh
    dsimp only
    rw [hfail, hlocal]
    refine List.mem_map.mpr ⟨entry, hentry, ?_⟩
    rw [if_pos (by simp [LocalSnapshot.of])]
  · refine .inr ⟨active, hactive, congrArg Refresh.ok hok, congrArg Refresh.localSnapshot hok, ?_⟩
    show ⟨entry.workerId, entry.instanceId, active⟩ ∈
        (system.refresh entry.workerId entry.instanceId).locals ∧
      ((system.refresh entry.workerId entry.instanceId).publication.epochs
        entry.workerId).observedGeneration = active.generation
    unfold System.refresh
    dsimp only
    rw [hok]
    refine ⟨List.mem_map.mpr ⟨entry, hentry, ?_⟩, ?_⟩
    · rw [if_pos (by simp [LocalSnapshot.of])]
    · show (Function.update system.publication.epochs entry.workerId _
        entry.workerId).observedGeneration = _
      rw [Function.update_self]

end DnsPro.Publication.System
