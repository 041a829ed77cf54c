import DnsPro.Publication.Invariant

/-!
# Grace periods

A snapshot is destroyed only after every worker that could read it has moved
on.  The statements below are about every run of the protocol: a complete
cohort excludes every live holder of the record's owner, so the reclaimer and
the emergency path always find themselves the only owner, and each snapshot
that was ever active is released once.
-/

namespace DnsPro.Publication.System

open FilterPublicationState (RecordName Iteration)

variable {system : System}

namespace Inv

/-- A published snapshot has one stable owner, or it has been released once. -/
theorem count_eq_one (h : Inv system) {snapshot : FilterSnapshot}
    (hpublished : snapshot ∈ system.published) :
    system.released.count snapshot + system.held.count snapshot = 1 := by
  have hcount := h.accounted.count_eq snapshot
  rw [List.count_append, List.count_eq_one_of_mem h.published_nodup hpublished] at hcount
  omega

/-- Nothing owns a released snapshot. -/
theorem useCount_released (h : Inv system) {snapshot : FilterSnapshot}
    (hreleased : snapshot ∈ system.released) :
    snapshot ∈ system.published ∧ system.useCount snapshot = 0 := by
  have hpublished : snapshot ∈ system.published :=
    h.accounted.mem_iff.mpr (List.mem_append_left _ hreleased)
  have hone := h.count_eq_one hpublished
  have hpositive : 0 < system.released.count snapshot := List.count_pos_iff.mpr hreleased
  have hlocals : (system.locals.map (·.snapshot)).count snapshot = 0 := by
    rw [List.count_eq_zero]
    intro hmem
    obtain ⟨entry, hentry, rfl⟩ := List.mem_map.mp hmem
    exact h.not_mem_released entry hentry hreleased
  refine ⟨hpublished, ?_⟩
  unfold System.useCount
  omega

/-- The owner test never sees another owner. -/
theorem no_extra_owner (h : Inv system) {name : RecordName}
    (hpending : (system.publication.record name).pending = true)
    (hcomplete : system.publication.cohortComplete (system.publication.record name) = true) :
    (system.publication.record name).owner.any
      (fun owner => decide (system.useCount owner ≠ 1)) = false := by
  cases howner : (system.publication.record name).owner with
  | none => rfl
  | some owner => simp [h.useCount_eq_one hpending hcomplete howner]

/-- A record that is not pending has no owner to test. -/
theorem no_extra_owner_idle (h : Inv system) {name : RecordName}
    (hidle : (system.publication.record name).pending = false) :
    (system.publication.record name).owner = none := by
  cases howner : (system.publication.record name).owner with
  | none => rfl
  | some owner => exact absurd (h.owner_pending name owner howner).1 (by simp [hidle])

/-- The iteration that finds a complete cohort goes on to destroy the owner. -/
theorem reclaimerIteration_destroys (h : Inv system) {name : RecordName} (now : Nat)
    (stopRequested : Bool) (hfailure : system.publication.reclaimerFailureRequested = false)
    (hafter : ¬(system.publication.reclaimerFailureAfterCommitRequested = true ∧
      system.publication.retired.pending = true))
    (hnext : system.publication.nextPendingRecord = some name)
    (hcomplete : system.publication.cohortComplete (system.publication.record name) = true) :
    (system.publication.reclaimerIteration system.useCount now stopRequested).1 =
      .destroy name (system.publication.record name).owner
        (system.publication.record name).version.generation
        (system.publication.record name).retiredBytes := by
  have hpending : (system.publication.record name).pending = true := by
    unfold FilterPublicationState.nextPendingRecord at hnext
    split_ifs at hnext with hretired hterminal
    · obtain rfl := Option.some.inj hnext
      exact hretired
    · obtain rfl := Option.some.inj hnext
      exact hterminal
  have hsole := h.no_extra_owner hpending hcomplete
  unfold FilterPublicationState.reclaimerIteration
  rw [if_neg (by simp [hfailure]), if_neg hafter]
  simp only [hnext, if_pos hcomplete]
  rw [if_neg (by rw [hsole]; exact Bool.false_ne_true)]

/-- The emergency path succeeds as soon as the pending cohorts are complete. -/
theorem emergencyReclaimConverged_succeeds (h : Inv system)
    (hinactive : system.publication.reclaimerActive = false)
    (hsealed : system.publication.publicationSealed = true)
    (hcomplete : ∀ name, (system.publication.record name).pending = true →
      system.publication.cohortComplete (system.publication.record name) = true) :
    (system.publication.emergencyReclaimConverged system.useCount).1 = true := by
  have hsole : ∀ name, (system.publication.record name).owner.any
      (fun owner => decide (system.useCount owner ≠ 1)) = false := by
    intro name
    by_cases hpending : (system.publication.record name).pending = true
    · exact h.no_extra_owner hpending (hcomplete name hpending)
    · rw [h.no_extra_owner_idle (by simpa using hpending)]
      rfl
  unfold FilterPublicationState.emergencyReclaimConverged
    FilterPublicationState.reclaimConvergedLocked
  rw [if_neg (by simp [hinactive, hsealed])]
  have hretired : ¬(system.publication.retired.pending = true ∧
      system.publication.cohortComplete system.publication.retired = false) := by
    rintro ⟨hpending, hincomplete⟩
    have hyes : system.publication.cohortComplete system.publication.retired = true :=
      hcomplete .retired hpending
    simp [hyes] at hincomplete
  have hterminal : ¬(system.publication.terminal.pending = true ∧
      system.publication.cohortComplete system.publication.terminal = false) := by
    rintro ⟨hpending, hincomplete⟩
    have hyes : system.publication.cohortComplete system.publication.terminal = true :=
      hcomplete .terminal hpending
    simp [hyes] at hincomplete
  have howners : ¬(system.publication.retired.owner.any
        (fun owner => decide (system.useCount owner ≠ 1)) = true ∨
      system.publication.terminal.owner.any
        (fun owner => decide (system.useCount owner ≠ 1)) = true) := by
    rintro (hretired | hterminal)
    · exact Bool.false_ne_true ((hsole .retired).symm.trans hretired)
    · exact Bool.false_ne_true ((hsole .terminal).symm.trans hterminal)
  rw [if_neg hretired, if_neg hterminal, if_neg howners]

end Inv

/-- Grace-period safety, in every state that a run of the protocol reaches: a
complete cohort leaves no live holder of the record's owner, so neither the
reclaimer nor the emergency path stops at another owner; no live instance holds
a snapshot that is released or about to be destroyed; and every snapshot that
was ever active is released once, when its stable owner is gone. -/
theorem grace_period_safety {initialSnapshot : FilterSnapshot} {maximumWorkers graceTimeout : Nat}
    {start : System} {labels : List Label}
    (hstart : System.new initialSnapshot maximumWorkers graceTimeout = some start)
    (hrun : Transition.run System.step start labels = some system) :
    (∀ name, (system.publication.record name).pending = true →
      system.publication.cohortComplete (system.publication.record name) = true →
      (∀ entry ∈ system.locals, (system.publication.record name).owner ≠ some entry.snapshot) ∧
      ∀ owner, (system.publication.record name).owner = some owner →
        system.useCount owner = 1) ∧
    (∀ name now stopRequested, system.publication.reclaimerFailureRequested = false →
      ¬(system.publication.reclaimerFailureAfterCommitRequested = true ∧
        system.publication.retired.pending = true) →
      system.publication.nextPendingRecord = some name →
      system.publication.cohortComplete (system.publication.record name) = true →
      (system.publication.reclaimerIteration system.useCount now stopRequested).1 =
        .destroy name (system.publication.record name).owner
          (system.publication.record name).version.generation
          (system.publication.record name).retiredBytes) ∧
    (system.publication.reclaimerActive = false → system.publication.publicationSealed = true →
      (∀ name, (system.publication.record name).pending = true →
        system.publication.cohortComplete (system.publication.record name) = true) →
      (system.publication.emergencyReclaimConverged system.useCount).1 = true) ∧
    (∀ entry ∈ system.locals, entry.snapshot ∉ system.released ∧
      system.reclaimer.soleOwner ≠ some entry.snapshot) ∧
    (∀ snapshot ∈ system.published,
      system.released.count snapshot + system.held.count snapshot = 1) ∧
    (∀ snapshot ∈ system.released,
      snapshot ∈ system.published ∧ system.useCount snapshot = 0) := by
  have h : Inv system := (Inv.start hstart).run hrun
  refine ⟨fun name hpending hcomplete => ⟨h.not_owner_of_cohortComplete hpending hcomplete, ?_⟩,
    fun name now stopRequested => h.reclaimerIteration_destroys now stopRequested,
    h.emergencyReclaimConverged_succeeds,
    fun entry hentry => ⟨h.not_mem_released entry hentry, h.soleOwner_ne entry hentry⟩,
    fun snapshot => h.count_eq_one, fun snapshot => h.useCount_released⟩
  intro owner howner
  exact h.useCount_eq_one hpending hcomplete howner

/-- One update: a worker registers and acknowledges, a snapshot is committed, the
reclaimer waits for the worker and then destroys the old snapshot. -/
def oneUpdate : List Label :=
  [.registerWorker 0 1, .refreshWorkerSnapshot 0 1, .acquireRetirementCredit false,
    .commit (some ⟨1, 2, 5, 40⟩) 0, .startReclaimer, .reclaimerIteration 0 false,
    .refreshWorkerSnapshot 0 1, .reclaimerIteration 0 false, .resetSoleOwner]

theorem grace_period_of_one_update : ∃ start system,
    System.new ⟨0, 1, 0, 0⟩ 1 1 = some start ∧
    Transition.run System.step start oneUpdate = some system ∧
    system.released = [⟨0, 1, 0, 0⟩] ∧
    (∀ entry ∈ system.locals, entry.snapshot ∉ system.released ∧
      system.reclaimer.soleOwner ≠ some entry.snapshot) := by
  refine ⟨_, _, rfl, rfl, rfl, ?_⟩
  exact (@grace_period_safety _ ⟨0, 1, 0, 0⟩ 1 1 _ oneUpdate rfl rfl).2.2.2.1

end DnsPro.Publication.System
