import DnsPro.Publication.System

/-!
# What one operation can do

One lemma per operation of `FilterPublicationState` lists its outcomes, with the
guards that hold on each, so that the proofs about runs never unfold the code.

`FrontEq` is the frame of the operations that leave the workers' side of the
state alone: the epochs, the registry, the active snapshot and the published
numbers.  Such an operation may only raise the last converged generation.
-/

namespace DnsPro.Publication

namespace FilterPublicationState

/-! ## Outcomes -/

/-- The two outcomes of `register_worker`. -/
theorem registerWorker_cases (publication : FilterPublicationState) (workerId instanceId : Nat) :
    publication.registerWorker workerId instanceId = (none, publication) ∨
    ∃ snapshot, publication.activeSnapshot = some snapshot ∧
      workerId < publication.maximumWorkers ∧ publication.registry workerId = false ∧
      publication.publicationSealed = false ∧
      publication.registerWorker workerId instanceId =
        (some (snapshot, publication.currentGeneration),
          { publication with
            epochs := Function.update publication.epochs workerId
              { publication.epochs workerId with
                observedGeneration := unobservedFilterGeneration
                registrationState := .starting
                publishedInstanceId := instanceId }
            registry := Function.update publication.registry workerId true }) := by
  unfold registerWorker
  split_ifs with hreject
  · exact Or.inl rfl
  · simp only [not_or, not_le, Bool.not_eq_true] at hreject
    obtain ⟨hlt, -, hregistry, hsealed⟩ := hreject
    split
    · exact Or.inl rfl
    · rename_i snapshot hactive
      exact Or.inr ⟨snapshot, hactive, hlt, hregistry, hsealed, rfl⟩

/-- The two outcomes of `refresh_worker_snapshot`: nothing changes, or the local
snapshot and the acknowledged generation become the active ones. -/
theorem refreshWorkerSnapshot_cases (publication : FilterPublicationState)
    (localSnapshot : Option FilterSnapshot) (workerId instanceId : Nat) :
    publication.refreshWorkerSnapshot localSnapshot workerId instanceId =
      ⟨false, localSnapshot, false, publication⟩ ∨
    ∃ next held advanced, publication.activeSnapshot = some next ∧ localSnapshot = some held ∧
      held.generation ≤ next.generation ∧
      (publication.epochs workerId).observedGeneration ≤ next.generation ∧
      publication.refreshWorkerSnapshot localSnapshot workerId instanceId =
        ⟨true, some next, advanced,
          { publication with
            epochs := Function.update publication.epochs workerId
              { publication.epochs workerId with observedGeneration := next.generation } }⟩ := by
  unfold refreshWorkerSnapshot
  simp only
  split_ifs with hinstance
  · exact Or.inl rfl
  · split
    · rename_i next held hactive
      by_cases hgeneration : held.generation > next.generation ∨
          (publication.epochs workerId).observedGeneration > held.generation
      · rw [if_pos hgeneration]
        exact Or.inl rfl
      · have hnext : (if held ≠ next then next else held) = next := by
          by_cases heq : held = next <;> simp [heq]
        rw [if_neg hgeneration, hnext]
        simp only [not_or, not_lt] at hgeneration
        refine Or.inr ⟨next, held,
          decide ((publication.epochs workerId).observedGeneration < next.generation), hactive, rfl,
          hgeneration.1, hgeneration.2.trans hgeneration.1, ?_⟩
        split_ifs with hnew
        · rw [decide_eq_true hnew]
          rfl
        · -- the acknowledgement was already the active generation
          have hequal : (publication.epochs workerId).observedGeneration = next.generation := by
            omega
          rw [decide_eq_false hnew, ← hequal, Function.update_eq_self]
    · exact Or.inl rfl

/-- The two outcomes of `commit`. -/
theorem commit_cases (publication : FilterPublicationState) (candidate : Option FilterSnapshot)
    (now : Nat) :
    (∃ error, publication.commit candidate now = (.error error, publication)) ∨
    ∃ next, candidate = some next ∧ publication.retirementCreditHeld = true ∧
      publication.retired.pending = false ∧ publication.publicationSealed = false ∧
      publication.currentGeneration ≠ maximumGeneration ∧
      next.generation = publication.currentGeneration + 1 ∧
      publication.commit candidate now = (.ok next.version,
        { publication with
          retired := {
            owner := publication.activeSnapshot
            version := next.version
            publishedNormalizedRuleBytes := next.normalizedRuleBytes
            retiredBytes := publication.currentNormalizedRuleBytes
            cohort := publication.frozenCohort
            committedAt := now
            pending := true
            destroying := false
            terminal := false }
          activeSnapshot := some next
          retiredBytes := publication.currentNormalizedRuleBytes
          currentGeneration := next.generation
          currentRuleCount := next.ruleCount
          currentNormalizedRuleBytes := next.normalizedRuleBytes }) := by
  unfold commit
  split_ifs with hcredit hsealed
  · exact Or.inl ⟨_, rfl⟩
  · exact Or.inl ⟨_, rfl⟩
  · cases candidate with
    | none => exact Or.inl ⟨_, rfl⟩
    | some next =>
      simp only
      split_ifs with hzero hmismatch
      · exact Or.inl ⟨_, rfl⟩
      · exact Or.inl ⟨_, rfl⟩
      · simp only [not_or, Bool.not_eq_true, Bool.not_eq_false] at hcredit hsealed
        simp only [not_or, not_not] at hmismatch
        exact Or.inr ⟨next, rfl, hcredit.1, hcredit.2, hsealed, hmismatch.1, hmismatch.2, rfl⟩

/-- The three things that an iteration can do to the state. -/
theorem reclaimerIteration_cases (publication : FilterPublicationState)
    (useCount : FilterSnapshot → Nat) (now : Nat) (stopRequested : Bool) :
    (∃ code failure, publication.reclaimerIteration useCount now stopRequested =
      (.exit code, { publication with reclaimerFailureAfterCommitRequested := failure })) ∨
    publication.reclaimerIteration useCount now stopRequested = (.wait, publication) ∨
    ∃ name, (publication.record name).pending = true ∧
      publication.cohortComplete (publication.record name) = true ∧
      publication.reclaimerIteration useCount now stopRequested =
        (.destroy name (publication.record name).owner
            (publication.record name).version.generation (publication.record name).retiredBytes,
          (if name = .retired then
            { publication with
              lastConvergedGeneration := max publication.lastConvergedGeneration
                (publication.record name).version.generation }
            else publication).setRecord name
            { publication.record name with destroying := true, owner := none }) := by
  unfold reclaimerIteration
  split
  · exact Or.inl ⟨_, _, rfl⟩
  split
  · exact Or.inl ⟨_, _, rfl⟩
  split
  · rename_i name hname
    have hpending : (publication.record name).pending = true := by
      unfold nextPendingRecord at hname
      split_ifs at hname with hretired hterminal
      · obtain rfl := Option.some.inj hname
        exact hretired
      · obtain rfl := Option.some.inj hname
        exact hterminal
    simp only
    split
    · rename_i hcomplete
      split
      · exact Or.inl ⟨_, _, rfl⟩
      · exact Or.inr (Or.inr ⟨name, hpending, hcomplete, rfl⟩)
    · split
      · exact Or.inl ⟨_, _, rfl⟩
      · exact Or.inr (Or.inl rfl)
  · split
    · exact Or.inl ⟨_, _, rfl⟩
    · exact Or.inr (Or.inl rfl)

/-- The ways `emergency_reclaim_converged` ends. -/
theorem emergencyReclaimConverged_cases (publication : FilterPublicationState)
    (useCount : FilterSnapshot → Nat) :
    publication.emergencyReclaimConverged useCount = (false, publication) ∨
    publication.reclaimerActive = false ∧
      (publication.retired.pending = true →
        publication.cohortComplete publication.retired = true) ∧
      (publication.terminal.pending = true →
        publication.cohortComplete publication.terminal = true) ∧
      publication.emergencyReclaimConverged useCount =
        (true,
          let cleared := if publication.retired.pending then
            publication.reclaimRecord .retired true else publication
          if cleared.terminal.pending then cleared.reclaimRecord .terminal false else cleared) := by
  unfold emergencyReclaimConverged
    reclaimConvergedLocked
  split
  · exact Or.inl rfl
  rename_i hstopped
  split
  · exact Or.inl rfl
  rename_i hretired
  split
  · exact Or.inl rfl
  rename_i hterminal
  split
  · exact Or.inl rfl
  · simp only [not_or, Bool.not_eq_true] at hstopped
    simp only [not_and, Bool.not_eq_false] at hretired hterminal
    exact Or.inr ⟨hstopped.1, hretired, hterminal, rfl⟩

/-! ## Frames -/

/-- What is published is unchanged: the active snapshot and the numbers that
are stored with it.  A seal stays. -/
structure CurrentEq (before after : FilterPublicationState) : Prop where
  activeSnapshot : after.activeSnapshot = before.activeSnapshot
  currentGeneration : after.currentGeneration = before.currentGeneration
  currentRuleCount : after.currentRuleCount = before.currentRuleCount
  currentNormalizedRuleBytes :
    after.currentNormalizedRuleBytes = before.currentNormalizedRuleBytes
  stays_sealed : before.publicationSealed = true → after.publicationSealed = true

theorem CurrentEq.refl (state : FilterPublicationState) : CurrentEq state state :=
  ⟨rfl, rfl, rfl, rfl, id⟩

/-- The side of the state under the publication mutex is unchanged. -/
structure FrontEq (before after : FilterPublicationState) : Prop
    extends CurrentEq before after where
  epochs : after.epochs = before.epochs
  registry : after.registry = before.registry
  converged : before.lastConvergedGeneration ≤ after.lastConvergedGeneration

theorem FrontEq.refl (state : FilterPublicationState) : FrontEq state state :=
  ⟨CurrentEq.refl state, rfl, rfl, le_rfl⟩

theorem FrontEq.trans {first second third : FilterPublicationState} (h : FrontEq first second)
    (h' : FrontEq second third) : FrontEq first third where
  activeSnapshot := h'.activeSnapshot.trans h.activeSnapshot
  currentGeneration := h'.currentGeneration.trans h.currentGeneration
  currentRuleCount := h'.currentRuleCount.trans h.currentRuleCount
  currentNormalizedRuleBytes := h'.currentNormalizedRuleBytes.trans h.currentNormalizedRuleBytes
  stays_sealed hsealed := h'.stays_sealed (h.stays_sealed hsealed)
  epochs := h'.epochs.trans h.epochs
  registry := h'.registry.trans h.registry
  converged := h.converged.trans h'.converged

theorem frontEq_acquireRetirementCredit {state next : FilterPublicationState}
    {stopRequested result : Bool}
    (h : state.acquireRetirementCredit stopRequested = some (result, next)) :
    FrontEq state next := by
  unfold acquireRetirementCredit at h
  simp only at h
  split_ifs at h
  · obtain ⟨-, rfl⟩ := Prod.mk.inj (Option.some.inj h)
    exact FrontEq.refl _
  · obtain ⟨-, rfl⟩ := Prod.mk.inj (Option.some.inj h)
    exact ⟨⟨rfl, rfl, rfl, rfl, id⟩, rfl, rfl, le_rfl⟩

theorem frontEq_releaseUncommittedCredit (state : FilterPublicationState) :
    FrontEq state state.releaseUncommittedCredit := by
  unfold releaseUncommittedCredit
  split_ifs
  · exact ⟨⟨rfl, rfl, rfl, rfl, id⟩, rfl, rfl, le_rfl⟩
  · exact FrontEq.refl _

theorem frontEq_setRecord (state : FilterPublicationState) (name : RecordName)
    (record : RetirementRecord) : FrontEq state (state.setRecord name record) := by
  cases name <;> exact ⟨⟨rfl, rfl, rfl, rfl, id⟩, rfl, rfl, le_rfl⟩

theorem frontEq_startReclaimer {state next : FilterPublicationState}
    (h : state.startReclaimer = some next) : FrontEq state next := by
  unfold startReclaimer at h
  split_ifs at h
  obtain rfl := Option.some.inj h
  exact ⟨⟨rfl, rfl, rfl, rfl, id⟩, rfl, rfl, le_rfl⟩

theorem frontEq_reclaimerIteration (state : FilterPublicationState)
    (useCount : FilterSnapshot → Nat) (now : Nat) (stopRequested : Bool) :
    FrontEq state (state.reclaimerIteration useCount now stopRequested).2 := by
  rcases reclaimerIteration_cases state useCount now stopRequested with
    ⟨code, failure, hexit⟩ | hwait | ⟨name, -, -, hdestroy⟩
  · rw [hexit]
    exact ⟨⟨rfl, rfl, rfl, rfl, id⟩, rfl, rfl, le_rfl⟩
  · rw [hwait]
    exact FrontEq.refl _
  · rw [hdestroy]
    refine FrontEq.trans ?_ (frontEq_setRecord _ name _)
    split_ifs
    · exact ⟨⟨rfl, rfl, rfl, rfl, id⟩, rfl, rfl, le_max_left _ _⟩
    · exact FrontEq.refl _

theorem frontEq_reclaimRecord (state : FilterPublicationState) (name : RecordName)
    (returnsCredit : Bool) : FrontEq state (state.reclaimRecord name returnsCredit) := by
  unfold reclaimRecord
  cases returnsCredit with
  | false => cases name <;> exact ⟨⟨rfl, rfl, rfl, rfl, id⟩, rfl, rfl, le_rfl⟩
  | true => cases name <;> exact ⟨⟨rfl, rfl, rfl, rfl, id⟩, rfl, rfl, le_max_left _ _⟩

theorem frontEq_finishDestroy (state : FilterPublicationState) (name : RecordName)
    (generation retiredBytes : Nat) :
    FrontEq state (state.finishDestroy name generation retiredBytes) := by
  unfold finishDestroy
  cases name <;> exact ⟨⟨rfl, rfl, rfl, rfl, id⟩, rfl, rfl, le_rfl⟩

theorem frontEq_emergencyReclaimConverged (state : FilterPublicationState)
    (useCount : FilterSnapshot → Nat) :
    FrontEq state (state.emergencyReclaimConverged useCount).2 := by
  rcases emergencyReclaimConverged_cases state useCount with hfalse | ⟨-, -, -, htrue⟩
  · rw [hfalse]
    exact FrontEq.refl _
  · rw [htrue]
    simp only
    split_ifs
    · exact (frontEq_reclaimRecord state .retired true).trans
        (frontEq_reclaimRecord _ .terminal false)
    · exact frontEq_reclaimRecord state .retired true
    · exact frontEq_reclaimRecord state .terminal false
    · exact FrontEq.refl _

theorem currentEq_registerWorker (state : FilterPublicationState) (workerId instanceId : Nat) :
    CurrentEq state (state.registerWorker workerId instanceId).2 := by
  rcases registerWorker_cases state workerId instanceId with
    hnone | ⟨snapshot, -, -, -, -, hsome⟩
  · rw [hnone]
    exact CurrentEq.refl _
  · rw [hsome]
    exact ⟨rfl, rfl, rfl, rfl, id⟩

theorem currentEq_markWorkerRegistered (state : FilterPublicationState)
    (workerId instanceId : Nat) :
    CurrentEq state (state.markWorkerRegistered workerId instanceId).2 := by
  unfold markWorkerRegistered
  simp only
  split_ifs
  · exact CurrentEq.refl _
  · exact CurrentEq.refl _
  · exact ⟨rfl, rfl, rfl, rfl, id⟩

theorem currentEq_quiesceWorker (state : FilterPublicationState) (workerId instanceId : Nat) :
    CurrentEq state (state.quiesceWorker workerId instanceId) := by
  unfold quiesceWorker
  simp only
  split_ifs
  · exact ⟨rfl, rfl, rfl, rfl, id⟩
  · exact CurrentEq.refl _

theorem currentEq_refreshWorkerSnapshot (state : FilterPublicationState)
    (localSnapshot : Option FilterSnapshot) (workerId instanceId : Nat) :
    CurrentEq state (state.refreshWorkerSnapshot localSnapshot workerId instanceId).state := by
  rcases refreshWorkerSnapshot_cases state localSnapshot workerId instanceId with
    hfail | ⟨next, held, advanced, -, -, -, -, hok⟩
  · rw [hfail]
    exact CurrentEq.refl _
  · rw [hok]
    exact ⟨rfl, rfl, rfl, rfl, id⟩

end FilterPublicationState

end DnsPro.Publication
