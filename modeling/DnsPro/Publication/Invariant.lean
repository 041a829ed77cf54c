import DnsPro.Publication.Steps

/-!
# The invariant of the publication protocol

`System.Inv` ties the local snapshot of every live instance to its epoch and to
the frozen cohorts.  A local snapshot is the active one or the owner of a
record, and in the second case its instance is in the record's cohort; an
instance acknowledges no more than it holds, and a live instance is not
quiesced.  A complete cohort therefore excludes every live holder of the owner.

One lemma per operation shows that the operation keeps the invariant, and
`System.Inv.run` is the induction over a run.
-/

namespace DnsPro.Publication.System

open FilterPublicationState (RecordName Iteration registerWorker_cases
  refreshWorkerSnapshot_cases commit_cases reclaimerIteration_cases
  emergencyReclaimConverged_cases)

/-- What holds of a live instance: its slot is registered with its epoch, and
the epoch names it, has not quiesced it and acknowledges no more than it holds. -/
structure Live (maximumWorkers : Nat) (registered : Bool) (epoch : WorkerEpoch)
    (entry : LocalSnapshot) : Prop where
  worker_lt : entry.workerId < maximumWorkers
  registered : registered = true
  instance_pos : entry.instanceId ≠ 0
  published : epoch.publishedInstanceId = entry.instanceId
  state : epoch.registrationState ≠ .unregistered
  quiesced : epoch.quiescedThroughInstanceId < entry.instanceId
  observed : epoch.observedGeneration ≤ entry.snapshot.generation

/-- The record and the cohort member that keep a local snapshot alive. -/
def Covered (record : RetirementRecord) (entry : LocalSnapshot) : Prop :=
  record.owner = some entry.snapshot ∧ ⟨entry.workerId, entry.instanceId⟩ ∈ record.cohort

structure Inv (system : System) : Prop where
  active_generation : ∀ active, system.publication.activeSnapshot = some active →
    active.generation = system.publication.currentGeneration ∧
    active.ruleCount = system.publication.currentRuleCount ∧
    active.normalizedRuleBytes = system.publication.currentNormalizedRuleBytes
  detached_sealed : system.publication.activeSnapshot = none →
    system.publication.publicationSealed = true
  owner_pending : ∀ name owner, (system.publication.record name).owner = some owner →
    (system.publication.record name).pending = true ∧
    (system.publication.record name).destroying = false
  retired_pending : system.publication.retired.pending = true →
    system.publication.retired.version.generation = system.publication.currentGeneration ∧
    system.publication.retired.terminal = false
  retired_owner : ∀ owner, system.publication.retired.owner = some owner →
    owner.generation < system.publication.currentGeneration
  terminal_pending : system.publication.terminal.pending = true →
    system.publication.terminal.terminal = true ∧ system.publication.activeSnapshot = none
  terminal_owner : ∀ owner, system.publication.terminal.owner = some owner →
    owner.generation = system.publication.currentGeneration
  live : ∀ entry ∈ system.locals,
    Live system.publication.maximumWorkers (system.publication.registry entry.workerId)
      (system.publication.epochs entry.workerId) entry
  unique : (system.locals.map (·.workerId)).Nodup
  place : ∀ entry ∈ system.locals,
    system.publication.activeSnapshot = some entry.snapshot ∨
    Covered system.publication.retired entry ∨ Covered system.publication.terminal entry
  converged : system.publication.lastConvergedGeneration ≤ system.publication.currentGeneration ∧
    ∀ entry ∈ system.locals,
      system.publication.lastConvergedGeneration ≤ entry.snapshot.generation
  instances : ∀ worker,
    (system.publication.epochs worker).publishedInstanceId ≤ system.latestInstance worker ∧
    (system.publication.epochs worker).quiescedThroughInstanceId ≤ system.latestInstance worker
  reclaimer_active : system.publication.reclaimerActive = true ↔ system.reclaimer ≠ .stopped
  destroying : ∀ name soleOwner generation retiredBytes,
    system.reclaimer = .destroying name soleOwner generation retiredBytes →
    (system.publication.record name).owner = none ∧
    (system.publication.record name).pending = true
  published_le : ∀ snapshot ∈ system.published,
    snapshot.generation ≤ system.publication.currentGeneration
  published_nodup : system.published.Nodup
  accounted : system.published.Perm (system.released ++ system.held)

namespace Inv

variable {system : System}

theorem start {initialSnapshot : FilterSnapshot} {maximumWorkers graceTimeout : Nat}
    (h : System.new initialSnapshot maximumWorkers graceTimeout = some system) : Inv system := by
  unfold System.new FilterPublicationState.new at h
  simp only at h
  split at h
  · simp at h
  · simp only [Option.map_some, Option.some.injEq] at h
    subst h
    constructor <;> simp [held, Reclaimer.soleOwner, FilterPublicationState.record]
    intro name owner hname
    cases name <;> simp at hname

/-! ## Steps that leave the protocol's fields alone -/

theorem publishProgress (h : Inv system) :
    Inv { system with publication := system.publication.publishProgress } :=
  { h with }

theorem acquireRetirementCredit (h : Inv system) {stopRequested result : Bool}
    {publication : FilterPublicationState}
    (hacquire : system.publication.acquireRetirementCredit stopRequested =
      some (result, publication)) :
    Inv { system with publication := publication } := by
  unfold FilterPublicationState.acquireRetirementCredit at hacquire
  simp only at hacquire
  split_ifs at hacquire
  · obtain ⟨-, rfl⟩ := Prod.mk.inj (Option.some.inj hacquire)
    exact h
  · obtain ⟨-, rfl⟩ := Prod.mk.inj (Option.some.inj hacquire)
    exact { h with }

theorem releaseUncommittedCredit (h : Inv system) :
    Inv { system with publication := system.publication.releaseUncommittedCredit } := by
  unfold FilterPublicationState.releaseUncommittedCredit
  split_ifs
  · exact { h with }
  · exact h

theorem sealPublication (h : Inv system) :
    Inv { system with publication := system.publication.sealPublication } :=
  { h with detached_sealed := fun _ => rfl }

/-! ## Workers -/

/-- A worker's latest instance only grows. -/
theorem latestInstance_le_update {workerId instanceId : Nat}
    (hfresh : system.latestInstance workerId < instanceId) (worker : Nat) :
    system.latestInstance worker ≤
      Function.update system.latestInstance workerId instanceId worker := by
  by_cases hw : worker = workerId
  · subst hw
    simpa using hfresh.le
  · simp [Function.update_of_ne hw]

theorem register (h : Inv system) {workerId instanceId : Nat}
    (hfresh : system.latestInstance workerId < instanceId) :
    Inv (system.register workerId instanceId) := by
  have hlatest := latestInstance_le_update hfresh
  have hinstances : ∀ worker,
      (system.publication.epochs worker).publishedInstanceId ≤
        Function.update system.latestInstance workerId instanceId worker ∧
      (system.publication.epochs worker).quiescedThroughInstanceId ≤
        Function.update system.latestInstance workerId instanceId worker := fun worker =>
    ⟨(h.instances worker).1.trans (hlatest worker), (h.instances worker).2.trans (hlatest worker)⟩
  unfold System.register
  rcases registerWorker_cases system.publication workerId instanceId with
    hnone | ⟨snapshot, hactive, hlt, hregistry, -, hsome⟩
  · simp only [hnone]
    exact { h with instances := hinstances }
  · simp only [hsome]
    -- no live instance of this slot is left, since its registry entry is null
    have hother : ∀ entry ∈ system.locals, entry.workerId ≠ workerId := by
      rintro entry hentry rfl
      simpa [hregistry] using (h.live entry hentry).registered
    refine { h with live := ?_, unique := ?_, place := ?_, converged := ?_, instances := ?_ }
    · intro entry hentry
      rcases List.mem_cons.mp hentry with rfl | hentry
      · have hquiesced := (h.instances workerId).2
        constructor <;> simp [unobservedFilterGeneration] <;> omega
      · have hlive := h.live entry hentry
        simpa [Function.update_of_ne (hother entry hentry)] using hlive
    · rw [List.map_cons, List.nodup_cons]
      refine ⟨fun hmem => ?_, h.unique⟩
      obtain ⟨entry, hentry, hworker⟩ := List.mem_map.mp hmem
      exact hother entry hentry hworker
    · intro entry hentry
      rcases List.mem_cons.mp hentry with rfl | hentry
      · exact Or.inl hactive
      · exact h.place entry hentry
    · refine ⟨h.converged.1, fun entry hentry => ?_⟩
      rcases List.mem_cons.mp hentry with rfl | hentry
      · have := (h.active_generation snapshot hactive).1
        have := h.converged.1
        simp only
        omega
      · exact h.converged.2 entry hentry
    · intro worker
      by_cases hw : worker = workerId
      · subst hw
        simpa using (h.instances worker).2.trans hfresh.le
      · simpa [Function.update_of_ne hw] using h.instances worker

theorem markWorkerRegistered (h : Inv system) (workerId instanceId : Nat) :
    Inv { system with
      publication := (system.publication.markWorkerRegistered workerId instanceId).2 } := by
  unfold FilterPublicationState.markWorkerRegistered
  simp only
  split_ifs
  · exact h
  · exact h
  · refine { h with live := ?_, instances := ?_ }
    · intro entry hentry
      have hlive := h.live entry hentry
      by_cases hw : entry.workerId = workerId
      · subst hw
        exact ⟨hlive.worker_lt, hlive.registered, hlive.instance_pos,
          by simpa [FilterPublicationState.setEpoch] using hlive.published,
          by simp [FilterPublicationState.setEpoch],
          by simpa [FilterPublicationState.setEpoch] using hlive.quiesced,
          by simpa [FilterPublicationState.setEpoch] using hlive.observed⟩
      · simpa [FilterPublicationState.setEpoch, Function.update_of_ne hw] using hlive
    · intro worker
      by_cases hw : worker = workerId
      · subst hw
        simpa [FilterPublicationState.setEpoch] using h.instances worker
      · simpa [FilterPublicationState.setEpoch, Function.update_of_ne hw] using h.instances worker

/-- Dropping local snapshots keeps the invariant. -/
theorem dropLocals (h : Inv system) (keep : LocalSnapshot → Bool) :
    Inv { system with locals := system.locals.filter keep } :=
  { h with
    live := fun entry hentry => h.live entry (List.mem_of_mem_filter hentry)
    unique := h.unique.sublist (List.filter_sublist.map _)
    place := fun entry hentry => h.place entry (List.mem_of_mem_filter hentry)
    converged := ⟨h.converged.1,
      fun entry hentry => h.converged.2 entry (List.mem_of_mem_filter hentry)⟩ }

/-- An instance without a local snapshot has no entry. -/
theorem localSnapshot_eq_none {workerId instanceId : Nat}
    (hnone : system.localSnapshot workerId instanceId = none) :
    ∀ entry ∈ system.locals, ¬(entry.workerId = workerId ∧ entry.instanceId = instanceId) := by
  intro entry hentry
  unfold System.localSnapshot at hnone
  rw [Option.map_eq_none_iff, List.find?_eq_none] at hnone
  simpa [LocalSnapshot.of] using hnone entry hentry

theorem quiesceWorker (h : Inv system) {workerId instanceId : Nat}
    (hnone : system.localSnapshot workerId instanceId = none) :
    Inv { system with publication := system.publication.quiesceWorker workerId instanceId } := by
  unfold FilterPublicationState.quiesceWorker
  simp only
  split_ifs with hguard
  · obtain ⟨-, -, hpublished⟩ := hguard
    -- the instance has dropped its snapshot, so every entry is of another slot
    have hother : ∀ entry ∈ system.locals, entry.workerId ≠ workerId := by
      rintro entry hentry rfl
      have hinstance := (h.live entry hentry).published
      exact localSnapshot_eq_none hnone entry hentry ⟨rfl, by omega⟩
    refine { h with live := ?_, instances := ?_ }
    · intro entry hentry
      have hlive := h.live entry hentry
      simpa [FilterPublicationState.setEpoch, Function.update_of_ne (hother entry hentry)]
        using hlive
    · intro worker
      by_cases hw : worker = workerId
      · subst hw
        have := (h.instances worker).1
        simpa [FilterPublicationState.setEpoch, hpublished] using this
      · simpa [FilterPublicationState.setEpoch, Function.update_of_ne hw] using h.instances worker
  · exact h

/-- The entry behind a local snapshot. -/
theorem localSnapshot_eq_some {workerId instanceId : Nat} {snapshot : FilterSnapshot}
    (hsome : system.localSnapshot workerId instanceId = some snapshot) :
    ⟨workerId, instanceId, snapshot⟩ ∈ system.locals := by
  unfold System.localSnapshot at hsome
  rw [Option.map_eq_some_iff] at hsome
  obtain ⟨entry, hfind, rfl⟩ := hsome
  have hof := List.find?_some hfind
  simp only [LocalSnapshot.of, decide_eq_true_eq] at hof
  obtain ⟨rfl, rfl⟩ := hof
  exact List.mem_of_find?_eq_some hfind

/-- A slot has at most one local snapshot. -/
theorem entry_eq (h : Inv system) {entry other : LocalSnapshot} (hentry : entry ∈ system.locals)
    (hother : other ∈ system.locals) (hworker : entry.workerId = other.workerId) :
    entry = other :=
  List.inj_on_of_nodup_map h.unique hentry hother hworker

theorem refresh (h : Inv system) (workerId instanceId : Nat) :
    Inv (system.refresh workerId instanceId) := by
  unfold System.refresh
  rcases refreshWorkerSnapshot_cases system.publication
    (system.localSnapshot workerId instanceId) workerId instanceId with
    hfail | ⟨next, held, advanced, hactive, hheld, hle, hobserved, hok⟩
  · simp only [hfail]
    split
    · rename_i snapshot hsnapshot
      have hsame : (system.locals.map fun entry =>
          if entry.of workerId instanceId then { entry with snapshot := snapshot } else entry) =
          system.locals := by
        refine (List.map_congr_left fun entry hentry => ?_).trans (List.map_id _)
        split_ifs with hof
        · simp only [LocalSnapshot.of, decide_eq_true_eq] at hof
          rw [h.entry_eq hentry (localSnapshot_eq_some hsnapshot) hof.1]
          rfl
        · rfl
      rw [hsame]
      exact h
    · exact h
  · simp only [hok]
    have hgeneration := (h.active_generation next hactive).1
    refine { h with live := ?_, unique := ?_, place := ?_, converged := ?_, instances := ?_ }
    · intro entry hentry
      obtain ⟨old, hold, rfl⟩ := List.mem_map.mp hentry
      have hlive := h.live old hold
      split_ifs with hof
      · simp only [LocalSnapshot.of, decide_eq_true_eq] at hof
        obtain ⟨rfl, rfl⟩ := hof
        exact ⟨hlive.worker_lt, hlive.registered, hlive.instance_pos,
          by simpa using hlive.published, by simpa using hlive.state,
          by simpa using hlive.quiesced, by simp⟩
      · have hworker : old.workerId ≠ workerId := by
          rintro rfl
          have hsame := h.entry_eq hold (localSnapshot_eq_some hheld) rfl
          rw [hsame] at hof
          simp [LocalSnapshot.of] at hof
        simpa [Function.update_of_ne hworker] using hlive
    · have hmap : (system.locals.map fun entry =>
          if entry.of workerId instanceId then { entry with snapshot := next } else entry).map
            (·.workerId) = system.locals.map (·.workerId) := by
        rw [List.map_map]
        refine List.map_congr_left fun entry _ => ?_
        simp only [Function.comp_apply]
        split_ifs <;> rfl
      show (List.map _ (List.map _ _)).Nodup
      rw [hmap]
      exact h.unique
    · intro entry hentry
      obtain ⟨old, hold, rfl⟩ := List.mem_map.mp hentry
      split_ifs with hof
      · exact Or.inl hactive
      · exact h.place old hold
    · refine ⟨h.converged.1, fun entry hentry => ?_⟩
      obtain ⟨old, hold, rfl⟩ := List.mem_map.mp hentry
      split_ifs with hof
      · exact h.converged.1.trans hgeneration.ge
      · exact h.converged.2 old hold
    · intro worker
      by_cases hw : worker = workerId
      · subst hw
        simpa using h.instances worker
      · simpa [Function.update_of_ne hw] using h.instances worker

/-! ## Publication and terminal detach -/

/-- Every live instance is in the cohort that a commit or a detach freezes. -/
theorem mem_frozenCohort (h : Inv system) {entry : LocalSnapshot}
    (hentry : entry ∈ system.locals) :
    ⟨entry.workerId, entry.instanceId⟩ ∈ system.publication.frozenCohort := by
  have hlive := h.live entry hentry
  unfold FilterPublicationState.frozenCohort
  rw [List.mem_filterMap]
  refine ⟨entry.workerId, List.mem_range.mpr hlive.worker_lt, ?_⟩
  have hstate : (system.publication.epochs entry.workerId).registrationState = .starting ∨
      (system.publication.epochs entry.workerId).registrationState = .registered := by
    have hne := hlive.state
    cases hcase : (system.publication.epochs entry.workerId).registrationState with
    | unregistered => exact absurd hcase hne
    | starting => exact Or.inl rfl
    | registered => exact Or.inr rfl
  have hpos : (system.publication.epochs entry.workerId).publishedInstanceId ≠ 0 := by
    rw [hlive.published]
    exact hlive.instance_pos
  simp only
  rw [if_pos ⟨hlive.registered, hpos, hstate⟩, hlive.published]

theorem publish (h : Inv system) (candidate : Option FilterSnapshot) (now : Nat) :
    Inv (system.publish candidate now) := by
  unfold System.publish
  rcases commit_cases system.publication candidate now with
    ⟨error, herror⟩ | ⟨next, rfl, -, hidle, hsealed, -, hnext, hok⟩
  · rw [herror]
    cases candidate <;> exact h
  · rw [hok]
    have hnoOwner : system.publication.retired.owner = none := by
      cases howner : system.publication.retired.owner with
      | none => rfl
      | some owner =>
        have := (h.owner_pending .retired owner howner).1
        exact absurd this (by simpa [FilterPublicationState.record] using hidle)
    obtain ⟨active, hactive⟩ : ∃ active, system.publication.activeSnapshot = some active := by
      cases hcase : system.publication.activeSnapshot with
      | none => exact absurd (h.detached_sealed hcase) (by simp [hsealed])
      | some active => exact ⟨active, rfl⟩
    have hgeneration := (h.active_generation active hactive).1
    have hterminal : system.publication.terminal.pending = false := by
      cases hcase : system.publication.terminal.pending with
      | false => rfl
      | true => exact absurd (h.terminal_pending hcase).2 (by simp [hactive])
    have hterminalOwner : system.publication.terminal.owner = none := by
      cases howner : system.publication.terminal.owner with
      | none => rfl
      | some owner =>
        have := (h.owner_pending .terminal owner howner).1
        exact absurd this (by simpa [FilterPublicationState.record] using hterminal)
    refine { h with
      active_generation := ?_, detached_sealed := ?_, owner_pending := ?_, retired_pending := ?_,
      retired_owner := ?_, terminal_pending := ?_, terminal_owner := ?_, place := ?_,
      converged := ?_, destroying := ?_, published_le := ?_, published_nodup := ?_,
      accounted := ?_ }
    · rintro snapshot ⟨⟩
      exact ⟨rfl, rfl, rfl⟩
    · simp
    · intro name owner howner
      cases name with
      | retired => exact ⟨rfl, rfl⟩
      | terminal =>
        exact absurd howner (by simp [FilterPublicationState.record, hterminalOwner])
    · intro _
      exact ⟨rfl, rfl⟩
    · intro owner howner
      simp only [hactive, Option.some.injEq] at howner
      subst howner
      simp only
      omega
    · intro hpending
      simp [hterminal] at hpending
    · intro owner howner
      simp [hterminalOwner] at howner
    · intro entry hentry
      refine Or.inr (Or.inl ⟨?_, h.mem_frozenCohort hentry⟩)
      rcases h.place entry hentry with hplace | hplace | hplace
      · exact hplace
      · exact absurd hplace.1 (by simp [hnoOwner])
      · exact absurd hplace.1 (by simp [hterminalOwner])
    · refine ⟨?_, h.converged.2⟩
      have := h.converged.1
      simp only
      omega
    · intro name soleOwner generation retiredBytes hreclaimer
      have hpending := (h.destroying name soleOwner generation retiredBytes hreclaimer).2
      cases name with
      | retired => simp [FilterPublicationState.record, hidle] at hpending
      | terminal => simp [FilterPublicationState.record, hterminal] at hpending
    · intro snapshot hsnapshot
      rcases List.mem_append.mp hsnapshot with hsnapshot | hsnapshot
      · have := h.published_le snapshot hsnapshot
        simp only
        omega
      · rw [List.mem_singleton.mp hsnapshot]
    · refine List.Nodup.append h.published_nodup (List.nodup_singleton next) ?_
      intro snapshot hsnapshot hmem
      rw [List.mem_singleton.mp hmem] at hsnapshot
      have := h.published_le next hsnapshot
      omega
    · have haccounted := h.accounted
      simp only [System.held, hnoOwner, hterminalOwner, hactive, Option.toList_none,
        Option.toList_some, List.append_nil] at haccounted ⊢
      refine (haccounted.append_right [next]).trans ?_
      simp only [List.append_assoc]
      refine List.Perm.append_left _ ?_
      exact List.perm_append_singleton next ([active] ++ system.reclaimer.soleOwner.toList)


theorem detachTerminalSnapshot (h : Inv system) (now : Nat)
    (hsealed : system.publication.publicationSealed = true) :
    Inv { system with publication := system.publication.detachTerminalSnapshot now } := by
  unfold FilterPublicationState.detachTerminalSnapshot
  split_ifs with hpending
  · exact h
  · split
    · exact h
    · rename_i active hactive
      have hidle : system.publication.terminal.pending = false := by simpa using hpending
      have hnoOwner : system.publication.terminal.owner = none := by
        cases howner : system.publication.terminal.owner with
        | none => rfl
        | some owner => exact absurd (h.owner_pending .terminal owner howner).1 hpending
      have hgeneration := (h.active_generation active hactive).1
      refine { h with
        active_generation := ?_, detached_sealed := ?_, owner_pending := ?_,
        terminal_pending := ?_, terminal_owner := ?_, place := ?_, destroying := ?_,
        accounted := ?_ }
      · simp
      · intro _
        exact hsealed
      · intro name owner howner
        cases name with
        | retired => exact h.owner_pending .retired owner howner
        | terminal => exact ⟨rfl, rfl⟩
      · intro _
        exact ⟨rfl, rfl⟩
      · intro owner howner
        simp only [Option.some.injEq] at howner
        subst howner
        exact hgeneration
      · intro entry hentry
        rcases h.place entry hentry with hplace | hplace | hplace
        · rw [hactive] at hplace
          exact Or.inr (Or.inr ⟨hplace, h.mem_frozenCohort hentry⟩)
        · exact Or.inr (Or.inl hplace)
        · exact absurd hplace.1 (by simp [hnoOwner])
      · intro name soleOwner generation retiredBytes hreclaimer
        have hrecord := h.destroying name soleOwner generation retiredBytes hreclaimer
        cases name with
        | retired => exact hrecord
        | terminal => simp [FilterPublicationState.record, hidle] at hrecord
      · have haccounted := h.accounted
        simp only [System.held, hnoOwner, hactive, Option.toList_none, Option.toList_some,
          List.append_nil, List.nil_append] at haccounted ⊢
        refine haccounted.trans (List.Perm.append_left _ (List.Perm.append_right _ ?_))
        exact List.perm_append_comm

/-! ## Grace periods -/

/-- A complete cohort leaves no live instance that holds the record's owner. -/
theorem not_owner_of_cohortComplete (h : Inv system) {name : RecordName}
    (hpending : (system.publication.record name).pending = true)
    (hcomplete : system.publication.cohortComplete (system.publication.record name) = true) :
    ∀ entry ∈ system.locals, (system.publication.record name).owner ≠ some entry.snapshot := by
  intro entry hentry howner
  have hlive := h.live entry hentry
  -- a member of the cohort is not quiesced, and acknowledges only what it holds
  have hmember : ⟨entry.workerId, entry.instanceId⟩ ∈ (system.publication.record name).cohort →
      (system.publication.record name).terminal = false ∧
      (system.publication.record name).version.generation ≤ entry.snapshot.generation := by
    intro hmem
    have hdone := List.all_eq_true.mp hcomplete _ hmem
    unfold FilterPublicationState.memberComplete at hdone
    simp only [if_neg (not_le.mpr hlive.quiesced)] at hdone
    split_ifs at hdone with hterminal
    simp only [decide_eq_true_eq] at hdone
    exact ⟨by simpa using hterminal, hdone.2.trans hlive.observed⟩
  cases name with
  | retired =>
    have hlt := h.retired_owner entry.snapshot howner
    rcases h.place entry hentry with hactive | hretired | hterminal
    · have := (h.active_generation _ hactive).1
      omega
    · have hversion := (h.retired_pending hpending).1
      have hheld := (hmember hretired.2).2
      rw [FilterPublicationState.record, hversion] at hheld
      omega
    · have := h.terminal_owner _ hterminal.1
      omega
  | terminal =>
    have hequal := h.terminal_owner entry.snapshot howner
    have hfacts := h.terminal_pending hpending
    rcases h.place entry hentry with hactive | hretired | hterminal
    · rw [hfacts.2] at hactive
      simp at hactive
    · have := h.retired_owner _ hretired.1
      omega
    · have hnot := (hmember hterminal.2).1
      rw [FilterPublicationState.record, hfacts.1] at hnot
      simp at hnot

/-- The stable owners are owners of different objects. -/
theorem held_nodup (h : Inv system) : system.held.Nodup :=
  (h.accounted.nodup_iff.mp h.published_nodup).of_append_right

theorem owner_mem_held {name : RecordName} {owner : FilterSnapshot}
    (howner : (system.publication.record name).owner = some owner) : owner ∈ system.held := by
  unfold System.held
  cases name with
  | retired =>
    have hretired : system.publication.retired.owner = some owner := howner
    simp [hretired]
  | terminal =>
    have hterminal : system.publication.terminal.owner = some owner := howner
    simp [hterminal]

/-- The record of a complete cohort has the only owner. -/
theorem useCount_eq_one (h : Inv system) {name : RecordName} {owner : FilterSnapshot}
    (hpending : (system.publication.record name).pending = true)
    (hcomplete : system.publication.cohortComplete (system.publication.record name) = true)
    (howner : (system.publication.record name).owner = some owner) :
    system.useCount owner = 1 := by
  have hheld : system.held.count owner = 1 :=
    List.count_eq_one_of_mem h.held_nodup (owner_mem_held howner)
  have hlocals : (system.locals.map (·.snapshot)).count owner = 0 := by
    rw [List.count_eq_zero]
    intro hmem
    obtain ⟨entry, hentry, hsnapshot⟩ := List.mem_map.mp hmem
    refine h.not_owner_of_cohortComplete hpending hcomplete entry hentry ?_
    rw [howner, hsnapshot]
  unfold System.useCount
  omega

/-- No live instance holds what the reclaimer is about to destroy. -/
theorem soleOwner_ne (h : Inv system) : ∀ entry ∈ system.locals,
    system.reclaimer.soleOwner ≠ some entry.snapshot := by
  intro entry hentry hsole
  have hnodup := h.held_nodup
  unfold System.held at hnodup
  have hdisjoint := (List.nodup_append.mp hnodup).2.2
  refine hdisjoint entry.snapshot ?_ entry.snapshot (by simp [hsole]) rfl
  rcases h.place entry hentry with hactive | hretired | hterminal
  · simp [hactive]
  · simp [hretired.1]
  · simp [hterminal.1]

/-- No live instance holds a snapshot whose record has let go of it. -/
theorem not_mem_released (h : Inv system) : ∀ entry ∈ system.locals,
    entry.snapshot ∉ system.released := by
  intro entry hentry hmem
  have hnodup := h.accounted.nodup_iff.mp h.published_nodup
  have hdisjoint := (List.nodup_append.mp hnodup).2.2
  refine hdisjoint entry.snapshot hmem entry.snapshot ?_ rfl
  unfold System.held
  rcases h.place entry hentry with hactive | hretired | hterminal
  · simp [hactive]
  · simp [hretired.1]
  · simp [hterminal.1]

/-! ## The reclaimer -/

/-- The reclaimer moves between two points of its code where it owns nothing. -/
theorem moveReclaimer (h : Inv system) (reclaimer : Reclaimer) (active started : Bool)
    (hactive : active = true ↔ reclaimer ≠ .stopped)
    (hidle : ∀ name soleOwner generation retiredBytes,
      reclaimer ≠ .destroying name soleOwner generation retiredBytes)
    (hsole : system.reclaimer.soleOwner = none) :
    Inv { system with
      publication := { system.publication with
        reclaimerStarted := started
        reclaimerActive := active }
      reclaimer := reclaimer } := by
  have hnone : reclaimer.soleOwner = none := by
    cases reclaimer with
    | destroying name soleOwner generation retiredBytes => exact absurd rfl (hidle _ _ _ _)
    | stopped => rfl
    | looping => rfl
    | exiting code => rfl
  refine { h with reclaimer_active := hactive, destroying := ?_, accounted := ?_ }
  · intro name soleOwner generation retiredBytes hreclaimer
    exact absurd hreclaimer (hidle _ _ _ _)
  · have haccounted := h.accounted
    simp only [System.held, hsole, hnone] at haccounted ⊢
    exact haccounted

/-- The record lets its owner go to the reclaimer's stack. -/
theorem beginDestroy (h : Inv system) (name : RecordName) {generation : Nat}
    (retiredBytes : Nat)
    (hlooping : system.reclaimer = .looping)
    (hpending : (system.publication.record name).pending = true)
    (hcomplete : system.publication.cohortComplete (system.publication.record name) = true)
    (hgeneration : generation = (system.publication.record name).version.generation) :
    Inv { system with
      publication :=
        (if name = .retired then
          { system.publication with
            lastConvergedGeneration := max system.publication.lastConvergedGeneration generation }
          else system.publication).setRecord name
          { system.publication.record name with destroying := true, owner := none }
      reclaimer := .destroying name (system.publication.record name).owner generation
        retiredBytes } := by
  have hno := h.not_owner_of_cohortComplete hpending hcomplete
  have hactive : system.publication.reclaimerActive = true :=
    h.reclaimer_active.mpr (by simp [hlooping])
  have haccounted := h.accounted
  simp only [System.held, hlooping, Reclaimer.soleOwner, Option.toList_none,
    List.append_nil] at haccounted
  cases name with
  | retired =>
    simp only [if_true, FilterPublicationState.setRecord, FilterPublicationState.record] at *
    have hversion := (h.retired_pending hpending).1
    refine { h with
      owner_pending := ?_, retired_pending := ?_, retired_owner := ?_, place := ?_,
      converged := ?_, reclaimer_active := ?_, destroying := ?_, accounted := ?_ }
    · intro other owner howner
      cases other with
      | retired => simp [FilterPublicationState.record] at howner
      | terminal => exact h.owner_pending .terminal owner howner
    · intro _
      exact h.retired_pending hpending
    · simp
    · intro entry hentry
      rcases h.place entry hentry with hplace | hplace | hplace
      · exact Or.inl hplace
      · exact absurd hplace.1 (hno entry hentry)
      · exact Or.inr (Or.inr hplace)
    · simp only [hgeneration, hversion]
      refine ⟨by have := h.converged.1; omega, fun entry hentry => ?_⟩
      have hold := h.converged.2 entry hentry
      rcases h.place entry hentry with hplace | hplace | hplace
      · have := (h.active_generation _ hplace).1
        omega
      · exact absurd hplace.1 (hno entry hentry)
      · have := h.terminal_owner _ hplace.1
        omega
    · simp [hactive]
    · rintro other soleOwner generation' retiredBytes' ⟨⟩
      exact ⟨rfl, hpending⟩
    · simp only [System.held, Reclaimer.soleOwner, Option.toList_none, List.append_nil]
      refine haccounted.trans (List.Perm.append_left _ ?_)
      rw [List.append_assoc, List.append_assoc]
      exact List.Perm.append_left _ List.perm_append_comm
  | terminal =>
    simp only [reduceCtorEq, if_false, FilterPublicationState.setRecord,
      FilterPublicationState.record] at *
    refine { h with
      owner_pending := ?_, terminal_pending := ?_, terminal_owner := ?_, place := ?_,
      reclaimer_active := ?_, destroying := ?_, accounted := ?_ }
    · intro other owner howner
      cases other with
      | retired => exact h.owner_pending .retired owner howner
      | terminal => simp [FilterPublicationState.record] at howner
    · intro _
      exact h.terminal_pending hpending
    · simp
    · intro entry hentry
      rcases h.place entry hentry with hplace | hplace | hplace
      · exact Or.inl hplace
      · exact Or.inr (Or.inl hplace)
      · exact absurd hplace.1 (hno entry hentry)
    · simp [hactive]
    · rintro other soleOwner generation' retiredBytes' ⟨⟩
      exact ⟨rfl, hpending⟩
    · simpa only [System.held, Reclaimer.soleOwner, Option.toList_none, List.append_nil]
        using haccounted

theorem iterateReclaimer (h : Inv system) (hlooping : system.reclaimer = .looping) (now : Nat)
    (stopRequested : Bool) : Inv (system.iterateReclaimer now stopRequested) := by
  unfold System.iterateReclaimer
  rcases reclaimerIteration_cases system.publication system.useCount now stopRequested with
    ⟨code, failure, hexit⟩ | hwait | ⟨name, hpending, hcomplete, hdestroy⟩
  · rw [hexit]
    have hactive : system.publication.reclaimerActive = true :=
      h.reclaimer_active.mpr (by simp [hlooping])
    have hmoved : Inv { system with reclaimer := .exiting code } := by
      exact h.moveReclaimer (.exiting code) system.publication.reclaimerActive
        system.publication.reclaimerStarted (by simp [hactive]) (by simp)
        (by simp [hlooping, Reclaimer.soleOwner])
    exact { hmoved with }
  · rw [hwait]
    exact h
  · rw [hdestroy]
    exact h.beginDestroy name _ hlooping hpending hcomplete rfl

theorem resetSoleOwner (h : Inv system) {name : RecordName} {soleOwner : FilterSnapshot}
    {generation retiredBytes : Nat}
    (hreclaimer : system.reclaimer = .destroying name (some soleOwner) generation retiredBytes) :
    Inv { system with
      reclaimer := .destroying name none generation retiredBytes
      released := system.released ++ [soleOwner] } := by
  refine { h with reclaimer_active := ?_, destroying := ?_, accounted := ?_ }
  · simp [h.reclaimer_active.mpr (by simp [hreclaimer])]
  · rintro other soleOwner' generation' retiredBytes' ⟨⟩
    exact h.destroying _ _ _ _ hreclaimer
  · have haccounted := h.accounted
    simp only [System.held, hreclaimer, Reclaimer.soleOwner, Option.toList_some,
      Option.toList_none, List.append_nil] at haccounted ⊢
    refine haccounted.trans ?_
    rw [List.append_assoc system.released]
    exact List.Perm.append_left _ List.perm_append_comm

/-- Clearing a record that has no owner keeps the invariant. -/
theorem clearRecord (h : Inv system) (name : RecordName) (record : RetirementRecord)
    (howner : record.owner = none) (hcleared : record.pending = false)
    (hold : (system.publication.record name).owner = none)
    (hreclaimer : ∀ soleOwner generation retiredBytes,
      system.reclaimer ≠ .destroying name soleOwner generation retiredBytes) :
    Inv { system with publication := system.publication.setRecord name record } := by
  cases name with
  | retired =>
    simp only [FilterPublicationState.setRecord, FilterPublicationState.record] at *
    refine { h with
      owner_pending := ?_, retired_pending := ?_, retired_owner := ?_, place := ?_,
      destroying := ?_, accounted := ?_ }
    · intro other owner hother
      cases other with
      | retired => simp [FilterPublicationState.record, howner] at hother
      | terminal => exact h.owner_pending .terminal owner hother
    · simp [hcleared]
    · simp [howner]
    · intro entry hentry
      rcases h.place entry hentry with hplace | hplace | hplace
      · exact Or.inl hplace
      · simp [hplace.1] at hold
      · exact Or.inr (Or.inr hplace)
    · intro other soleOwner generation retiredBytes hdestroying
      cases other with
      | retired => exact absurd hdestroying (hreclaimer _ _ _)
      | terminal => exact h.destroying _ _ _ _ hdestroying
    · have haccounted := h.accounted
      simp only [System.held, hold, howner] at haccounted ⊢
      exact haccounted
  | terminal =>
    simp only [FilterPublicationState.setRecord, FilterPublicationState.record] at *
    refine { h with
      owner_pending := ?_, terminal_pending := ?_, terminal_owner := ?_, place := ?_,
      destroying := ?_, accounted := ?_ }
    · intro other owner hother
      cases other with
      | retired => exact h.owner_pending .retired owner hother
      | terminal => simp [FilterPublicationState.record, howner] at hother
    · simp [hcleared]
    · simp [howner]
    · intro entry hentry
      rcases h.place entry hentry with hplace | hplace | hplace
      · exact Or.inl hplace
      · exact Or.inr (Or.inl hplace)
      · simp [hplace.1] at hold
    · intro other soleOwner generation retiredBytes hdestroying
      cases other with
      | retired => exact h.destroying _ _ _ _ hdestroying
      | terminal => exact absurd hdestroying (hreclaimer _ _ _)
    · have haccounted := h.accounted
      simp only [System.held, hold, howner] at haccounted ⊢
      exact haccounted

theorem finishDestroy (h : Inv system) {name : RecordName} {generation retiredBytes : Nat}
    (hreclaimer : system.reclaimer = .destroying name none generation retiredBytes) :
    Inv { system with
      publication := system.publication.finishDestroy name generation retiredBytes
      reclaimer := .looping } := by
  have hactive : system.publication.reclaimerActive = true :=
    h.reclaimer_active.mpr (by simp [hreclaimer])
  have howner := (h.destroying _ _ _ _ hreclaimer).1
  have hmoved : Inv { system with reclaimer := .looping } :=
    h.moveReclaimer .looping system.publication.reclaimerActive
      system.publication.reclaimerStarted (by simp [hactive]) (by simp)
      (by simp [hreclaimer, Reclaimer.soleOwner])
  have hcleared := hmoved.clearRecord name
    (FilterPublicationState.clearedRecord (system.publication.record name)) howner rfl
    howner (by simp)
  unfold FilterPublicationState.finishDestroy
  cases name with
  | retired => exact { hcleared with }
  | terminal => exact { hcleared with }

/-- The three steps of the reclaimer for one record, taken together. -/
theorem destroyRecord (h : Inv system) (name : RecordName)
    (hlooping : system.reclaimer = .looping)
    (hpending : (system.publication.record name).pending = true)
    (hcomplete : system.publication.cohortComplete (system.publication.record name) = true) :
    Inv { system with
      publication :=
        ((if name = .retired then
          { system.publication with
            lastConvergedGeneration := max system.publication.lastConvergedGeneration
              (system.publication.record name).version.generation }
          else system.publication).setRecord name
          { system.publication.record name with destroying := true, owner := none }).finishDestroy
            name (system.publication.record name).version.generation
            (system.publication.record name).retiredBytes
      reclaimer := .looping
      released := system.released ++ (system.publication.record name).owner.toList } := by
  have hbegun := h.beginDestroy name (system.publication.record name).retiredBytes hlooping
    hpending hcomplete rfl
  cases howner : (system.publication.record name).owner with
  | none =>
    rw [howner] at hbegun
    simpa using hbegun.finishDestroy rfl
  | some owner =>
    rw [howner] at hbegun
    exact (hbegun.resetSoleOwner rfl).finishDestroy rfl

/-- The emergency path does to a record what the reclaimer does in its three
steps. -/
theorem reclaimRecord (h : Inv system) (name : RecordName)
    (hstopped : system.reclaimer = .stopped)
    (hpending : (system.publication.record name).pending = true)
    (hcomplete : system.publication.cohortComplete (system.publication.record name) = true) :
    Inv { system with
      publication := system.publication.reclaimRecord name (name = .retired)
      released := system.released ++ (system.publication.record name).owner.toList } := by
  have hlooping := h.moveReclaimer .looping true system.publication.reclaimerStarted (by simp)
    (by simp) (by simp [hstopped, Reclaimer.soleOwner])
  have hdestroyed := hlooping.destroyRecord name rfl (by cases name <;> exact hpending)
    (by cases name <;> exact hcomplete)
  have hback := hdestroyed.moveReclaimer system.reclaimer false
    system.publication.reclaimerStarted (by simp [hstopped]) (by simp [hstopped]) rfl
  cases name with
  | retired => exact { hback with reclaimer_active := h.reclaimer_active }
  | terminal => exact { hback with reclaimer_active := h.reclaimer_active }

theorem emergencyReclaim (h : Inv system) : Inv system.emergencyReclaim := by
  unfold System.emergencyReclaim
  rcases emergencyReclaimConverged_cases system.publication system.useCount with
    hfalse | ⟨hinactive, hretired, hterminal, htrue⟩
  · rw [hfalse]
    exact h
  · rw [htrue]
    have hstopped : system.reclaimer = .stopped := by
      by_contra hne
      exact absurd (h.reclaimer_active.mpr hne) (by simp [hinactive])
    simp only
    unfold System.pendingOwners
    by_cases hpending : system.publication.retired.pending = true
    · have hfirst := h.reclaimRecord .retired hstopped hpending (hretired hpending)
      simp only [if_pos hpending]
      by_cases hlast : system.publication.terminal.pending = true
      · have hsecond := hfirst.reclaimRecord .terminal hstopped hlast (hterminal hlast)
        have hcleared : (system.publication.reclaimRecord .retired true).terminal.pending = true :=
          hlast
        rw [if_pos hcleared, if_pos hlast, ← List.append_assoc]
        exact hsecond
      · have hcleared : (system.publication.reclaimRecord .retired true).terminal.pending ≠ true :=
          hlast
        rw [if_neg hcleared, if_neg hlast, List.append_nil]
        exact hfirst
    · simp only [if_neg hpending]
      by_cases hlast : system.publication.terminal.pending = true
      · rw [if_pos hlast, if_pos hlast, List.nil_append]
        exact h.reclaimRecord .terminal hstopped hlast (hterminal hlast)
      · rw [if_neg hlast, if_neg hlast, List.append_nil]
        rw [List.append_nil]
        exact h

/-! ## Runs -/

/-- Every step keeps the invariant. -/
theorem step (h : Inv system) {label : Label} {next : System}
    (hstep : system.step label = some next) : Inv next := by
  cases label with
  | registerWorker workerId instanceId =>
    unfold System.step at hstep
    simp only at hstep
    split_ifs at hstep with hfresh
    obtain rfl := Option.some.inj hstep
    exact h.register hfresh
  | markWorkerRegistered workerId instanceId =>
    obtain rfl := Option.some.inj hstep
    exact h.markWorkerRegistered workerId instanceId
  | refreshWorkerSnapshot workerId instanceId =>
    obtain rfl := Option.some.inj hstep
    exact h.refresh workerId instanceId
  | dropLocalSnapshot workerId instanceId =>
    obtain rfl := Option.some.inj hstep
    exact h.dropLocals _
  | quiesceWorker workerId instanceId =>
    unfold System.step at hstep
    simp only at hstep
    split_ifs at hstep with hnone
    obtain rfl := Option.some.inj hstep
    exact h.quiesceWorker hnone
  | publishProgress =>
    obtain rfl := Option.some.inj hstep
    exact h.publishProgress
  | acquireRetirementCredit stopRequested =>
    unfold System.step at hstep
    obtain ⟨result, hresult, rfl⟩ := Option.map_eq_some_iff.mp hstep
    exact h.acquireRetirementCredit hresult
  | releaseUncommittedCredit =>
    obtain rfl := Option.some.inj hstep
    exact h.releaseUncommittedCredit
  | commit candidate now =>
    obtain rfl := Option.some.inj hstep
    exact h.publish candidate now
  | sealPublication =>
    obtain rfl := Option.some.inj hstep
    exact h.sealPublication
  | detachTerminalSnapshot now =>
    unfold System.step at hstep
    simp only at hstep
    split_ifs at hstep with hsealed
    obtain rfl := Option.some.inj hstep
    exact h.detachTerminalSnapshot now hsealed
  | startReclaimer =>
    unfold System.step at hstep
    simp only at hstep
    split at hstep
    · rename_i hstopped
      obtain ⟨publication, hpublication, rfl⟩ := Option.map_eq_some_iff.mp hstep
      unfold FilterPublicationState.startReclaimer at hpublication
      split_ifs at hpublication
      obtain rfl := Option.some.inj hpublication
      exact h.moveReclaimer .looping true true (by simp) (by simp)
        (by simp [hstopped, Reclaimer.soleOwner])
    · simp at hstep
  | reclaimerIteration now stopRequested =>
    unfold System.step at hstep
    simp only at hstep
    split at hstep
    · rename_i hlooping
      obtain rfl := Option.some.inj hstep
      exact h.iterateReclaimer hlooping now stopRequested
    · simp at hstep
  | resetSoleOwner =>
    unfold System.step at hstep
    simp only at hstep
    split at hstep
    · rename_i hreclaimer
      obtain rfl := Option.some.inj hstep
      exact h.resetSoleOwner hreclaimer
    · simp at hstep
  | finishDestroy =>
    unfold System.step at hstep
    simp only at hstep
    split at hstep
    · rename_i hreclaimer
      obtain rfl := Option.some.inj hstep
      exact h.finishDestroy hreclaimer
    · simp at hstep
  | exitReclaimer =>
    unfold System.step at hstep
    simp only at hstep
    split at hstep
    · rename_i hexiting
      obtain rfl := Option.some.inj hstep
      exact h.moveReclaimer .stopped false system.publication.reclaimerStarted (by simp) (by simp)
        (by simp [hexiting, Reclaimer.soleOwner])
    · simp at hstep
  | requestReclaimerShutdown =>
    obtain rfl := Option.some.inj hstep
    exact { h with }
  | injectReclaimerFailure =>
    obtain rfl := Option.some.inj hstep
    exact { h with }
  | injectReclaimerFailureAfterNextCommit =>
    obtain rfl := Option.some.inj hstep
    exact { h with }
  | emergencyReclaimConverged =>
    obtain rfl := Option.some.inj hstep
    exact h.emergencyReclaim

/-- The invariant holds after every run. -/
theorem run (h : Inv system) {labels : List Label} {final : System}
    (hrun : Transition.run System.step system labels = some final) : Inv final :=
  Transition.run_invariant Inv (fun _ _ _ hinv hstep => hinv.step hstep) h hrun

end Inv

end DnsPro.Publication.System
