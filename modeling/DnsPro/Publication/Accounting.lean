import DnsPro.Publication.Invariant

/-!
# The account of what is retired

`retired_bytes_` counts the rule bytes of the two records.  A commit stores the
size of the snapshot it retires, the terminal detach adds to it and stops at the
greatest `size_t`, and a record that is cleared takes its size away again.

`Accounted` ties the counter and the two generations of the reclaimer to the
records.  `Accounted.step` is its step lemma, and `Grows` says of the same step
that no generation falls.  `LedgerEq` is the frame of the operations that leave
all of this alone; the four that do not have a lemma each.
-/

namespace DnsPro.Publication

/-- The greatest `size_t`. -/
def maximumSize : Nat := 2 ^ 64 - 1

namespace FilterPublicationState

/-- The sum of `retired_bytes` over the records that are pending. -/
def pendingBytes (state : FilterPublicationState) : Nat :=
  (if state.retired.pending then state.retired.retiredBytes else 0) +
    (if state.terminal.pending then state.terminal.retiredBytes else 0)

/-- The counter against the records.  Where the terminal record was added up to
the limit, the record that left first took away all of its own size. -/
def Tallied (published : List FilterSnapshot) (state : FilterPublicationState) : Prop :=
  state.retiredBytes = min maximumSize state.pendingBytes ∨
  state.retired.pending = false ∧ state.terminal.pending = true ∧
    ∃ past older newest, published = past ++ [older, newest] ∧
      maximumSize < older.normalizedRuleBytes + newest.normalizedRuleBytes ∧
      state.retiredBytes = maximumSize - older.normalizedRuleBytes

/-- No generation of the state falls. -/
structure Grows (before after : FilterPublicationState) : Prop where
  current : before.currentGeneration ≤ after.currentGeneration
  converged : before.lastConvergedGeneration ≤ after.lastConvergedGeneration
  reclaimed : before.lastReclaimedGeneration ≤ after.lastReclaimedGeneration

/-- The records, the credit, the counter and the generations are unchanged. -/
structure LedgerEq (before after : FilterPublicationState) : Prop where
  retired : after.retired = before.retired
  terminal : after.terminal = before.terminal
  retirementCreditHeld : after.retirementCreditHeld = before.retirementCreditHeld
  retiredBytes : after.retiredBytes = before.retiredBytes
  currentGeneration : after.currentGeneration = before.currentGeneration
  currentNormalizedRuleBytes :
    after.currentNormalizedRuleBytes = before.currentNormalizedRuleBytes
  lastConvergedGeneration : after.lastConvergedGeneration = before.lastConvergedGeneration
  lastReclaimedGeneration : after.lastReclaimedGeneration = before.lastReclaimedGeneration

theorem LedgerEq.refl (state : FilterPublicationState) : LedgerEq state state :=
  ⟨rfl, rfl, rfl, rfl, rfl, rfl, rfl, rfl⟩

theorem LedgerEq.record {before after : FilterPublicationState} (h : LedgerEq before after)
    (name : RecordName) : after.record name = before.record name := by
  cases name with
  | retired => exact h.retired
  | terminal => exact h.terminal

theorem LedgerEq.grows {before after : FilterPublicationState} (h : LedgerEq before after) :
    Grows before after :=
  ⟨h.currentGeneration.ge, h.lastConvergedGeneration.ge, h.lastReclaimedGeneration.ge⟩

theorem LedgerEq.tallied {before after : FilterPublicationState} (h : LedgerEq before after)
    {published : List FilterSnapshot} (htallied : Tallied published before) :
    Tallied published after := by
  unfold Tallied pendingBytes at *
  rw [h.retired, h.terminal, h.retiredBytes]
  exact htallied

theorem ledgerEq_registerWorker (state : FilterPublicationState) (workerId instanceId : Nat) :
    LedgerEq state (state.registerWorker workerId instanceId).2 := by
  rcases registerWorker_cases state workerId instanceId with hnone | ⟨snapshot, -, -, -, -, hsome⟩
  · rw [hnone]
    exact LedgerEq.refl state
  · rw [hsome]
    exact ⟨rfl, rfl, rfl, rfl, rfl, rfl, rfl, rfl⟩

theorem ledgerEq_markWorkerRegistered (state : FilterPublicationState)
    (workerId instanceId : Nat) :
    LedgerEq state (state.markWorkerRegistered workerId instanceId).2 := by
  unfold markWorkerRegistered
  simp only
  split_ifs
  · exact LedgerEq.refl state
  · exact LedgerEq.refl state
  · exact ⟨rfl, rfl, rfl, rfl, rfl, rfl, rfl, rfl⟩

theorem ledgerEq_refreshWorkerSnapshot (state : FilterPublicationState)
    (localSnapshot : Option FilterSnapshot) (workerId instanceId : Nat) :
    LedgerEq state (state.refreshWorkerSnapshot localSnapshot workerId instanceId).state := by
  rcases refreshWorkerSnapshot_cases state localSnapshot workerId instanceId with
    hfail | ⟨next, held, advanced, -, -, -, -, hok⟩
  · rw [hfail]
    exact LedgerEq.refl state
  · rw [hok]
    exact ⟨rfl, rfl, rfl, rfl, rfl, rfl, rfl, rfl⟩

theorem ledgerEq_quiesceWorker (state : FilterPublicationState) (workerId instanceId : Nat) :
    LedgerEq state (state.quiesceWorker workerId instanceId) := by
  unfold quiesceWorker
  simp only
  split_ifs
  · exact ⟨rfl, rfl, rfl, rfl, rfl, rfl, rfl, rfl⟩
  · exact LedgerEq.refl state

/-- The three ways `acquire_retirement_credit` returns. -/
theorem acquireRetirementCredit_cases {state next : FilterPublicationState}
    {stopRequested acquired : Bool}
    (h : state.acquireRetirementCredit stopRequested = some (acquired, next)) :
    acquired = false ∧ next = state ∨
    acquired = true ∧ state.retirementCreditHeld = false ∧
      next = { state with retirementCreditHeld := true } := by
  unfold acquireRetirementCredit at h
  simp only at h
  split_ifs at h with hwait hrefused
  · obtain ⟨rfl, rfl⟩ := Prod.mk.inj (Option.some.inj h)
    exact Or.inl ⟨rfl, rfl⟩
  · obtain ⟨rfl, rfl⟩ := Prod.mk.inj (Option.some.inj h)
    refine Or.inr ⟨rfl, ?_, rfl⟩
    cases hcredit : state.retirementCreditHeld <;> cases hsealed : state.publicationSealed <;>
      simp_all

/-- The reclaimer turns to the terminal record when no other is pending. -/
theorem reclaimerIteration_terminal {state : FilterPublicationState}
    {useCount : FilterSnapshot → Nat} {now : Nat} {stopRequested : Bool}
    {soleOwner : Option FilterSnapshot} {generation retiredBytes : Nat}
    (h : (state.reclaimerIteration useCount now stopRequested).1 =
      .destroy .terminal soleOwner generation retiredBytes) :
    state.retired.pending = false := by
  by_contra hpending
  have hnext : state.nextPendingRecord = some .retired := by
    unfold nextPendingRecord
    exact if_pos (by simpa using hpending)
  unfold reclaimerIteration at h
  rw [hnext] at h
  simp only at h
  split_ifs at h
  all_goals simp at h

/-! ## Two sizes and a limit -/

/-- The counter after the first of two records left. -/
theorem settle_first {limit older newest total : Nat}
    (htotal : total = min limit (older + newest)) :
    total - min total older = min limit newest ∨
      limit < older + newest ∧ total - min total older = limit - older := by
  omega

/-- Nothing is left after the second. -/
theorem settle_last {limit older newest total : Nat}
    (htotal : total = min limit newest ∨ limit < older + newest ∧ total = limit - older) :
    total - min total newest = 0 := by
  omega

end FilterPublicationState

namespace System

open FilterPublicationState

/-- The counter and the generations of the reclaimer against the records.
`first` is the generation of the initial snapshot. -/
structure Accounted (first : Nat) (system : System) : Prop where
  newest : ∃ past newest, system.published = past ++ [newest] ∧
    newest.normalizedRuleBytes = system.publication.currentNormalizedRuleBytes
  retired : system.publication.retired.pending = true →
    ∃ past older newest, system.published = past ++ [older, newest] ∧
      older.normalizedRuleBytes = system.publication.retired.retiredBytes ∧
      newest.normalizedRuleBytes = system.publication.currentNormalizedRuleBytes
  terminal : system.publication.terminal.pending = true →
    system.publication.terminal.retiredBytes = system.publication.currentNormalizedRuleBytes
  destroying : ∀ name soleOwner generation retiredBytes,
    system.reclaimer = .destroying name soleOwner generation retiredBytes →
    retiredBytes = (system.publication.record name).retiredBytes ∧
    generation = (system.publication.record name).version.generation ∧
    (name = .retired → generation ≤ system.publication.lastConvergedGeneration) ∧
    (name = .terminal → system.publication.retired.pending = false)
  reclaimed : system.publication.lastReclaimedGeneration ≤
    system.publication.lastConvergedGeneration
  unreclaimed : ∀ generation, first < generation →
    generation ≤ system.publication.currentGeneration →
    system.publication.lastReclaimedGeneration < generation →
    system.publication.retired.pending = true ∧
      generation = system.publication.currentGeneration
  tallied : (∀ snapshot ∈ system.published, snapshot.normalizedRuleBytes ≤ maximumSize) →
    Tallied system.published system.publication

/-- A step that has nothing to do with the account. -/
structure Quiet (system next : System) : Prop where
  ledger : LedgerEq system.publication next.publication
  published : next.published = system.published
  reclaimer : ∀ name soleOwner generation retiredBytes,
    next.reclaimer = .destroying name soleOwner generation retiredBytes →
    ∃ before, system.reclaimer = .destroying name before generation retiredBytes

/-- A move of the publication alone. -/
theorem Quiet.of_ledger {system : System} {publication : FilterPublicationState}
    (h : LedgerEq system.publication publication) :
    Quiet system { system with publication := publication } :=
  ⟨h, rfl, fun _ soleOwner _ _ hnext => ⟨soleOwner, hnext⟩⟩

/-- The labels of the operations that have nothing to do with the account. -/
def Label.isQuiet : Label → Bool
  | .acquireRetirementCredit _ | .releaseUncommittedCredit | .commit _ _
  | .detachTerminalSnapshot _ | .reclaimerIteration _ _ | .finishDestroy
  | .emergencyReclaimConverged => false
  | _ => true

theorem quiet_step {system next : System} {label : Label} (hstep : system.step label = some next)
    (hquiet : label.isQuiet = true) : Quiet system next := by
  cases label with
  | registerWorker workerId instanceId =>
    obtain ⟨_, rfl⟩ := Transition.enabled hstep
    have hledger := ledgerEq_registerWorker system.publication workerId instanceId
    unfold System.register
    rcases hregister : system.publication.registerWorker workerId instanceId with
      ⟨_ | registration, publication⟩
    all_goals
      rw [hregister] at hledger
      simp only [hregister]
      exact ⟨hledger, rfl, fun _ soleOwner _ _ hnext => ⟨soleOwner, hnext⟩⟩
  | markWorkerRegistered workerId instanceId =>
    obtain rfl := Option.some.inj hstep
    exact Quiet.of_ledger (ledgerEq_markWorkerRegistered _ workerId instanceId)
  | refreshWorkerSnapshot workerId instanceId =>
    obtain rfl := Option.some.inj hstep
    have hledger := ledgerEq_refreshWorkerSnapshot system.publication
      (system.localSnapshot workerId instanceId) workerId instanceId
    unfold System.refresh
    dsimp only
    split <;> exact ⟨hledger, rfl, fun _ soleOwner _ _ hnext => ⟨soleOwner, hnext⟩⟩
  | dropLocalSnapshot workerId instanceId =>
    obtain rfl := Option.some.inj hstep
    exact ⟨LedgerEq.refl _, rfl, fun _ soleOwner _ _ hnext => ⟨soleOwner, hnext⟩⟩
  | quiesceWorker workerId instanceId =>
    obtain ⟨_, rfl⟩ := Transition.enabled hstep
    exact Quiet.of_ledger (ledgerEq_quiesceWorker _ workerId instanceId)
  | startReclaimer =>
    simp only [System.step] at hstep
    split at hstep
    · obtain ⟨publication, hpublication, rfl⟩ := Option.map_eq_some_iff.mp hstep
      unfold FilterPublicationState.startReclaimer at hpublication
      split_ifs at hpublication
      obtain rfl := Option.some.inj hpublication
      exact ⟨⟨rfl, rfl, rfl, rfl, rfl, rfl, rfl, rfl⟩, rfl, by simp⟩
    · cases hstep
  | resetSoleOwner =>
    simp only [System.step] at hstep
    split at hstep
    · rename_i name soleOwner generation retiredBytes hreclaimer
      obtain rfl := Option.some.inj hstep
      refine ⟨LedgerEq.refl _, rfl, fun _ _ _ _ hnext => ?_⟩
      obtain ⟨rfl, -, rfl, rfl⟩ := Reclaimer.destroying.inj hnext
      exact ⟨_, hreclaimer⟩
    · cases hstep
  | exitReclaimer =>
    simp only [System.step] at hstep
    split at hstep
    · obtain rfl := Option.some.inj hstep
      exact ⟨⟨rfl, rfl, rfl, rfl, rfl, rfl, rfl, rfl⟩, rfl, by simp⟩
    · cases hstep
  | publishProgress | sealPublication | requestReclaimerShutdown | injectReclaimerFailure
  | injectReclaimerFailureAfterNextCommit =>
    obtain rfl := Option.some.inj hstep
    exact Quiet.of_ledger ⟨rfl, rfl, rfl, rfl, rfl, rfl, rfl, rfl⟩
  | acquireRetirementCredit | releaseUncommittedCredit | commit | detachTerminalSnapshot
  | reclaimerIteration | finishDestroy | emergencyReclaimConverged => cases hquiet

/-- What a step keeps: the account, and that no generation falls. -/
structure Settles (first : Nat) (system next : System) : Prop where
  accounted : Accounted first next
  grows : Grows system.publication next.publication

theorem Settles.trans {first : Nat} {system middle next : System}
    (h : Settles first system middle) (h' : Settles first middle next) :
    Settles first system next :=
  ⟨h'.accounted, h.grows.current.trans h'.grows.current,
    h.grows.converged.trans h'.grows.converged, h.grows.reclaimed.trans h'.grows.reclaimed⟩

namespace Accounted

variable {first : Nat} {system next : System}

theorem start {initialSnapshot : FilterSnapshot} {maximumWorkers graceTimeout : Nat}
    (h : System.new initialSnapshot maximumWorkers graceTimeout = some system) :
    Accounted initialSnapshot.generation system := by
  unfold System.new FilterPublicationState.new at h
  simp only at h
  split at h
  · simp at h
  · simp only [Option.map_some, Option.some.injEq] at h
    subst h
    constructor <;> simp [Tallied, pendingBytes]
    · exact ⟨[], initialSnapshot, rfl, rfl⟩
    · intro generation hlt hle
      omega

theorem quiet (h : Accounted first system) (hquiet : Quiet system next) :
    Settles first system next := by
  obtain ⟨hledger, hpublished, hreclaimer⟩ := hquiet
  refine ⟨?_, hledger.grows⟩
  constructor
  · rw [hpublished, hledger.currentNormalizedRuleBytes]
    exact h.newest
  · rw [hpublished, hledger.retired, hledger.currentNormalizedRuleBytes]
    exact h.retired
  · rw [hledger.terminal, hledger.currentNormalizedRuleBytes]
    exact h.terminal
  · intro name soleOwner generation retiredBytes hnext
    obtain ⟨before, hbefore⟩ := hreclaimer _ _ _ _ hnext
    rw [hledger.record, hledger.lastConvergedGeneration, hledger.retired]
    exact h.destroying _ _ _ _ hbefore
  · rw [hledger.lastReclaimedGeneration, hledger.lastConvergedGeneration]
    exact h.reclaimed
  · rw [hledger.currentGeneration, hledger.lastReclaimedGeneration, hledger.retired]
    exact h.unreclaimed
  · intro hsizes
    rw [hpublished] at hsizes ⊢
    exact hledger.tallied (h.tallied hsizes)

/-- Nothing of the account changes with the credit. -/
theorem setCredit (h : Accounted first system) (credit : Bool) :
    Settles first system { system with
      publication := { system.publication with retirementCreditHeld := credit } } :=
  ⟨{ h with }, ⟨le_rfl, le_rfl, le_rfl⟩⟩

theorem refl (h : Accounted first system) : Settles first system system :=
  ⟨h, ⟨le_rfl, le_rfl, le_rfl⟩⟩

/-! ## The commit and the terminal detach -/

theorem not_destroying (hinv : Inv system) (name : RecordName)
    (hidle : (system.publication.record name).pending = false)
    (soleOwner : Option FilterSnapshot) (generation retiredBytes : Nat) :
    system.reclaimer ≠ .destroying name soleOwner generation retiredBytes := by
  intro hreclaimer
  have hpending := (hinv.destroying _ _ _ _ hreclaimer).2
  rw [hidle] at hpending
  cases hpending

/-- Before the seal there is no terminal record. -/
theorem terminal_idle (hinv : Inv system)
    (hunsealed : system.publication.publicationSealed = false) :
    system.publication.terminal.pending = false := by
  by_contra hpending
  rw [Bool.not_eq_false] at hpending
  have hsealed := hinv.detached_sealed (hinv.terminal_pending hpending).2
  rw [hunsealed] at hsealed
  cases hsealed

theorem commit (h : Accounted first system) (hinv : Inv system)
    (candidate : Option FilterSnapshot) (now : Nat) :
    Settles first system (system.publish candidate now) := by
  unfold System.publish
  rcases commit_cases system.publication candidate now with
    ⟨error, herror⟩ | ⟨snapshot, rfl, -, hidle, hunsealed, -, hgeneration, hok⟩
  · rw [herror]
    cases candidate <;> exact h.refl
  · rw [hok]
    have hterminal := terminal_idle hinv hunsealed
    obtain ⟨past, older, hpublished, holder⟩ := h.newest
    have hconverged := hinv.converged.1
    have hreclaimed := h.reclaimed
    have hgrown : system.published ++ [snapshot] = past ++ [older, snapshot] := by
      rw [hpublished, List.append_assoc, List.singleton_append]
    refine ⟨⟨⟨_, snapshot, rfl, rfl⟩, fun _ => ⟨past, older, snapshot, hgrown, holder, rfl⟩,
      ?_, ?_, hreclaimed, ?_, ?_⟩, ⟨?_, le_rfl, le_rfl⟩⟩
    · intro hpending
      exact absurd hpending (by simp [hterminal])
    · intro name soleOwner generation retiredBytes hreclaimer
      cases name with
      | retired => exact absurd hreclaimer (not_destroying hinv .retired hidle _ _ _)
      | terminal => exact absurd hreclaimer (not_destroying hinv .terminal hterminal _ _ _)
    · intro generation hfirst hle hlt
      refine ⟨rfl, ?_⟩
      simp only at hle hlt ⊢
      by_contra hne
      -- an older generation that is not reclaimed would have kept the record
      have hpending := (h.unreclaimed generation hfirst (by omega) hlt).1
      rw [hidle] at hpending
      cases hpending
    · intro hsizes
      have hsize := hsizes older (by simp [hpublished])
      refine Or.inl ?_
      simp only [pendingBytes, hterminal, if_true, Bool.false_eq_true, if_false]
      omega
    · simp only
      omega

theorem detachTerminalSnapshot (h : Accounted first system) (hinv : Inv system) (now : Nat) :
    Settles first system
      { system with publication := system.publication.detachTerminalSnapshot now } := by
  unfold FilterPublicationState.detachTerminalSnapshot
  split_ifs with hpending
  · exact h.refl
  split
  · exact h.refl
  · rename_i active hactive
    rw [Bool.not_eq_true] at hpending
    have hsize := (hinv.active_generation active hactive).2.2
    refine ⟨{ h with terminal := fun _ => hsize, destroying := ?_, tallied := ?_ },
      ⟨le_rfl, le_rfl, le_rfl⟩⟩
    · intro name soleOwner generation retiredBytes hreclaimer
      cases name with
      | retired => exact h.destroying _ _ _ _ hreclaimer
      | terminal => exact absurd hreclaimer (not_destroying hinv .terminal hpending _ _ _)
    · intro hsizes
      have hbytes : system.publication.retiredBytes =
          min maximumSize system.publication.pendingBytes := by
        rcases h.tallied hsizes with hbytes | ⟨-, hterminal, -⟩
        · exact hbytes
        · rw [hpending] at hterminal
          cases hterminal
      simp only [pendingBytes, hpending, Bool.false_eq_true, if_false, add_zero] at hbytes
      refine Or.inl ?_
      simp only [pendingBytes, if_true]
      show min maximumSize _ = _
      omega

/-! ## Records that leave -/

/-- The retired record is cleared and its generation is reclaimed. -/
theorem clearRetired (h : Accounted first system) (hinv : Inv system)
    (hpending : system.publication.retired.pending = true)
    (hpublished : next.published = system.published)
    (hidle : next.publication.retired.pending = false)
    (hterminal : next.publication.terminal = system.publication.terminal)
    (hbytes : next.publication.retiredBytes = system.publication.retiredBytes -
      min system.publication.retiredBytes system.publication.retired.retiredBytes)
    (hcurrent : next.publication.currentGeneration = system.publication.currentGeneration)
    (hsize : next.publication.currentNormalizedRuleBytes =
      system.publication.currentNormalizedRuleBytes)
    (hconverged : next.publication.lastConvergedGeneration =
      max system.publication.lastConvergedGeneration system.publication.retired.version.generation)
    (hreclaimed : next.publication.lastReclaimedGeneration =
      max system.publication.lastReclaimedGeneration system.publication.retired.version.generation)
    (hreclaimer : ∀ name soleOwner generation retiredBytes,
      next.reclaimer ≠ .destroying name soleOwner generation retiredBytes) :
    Settles first system next := by
  have hgeneration := (hinv.retired_pending hpending).1
  refine ⟨⟨?_, ?_, ?_, ?_, ?_, ?_, ?_⟩, ⟨hcurrent.ge, by omega, by omega⟩⟩
  · rw [hpublished, hsize]
    exact h.newest
  · intro hyes
    rw [hidle] at hyes
    cases hyes
  · rw [hterminal, hsize]
    exact h.terminal
  · intro name soleOwner generation retiredBytes hnext
    exact absurd hnext (hreclaimer _ _ _ _)
  · rw [hconverged, hreclaimed]
    exact max_le_max_right _ h.reclaimed
  · intro generation _ hle hlt
    rw [hcurrent] at hle
    rw [hreclaimed, hgeneration] at hlt
    omega
  · intro hsizes
    rw [hpublished] at hsizes ⊢
    obtain ⟨past, older, newest, hlist, holder, hnewest⟩ := h.retired hpending
    have hfits := hsizes older (by simp [hlist])
    have htotal : system.publication.retiredBytes =
        min maximumSize system.publication.pendingBytes := by
      rcases h.tallied hsizes with htotal | ⟨hno, -⟩
      · exact htotal
      · rw [hpending] at hno
        cases hno
    unfold pendingBytes at htotal
    rw [if_pos hpending] at htotal
    unfold Tallied pendingBytes
    rw [hidle, hterminal, hbytes]
    rcases settle_first htotal with hleft | ⟨hover, hleft⟩
    · exact Or.inl (by simpa using hleft)
    · by_cases hboth : system.publication.terminal.pending = true
      · rw [if_pos hboth, h.terminal hboth] at hover
        exact Or.inr ⟨rfl, hboth, past, older, newest, hlist, by omega, by omega⟩
      · rw [if_neg hboth] at hover
        omega

/-- The terminal record is cleared, after the retired one. -/
theorem clearTerminal (h : Accounted first system)
    (hidle : system.publication.retired.pending = false)
    (hpending : system.publication.terminal.pending = true)
    (hpublished : next.published = system.published)
    (hretired : next.publication.retired = system.publication.retired)
    (hterminal : next.publication.terminal.pending = false)
    (hbytes : next.publication.retiredBytes = system.publication.retiredBytes -
      min system.publication.retiredBytes system.publication.terminal.retiredBytes)
    (hcurrent : next.publication.currentGeneration = system.publication.currentGeneration)
    (hsize : next.publication.currentNormalizedRuleBytes =
      system.publication.currentNormalizedRuleBytes)
    (hconverged : next.publication.lastConvergedGeneration =
      system.publication.lastConvergedGeneration)
    (hreclaimed : next.publication.lastReclaimedGeneration =
      system.publication.lastReclaimedGeneration)
    (hreclaimer : ∀ name soleOwner generation retiredBytes,
      next.reclaimer ≠ .destroying name soleOwner generation retiredBytes) :
    Settles first system next := by
  refine ⟨⟨?_, ?_, ?_, ?_, ?_, ?_, ?_⟩, ⟨hcurrent.ge, hconverged.ge, hreclaimed.ge⟩⟩
  · rw [hpublished, hsize]
    exact h.newest
  · rw [hpublished, hretired, hsize]
    exact h.retired
  · intro hyes
    rw [hterminal] at hyes
    cases hyes
  · intro name soleOwner generation retiredBytes hnext
    exact absurd hnext (hreclaimer _ _ _ _)
  · rw [hreclaimed, hconverged]
    exact h.reclaimed
  · rw [hcurrent, hreclaimed, hretired]
    exact h.unreclaimed
  · intro hsizes
    rw [hpublished] at hsizes ⊢
    obtain ⟨past, newest, hlist, hnewest⟩ := h.newest
    have htotal : ∃ older, system.publication.retiredBytes =
          min maximumSize system.publication.terminal.retiredBytes ∨
        maximumSize < older + system.publication.terminal.retiredBytes ∧
          system.publication.retiredBytes = maximumSize - older := by
      rcases h.tallied hsizes with htotal | ⟨-, -, past', older, newest', hlist', hover, htotal⟩
      · refine ⟨0, Or.inl ?_⟩
        simpa [pendingBytes, hidle, hpending] using htotal
      · have hlast : past' ++ [older] ++ [newest'] = past ++ [newest] := by
          rw [← hlist, hlist', List.append_assoc, List.singleton_append]
        obtain ⟨rfl, -⟩ := List.cons.inj (List.append_inj' hlast rfl).2
        rw [hnewest, ← h.terminal hpending] at hover
        exact ⟨older.normalizedRuleBytes, Or.inr ⟨hover, htotal⟩⟩
    obtain ⟨older, htotal⟩ := htotal
    refine Or.inl ?_
    rw [hbytes, settle_last htotal]
    simp [pendingBytes, hretired, hidle, hterminal]

theorem beginDestroy (h : Accounted first system) (now : Nat) (stopRequested : Bool) :
    Settles first system (system.iterateReclaimer now stopRequested) := by
  unfold System.iterateReclaimer
  rcases reclaimerIteration_cases system.publication system.useCount now stopRequested with
    ⟨code, failure, hexit⟩ | hwait | ⟨name, hpending, -, hdestroy⟩
  · rw [hexit]
    exact h.quiet ⟨⟨rfl, rfl, rfl, rfl, rfl, rfl, rfl, rfl⟩, rfl, by simp⟩
  · rw [hwait]
    exact h.refl
  · have hlast : name = .terminal → system.publication.retired.pending = false := by
      rintro rfl
      exact reclaimerIteration_terminal (congrArg Prod.fst hdestroy)
    rw [hdestroy]
    cases name with
    | retired =>
      refine ⟨{ h with destroying := ?_, reclaimed := ?_ }, ⟨le_rfl, le_max_left _ _, le_rfl⟩⟩
      · intro name soleOwner generation retiredBytes hreclaimer
        obtain ⟨rfl, -, rfl, rfl⟩ := Reclaimer.destroying.inj hreclaimer
        refine ⟨rfl, rfl, fun _ => le_max_right _ _, fun heq => ?_⟩
        cases heq
      · exact h.reclaimed.trans (le_max_left _ _)
    | terminal =>
      refine ⟨{ h with destroying := ?_ }, ⟨le_rfl, le_rfl, le_rfl⟩⟩
      intro name soleOwner generation retiredBytes hreclaimer
      obtain ⟨rfl, -, rfl, rfl⟩ := Reclaimer.destroying.inj hreclaimer
      refine ⟨rfl, rfl, fun heq => ?_, fun _ => hlast rfl⟩
      cases heq

theorem finishDestroy (h : Accounted first system) (hinv : Inv system) {name : RecordName}
    {soleOwner : Option FilterSnapshot} {generation retiredBytes : Nat}
    (hreclaimer : system.reclaimer = .destroying name soleOwner generation retiredBytes) :
    Settles first system { system with
      publication := system.publication.finishDestroy name generation retiredBytes
      reclaimer := .looping } := by
  obtain ⟨rfl, rfl, hconverged, hlast⟩ := h.destroying _ _ _ _ hreclaimer
  have hpending := (hinv.destroying _ _ _ _ hreclaimer).2
  cases name with
  | retired =>
    have hmax := max_eq_left (hconverged rfl)
    exact h.clearRetired hinv hpending rfl rfl rfl rfl rfl rfl hmax.symm rfl (by simp)
  | terminal =>
    exact h.clearTerminal (hlast rfl) hpending rfl rfl rfl rfl rfl rfl rfl rfl (by simp)

theorem emergencyReclaim (h : Accounted first system) (hinv : Inv system) :
    Settles first system system.emergencyReclaim := by
  unfold System.emergencyReclaim
  rcases emergencyReclaimConverged_cases system.publication system.useCount with
    hfalse | ⟨hinactive, -, -, htrue⟩
  · rw [hfalse]
    exact h.refl
  · rw [htrue]
    have hstopped : system.reclaimer = .stopped := by
      by_contra hne
      have hactive := hinv.reclaimer_active.mpr hne
      rw [hinactive] at hactive
      cases hactive
    have hfree : ∀ name soleOwner generation retiredBytes,
        system.reclaimer ≠ .destroying name soleOwner generation retiredBytes := by
      simp [hstopped]
    simp only
    -- the retired record first, then the terminal one
    generalize hmiddle : (if system.publication.retired.pending = true then
      system.publication.reclaimRecord .retired true else system.publication) = middle
    obtain ⟨hsettles, hidle⟩ : Settles first system { system with publication := middle } ∧
        middle.retired.pending = false := by
      subst hmiddle
      by_cases hretired : system.publication.retired.pending = true
      · rw [if_pos hretired]
        exact ⟨h.clearRetired hinv hretired rfl rfl rfl rfl rfl rfl rfl rfl hfree, rfl⟩
      · rw [if_neg hretired]
        exact ⟨h.refl, by simpa using hretired⟩
    by_cases hterminal : middle.terminal.pending = true
    · rw [if_pos hterminal]
      exact hsettles.trans
        (hsettles.accounted.clearTerminal hidle hterminal rfl rfl rfl rfl rfl rfl rfl rfl hfree)
    · rw [if_neg hterminal]
      exact hsettles.trans (hsettles.accounted.quiet
        ⟨LedgerEq.refl _, rfl, fun _ soleOwner _ _ hnext => ⟨soleOwner, hnext⟩⟩)

/-! ## Runs -/

/-- Every step of the protocol keeps the account, and no generation falls. -/
theorem step (h : Accounted first system) (hinv : Inv system) {label : Label}
    (hstep : system.step label = some next) : Settles first system next := by
  cases hquiet : label.isQuiet with
  | true => exact h.quiet (quiet_step hstep hquiet)
  | false =>
    cases label with
    | acquireRetirementCredit stopRequested =>
      obtain ⟨⟨acquired, publication⟩, hacquire, rfl⟩ := Option.map_eq_some_iff.mp hstep
      obtain ⟨-, rfl⟩ | ⟨-, -, rfl⟩ := acquireRetirementCredit_cases hacquire
      · exact h.refl
      · exact h.setCredit true
    | releaseUncommittedCredit =>
      obtain rfl := Option.some.inj hstep
      unfold FilterPublicationState.releaseUncommittedCredit
      split_ifs
      · exact h.setCredit false
      · exact h.refl
    | commit candidate now =>
      obtain rfl := Option.some.inj hstep
      exact h.commit hinv candidate now
    | detachTerminalSnapshot now =>
      obtain ⟨_, rfl⟩ := Transition.enabled hstep
      exact h.detachTerminalSnapshot hinv now
    | reclaimerIteration now stopRequested =>
      simp only [System.step] at hstep
      split at hstep
      · obtain rfl := Option.some.inj hstep
        exact h.beginDestroy now stopRequested
      · cases hstep
    | finishDestroy =>
      simp only [System.step] at hstep
      split at hstep
      · rename_i name generation retiredBytes hreclaimer
        obtain rfl := Option.some.inj hstep
        exact h.finishDestroy hinv hreclaimer
      · cases hstep
    | emergencyReclaimConverged =>
      obtain rfl := Option.some.inj hstep
      exact h.emergencyReclaim hinv
    | registerWorker | markWorkerRegistered | refreshWorkerSnapshot | dropLocalSnapshot
    | quiesceWorker | publishProgress | sealPublication | startReclaimer | resetSoleOwner
    | exitReclaimer | requestReclaimerShutdown | injectReclaimerFailure
    | injectReclaimerFailureAfterNextCommit => cases hquiet

end Accounted

end System

/-! ## The credit -/

namespace FilterPublicationState

/-- The credit is out while a publisher holds it uncommitted or the retired record is
pending, and not for both.  `holds` says whether a publisher does. -/
structure Credited (holds : Bool) (state : FilterPublicationState) : Prop where
  held : state.retirementCreditHeld = true ↔ holds = true ∨ state.retired.pending = true
  apart : holds = true → state.retired.pending = false

/-- The retired record and the credit stay, or the record leaves and gives it back. -/
def CreditKept (before after : FilterPublicationState) : Prop :=
  after.retirementCreditHeld = before.retirementCreditHeld ∧
    after.retired.pending = before.retired.pending ∨
  before.retired.pending = true ∧ after.retirementCreditHeld = false ∧
    after.retired.pending = false

variable {holds : Bool} {state next : FilterPublicationState}

theorem Credited.kept (h : Credited holds state) (hkept : CreditKept state next) :
    Credited holds next := by
  obtain ⟨hcredit, hpending⟩ | ⟨hbefore, hcredit, hpending⟩ := hkept
  · constructor
    · rw [hcredit, hpending]
      exact h.held
    · rw [hpending]
      exact h.apart
  · have hfree : holds = false := by
      by_contra hholds
      have hidle := h.apart (by simpa using hholds)
      rw [hbefore] at hidle
      cases hidle
    constructor <;> simp [hfree, hcredit, hpending]

theorem Credited.acquire (h : Credited false state) {stopRequested acquired : Bool}
    (hacquire : state.acquireRetirementCredit stopRequested = some (acquired, next)) :
    Credited acquired next := by
  obtain ⟨rfl, rfl⟩ | ⟨rfl, hcredit, rfl⟩ := acquireRetirementCredit_cases hacquire
  · exact h
  · have hidle : state.retired.pending = false := by
      by_contra hpending
      have hheld := h.held.mpr (Or.inr (by simpa using hpending))
      rw [hcredit] at hheld
      cases hheld
    constructor <;> simp [hidle]

theorem Credited.release (h : Credited true state) :
    Credited false state.releaseUncommittedCredit ∧
      state.releaseUncommittedCredit.retirementCreditHeld = false := by
  have hidle := h.apart rfl
  unfold releaseUncommittedCredit
  rw [hidle]
  refine ⟨?_, rfl⟩
  constructor <;> simp [hidle]

/-- A commit that succeeds passes the credit on to the record. -/
theorem Credited.commit (h : Credited true state) (candidate : Option FilterSnapshot)
    (now : Nat) :
    (∃ error, (state.commit candidate now).1 = .error error ∧
      Credited true (state.commit candidate now).2) ∨
    ∃ version, (state.commit candidate now).1 = .ok version ∧
      Credited false (state.commit candidate now).2 := by
  rcases commit_cases state candidate now
    with ⟨error, herror⟩ | ⟨snapshot, -, hcredit, -, -, -, -, hok⟩
  · rw [herror]
    exact Or.inl ⟨error, rfl, h⟩
  · rw [hok]
    refine Or.inr ⟨_, rfl, ?_⟩
    constructor <;> simp [hcredit]

theorem creditKept_refl (state : FilterPublicationState) : CreditKept state state :=
  Or.inl ⟨rfl, rfl⟩

end FilterPublicationState

namespace System

open FilterPublicationState

variable {system next : System}

/-- The operations of a publisher: with these the credit is taken, given back or
passed on. -/
def Label.isPublisher : Label → Bool
  | .acquireRetirementCredit _ | .releaseUncommittedCredit | .commit _ _ => true
  | _ => false

/-- No other operation takes the credit, and one that gives it back ends the record. -/
theorem creditKept_step (hinv : Inv system) {label : Label}
    (hstep : system.step label = some next) (hlabel : label.isPublisher = false) :
    CreditKept system.publication next.publication := by
  cases hquiet : label.isQuiet with
  | true =>
    have hledger := (quiet_step hstep hquiet).ledger
    exact Or.inl ⟨hledger.retirementCreditHeld, by rw [hledger.retired]⟩
  | false =>
    cases label with
    | detachTerminalSnapshot now =>
      obtain ⟨_, rfl⟩ := Transition.enabled hstep
      refine Or.inl ?_
      unfold FilterPublicationState.detachTerminalSnapshot
      split_ifs
      · exact ⟨rfl, rfl⟩
      · split <;> exact ⟨rfl, rfl⟩
    | reclaimerIteration now stopRequested =>
      simp only [System.step] at hstep
      split at hstep
      · obtain rfl := Option.some.inj hstep
        unfold System.iterateReclaimer
        rcases reclaimerIteration_cases system.publication system.useCount now stopRequested with
          ⟨code, failure, hexit⟩ | hwait | ⟨name, -, -, hdestroy⟩
        · rw [hexit]
          exact creditKept_refl _
        · rw [hwait]
          exact creditKept_refl _
        · rw [hdestroy]
          cases name <;> exact creditKept_refl _
      · cases hstep
    | finishDestroy =>
      simp only [System.step] at hstep
      split at hstep
      · rename_i name generation retiredBytes hreclaimer
        obtain rfl := Option.some.inj hstep
        have hpending := (hinv.destroying _ _ _ _ hreclaimer).2
        cases name with
        | retired => exact Or.inr ⟨hpending, rfl, rfl⟩
        | terminal => exact Or.inl ⟨rfl, rfl⟩
      · cases hstep
    | emergencyReclaimConverged =>
      obtain rfl := Option.some.inj hstep
      unfold System.emergencyReclaim
      rcases emergencyReclaimConverged_cases system.publication system.useCount with
        hfalse | ⟨-, -, -, htrue⟩
      · rw [hfalse]
        exact creditKept_refl _
      · rw [htrue]
        by_cases hretired : system.publication.retired.pending = true
        · simp only [if_pos hretired]
          split_ifs <;> exact Or.inr ⟨hretired, rfl, rfl⟩
        · simp only [if_neg hretired]
          split_ifs <;> exact Or.inl ⟨rfl, rfl⟩
    | acquireRetirementCredit | releaseUncommittedCredit | commit => cases hlabel
    | registerWorker | markWorkerRegistered | refreshWorkerSnapshot | dropLocalSnapshot
    | quiesceWorker | publishProgress | sealPublication | startReclaimer | resetSoleOwner
    | exitReclaimer | requestReclaimerShutdown | injectReclaimerFailure
    | injectReclaimerFailureAfterNextCommit => cases hquiet

end System

end DnsPro.Publication
