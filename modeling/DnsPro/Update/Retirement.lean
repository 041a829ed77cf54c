import DnsPro.Publication.Accounting
import DnsPro.Update.Invariant

/-!
# The retirement credit

The credit goes from `apply` to the retired record and back.  `CreditMove` lists
what one step of the controller can do with it, and `creditMove_step` shows that a
step does nothing else: `apply` takes the credit, parts with it by a commit or by
`release_uncommitted_credit`, and every other party only moves the record.  Over
a run this gives the account of the credit, of the generations and of the bytes.
-/

namespace DnsPro.Update

open DnsPro.Publication
open FilterPublicationState (Credited Tallied)

/-- `credit_held`, the local of `apply`: it holds a credit that is not committed. -/
def Runner.holdsCredit : Runner → Bool
  | .building _ | .built .. | .releasing _ | .publishing _ => true
  | _ => false

namespace System

/-- The calls with which another publisher would take the credit or give it back. -/
def Label.callsCredit : Label → Bool
  | .publication (.acquireRetirementCredit _) | .publication .releaseUncommittedCredit => true
  | _ => false

/-- What one step can do: the flags say whether `apply` holds a credit before and
after. -/
inductive CreditMove : Bool → Publication.System → Bool → Publication.System → Prop where
  | stay (holds publication) : CreditMove holds publication holds publication
  | other {holds publication next} (label : Publication.System.Label)
      (hlabel : label.isPublisher = false) (hstep : publication.step label = some next) :
      CreditMove holds publication holds next
  | acquire {publication : Publication.System} {stopRequested acquired : Bool}
      {state : FilterPublicationState}
      (hacquire : publication.publication.acquireRetirementCredit stopRequested =
        some (acquired, state)) :
      CreditMove false publication acquired { publication with publication := state }
  | release (publication : Publication.System) :
      CreditMove true publication false
        { publication with publication := publication.publication.releaseUncommittedCredit }
  | refused {publication : Publication.System} {candidate : Option FilterSnapshot} {now : Nat}
      {error : FilterCommitError}
      (herror : (publication.publication.commit candidate now).1 = .error error) :
      CreditMove true publication true (publication.publish candidate now)
  | commit {publication : Publication.System} {candidate : Option FilterSnapshot} {now : Nat}
      {version : FilterVersion}
      (hok : (publication.publication.commit candidate now).1 = .ok version) :
      CreditMove true publication false (publication.publish candidate now)

/-- Each of these is a step of the publication protocol, or none. -/
theorem CreditMove.step {holds holds' : Bool} {publication next : Publication.System}
    (h : CreditMove holds publication holds' next) :
    publication = next ∨ ∃ label, publication.step label = some next := by
  cases h with
  | stay => exact Or.inl rfl
  | other label hlabel hstep => exact Or.inr ⟨label, hstep⟩
  | @acquire _ stopRequested acquired state hacquire =>
    refine Or.inr ⟨.acquireRetirementCredit stopRequested, ?_⟩
    simp only [Publication.System.step, hacquire, Option.map_some]
  | release => exact Or.inr ⟨.releaseUncommittedCredit, rfl⟩
  | @refused _ candidate now => exact Or.inr ⟨.commit candidate now, rfl⟩
  | @commit _ candidate now => exact Or.inr ⟨.commit candidate now, rfl⟩

theorem publish_publication (publication : Publication.System)
    (candidate : Option FilterSnapshot) (now : Nat) :
    (publication.publish candidate now).publication =
      (publication.publication.commit candidate now).2 := by
  unfold Publication.System.publish
  cases candidate with
  | none => rfl
  | some candidate =>
    rcases hcommit : publication.publication.commit (some candidate) now with ⟨_ | version, state⟩
    · rfl
    · rfl

/-- The account of the credit survives every move, and `apply` parts with the credit
by a commit or by freeing it. -/
theorem CreditMove.credited {holds holds' : Bool} {publication next : Publication.System}
    (h : CreditMove holds publication holds' next) (hinv : publication.Inv)
    (hcredited : Credited holds publication.publication) :
    Credited holds' next.publication := by
  cases h with
  | stay => exact hcredited
  | other label hlabel hstep =>
    exact hcredited.kept (Publication.System.creditKept_step hinv hstep hlabel)
  | acquire hacquire => exact hcredited.acquire hacquire
  | release => exact hcredited.release.1
  | @refused _ candidate now error herror =>
    rw [publish_publication]
    obtain ⟨-, -, hheld⟩ | ⟨version, hok, -⟩ := hcredited.commit candidate now
    · exact hheld
    · rw [herror] at hok
      cases hok
  | @commit _ candidate now version hok =>
    rw [publish_publication]
    obtain ⟨error, herror, -⟩ | ⟨-, -, hpassed⟩ := hcredited.commit candidate now
    · rw [herror] at hok
      cases hok
    · exact hpassed

variable {builder : Builder} {start : Publication.System} {initialSnapshot : FilterSnapshot}
  {system next : System}

/-! ## The runner and the calls -/

/-- `seal` only closes the publication. -/
theorem stepSeal_moves (system : System) (point : SealPoint) (holds : Bool) :
    CreditMove holds system.publication holds (system.stepSeal point).2.publication ∧
      (system.stepSeal point).2.runner = system.runner := by
  cases point with
  | sealPublication => exact ⟨.other .sealPublication rfl rfl, rfl⟩
  | requestStop | swap => exact ⟨.stay _ _, rfl⟩
  | completing cancelled => cases cancelled <;> exact ⟨.stay _ _, rfl⟩

theorem stepApply_moves {command : Command} {choice now : Nat}
    (hstep : system.stepApply builder command choice now = some next) :
    CreditMove system.runner.holdsCredit system.publication next.runner.holdsCredit
      next.publication := by
  unfold System.stepApply at hstep
  cases hrunner : system.runner with
  | checkingStop | readingVersion =>
    rw [hrunner] at hstep
    obtain rfl := Option.some.inj hstep
    dsimp only
    split_ifs <;> exact .stay _ _
  | acquiring current =>
    simp only [hrunner] at hstep
    obtain ⟨⟨acquired, state⟩, hacquire, rfl⟩ := Option.map_eq_some_iff.mp hstep
    cases acquired <;> exact .acquire hacquire
  | built nextGeneration outcome =>
    rw [hrunner] at hstep
    cases outcome with
    | failure error | exception =>
      obtain rfl := Option.some.inj hstep
      exact .release _
    | candidate snapshot =>
      cases snapshot with
      | none =>
        obtain rfl := Option.some.inj hstep
        exact .stay _ _
      | some candidate =>
        simp only at hstep
        split_ifs at hstep <;> obtain rfl := Option.some.inj hstep <;> exact .stay _ _
  | releasing code =>
    rw [hrunner] at hstep
    obtain rfl := Option.some.inj hstep
    exact .release _
  | publishing candidate =>
    simp only [hrunner, Option.some.injEq] at hstep
    subst hstep
    unfold System.commitCandidate
    cases hcommit : (system.publication.publication.commit (some candidate) now).1 with
    | error error => exact .refused hcommit
    | ok version => exact .commit hcommit
  | committed version =>
    simp only [hrunner] at hstep
    split_ifs at hstep <;> obtain rfl := Option.some.inj hstep <;> exact .stay _ _
  | awaiting version =>
    simp only [hrunner] at hstep
    obtain ⟨result, -, rfl⟩ := Option.map_eq_some_iff.mp hstep
    exact .stay _ _
  | building _ | buildFailed _ | caught =>
    rw [hrunner] at hstep
    obtain rfl := Option.some.inj hstep
    exact .stay _ _
  | idle | waiting | detaching | returned _ | completed | sealing _ | cancelling
  | completingCancelled _ | closing =>
    rw [hrunner] at hstep
    cases hstep

theorem stepRunner_moves (h : Inv builder start initialSnapshot system) {choice now : Nat}
    {throws : Bool} (hstep : system.stepRunner builder choice now throws = some next) :
    CreditMove system.runner.holdsCredit system.publication next.runner.holdsCredit
      next.publication := by
  have hok := h.runner_ok
  unfold System.stepRunner at hstep
  cases hrunner : system.runner with
  | idle =>
    rw [hrunner] at hstep
    cases hstep
  | waiting =>
    simp only [hrunner] at hstep
    split_ifs at hstep
    · obtain rfl := Option.some.inj hstep
      exact .stay _ _
    · obtain ⟨⟨wakeup, controller⟩, -, rfl⟩ := Option.map_eq_some_iff.mp hstep
      cases wakeup <;> exact .stay _ _
  | detaching =>
    rw [hrunner] at hstep hok
    obtain rfl := Option.some.inj hstep
    exact .other (.detachTerminalSnapshot now) rfl (if_pos hok.2)
  | returned result =>
    simp only [hrunner] at hstep
    obtain ⟨command, -, rfl⟩ := Option.map_eq_some_iff.mp hstep
    unfold System.stepReturned
    split <;> exact .stay _ _
  | sealing point =>
    have hmove := (stepSeal_moves system point false).1
    simp only [hrunner] at hstep
    split at hstep <;> rename_i hpoint <;> rw [hpoint] at hmove <;>
      obtain rfl := Option.some.inj hstep <;> exact hmove
  | completingCancelled cancelled =>
    rw [hrunner] at hstep
    cases cancelled <;> obtain rfl := Option.some.inj hstep <;> exact .stay _ _
  | closing =>
    simp only [hrunner] at hstep
    split at hstep <;> obtain rfl := Option.some.inj hstep <;> exact .stay _ _
  | completed | cancelling =>
    rw [hrunner] at hstep
    obtain rfl := Option.some.inj hstep
    exact .stay _ _
  | checkingStop | readingVersion | acquiring _ | building _ | built _ _ | buildFailed _ | caught
  | releasing _ | publishing _ | committed _ | awaiting _ =>
    rw [← hrunner]
    simp only [hrunner] at hstep
    obtain ⟨command, -, hstep⟩ := Option.bind_eq_some_iff.mp hstep
    exact stepApply_moves hstep

theorem stepSuccessor_moves {point : SuccessorPoint} {outcome : Option SuccessorPoint × System}
    (hstep : system.stepSuccessor point = some outcome) :
    outcome.2.publication = system.publication ∧ outcome.2.runner = system.runner := by
  cases point with
  | entering =>
    simp only [System.stepSuccessor] at hstep
    split at hstep <;> obtain rfl := Option.some.inj hstep <;> exact ⟨rfl, rfl⟩
  | waiting published =>
    simp only [System.stepSuccessor] at hstep
    obtain ⟨result, -, rfl⟩ := Option.map_eq_some_iff.mp hstep
    cases result <;> exact ⟨rfl, rfl⟩
  | taking published =>
    simp only [System.stepSuccessor] at hstep
    split at hstep <;> obtain rfl := Option.some.inj hstep <;> exact ⟨rfl, rfl⟩
  | completing command result =>
    obtain rfl := Option.some.inj hstep
    exact ⟨rfl, rfl⟩

theorem stepCall_moves {index : Nat} (hstep : system.stepCall index = some next) :
    CreditMove system.runner.holdsCredit system.publication next.runner.holdsCredit
      next.publication := by
  unfold System.stepCall at hstep
  cases hget : system.calls[index]? with
  | none =>
    rw [hget] at hstep
    cases hstep
  | some call =>
    cases call with
    | sealCall point terminalDetach =>
      obtain ⟨hmove, hrunner⟩ := stepSeal_moves system point system.runner.holdsCredit
      simp only [hget] at hstep
      split at hstep
      · rename_i hpoint
        rw [hpoint] at hmove hrunner
        obtain rfl := Option.some.inj hstep
        dsimp only at hmove hrunner ⊢
        rw [hrunner]
        exact hmove
      · rename_i hpoint
        rw [hpoint] at hmove hrunner
        dsimp only at hmove hrunner
        split_ifs at hstep <;> obtain rfl := Option.some.inj hstep <;> dsimp only <;>
          rw [hrunner] <;> exact hmove
    | requestDetach =>
      simp only [hget, Option.some.injEq] at hstep
      subst hstep
      exact .stay _ _
    | successor point =>
      simp only [hget] at hstep
      split at hstep
      · cases hstep
      · rename_i hpoint
        obtain rfl := Option.some.inj hstep
        obtain ⟨hpublication, hrunner⟩ := stepSuccessor_moves hpoint
        dsimp only at hpublication hrunner ⊢
        rw [hpublication, hrunner]
        exact .stay _ _
      · rename_i hpoint
        obtain rfl := Option.some.inj hstep
        obtain ⟨hpublication, hrunner⟩ := stepSuccessor_moves hpoint
        dsimp only at hpublication hrunner ⊢
        rw [hpublication, hrunner]
        exact .stay _ _

/-- Every step is one of the moves. -/
theorem creditMove_step (h : Inv builder start initialSnapshot system) {label : Label}
    (hcalls : label.callsCredit = false) (hstep : system.step builder label = some next) :
    CreditMove system.runner.holdsCredit system.publication next.runner.holdsCredit
      next.publication := by
  cases label with
  | submitReplace rules allocationFails pushFails =>
    obtain rfl := Option.some.inj hstep
    unfold System.submitReplace
    split
    · exact .stay _ _
    · split
      · exact .stay _ _
      · simp only
        split <;> exact .stay _ _
  | startRunner =>
    have hrunner : system.runner = .idle := by
      by_contra hne
      simp [System.step, h.active.mpr hne] at hstep
    unfold System.step at hstep
    simp only at hstep
    split_ifs at hstep
    obtain rfl := Option.some.inj hstep
    rw [hrunner]
    exact .stay _ _
  | runner choice now throws => exact stepRunner_moves h hstep
  | call index => exact stepCall_moves hstep
  | publication label =>
    obtain ⟨hcommit, publication, hpublication, rfl⟩ := Inv.step_publication hstep
    refine .other label ?_ hpublication
    cases label with
    | acquireRetirementCredit | releaseUncommittedCredit => cases hcalls
    | commit candidate now => exact absurd rfl (hcommit candidate now)
    | _ => rfl
  | callSeal _ | callSuccessor | injectPostcommitFailure =>
    obtain rfl := Option.some.inj hstep
    exact .stay _ _

/-! ## Runs -/

/-- The account of the publication, with the credit that `apply` holds. -/
structure Accounts (first : Nat) (system : System) : Prop where
  accounted : Publication.System.Accounted first system.publication
  credited : Credited system.runner.holdsCredit system.publication.publication

theorem accounts_new {maximumWorkers graceTimeout : Nat} {limits : FilterUpdateLimits}
    (h : System.new initialSnapshot maximumWorkers graceTimeout limits = some system) :
    Accounts initialSnapshot.generation system := by
  unfold System.new at h
  split at h
  · cases h
  · rename_i publication hpublication
    obtain ⟨controller, -, rfl⟩ := Option.map_eq_some_iff.mp h
    refine ⟨Publication.System.Accounted.start hpublication, ?_⟩
    unfold Publication.System.new FilterPublicationState.new at hpublication
    simp only at hpublication
    split at hpublication
    · cases hpublication
    · obtain rfl := Option.some.inj hpublication
      constructor <;> simp [Runner.holdsCredit]

theorem Accounts.step {first : Nat} (h : Accounts first system)
    (hinv : Inv builder start initialSnapshot system) (hpublication : system.publication.Inv)
    {label : Label} (hcalls : label.callsCredit = false)
    (hstep : system.step builder label = some next) : Accounts first next := by
  have hmove := creditMove_step hinv hcalls hstep
  refine ⟨?_, hmove.credited hpublication h.credited⟩
  obtain hsame | ⟨label, hlabel⟩ := hmove.step
  · rw [← hsame]
    exact h.accounted
  · exact (h.accounted.step hpublication hlabel).accounted

/-- What a run keeps: the invariants below, and the account. -/
structure Run (builder : Builder) (start : Publication.System) (initialSnapshot : FilterSnapshot)
    (system : System) : Prop where
  inv : Inv builder start initialSnapshot system
  publication : system.publication.Inv
  accounts : Accounts initialSnapshot.generation system

theorem Run.step (h : Run builder start initialSnapshot system) {label : Label}
    (hcalls : label.callsCredit = false) (hstep : system.step builder label = some next) :
    Run builder start initialSnapshot next := by
  refine ⟨h.inv.step hstep, ?_, h.accounts.step h.inv h.publication hcalls hstep⟩
  obtain hsame | ⟨label, hlabel⟩ := (creditMove_step h.inv hcalls hstep).step
  · rw [← hsame]
    exact h.publication
  · exact h.publication.step hlabel

theorem Run.reached {maximumWorkers graceTimeout : Nat} {limits : FilterUpdateLimits}
    {first : System} {labels : List Label}
    (hstart : System.new initialSnapshot maximumWorkers graceTimeout limits = some first)
    (hcalls : ∀ label ∈ labels, label.callsCredit = false)
    (hrun : Transition.run (System.step builder) first labels = some system) :
    ∃ publication, Run builder publication initialSnapshot system := by
  obtain ⟨publication, hpublication, hinv⟩ := Inv.reached hstart (rfl : Transition.run
    (System.step builder) first [] = some first)
  have hfirst : Run builder publication initialSnapshot first := by
    refine ⟨hinv, ?_, accounts_new hstart⟩
    obtain ⟨labels, hreached⟩ := hinv.reachable
    exact (Publication.System.Inv.start hpublication).run hreached
  refine ⟨publication, Transition.run_invariant_along (Run builder publication initialSnapshot)
    (fun _ label => label.callsCredit = false) (fun _ _ _ h hcalls hstep => h.step hcalls hstep)
    hfirst hrun ?_⟩
  intro past label rest _ hlabels _
  exact hcalls label (by simp [hlabels])

/-- `apply` parts with its credit by the commit, or the credit is free. -/
theorem Run.parts (h : Run builder start initialSnapshot system) {label : Label}
    (hcalls : label.callsCredit = false) (hstep : system.step builder label = some next)
    (hholds : system.runner.holdsCredit = true) (hparts : next.runner.holdsCredit = false) :
    next.publication.publication.retirementCreditHeld = false ∨
      next.publication.publication.currentGeneration =
        system.publication.publication.currentGeneration + 1 := by
  have hmove := creditMove_step h.inv hcalls hstep
  have hcredited := h.accounts.credited
  rw [hholds] at hmove hcredited
  rw [hparts] at hmove
  generalize next.publication = publication at hmove
  cases hmove with
  | release => exact Or.inl hcredited.release.2
  | @commit _ candidate now version hok =>
    rw [publish_publication]
    rcases FilterPublicationState.commit_cases system.publication.publication candidate now with
      ⟨error, herror⟩ | ⟨snapshot, -, -, -, -, -, hgeneration, hcommit⟩
    · rw [herror] at hok
      cases hok
    · rw [hcommit]
      exact Or.inr hgeneration

/-- In every run in which only `apply` takes the credit:

* the credit is out exactly while `apply` holds it uncommitted or the retired
  record is pending, and a step in which `apply` parts with it without a commit
  leaves it free;
* a generation that is not reclaimed is the current one, and its record is pending;
* reclaimed, converged and current generation are in this order, and none falls;
* the counter is the sum of the pending records up to the limit, or, where only
  the terminal record is left and the last two snapshots exceed the limit, the
  limit less the older one; without a pending record it is zero. -/
theorem retirement_accounts {maximumWorkers graceTimeout : Nat} {limits : FilterUpdateLimits}
    {first : System} {labels : List Label}
    (hstart : System.new initialSnapshot maximumWorkers graceTimeout limits = some first)
    (hcalls : ∀ label ∈ labels, label.callsCredit = false)
    (hrun : Transition.run (System.step builder) first labels = some system) :
    let state := system.publication.publication
    (state.retirementCreditHeld = true ↔
      system.runner.holdsCredit = true ∨ state.retired.pending = true) ∧
    (∀ label next, label.callsCredit = false → system.step builder label = some next →
      system.runner.holdsCredit = true → next.runner.holdsCredit = false →
      next.publication.publication.retirementCreditHeld = false ∨
        next.publication.publication.currentGeneration = state.currentGeneration + 1) ∧
    (state.retired.pending = true →
      state.retired.version.generation = state.currentGeneration) ∧
    (∀ generation, initialSnapshot.generation < generation →
      generation ≤ state.currentGeneration → state.lastReclaimedGeneration < generation →
      state.retired.pending = true ∧ generation = state.currentGeneration) ∧
    (state.lastReclaimedGeneration ≤ state.lastConvergedGeneration ∧
      state.lastConvergedGeneration ≤ state.currentGeneration) ∧
    (∀ label next, label.callsCredit = false → system.step builder label = some next →
      state.Grows next.publication.publication) ∧
    ((∀ snapshot ∈ system.publication.published, snapshot.normalizedRuleBytes ≤ maximumSize) →
      Tallied system.publication.published state ∧
      (state.retired.pending = false → state.terminal.pending = false →
        state.retiredBytes = 0)) := by
  obtain ⟨publication, h⟩ := Run.reached hstart hcalls hrun
  intro state
  have haccounted := h.accounts.accounted
  refine ⟨h.accounts.credited.held, fun _ _ hcalls hstep => h.parts hcalls hstep,
    fun hpending => (h.publication.retired_pending hpending).1, haccounted.unreclaimed,
    ⟨haccounted.reclaimed, h.publication.converged.1⟩, ?_, ?_⟩
  · intro label next hcalls hstep
    obtain hsame | ⟨label, hlabel⟩ := (creditMove_step h.inv hcalls hstep).step
    · rw [← hsame]
      exact ⟨le_rfl, le_rfl, le_rfl⟩
    · exact (haccounted.step h.publication hlabel).grows
  · intro hsizes
    refine ⟨haccounted.tallied hsizes, fun hretired hterminal => ?_⟩
    obtain htotal | ⟨-, hpending, -⟩ := haccounted.tallied hsizes
    · have hnone : state.pendingBytes = 0 := by
        simp [FilterPublicationState.pendingBytes, hretired, hterminal]
      exact htotal.trans (by rw [hnone, Nat.min_zero])
    · rw [hterminal] at hpending
      cases hpending

/-- A builder of snapshots of two bytes. -/
def twoByteBuilder : Builder := fun _ _ generation => .candidate
    (some ⟨generation, generation, 1, 2⟩)

/-- One update is committed; while its predecessor is being destroyed, the runner
detaches the terminal snapshot. -/
def detachedWhileDestroying : List Label :=
  [.submitReplace [] false false, .startRunner] ++ List.replicate 8 (.runner 0 0 false) ++
    [.publication .startReclaimer, .publication (.reclaimerIteration 0 false)] ++
    List.replicate 3 (.runner 0 0 false) ++ [.callSeal true] ++ List.replicate 5 (.call 0) ++
    List.replicate 2 (.runner 0 0 false) ++
    [.publication .resetSoleOwner, .publication .finishDestroy]

theorem retirement_accounts_detached : ∃ first system,
    System.new ⟨0, 1, 0, 3⟩ 1 1 {} = some first ∧
    Transition.run (System.step twoByteBuilder) first detachedWhileDestroying = some system ∧
    system.publication.publication.terminal.pending = true ∧
    system.publication.publication.retiredBytes = 2 ∧
    (system.publication.publication.retirementCreditHeld = true ↔
      system.runner.holdsCredit = true ∨
        system.publication.publication.retired.pending = true) := by
  refine ⟨_, _, rfl, rfl, rfl, rfl, ?_⟩
  exact (@retirement_accounts twoByteBuilder ⟨0, 1, 0, 3⟩ _ 1 1 {} _ detachedWhileDestroying rfl
    (by decide) rfl).1

/-- When the predecessor is as large as a `size_t` can say, the terminal record of
two bytes is pending and the counter is zero. -/
theorem tally_saturates : ¬ ∀ (builder : Builder) (initialSnapshot : FilterSnapshot)
    (maximumWorkers graceTimeout : Nat) (limits : FilterUpdateLimits) (labels : List Label)
    (first system : System),
    System.new initialSnapshot maximumWorkers graceTimeout limits = some first →
    (∀ label ∈ labels, label.callsCredit = false) →
    Transition.run (System.step builder) first labels = some system →
    system.publication.reclaimer = .looping →
    (∀ snapshot ∈ system.publication.published, snapshot.normalizedRuleBytes ≤ maximumSize) →
    system.publication.publication.retiredBytes =
      min maximumSize system.publication.publication.pendingBytes := by
  intro hall
  have hzero := hall twoByteBuilder ⟨0, 1, 0, maximumSize⟩ 1 1 {} detachedWhileDestroying _ _ rfl
    (by decide) rfl rfl (by decide)
  exact absurd hzero (by decide)

end System

end DnsPro.Update
