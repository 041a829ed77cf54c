import DnsPro.DataPlane.Linked
import DnsPro.Publication.GracePeriod

/-!
# An update converges over idle workers

An update waits for the acknowledgements of the workers, and a worker acknowledges in its
event loop.  A loop that was asked to refresh since the commit, and that has nothing left to
do, has acknowledged.  So once all workers of the cohort are idle, the next iteration of the
reclaimer makes the update converge.
-/

namespace DnsPro.Publication.System

variable {system next : System} {now : Nat} {stopRequested : Bool}

theorem iterate_eq_some (hstep : system.step (.reclaimerIteration now stopRequested) = some next) :
    next = system.iterateReclaimer now stopRequested := by
  unfold System.step at hstep
  dsimp only at hstep
  split at hstep
  · exact (Option.some.inj hstep).symm
  · cases hstep

/-- The iteration that finds the cohort of the retired record complete reports convergence. -/
theorem Inv.converged_iterate (h : Inv system) (now : Nat) (stopRequested : Bool)
    (hfailure : system.publication.reclaimerFailureRequested = false)
    (hafter : system.publication.reclaimerFailureAfterCommitRequested = false)
    (hpending : system.publication.retired.pending = true)
    (hcomplete : system.publication.cohortComplete system.publication.retired = true) :
    system.publication.retired.version.generation ≤
      (system.iterateReclaimer now stopRequested).publication.lastConvergedGeneration := by
  have hnext : system.publication.nextPendingRecord = some .retired := if_pos hpending
  have hdestroys := h.reclaimerIteration_destroys now stopRequested hfailure
    (by simp [hafter]) hnext hcomplete
  unfold System.iterateReclaimer
  rcases FilterPublicationState.reclaimerIteration_cases system.publication system.useCount now
    stopRequested with ⟨code, failure, hexit⟩ | hwait | ⟨name, -, -, hdestroy⟩
  · rw [hexit] at hdestroys
    cases hdestroys
  · rw [hwait] at hdestroys
    cases hdestroys
  · rw [hdestroy] at hdestroys
    obtain ⟨rfl, -⟩ := FilterPublicationState.Iteration.destroy.inj hdestroys
    rw [hdestroy]
    exact Nat.le_max_right _ _

end DnsPro.Publication.System

namespace DnsPro.DataPlane

open DnsPro.EventLoop DnsPro.Filter DnsPro.Publication DnsPro.Runtime DnsPro.Server

namespace Plane

variable {env : Server.Environment} {contents : FilterSnapshot → DomainBlocklist}
  {plane next base : Plane} {label : Label} {generation made workerId instanceId : Nat}

/-- The generation that the worker has acknowledged. -/
def observedGeneration (plane : Plane) (workerId : Nat) : Nat :=
  (plane.publication.publication.epochs workerId).observedGeneration

/-- Of the requests after the first `made`, the instance has met none, or it has acknowledged
the generation. -/
structure Answers (contents : FilterSnapshot → DomainBlocklist)
    (generation made workerId instanceId : Nat) (plane : Plane) : Prop where
  linked : Linked contents plane
  current : generation ≤ plane.publication.publication.currentGeneration
  met : ∀ loop, plane.loopOf workerId instanceId = some loop →
    loop.generation.met ≤ made ∨ generation ≤ plane.observedGeneration workerId

/-! ## Steps -/

/-- The instance in the slot acknowledges no less than before. -/
theorem observed_le {system after : Publication.System} (h : system.Inv) (hafter : after.Inv)
    (hadvances : Publication.System.Advances system after) {snapshot snapshot' : FilterSnapshot}
    (hentry : ⟨workerId, instanceId, snapshot⟩ ∈ system.locals)
    (hentry' : ⟨workerId, instanceId, snapshot'⟩ ∈ after.locals) :
    (system.publication.epochs workerId).observedGeneration ≤
      (after.publication.epochs workerId).observedGeneration := by
  have hpublished := (h.live _ hentry).published
  have hpublished' := (hafter.live _ hentry').published
  rcases hadvances.epochs workerId with hnew | ⟨-, hle⟩
  · exact absurd (hpublished.trans hpublished'.symm) (Nat.ne_of_lt hnew)
  · exact hle

theorem current_of_step (hstep : plane.step env contents label = some next) :
    plane.publication.publication.currentGeneration ≤
      next.publication.publication.currentGeneration := by
  cases stepped_of_step hstep with
  | publication _ _ hpublication => exact Publication.System.generation_step hpublication
  | enter | loop | leave => exact Nat.le_refl _
  | @refresh workerId entry =>
    exact (Publication.System.Inv.current_refresh workerId entry.instanceId).currentGeneration.ge

theorem Answers.step (h : Answers contents generation made workerId instanceId plane)
    (hstep : plane.step env contents label = some next) :
    Answers contents generation made workerId instanceId next := by
  have hlinked := linked_step h.linked hstep
  refine ⟨hlinked, h.current.trans (current_of_step hstep), fun loop hloop => ?_⟩
  have hentry := loopOf_eq_some hloop
  obtain ⟨snapshot, hcounted, -⟩ := hlinked.filters workerId _ hentry
  -- a loop that stays in its slot, while the publication takes a step
  have hstays : plane.instances workerId = some ⟨instanceId, loop⟩ →
      Publication.System.Advances plane.publication next.publication →
      loop.generation.met ≤ made ∨ generation ≤ next.observedGeneration workerId := by
    intro hbefore hadvances
    obtain ⟨old, hold, -⟩ := h.linked.filters workerId _ hbefore
    have hobserved := observed_le h.linked.publication hlinked.publication hadvances hold hcounted
    exact (h.met loop (loopOf_eq hbefore)).imp id fun hle => hle.trans hobserved
  have hsame : Publication.System.Advances plane.publication plane.publication :=
    Publication.System.Advances.of_eq rfl rfl rfl le_rfl
  cases stepped_of_step hstep with
  | publication _ _ hpublication =>
    exact hstays hentry (h.linked.publication.advances_step hpublication)
  | enter =>
    rcases instances_setInstance hentry with ⟨rfl, hnew⟩ | ⟨-, hold⟩
    · obtain ⟨rfl, rfl⟩ := Instance.mk.inj (Option.some.inj hnew)
      exact .inl (Nat.zero_le made)
    · exact hstays hold hsame
  | @loop other entry label after hother hrefreshes hnext =>
    rcases instances_setInstance hentry with ⟨rfl, hnew⟩ | ⟨-, hold⟩
    · obtain ⟨rfl, rfl⟩ := Instance.mk.inj (Option.some.inj hnew)
      have hlabel : ∀ snapshot, label = .refreshed (some snapshot) →
          entry.loop.generationPending = false := by
        rintro snapshot rfl
        exact hrefreshes
      rw [(Loop.snapshot_of_step (h.linked.sane workerId entry hother).sound hnext hlabel).2]
      exact h.met entry.loop (loopOf_eq hother)
    · exact hstays hold hsame
  | @refresh other entry after hother hpending hnext =>
    have hadvances := h.linked.publication.advances_refresh other entry.instanceId
    rcases instances_setInstance hentry with ⟨rfl, hnew⟩ | ⟨-, hold⟩
    · obtain ⟨rfl, rfl⟩ := Instance.mk.inj (Option.some.inj hnew)
      obtain ⟨active, hheld, -, hmet | ⟨hactive, -, hobserved⟩⟩ :=
        h.linked.refresh hother hpending hnext
      · rw [hmet]
        obtain ⟨old, hold, -⟩ := h.linked.filters workerId entry hother
        have hle := observed_le h.linked.publication hlinked.publication hadvances hold hheld
        exact (h.met entry.loop (loopOf_eq hother)).imp id fun hge => hge.trans hle
      · refine .inr (h.current.trans ?_)
        rw [← (h.linked.publication.active_generation active hactive).1]
        exact hobserved.ge
    · exact hstays hold hadvances
  | leave =>
    rcases instances_setInstance hentry with ⟨-, hnone⟩ | ⟨-, hold⟩
    · cases hnone
    · exact hstays hold hsame

/-! ## Idle workers -/

/-- The requests to refresh that the loop of the instance has got, none before it begins. -/
def requests (plane : Plane) (workerId instanceId : Nat) : Nat :=
  ((plane.loopOf workerId instanceId).map fun loop => loop.generation.made).getD 0

/-- The loop of the instance was asked to refresh since `base`, and is blocked in
`epoll_wait`. -/
def Idle (base plane : Plane) (workerId instanceId : Nat) : Prop :=
  ∃ loop now timeout, plane.loopOf workerId instanceId = some loop ∧
    base.requests workerId instanceId < loop.generation.made ∧ loop.Blocked now timeout

/-- It was asked since some moment of the run.  A loop that began in the run may count from
any moment before. -/
def IdleAfter (env : Server.Environment) (contents : FilterSnapshot → DomainBlocklist)
    (start : Plane) (labels : List Label) (plane : Plane) (workerId instanceId : Nat) : Prop :=
  ∃ past rest base, labels = past ++ rest ∧
    Transition.run (step env contents) start past = some base ∧
    Transition.run (step env contents) base rest = some plane ∧ Idle base plane workerId instanceId

/-- An idle worker has acknowledged what was current when it was asked. -/
theorem acknowledged_of_idle (hlinked : Linked contents base) {labels : List Label}
    (hrun : Transition.run (step env contents) base labels = some plane)
    (hidle : Idle base plane workerId instanceId) :
    base.publication.publication.currentGeneration ≤ plane.observedGeneration workerId ∧
      (plane.publication.publication.epochs workerId).publishedInstanceId = instanceId := by
  obtain ⟨after, now, timeout, hafter, hmade, hblocked⟩ := hidle
  have hstart : Answers contents base.publication.publication.currentGeneration
      (base.requests workerId instanceId) workerId instanceId base := by
    refine ⟨hlinked, Nat.le_refl _, fun loop hloop => .inl ?_⟩
    have hrequests : base.requests workerId instanceId = loop.generation.made := by
      unfold requests
      rw [hloop]
      rfl
    rw [hrequests]
    exact (hlinked.sane workerId _ (loopOf_eq_some hloop)).met
  have hanswers := Transition.run_invariant
    (Answers contents base.publication.publication.currentGeneration
      (base.requests workerId instanceId) workerId instanceId)
    (fun _ _ _ h hstep => h.step hstep) hstart hrun
  have hentry := loopOf_eq_some hafter
  obtain ⟨snapshot, hcounted, -⟩ := hanswers.linked.filters workerId _ hentry
  refine ⟨?_, (hanswers.linked.publication.live _ hcounted).published⟩
  have halert : after.Alert := (hanswers.linked.sane workerId _ hentry).alert
  have hnoted := halert.noted (by rw [hblocked.point]; rfl) (by rw [hblocked.point]; rfl)
  have hmet := hnoted.refresh.all_met hblocked.generation hnoted.settled
  rcases hanswers.met after hafter with hless | hobserved
  · omega
  · exact hobserved

theorem current_of_run {labels : List Label}
    (hrun : Transition.run (step env contents) base labels = some plane) :
    base.publication.publication.currentGeneration ≤
      plane.publication.publication.currentGeneration :=
  Transition.run_invariant
    (fun plane => base.publication.publication.currentGeneration ≤
      plane.publication.publication.currentGeneration)
    (fun _ _ _ h hstep => h.trans (current_of_step hstep)) (Nat.le_refl _) hrun

/-- The worker of a cohort member has left, or has acknowledged the generation. -/
theorem memberComplete_of_idle (hlinked : Linked contents base) {labels : List Label}
    {member : CohortMember}
    (hgeneration : generation ≤ base.publication.publication.currentGeneration)
    (hmember : member.instanceId ≤
        (plane.publication.publication.epochs member.workerId).quiescedThroughInstanceId ∨
      IdleAfter env contents base labels plane member.workerId member.instanceId) :
    plane.publication.publication.memberComplete member generation false = true := by
  unfold FilterPublicationState.memberComplete
  dsimp only
  split
  · rfl
  · rename_i hquiesced
    rcases hmember with hgone | hidle
    · exact absurd hgone hquiesced
    · obtain ⟨past, rest, middle, -, hpast, hrest, hidle⟩ := hidle
      have hmiddle : Linked contents middle :=
        Transition.run_invariant (Linked contents) (fun _ _ _ h hstep => linked_step h hstep)
          hlinked hpast
      obtain ⟨hobserved, hpublished⟩ := acknowledged_of_idle hmiddle hrest hidle
      simp only [Bool.false_eq_true, if_false, decide_eq_true_eq]
      exact ⟨hpublished, (hgeneration.trans (current_of_run hpast)).trans hobserved⟩

/-- An update converges over idle workers.  In every run of the publication and of any number
of workers: when the snapshot that was current at some moment is still the current one, its
predecessor is still to be retired, and every worker of the cohort has left or was asked to
refresh since and is idle, then the next iteration of the reclaimer reports convergence,
unless one of the two hooks that make the reclaimer fail was used. -/
theorem update_converges_when_idle {initialSnapshot : FilterSnapshot}
    {maximumWorkers graceTimeout : Nat} {labels later : List Label} {final last : Plane}
    {now : Nat} {stopRequested : Bool}
    (hrun : run env contents initialSnapshot maximumWorkers graceTimeout labels = some plane)
    (hlater : Transition.run (step env contents) plane later = some final)
    (hcurrent : final.publication.publication.currentGeneration =
      plane.publication.publication.currentGeneration)
    (hpending : final.publication.publication.retired.pending = true)
    (hcohort : ∀ member ∈ final.publication.publication.retired.cohort,
      member.instanceId ≤
          (final.publication.publication.epochs member.workerId).quiescedThroughInstanceId ∨
        IdleAfter env contents plane later final member.workerId member.instanceId)
    (hfailure : final.publication.publication.reclaimerFailureRequested = false)
    (hafter : final.publication.publication.reclaimerFailureAfterCommitRequested = false)
    (hstep : final.step env contents (.publication (.reclaimerIteration now stopRequested)) =
      some last) :
    last.publication.publication.waitUntilConverged
      plane.publication.publication.currentGeneration = some .converged := by
  have hlinked := linked_run hrun
  have hinv : final.publication.Inv :=
    (Transition.run_invariant (Linked contents) (fun _ _ _ h hstep => linked_step h hstep)
      hlinked hlater).publication
  have hretired := hinv.retired_pending hpending
  have hgeneration : final.publication.publication.retired.version.generation =
      plane.publication.publication.currentGeneration := hretired.1.trans hcurrent
  have hcomplete : final.publication.publication.cohortComplete
      final.publication.publication.retired = true := by
    refine List.all_eq_true.mpr fun member hmem => ?_
    rw [hretired.2]
    exact memberComplete_of_idle hlinked hgeneration.le (hcohort member hmem)
  cases stepped_of_step hstep with
  | publication _ _ hpublication =>
    obtain rfl := Publication.System.iterate_eq_some hpublication
    unfold FilterPublicationState.waitUntilConverged
    refine if_pos (hgeneration.ge.trans ?_)
    exact hinv.converged_iterate now stopRequested hfailure hafter hpending hcomplete

/-- The second snapshot is published. -/
def sampleCommitted : List Label :=
  [.publication (.acquireRetirementCredit false), .publication (.commit (some ⟨1, 2, 1, 4⟩) 0)]

/-- The worker enters its loop, refreshes, and has nothing left to do. -/
def sampleSettled : List Label :=
  .enter 0 1 { capacity := 8 } 3 Upstream.System.sampleConfig ::
    [.loop 0 .refreshRequested, .loop 0 .advance, .loop 0 (.timing 20),
      .loop 0 (.polled (.events [.generation])), .loop 0 .advance, .loop 0 .advance,
      .loop 0 .advance, .refresh 0, .loop 0 (.socketError 0), .loop 0 (.expired 20),
      .loop 0 .advance, .loop 0 .advance, .loop 0 .advance, .loop 0 .advance,
      .loop 0 (.timing 20)]

theorem update_converges_when_settled : ∃ plane final last,
    run Worker.sampleEnvironment sampleContents ⟨0, 1, 0, 0⟩ 1 1
        (sampleRegistered ++ sampleCommitted) = some plane ∧
      Transition.run (step Worker.sampleEnvironment sampleContents) plane sampleSettled =
        some final ∧
      final.step Worker.sampleEnvironment sampleContents
        (.publication (.reclaimerIteration 0 false)) = some last ∧
      last.publication.publication.waitUntilConverged 2 = some .converged := by
  obtain ⟨start, registered, committed, final, after, last, hnew, hregistered, hcommitted, hlocal,
      hgeneration, hentered, hafter, hasked, hblocked, hcurrent, hpending, hcohort, hfailure,
      hcommit, hlast⟩ :
      ∃ start registered committed final after last,
        Publication.System.new ⟨0, 1, 0, 0⟩ 1 1 = some start ∧
        Transition.run (step Worker.sampleEnvironment sampleContents) { publication := start }
          sampleRegistered = some { publication := registered } ∧
        Transition.run (step Worker.sampleEnvironment sampleContents)
          { publication := registered } sampleCommitted = some { publication := committed } ∧
        committed.localSnapshot 0 1 = some ⟨0, 1, 0, 0⟩ ∧
        committed.publication.currentGeneration = 2 ∧
        Transition.run (step Worker.sampleEnvironment sampleContents)
          (({ publication := committed } : Plane).setInstance 0
            (some ⟨1, Loop.sampleLoop (some (sampleContents ⟨0, 1, 0, 0⟩))⟩))
          sampleSettled.tail = some final ∧
        final.loopOf 0 1 = some after ∧ after.generation.made = 1 ∧ after.Blocked 20 (-1) ∧
        final.publication.publication.currentGeneration = 2 ∧
        final.publication.publication.retired.pending = true ∧
        final.publication.publication.retired.cohort = [⟨0, 1⟩] ∧
        final.publication.publication.reclaimerFailureRequested = false ∧
        final.publication.publication.reclaimerFailureAfterCommitRequested = false ∧
        final.step Worker.sampleEnvironment sampleContents
          (.publication (.reclaimerIteration 0 false)) = some last :=
    ⟨_, _, _, _, _, _, rfl, rfl, rfl, rfl, rfl, rfl, rfl, rfl,
      ⟨rfl, by decide, rfl, rfl, rfl, rfl⟩, rfl, rfl, rfl, rfl, rfl, rfl⟩
  have hrun : run Worker.sampleEnvironment sampleContents ⟨0, 1, 0, 0⟩ 1 1
      (sampleRegistered ++ sampleCommitted) = some { publication := committed } :=
    Option.bind_eq_some_iff.mpr
      ⟨start, hnew, Transition.run_append.mpr ⟨_, hregistered, hcommitted⟩⟩
  have hsettled : Transition.run (step Worker.sampleEnvironment sampleContents)
      { publication := committed } sampleSettled = some final :=
    Transition.run_cons.mpr ⟨_, sample_enter hlocal, hentered⟩
  -- the loop had got no request when the snapshot was published
  have hidle : Idle { publication := committed } final 0 1 :=
    ⟨after, 20, -1, hafter, by rw [hasked]; exact Nat.zero_lt_one, hblocked⟩
  have hconverged := update_converges_when_idle hrun hsettled (hcurrent.trans hgeneration.symm)
    hpending (fun member hmem => by
      rw [hcohort, List.mem_singleton] at hmem
      subst hmem
      exact .inr ⟨[], sampleSettled, _, rfl, Transition.run_nil _, hsettled, hidle⟩)
    hfailure hcommit hlast
  rw [show ({ publication := committed } : Plane).publication.publication.currentGeneration = 2
    from hgeneration] at hconverged
  exact ⟨_, final, last, hrun, hsettled, hlast, hconverged⟩

end Plane

end DnsPro.DataPlane
