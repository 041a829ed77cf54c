import DnsPro.DataPlane.Enforcement
import DnsPro.Update.Reported

/-!
# Updates over the workers

The update controller, the publication, and the workers that filter with what it publishes.
A step is one of the controller or of the publication below it, or one of a worker in its
event loop.  Seen from the workers a run is one of the data plane, and seen from the submitters
it is one of the update controller.
-/

namespace DnsPro.DataPlane

open DnsPro.EventLoop DnsPro.Filter DnsPro.Publication DnsPro.Update

structure Node where
  update : Update.System
  instances : Nat → Option Instance := fun _ => none

namespace Node

variable (env : Server.Environment) (contents : FilterSnapshot → DomainBlocklist)
  (builder : Builder)

/-- What the workers see. -/
def plane (node : Node) : Plane where
  publication := node.update.publication
  instances := node.instances

def setPlane (node : Node) (plane : Plane) : Node where
  update := { node.update with publication := plane.publication }
  instances := plane.instances

inductive Label where
  | update (label : Update.System.Label)
  | worker (label : Plane.Label)

/-- The instance that calls the publication outside of its event loop. -/
def caller : Update.System.Label → Option (Nat × Nat)
  | .publication label => label.caller
  | _ => none

def step (node : Node) : Label → Option Node
  | .update label =>
    if (caller label).all fun caller => !node.plane.inLoop caller.1 caller.2 then
      (node.update.step builder label).map fun update => { node with update := update }
    else none
  | .worker (.publication _) => none
  | .worker label => (node.plane.step env contents label).map node.setPlane

/-- The node after a list of steps, from a new controller without workers. -/
def run (initialSnapshot : FilterSnapshot) (maximumWorkers graceTimeout : Nat)
    (limits : FilterUpdateLimits) (labels : List Label) : Option Node :=
  (Update.System.new initialSnapshot maximumWorkers graceTimeout limits).bind fun update =>
    Transition.run (step env contents builder) { update := update } labels

variable {env contents builder} {start : Publication.System} {initialSnapshot : FilterSnapshot}
  {node next : Node} {label : Label}

/-! ## The two views -/

/-- What a step does to the workers. -/
theorem plane_of_step
    (hinv : Update.System.Inv builder start initialSnapshot node.update)
    (hstep : node.step env contents builder label = some next) :
    next.plane = node.plane ∨ ∃ seen, node.plane.step env contents seen = some next.plane := by
  cases label with
  | update label =>
    unfold step at hstep
    dsimp only at hstep
    split at hstep
    · rename_i hallowed
      obtain ⟨update, hupdate, rfl⟩ := Option.map_eq_some_iff.mp hstep
      -- a step of the publication, by a caller that is not in its loop
      have hseen : ∀ seen : Publication.System.Label,
          (seen.caller.all fun caller => !node.plane.inLoop caller.1 caller.2) = true →
          node.update.publication.step seen = some update.publication →
          node.plane.step env contents (.publication seen) =
            some (Node.plane ⟨update, node.instances⟩) := by
        intro seen hcaller hpublication
        unfold Plane.step
        dsimp only
        rw [if_pos hcaller]
        exact Option.map_eq_some_iff.mpr ⟨_, hpublication, rfl⟩
      by_cases hlabel : ∃ seen, label = .publication seen
      · obtain ⟨seen, rfl⟩ := hlabel
        obtain ⟨-, publication, hpublication, rfl⟩ := Update.System.Inv.step_publication hupdate
        exact .inr ⟨.publication seen, hseen seen hallowed hpublication⟩
      · have hmoved := Update.System.moved_of_step hinv (fun seen heq => hlabel ⟨seen, heq⟩) hupdate
        rcases hmoved.publishes.step with hsame | ⟨seen, hcaller, hpublication⟩
        · refine .inl ?_
          unfold plane
          rw [hsame]
        · refine .inr ⟨.publication seen, hseen seen ?_ hpublication⟩
          rw [hcaller]
          rfl
    · cases hstep
  | worker label =>
    have hplane : (node.plane.step env contents label).map node.setPlane = some next := by
      cases label with
      | publication => cases hstep
      | enter | loop | refresh | leave => exact hstep
    obtain ⟨after, hafter, rfl⟩ := Option.map_eq_some_iff.mp hplane
    exact .inr ⟨label, hafter⟩

/-- What a step does to the controller and the publication. -/
theorem update_of_step (hstep : node.step env contents builder label = some next) :
    next.update = node.update ∨ ∃ seen, node.update.step builder seen = some next.update := by
  cases label with
  | update label =>
    unfold step at hstep
    dsimp only at hstep
    split at hstep
    · obtain ⟨update, hupdate, rfl⟩ := Option.map_eq_some_iff.mp hstep
      exact .inr ⟨label, hupdate⟩
    · cases hstep
  | worker label =>
    cases label with
    | publication => cases hstep
    | enter | loop | leave =>
      obtain ⟨after, hafter, rfl⟩ := Option.map_eq_some_iff.mp hstep
      cases Plane.stepped_of_step hafter
      exact .inl rfl
    | refresh workerId =>
      obtain ⟨after, hafter, rfl⟩ := Option.map_eq_some_iff.mp hstep
      cases Plane.stepped_of_step hafter with
      | @refresh _ entry =>
        exact .inr ⟨.publication (.refreshWorkerSnapshot workerId entry.instanceId), rfl⟩

/-- What is published and what was told. -/
theorem reported_of_step (hinv : Update.System.Inv builder start initialSnapshot node.update)
    (hstep : node.step env contents builder label = some next)
    (hpublished : node.update.publication.published =
      initialSnapshot :: node.update.commits.map Prod.snd) :
    next.update.publication.published = initialSnapshot :: next.update.commits.map Prod.snd ∧
      ∀ version, next.update.Told version → node.update.Confirmed version := by
  rcases update_of_step hstep with hsame | ⟨seen, hseen⟩
  · rw [hsame]
    exact ⟨hpublished, fun version htold => .inl htold⟩
  · by_cases hlabel : ∃ publication, seen = .publication publication
    · obtain ⟨publication, rfl⟩ := hlabel
      obtain ⟨hcommit, after, hafter, heq⟩ := Update.System.Inv.step_publication hseen
      rw [heq]
      exact ⟨(Publication.System.published_of_step hcommit hafter).trans hpublished,
        fun version htold => .inl htold⟩
    · have hmoved := Update.System.moved_of_step hinv (fun _ heq => hlabel ⟨_, heq⟩) hseen
      exact ⟨hmoved.publishes.published hpublished, hmoved.confirmed⟩

/-! ## Runs -/

/-- The invariants of the two views, and how they fit together. -/
structure Coherent (contents : FilterSnapshot → DomainBlocklist) (builder : Builder)
    (start : Publication.System) (initialSnapshot : FilterSnapshot) (node : Node) : Prop where
  linked : Plane.Linked contents node.plane
  update : Update.System.Inv builder start initialSnapshot node.update
  published : node.update.publication.published =
    initialSnapshot :: node.update.commits.map Prod.snd
  told : ∀ version, node.update.Told version →
    version.generation ≤ node.update.publication.publication.lastConvergedGeneration

theorem Coherent.step (h : Coherent contents builder start initialSnapshot node)
    (hstep : node.step env contents builder label = some next) :
    Coherent contents builder start initialSnapshot next := by
  obtain ⟨hpublished, hconfirmed⟩ := reported_of_step h.update hstep h.published
  have hlinked : Plane.Linked contents next.plane ∧
      node.plane.publication.publication.lastConvergedGeneration ≤
        next.plane.publication.publication.lastConvergedGeneration := by
    rcases plane_of_step h.update hstep with hsame | ⟨seen, hseen⟩
    · rw [hsame]
      exact ⟨h.linked, Nat.le_refl _⟩
    · exact ⟨Plane.linked_step h.linked hseen, Plane.converged_step h.linked hseen⟩
  refine ⟨hlinked.1, ?_, hpublished, fun version htold => ?_⟩
  · rcases update_of_step hstep with hsame | ⟨seen, hseen⟩
    · exact hsame ▸ h.update
    · exact h.update.step hseen
  · refine Nat.le_trans ?_ hlinked.2
    rcases hconfirmed version htold with hbefore | hconverged
    · exact h.told version hbefore
    · exact Publication.System.converged_of_wait hconverged

theorem coherent_new (contents : FilterSnapshot → DomainBlocklist) (builder : Builder)
    {maximumWorkers graceTimeout : Nat} {limits : FilterUpdateLimits} {update : Update.System}
    (hnew : Update.System.new initialSnapshot maximumWorkers graceTimeout limits = some update) :
    ∃ start, Coherent contents builder start initialSnapshot { update := update } := by
  cases hpublication : Publication.System.new initialSnapshot maximumWorkers graceTimeout with
  | none =>
    unfold Update.System.new at hnew
    rw [hpublication] at hnew
    cases hnew
  | some publication =>
    have hinv : Update.System.Inv builder publication initialSnapshot update :=
      .of_new hpublication hnew
    unfold Update.System.new at hnew
    rw [hpublication] at hnew
    obtain ⟨controller, -, rfl⟩ := Option.map_eq_some_iff.mp hnew
    refine ⟨publication, ⟨Publication.System.Inv.start hpublication, ?_, ?_⟩, hinv, ?_, ?_⟩
    · intro workerId entry hentry
      cases hentry
    · intro workerId entry hentry
      cases hentry
    · obtain ⟨state, -, rfl⟩ := Option.map_eq_some_iff.mp hpublication
      rfl
    · rintro version (⟨id, hresult⟩ | hrunner | ⟨call, hcall, -⟩)
      · cases hresult
      · cases hrunner
      · cases hcall

theorem coherent_run {maximumWorkers graceTimeout : Nat} {limits : FilterUpdateLimits}
    {labels : List Label}
    (hrun : run env contents builder initialSnapshot maximumWorkers graceTimeout limits labels =
      some node) :
    ∃ start, Coherent contents builder start initialSnapshot node := by
  obtain ⟨update, hnew, hrun⟩ := Option.bind_eq_some_iff.mp hrun
  obtain ⟨start, hcoherent⟩ := coherent_new contents builder hnew
  exact ⟨start, Transition.run_invariant (Coherent contents builder start initialSnapshot)
    (fun _ _ _ h hstep => h.step hstep) hcoherent hrun⟩

end Node

end DnsPro.DataPlane
