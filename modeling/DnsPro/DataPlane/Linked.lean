import DnsPro.DataPlane.System
import DnsPro.EventLoop.Wakeups

/-!
# What a loop filters with

`Linked` is the invariant of the data plane: the invariants of its parts, and that the
blocklist that an event loop filters with is the content of the local snapshot that the
publication counts for the instance.
-/

namespace DnsPro.EventLoop.Loop

open DnsPro.Filter DnsPro.Server

variable {env : Server.Environment} {loop next : Loop} {label : Label}

theorem observed_snapshot (stop : Bool) (worker : Worker) :
    (observed stop worker).snapshot = worker.snapshot := (observed_frame stop worker).2.1

/-- Only a refresh that succeeds changes the snapshot, or meets a request. -/
theorem snapshot_of_step (h : loop.Sound) (hstep : loop.step env label = some next)
    (hlabel : ∀ snapshot, label = .refreshed (some snapshot) → loop.generationPending = false) :
    next.worker.snapshot = loop.worker.snapshot ∧ next.generation.met = loop.generation.met := by
  cases stepped_of_step hstep with
  | refreshed _ hpending => exact absurd (hpending.symm.trans (hlabel _ rfl)) (by decide)
  | @polled _ _ events =>
    obtain ⟨listener, upstream, heq, -⟩ := reported events loop
    rw [heq]
    exact ⟨rfl, rfl⟩
  | @dispatch event =>
    cases event with
    | listener | wake | generation | upstream => exact ⟨rfl, rfl⟩
  | spawned _ hreceived =>
    cases Worker.step_eq_some.mp hreceived with
    | receive => exact ⟨observed_snapshot loop.stop loop.worker, rfl⟩
  | readied => exact ⟨observed_snapshot loop.stop loop.worker, rfl⟩
  | resumed _ _ _ hresumed =>
    cases Worker.step_eq_some.mp hresumed with
    | upstream => exact ⟨rfl, rfl⟩
  | acted _ hbefore hactor hacted =>
    rcases hbefore with rfl | rfl
    · exact ⟨(Worker.step_contained h.steady.inv hacted hactor).snapshot, rfl⟩
    · exact ⟨(Worker.step_contained h.steady.observed.inv hacted hactor).snapshot.trans
        (observed_snapshot loop.stop loop.worker), rfl⟩
  | _ => exact ⟨rfl, rfl⟩

theorem met_of_step (h : loop.generation.met ≤ loop.generation.made)
    (hstep : loop.step env label = some next) :
    next.generation.met ≤ next.generation.made := by
  cases stepped_of_step hstep with
  | refreshed => exact Nat.le_refl _
  | refreshRequested => exact h.trans (Nat.le_succ _)
  | @polled _ _ events =>
    obtain ⟨listener, upstream, heq, -⟩ := reported events loop
    rw [heq]
    exact h
  | @dispatch event =>
    cases event with
    | listener | wake | generation | upstream => exact h
  | _ => exact h

/-- What holds of a loop by itself. -/
structure Sane (loop : Loop) : Prop where
  sound : loop.Sound
  alert : loop.Alert
  met : loop.generation.met ≤ loop.generation.made

theorem Sane.step (h : loop.Sane) (hstep : loop.step env label = some next) : next.Sane where
  sound := sound_step h.sound hstep
  alert := alert_step h.alert h.sound.steady.running hstep
  met := met_of_step h.met hstep

theorem sane_initial (cache : Cache.CacheShard) (snapshot : Option DomainBlocklist) {socketFd : Int}
    {config : Upstream.ChannelConfig} (hstarted : Started env socketFd config) :
    (initial env cache snapshot socketFd config).Sane where
  sound := sound_initial cache snapshot hstarted
  alert := alert_initial cache snapshot socketFd config
  met := Nat.le_refl _

/-- The refresh that a rung counter asked for. -/
theorem refreshed_of_step {snapshot : Option DomainBlocklist}
    (hpending : loop.generationPending = true)
    (hstep : loop.step env (.refreshed (some snapshot)) = some next) :
    next.worker.snapshot = snapshot ∧ next.generation = loop.generation.answer := by
  cases stepped_of_step hstep with
  | upToDate _ hsettled => exact absurd (hpending.symm.trans hsettled) (by decide)
  | refreshed => exact ⟨rfl, rfl⟩

end DnsPro.EventLoop.Loop

namespace DnsPro.DataPlane

open DnsPro.EventLoop DnsPro.Filter DnsPro.Publication DnsPro.Server DnsPro.Upstream

namespace Plane

variable {env : Server.Environment} {contents : FilterSnapshot → DomainBlocklist}
  {plane next : Plane} {label : Label}

/-- What a step does, label by label. -/
inductive Stepped (env : Server.Environment) (contents : FilterSnapshot → DomainBlocklist)
    (plane : Plane) : Label → Plane → Prop where
  | publication (label : Publication.System.Label) {publication : Publication.System}
      (hcaller : ∀ workerId entry, plane.instances workerId = some entry →
        label.caller ≠ some (workerId, entry.instanceId))
      (hstep : plane.publication.step label = some publication) :
      Stepped env contents plane (.publication label) { plane with publication := publication }
  | enter {workerId instanceId : Nat} (cache : Cache.CacheShard) {socketFd : Int}
      {config : ChannelConfig} {snapshot : FilterSnapshot} (hnone : plane.instances workerId = none)
      (hstarted : Loop.Started env socketFd config)
      (hlocal : plane.publication.localSnapshot workerId instanceId = some snapshot) :
      Stepped env contents plane (.enter workerId instanceId cache socketFd config)
        (plane.setInstance workerId (some ⟨instanceId,
          Loop.initial env cache (some (contents snapshot)) socketFd config⟩))
  | loop {workerId : Nat} {entry : Instance} {label : Loop.Label} {loop : Loop}
      (hentry : plane.instances workerId = some entry)
      (hrefreshes : refreshes entry.loop label = false)
      (hstep : entry.loop.step env label = some loop) :
      Stepped env contents plane (.loop workerId label)
        (plane.setInstance workerId (some ⟨entry.instanceId, loop⟩))
  | refresh {workerId : Nat} {entry : Instance} {loop : Loop}
      (hentry : plane.instances workerId = some entry)
      (hpending : entry.loop.generationPending = true)
      (hstep : entry.loop.step env
        (.refreshed (plane.refreshed contents workerId entry.instanceId)) = some loop) :
      Stepped env contents plane (.refresh workerId)
        { plane.setInstance workerId (some ⟨entry.instanceId, loop⟩) with
          publication := plane.publication.refresh workerId entry.instanceId }
  | leave {workerId : Nat} {entry : Instance} (hentry : plane.instances workerId = some entry)
      (hended : entry.loop.point.ended = true) :
      Stepped env contents plane (.leave workerId) (plane.setInstance workerId none)

theorem stepped_of_step (hstep : plane.step env contents label = some next) :
    Stepped env contents plane label next := by
  unfold step at hstep
  cases label with
  | publication label =>
    dsimp only at hstep
    split at hstep
    · rename_i hallowed
      obtain ⟨publication, hpublication, rfl⟩ := Option.map_eq_some_iff.mp hstep
      refine .publication label (fun workerId entry hentry hcaller => ?_) hpublication
      rw [hcaller] at hallowed
      simp [inLoop, hentry] at hallowed
    · cases hstep
  | enter workerId instanceId cache socketFd config =>
    dsimp only at hstep
    split at hstep
    · rename_i hallowed
      obtain ⟨snapshot, hlocal, rfl⟩ := Option.map_eq_some_iff.mp hstep
      exact .enter cache (by simpa using hallowed.1) hallowed.2 hlocal
    · cases hstep
  | loop workerId label =>
    dsimp only at hstep
    split at hstep
    · cases hstep
    · rename_i instanceId loop hentry
      split at hstep
      · cases hstep
      · rename_i hrefreshes
        obtain ⟨after, hloop, rfl⟩ := Option.map_eq_some_iff.mp hstep
        exact .loop hentry (by simpa using hrefreshes) hloop
  | refresh workerId =>
    dsimp only at hstep
    split at hstep
    · cases hstep
    · rename_i instanceId loop hentry
      split at hstep
      · rename_i hpending
        obtain ⟨after, hloop, rfl⟩ := Option.map_eq_some_iff.mp hstep
        exact .refresh hentry hpending hloop
      · cases hstep
  | leave workerId =>
    dsimp only at hstep
    split at hstep
    · cases hstep
    · rename_i instanceId loop hentry
      obtain ⟨hended, rfl⟩ := Transition.enabled hstep
      exact .leave hentry hended

/-! ## The loops of the instances -/

theorem loopOf_eq {workerId : Nat} {entry : Instance}
    (hentry : plane.instances workerId = some entry) :
    plane.loopOf workerId entry.instanceId = some entry.loop := by
  unfold loopOf
  rw [hentry]
  exact if_pos rfl

theorem loopOf_eq_some {workerId instanceId : Nat} {loop : Loop}
    (hloop : plane.loopOf workerId instanceId = some loop) :
    plane.instances workerId = some ⟨instanceId, loop⟩ := by
  obtain ⟨entry, hentry, hsome⟩ := Option.bind_eq_some_iff.mp hloop
  obtain ⟨rfl, hsame⟩ := Option.ite_none_right_eq_some.mp hsome
  rw [hentry, ← Option.some.inj hsame]

theorem instances_setInstance {other workerId : Nat} {after : Option Instance} {entry : Instance}
    (hentry : (plane.setInstance workerId after).instances other = some entry) :
    other = workerId ∧ after = some entry ∨
      other ≠ workerId ∧ plane.instances other = some entry := by
  change Function.update plane.instances workerId after other = _ at hentry
  by_cases hself : other = workerId
  · subst hself
    rw [Function.update_self] at hentry
    exact .inl ⟨rfl, hentry⟩
  · rw [Function.update_of_ne hself] at hentry
    exact .inr ⟨hself, hentry⟩

/-! ## The invariant -/

/-- The instance and the snapshot that the publication counts for it. -/
structure Filters (contents : FilterSnapshot → DomainBlocklist) (plane : Plane) (workerId : Nat)
    (entry : Instance) (snapshot : FilterSnapshot) : Prop where
  counted : ⟨workerId, entry.instanceId, snapshot⟩ ∈ plane.publication.locals
  snapshot : entry.loop.worker.snapshot = some (contents snapshot)

structure Linked (contents : FilterSnapshot → DomainBlocklist) (plane : Plane) : Prop where
  publication : plane.publication.Inv
  sane : ∀ workerId entry, plane.instances workerId = some entry → entry.loop.Sane
  filters : ∀ workerId entry, plane.instances workerId = some entry →
    ∃ snapshot, plane.Filters contents workerId entry snapshot

/-- The instance of one slot changes, and the local snapshots of the others stay. -/
theorem Linked.setInstance (h : Linked contents plane) {workerId : Nat} {after : Option Instance}
    {publication : Publication.System} (hinv : publication.Inv)
    (hlocals : ∀ entry ∈ plane.publication.locals, entry.workerId ≠ workerId →
      entry ∈ publication.locals)
    (hafter : ∀ entry, after = some entry → entry.loop.Sane ∧
      ∃ snapshot, ⟨workerId, entry.instanceId, snapshot⟩ ∈ publication.locals ∧
        entry.loop.worker.snapshot = some (contents snapshot)) :
    Linked contents { plane.setInstance workerId after with publication := publication } := by
  refine ⟨hinv, fun other entry hentry => ?_, fun other entry hentry => ?_⟩
  · rcases instances_setInstance hentry with ⟨-, hnew⟩ | ⟨-, hold⟩
    · exact (hafter entry hnew).1
    · exact h.sane other entry hold
  · rcases instances_setInstance hentry with ⟨rfl, hnew⟩ | ⟨hne, hold⟩
    · obtain ⟨snapshot, hcounted, hsnapshot⟩ := (hafter entry hnew).2
      exact ⟨snapshot, hcounted, hsnapshot⟩
    · obtain ⟨snapshot, hcounted, hsnapshot⟩ := h.filters other entry hold
      exact ⟨snapshot, hlocals _ hcounted hne, hsnapshot⟩

/-- The refresh of a loop: it fails and changes nothing, or the loop filters with the active
snapshot, which it has acknowledged, and every request is met. -/
theorem Linked.refresh (h : Linked contents plane) {workerId : Nat} {entry : Instance} {loop : Loop}
    (hentry : plane.instances workerId = some entry)
    (hpending : entry.loop.generationPending = true)
    (hstep : entry.loop.step env
      (.refreshed (plane.refreshed contents workerId entry.instanceId)) = some loop) :
    ∃ snapshot, ⟨workerId, entry.instanceId, snapshot⟩ ∈
        (plane.publication.refresh workerId entry.instanceId).locals ∧
      loop.worker.snapshot = some (contents snapshot) ∧
      (loop.generation.met = entry.loop.generation.met ∨
        plane.publication.publication.activeSnapshot = some snapshot ∧
          loop.generation = entry.loop.generation.answer ∧
          ((plane.publication.refresh workerId entry.instanceId).publication.epochs
            workerId).observedGeneration = snapshot.generation) := by
  obtain ⟨snapshot, hcounted, hsnapshot⟩ := h.filters workerId entry hentry
  rcases h.publication.refresh_cases hcounted with
    ⟨hfailed, hstays⟩ | ⟨active, hactive, hok, hlocal, hheld, hobserved⟩
  · have hnone : plane.refreshed contents workerId entry.instanceId = none := by
      unfold refreshed
      exact if_neg (by rw [hfailed]; decide)
    rw [hnone] at hstep
    obtain ⟨hsame, hmet⟩ := Loop.snapshot_of_step (h.sane workerId entry hentry).sound hstep
      fun _ heq => by cases heq
    exact ⟨snapshot, hstays, hsame.trans hsnapshot, .inl hmet⟩
  · have hsome : plane.refreshed contents workerId entry.instanceId =
        some (some (contents active)) := by
      unfold refreshed
      dsimp only
      rw [if_pos hok, hlocal]
      rfl
    rw [hsome] at hstep
    obtain ⟨hnew, hanswer⟩ := Loop.refreshed_of_step hpending hstep
    exact ⟨active, hheld, hnew, .inr ⟨hactive, hanswer, hobserved⟩⟩

theorem linked_step (h : Linked contents plane)
    (hstep : plane.step env contents label = some next) :
    Linked contents next := by
  cases stepped_of_step hstep with
  | publication label hcaller hpublication =>
    refine ⟨h.publication.step hpublication, h.sane, fun workerId entry hentry => ?_⟩
    obtain ⟨snapshot, hcounted, hsnapshot⟩ := h.filters workerId entry hentry
    exact ⟨snapshot,
      Publication.System.local_step hpublication hcounted (hcaller workerId entry hentry),
      hsnapshot⟩
  | enter cache hnone hstarted hlocal =>
    refine h.setInstance h.publication (fun _ hmem _ => hmem) fun entry heq => ?_
    obtain rfl := Option.some.inj heq
    exact ⟨Loop.sane_initial cache _ hstarted, _,
      Publication.System.Inv.localSnapshot_eq_some hlocal, rfl⟩
  | @loop workerId entry label loop hentry hrefreshes hloop =>
    refine h.setInstance h.publication (fun _ hmem _ => hmem) fun after heq => ?_
    obtain rfl := Option.some.inj heq
    have hsane := h.sane workerId entry hentry
    obtain ⟨snapshot, hcounted, hsnapshot⟩ := h.filters workerId entry hentry
    refine ⟨hsane.step hloop, snapshot, hcounted, ?_⟩
    have hlabel : ∀ snapshot, label = .refreshed (some snapshot) →
        entry.loop.generationPending = false := by
      rintro snapshot rfl
      exact hrefreshes
    exact (Loop.snapshot_of_step hsane.sound hloop hlabel).1.trans hsnapshot
  | @refresh workerId entry loop hentry hpending hloop =>
    refine h.setInstance (h.publication.refresh workerId entry.instanceId) ?_ fun after heq => ?_
    · intro other hmem hne
      refine Publication.System.local_refresh hmem ?_
      simp [LocalSnapshot.of, hne]
    · obtain rfl := Option.some.inj heq
      obtain ⟨snapshot, hcounted, hsnapshot, -⟩ := h.refresh hentry hpending hloop
      exact ⟨(h.sane workerId entry hentry).step hloop, snapshot, hcounted, hsnapshot⟩
  | leave hentry hended =>
    exact h.setInstance h.publication (fun _ hmem _ => hmem) fun _ heq => by cases heq

theorem linked_run {initialSnapshot : FilterSnapshot} {maximumWorkers graceTimeout : Nat}
    {labels : List Label}
    (hrun : run env contents initialSnapshot maximumWorkers graceTimeout labels = some plane) :
    Linked contents plane := by
  obtain ⟨publication, hnew, hrun⟩ := Option.bind_eq_some_iff.mp hrun
  refine Transition.run_invariant (Linked contents) (fun _ _ _ h hstep => linked_step h hstep)
    ⟨Publication.System.Inv.start hnew, ?_, ?_⟩ hrun
  · intro workerId entry hentry
    cases hentry
  · intro workerId entry hentry
    cases hentry

/-! ## A worker, as an example -/

/-- The second snapshot has the rule `ad`, and the first one has no rule. -/
def sampleContents (snapshot : FilterSnapshot) : DomainBlocklist :=
  if snapshot.object = 1 then Worker.sampleBlocklist
  else { Worker.sampleBlocklist with tree := RadixTree.create }

/-- A worker registers and passes its gates. -/
def sampleRegistered : List Label :=
  [.publication (.registerWorker 0 1), .publication (.refreshWorkerSnapshot 0 1),
    .publication .startReclaimer]

theorem sample_enter {publication : Publication.System} {snapshot : FilterSnapshot}
    (hlocal : publication.localSnapshot 0 1 = some snapshot) :
    ({ publication := publication } : Plane).step Worker.sampleEnvironment sampleContents
        (.enter 0 1 { capacity := 8 } 3 Upstream.System.sampleConfig) =
      some (({ publication := publication } : Plane).setInstance 0
        (some ⟨1, Loop.sampleLoop (some (sampleContents snapshot))⟩)) := by
  unfold step
  dsimp only
  rw [if_pos ⟨rfl, Loop.sample_started⟩, hlocal, Option.map_some, Loop.initial_sample]

end Plane

end DnsPro.DataPlane
