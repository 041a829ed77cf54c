import DnsPro.DataPlane.Linked
import DnsPro.Server.Enforcement

/-!
# A converged update is enforced

`replace_blocked_domains` reports success when its generation has converged.  From then on no
worker asks the upstream server for a name that every snapshot since this generation blocks,
and a client that asks for one is refused or gets nothing.  What a worker had begun before is
excepted: it still answers a query that was let pass.
-/

namespace DnsPro.EventLoop

open DnsPro.Filter DnsPro.Protocol DnsPro.Runtime DnsPro.Server DnsPro.Upstream

variable {env : Server.Environment} {stop : Bool} {worker next : Worker}
  {names : DomainName → Prop} {asked : QueryId → Prop} {began : TaskId → Prop}

theorem enforces_of_driven (h : worker.Enforces names asked began) (hsteady : Steady stop worker)
    (hblocks : worker.Blocks env names) {label : Loop.Label}
    (hdriven : Driven env stop worker label next) : next.Enforces names asked began := by
  have hqueries := h.queries_step hblocks (asks_of_driven hsteady hdriven)
  have hobserved : (observed stop worker).Enforces names asked began ∧
      (observed stop worker).Blocks env names := by
    unfold observed
    split
    · exact ⟨⟨h.queries, h.frames⟩, hblocks⟩
    · exact ⟨h, hblocks⟩
  cases hdriven with
  | same | refreshed | lost | upstream | hangup => exact ⟨hqueries, h.frames⟩
  | observed => exact hobserved.1
  | @spawned task _ _ hreceived =>
    cases Worker.step_eq_some.mp hreceived with
    | receive => exact hobserved.1.receive task
  | resumed hresumed =>
    cases Worker.step_eq_some.mp hresumed with
    | upstream => exact ⟨hqueries, h.frames⟩
  | acted hbefore hactor hacted =>
    rcases hbefore with rfl | rfl
    · exact h.step hsteady.inv hblocks hacted hactor
    · exact hobserved.1.step hsteady.observed.inv hobserved.2 hacted hactor

end DnsPro.EventLoop

namespace DnsPro.DataPlane

open DnsPro.EventLoop DnsPro.Filter DnsPro.Protocol DnsPro.Publication DnsPro.Runtime
open DnsPro.Server DnsPro.Upstream

namespace Plane

variable {env : Server.Environment} {contents : FilterSnapshot → DomainBlocklist}
  {plane next base : Plane} {label : Label} {names : DomainName → Prop} {generation : Nat}

/-- The instance has made the query. -/
def Asked (plane : Plane) (workerId instanceId : Nat) (query : QueryId) : Prop :=
  ∃ loop, plane.loopOf workerId instanceId = some loop ∧ query < loop.worker.upstream.queryCount

/-- The coroutine of the instance has begun. -/
def Began (plane : Plane) (workerId instanceId : Nat) (task : TaskId) : Prop :=
  ∃ loop frame, plane.loopOf workerId instanceId = some loop ∧
    loop.worker.frames task = some frame ∧ frame.stage ≠ .created

/-- Every snapshot that was published since the generation blocks the names. -/
def Bans (env : Server.Environment) (contents : FilterSnapshot → DomainBlocklist)
    (names : DomainName → Prop) (generation : Nat) (plane : Plane) : Prop :=
  ∀ snapshot ∈ plane.publication.published, generation ≤ snapshot.generation →
    ∀ name, names name → (contents snapshot).matches env.hash name = true

def Enforced (names : DomainName → Prop) (base plane : Plane) : Prop :=
  ∀ workerId entry, plane.instances workerId = some entry →
    entry.loop.worker.Enforces names (base.Asked workerId entry.instanceId)
      (base.Began workerId entry.instanceId)

/-! ## Steps -/

theorem published_step (hstep : plane.step env contents label = some next) :
    plane.publication.published ⊆ next.publication.published := by
  cases stepped_of_step hstep with
  | publication label _ hpublication => exact Publication.System.published_step hpublication
  | enter | loop | leave => exact List.Subset.refl _
  | @refresh workerId entry =>
    exact (Publication.System.published_refresh plane.publication workerId
      entry.instanceId).symm ▸ List.Subset.refl _

theorem converged_step (h : Linked contents plane)
    (hstep : plane.step env contents label = some next) :
    plane.publication.publication.lastConvergedGeneration ≤
      next.publication.publication.lastConvergedGeneration := by
  cases stepped_of_step hstep with
  | publication label _ hpublication => exact (h.publication.advances_step hpublication).converged
  | enter | loop | leave => exact Nat.le_refl _
  | @refresh workerId entry =>
    exact (h.publication.advances_refresh workerId entry.instanceId).converged

/-- After the generation has converged, every event loop filters with a snapshot that is not
older. -/
theorem Linked.blocks (h : Linked contents plane)
    (hconverged : generation ≤ plane.publication.publication.lastConvergedGeneration)
    (hbans : plane.Bans env contents names generation) {workerId : Nat} {entry : Instance}
    (hentry : plane.instances workerId = some entry) : entry.loop.worker.Blocks env names := by
  intro name hname
  obtain ⟨snapshot, hcounted, hsnapshot⟩ := h.filters workerId entry hentry
  have hgeneration := hconverged.trans (h.publication.converged.2 _ hcounted)
  unfold Worker.matchesFilter
  rw [hsnapshot]
  exact hbans snapshot (h.publication.local_published hcounted) hgeneration name hname

/-- One instance changes. -/
theorem Enforced.setInstance (h : Enforced names base plane) {workerId : Nat}
    {after : Option Instance} {publication : Publication.System}
    (hafter : ∀ entry, after = some entry →
      entry.loop.worker.Enforces names (base.Asked workerId entry.instanceId)
        (base.Began workerId entry.instanceId)) :
    Enforced names base
      { plane.setInstance workerId after with publication := publication } := by
  intro other entry hentry
  rcases instances_setInstance hentry with ⟨rfl, hnew⟩ | ⟨-, hold⟩
  · exact hafter entry hnew
  · exact h other entry hold

theorem enforces_initial (env : Server.Environment) (cache : Cache.CacheShard)
    (snapshot : Option DomainBlocklist) {socketFd : Int} {config : ChannelConfig}
    (hstarted : Loop.Started env socketFd config) (asked : QueryId → Prop) (began : TaskId → Prop) :
    (Loop.initial env cache snapshot socketFd config).worker.Enforces names asked began := by
  obtain ⟨channel, -, heq⟩ := Loop.started_eq hstarted
  refine ⟨fun query hmade => ?_, fun task frame hframe => by cases hframe⟩
  change query < (Upstream.System.initial.start env.upstream socketFd config true
    false).2.queryCount at hmade
  rw [heq] at hmade
  exact absurd hmade (Nat.not_lt_zero query)

theorem enforced_step (hlinked : Linked contents plane)
    (hconverged : generation ≤ plane.publication.publication.lastConvergedGeneration)
    (hbans : plane.Bans env contents names generation) (h : Enforced names base plane)
    (hstep : plane.step env contents label = some next) : Enforced names base next := by
  have hloop : ∀ {workerId : Nat} {entry : Instance} {label : Loop.Label} {loop : Loop},
      plane.instances workerId = some entry → entry.loop.step env label = some loop →
      loop.worker.Enforces names (base.Asked workerId entry.instanceId)
        (base.Began workerId entry.instanceId) := by
    intro workerId entry label loop hentry hstep
    have hsteady := (hlinked.sane workerId entry hentry).sound.steady
    exact enforces_of_driven (h workerId entry hentry) hsteady
      (hlinked.blocks hconverged hbans hentry)
      (Loop.driven_of_stepped hsteady.inv (Loop.stepped_of_step hstep))
  cases stepped_of_step hstep with
  | publication => exact h
  | enter cache _ hstarted =>
    refine h.setInstance fun entry heq => ?_
    obtain rfl := Option.some.inj heq
    exact enforces_initial env cache _ hstarted _ _
  | loop hentry _ hnext | refresh hentry _ hnext =>
    have henforces := hloop hentry hnext
    refine h.setInstance fun entry heq => ?_
    obtain rfl := Option.some.inj heq
    exact henforces
  | leave => exact h.setInstance fun _ heq => by cases heq

/-! ## Runs -/

/-- What a loop has begun is begun. -/
theorem enforced_refl (names : DomainName → Prop) (plane : Plane) :
    Enforced names plane plane := by
  intro workerId entry hentry
  have hloop := loopOf_eq hentry
  refine ⟨fun query hmade _ => ⟨entry.loop, hloop, hmade⟩, fun task frame hframe _ hbegan => ?_⟩
  by_cases hcreated : frame.stage = .created
  · exact .inl hcreated
  · exact absurd ⟨entry.loop, frame, hloop, hframe, hcreated⟩ hbegan

/-- From a moment on at which the generation has converged. -/
theorem enforced_run (hlinked : Linked contents base)
    (hconverged : generation ≤ base.publication.publication.lastConvergedGeneration)
    {labels : List Label} (hrun : Transition.run (step env contents) base labels = some plane)
    (hbans : plane.Bans env contents names generation) :
    Linked contents plane ∧ Enforced names base plane := by
  obtain ⟨hafter, -, henforced⟩ := Transition.run_invariant
    (fun (state : Plane) => Linked contents state ∧
      generation ≤ state.publication.publication.lastConvergedGeneration ∧
      (state.Bans env contents names generation → Enforced names base state))
    (fun state label next h hstep => by
      obtain ⟨hlinked, hge, henforced⟩ := h
      refine ⟨linked_step hlinked hstep, hge.trans (converged_step hlinked hstep), fun hnext => ?_⟩
      have hbefore : state.Bans env contents names generation :=
        fun snapshot hmem => hnext snapshot (published_step hstep hmem)
      exact enforced_step hlinked hge hbefore (henforced hbefore) hstep)
    ⟨hlinked, hconverged, fun _ => enforced_refl names base⟩ hrun
  exact ⟨hafter, henforced hbans⟩

/-- What a client gets that asks for one of the names. -/
theorem Enforced.refused (h : Enforced names base plane) (hlinked : Linked contents plane)
    {workerId : Nat} {entry : Instance} (hentry : plane.instances workerId = some entry)
    {sent : Sent} (hsent : sent ∈ entry.loop.worker.sent) {frame : Frame}
    {request : Message} {question : Question}
    (hframe : entry.loop.worker.frames sent.task = some frame)
    (haccepts : frame.datagram.Accepts request) (hquestions : request.questions = [question])
    (hname : names question.name) :
    base.Began workerId entry.instanceId sent.task ∨
      ∃ message, RespondsTo request sent.response message ∧
        message.header.responseCode = ResponseCode.refused.code := by
  by_cases hbegan : base.Began workerId entry.instanceId sent.task
  · exact .inl hbegan
  · exact .inr ((h workerId entry hentry).refused
      (hlinked.sane workerId entry hentry).sound.steady.inv hsent hframe hbegan haccepts hquestions
      hname)

/-- A converged update is enforced.  In every run of the publication and of any number of
workers, in any interleaving with clients, the upstream server, timers, updates, reclaimer,
stops and restarts: once `wait_until_converged` has reported a generation, a worker has asked
the upstream server for a name that all snapshots since this generation block only if it had
asked before, and what it sends to a client that asks for such a name refuses it, unless the
coroutine of the client had begun before. -/
theorem converged_update_enforced {initialSnapshot : FilterSnapshot}
    {maximumWorkers graceTimeout : Nat} {labels later : List Label} {final : Plane}
    (hrun : run env contents initialSnapshot maximumWorkers graceTimeout labels = some plane)
    (hconverged : plane.publication.publication.waitUntilConverged generation = some .converged)
    (hlater : Transition.run (step env contents) plane later = some final)
    (hbans : final.Bans env contents names generation) {workerId : Nat} {entry : Instance}
    (hentry : final.instances workerId = some entry) :
    (∀ query, query < entry.loop.worker.upstream.queryCount →
      names (entry.loop.worker.upstream.queries query).question.name →
      plane.Asked workerId entry.instanceId query) ∧
    ∀ sent ∈ entry.loop.worker.sent, ∀ frame request question,
      entry.loop.worker.frames sent.task = some frame → frame.datagram.Accepts request →
      request.questions = [question] → names question.name →
      plane.Began workerId entry.instanceId sent.task ∨
        ∃ message, RespondsTo request sent.response message ∧
          message.header.responseCode = ResponseCode.refused.code := by
  obtain ⟨hlinked, henforced⟩ := enforced_run (linked_run hrun)
    (Publication.System.converged_of_wait hconverged) hlater hbans
  refine ⟨(henforced workerId entry hentry).queries, ?_⟩
  intro sent hsent frame request question hframe haccepts hquestions hname
  exact henforced.refused hlinked hentry hsent hframe haccepts hquestions hname

/-! ## An update, as an example -/

/-- The second snapshot is published, and the worker refreshes. -/
def sampleUpdated : List Label :=
  [.publication (.acquireRetirementCredit false), .publication (.commit (some ⟨1, 2, 1, 4⟩) 0),
    .loop 0 .refreshRequested, .loop 0 .advance, .loop 0 (.timing 20),
    .loop 0 (.polled (.events [.generation])), .loop 0 .advance, .loop 0 .advance,
    .loop 0 .advance, .refresh 0, .publication (.reclaimerIteration 0 false)]

/-- A client asks for a name that is blocked now. -/
def sampleAsked : List Loop.Label :=
  [.arrives ⟨Worker.sampleQuery.packet, Worker.sampleQuery.clientAddress⟩, .socketError 0,
    .expired 20, .advance, .advance, .advance, .advance, .timing 20,
    .polled (.events [.listener]), .advance, .advance, .advance, .refreshed none,
    .received (.datagram false), .spawned 0 false, .received .wouldBlock, .socketError 0,
    .expired 20, .advance, .resumed, .acted (.process 0 5 false false (.sent 22)),
    .acted (.respond 0 (.sent 22))]

theorem client_refused_after_update : ∃ plane final entry sent message,
    run Worker.sampleEnvironment sampleContents ⟨0, 1, 0, 0⟩ 1 1
        (sampleRegistered ++ .enter 0 1 { capacity := 8 } 3 Upstream.System.sampleConfig ::
          sampleUpdated) = some plane ∧
      plane.publication.publication.waitUntilConverged 2 = some .converged ∧
      Transition.run (step Worker.sampleEnvironment sampleContents) plane
        (sampleAsked.map (.loop 0)) = some final ∧
      final.instances 0 = some entry ∧ entry.loop.worker.sent = [sent] ∧
      RespondsTo Worker.sampleRequest sent.response message ∧
      message.header.responseCode = ResponseCode.refused.code := by
  obtain ⟨start, registered, plane, before, final, entry, sent, frame, hnew, hregistered, hlocal,
      hupdated, hconverged, hbefore, hframes, hasked, hentry, hsent, htask, hframe, hdatagram,
      hpublished⟩ :
      ∃ start registered plane before final entry sent frame,
        Publication.System.new ⟨0, 1, 0, 0⟩ 1 1 = some start ∧
        Transition.run (step Worker.sampleEnvironment sampleContents) { publication := start }
          sampleRegistered = some { publication := registered } ∧
        registered.localSnapshot 0 1 = some ⟨0, 1, 0, 0⟩ ∧
        Transition.run (step Worker.sampleEnvironment sampleContents)
          (({ publication := registered } : Plane).setInstance 0
            (some ⟨1, Loop.sampleLoop (some (sampleContents ⟨0, 1, 0, 0⟩))⟩)) sampleUpdated =
          some plane ∧
        plane.publication.publication.waitUntilConverged 2 = some .converged ∧
        plane.instances 0 = some before ∧ before.loop.worker.frames 0 = none ∧
        Transition.run (step Worker.sampleEnvironment sampleContents) plane
          (sampleAsked.map (.loop 0)) = some final ∧
        final.instances 0 = some entry ∧ entry.loop.worker.sent = [sent] ∧ sent.task = 0 ∧
        entry.loop.worker.frames 0 = some frame ∧ frame.datagram = Worker.sampleQuery ∧
        final.publication.published = [⟨0, 1, 0, 0⟩, ⟨1, 2, 1, 4⟩] :=
    ⟨_, _, _, _, _, _, _, _, rfl, rfl, rfl, rfl, rfl, rfl, rfl, rfl, rfl, rfl, rfl, rfl, rfl, rfl⟩
  have hrun : run Worker.sampleEnvironment sampleContents ⟨0, 1, 0, 0⟩ 1 1
      (sampleRegistered ++ .enter 0 1 { capacity := 8 } 3 Upstream.System.sampleConfig ::
        sampleUpdated) = some plane := by
    refine Option.bind_eq_some_iff.mpr ⟨start, hnew, ?_⟩
    refine Transition.run_append.mpr ⟨_, hregistered, ?_⟩
    exact Transition.run_cons.mpr ⟨_, sample_enter hlocal, hupdated⟩
  have hbans : final.Bans Worker.sampleEnvironment sampleContents
      (fun name => Worker.sampleBlocklist.matches Worker.sampleEnvironment.hash name = true) 2 := by
    intro snapshot hmem hgeneration name hname
    rw [hpublished] at hmem
    rcases List.mem_cons.mp hmem with rfl | hmem
    · exact absurd hgeneration (by decide)
    · rw [List.mem_singleton.mp hmem]
      exact hname
  have hnew : ¬ plane.Began 0 entry.instanceId sent.task := by
    rintro ⟨loop, began, hloop, hbegan, -⟩
    obtain rfl := Option.some.inj (hbefore.symm.trans (loopOf_eq_some hloop))
    rw [htask, hframes] at hbegan
    cases hbegan
  obtain ⟨-, hresponses⟩ := converged_update_enforced hrun hconverged hasked hbans hentry
  obtain hbegan | ⟨message, hresponds, hrefused⟩ := hresponses sent (by simp [hsent]) frame
    Worker.sampleRequest _ (htask ▸ hframe) (by rw [hdatagram]; rfl) rfl rfl
  · exact absurd hbegan hnew
  · exact ⟨plane, final, entry, sent, message, hrun, hconverged, hasked, hentry, hsent, hresponds,
      hrefused⟩

end Plane

end DnsPro.DataPlane
