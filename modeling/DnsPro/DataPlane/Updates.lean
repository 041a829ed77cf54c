import DnsPro.DataPlane.Node
import DnsPro.Update.Admission

/-!
# A successful update is enforced

The future of `replace_blocked_domains` is set to success when no worker filters with an older
rule set any more.  From then on a name that the rules of the update block, and those of every
later update, is asked upstream by no worker, and a client that asks for it is refused or gets
nothing.  What a worker had begun before is excepted.
-/

namespace DnsPro.Update

open DnsPro.Filter DnsPro.Protocol DnsPro.Publication

/-- One of the rules of the command blocks the name. -/
def Command.Blocks (command : Command) (name : DomainName) : Prop :=
  ∃ rule ∈ command.rules, ∃ blocked, fromText rule = .ok blocked ∧
    name.isSubdomainOf blocked = true

/-- The blocklist of a candidate is the one that was built of the rules.  The token may have
fired later. -/
def Builds (hash : Bytes → UInt64) (maxSize : Nat) (contents : FilterSnapshot → DomainBlocklist)
    (builder : Builder) : Prop :=
  ∀ choice rules generation snapshot,
    builder choice rules generation = .candidate (some snapshot) →
      ∃ stop, DomainBlocklist.build hash stop maxSize rules = .ok (contents snapshot)

/-- `build_filter_snapshot` is such a builder: `heap` holds the blocklist of each object that
it makes. -/
theorem buildFilterSnapshot_builds {hash : Bytes → UInt64} {maxSize : Nat}
    {heap : Nat → DomainBlocklist} {environment : Nat → List Bytes → Nat → BuildEnvironment}
    (hheap : ∀ choice rules generation blocklist,
      (environment choice rules generation).allocationFails = false →
      DomainBlocklist.build hash (environment choice rules generation).stop maxSize rules =
        .ok blocklist → heap (environment choice rules generation).object = blocklist) :
    Builds hash maxSize (fun snapshot => heap snapshot.object) fun choice rules generation =>
      buildFilterSnapshot hash maxSize (environment choice rules generation) rules generation := by
  intro choice rules generation snapshot hbuilt
  dsimp only at hbuilt
  rw [buildFilterSnapshot] at hbuilt
  split at hbuilt
  · cases hbuilt
  rename_i hallocates
  split at hbuilt
  · cases hbuilt
  · cases hbuilt
  rename_i blocklist hbuild
  split at hbuilt
  · cases hbuilt
  obtain rfl := Option.some.inj (BuildOutcome.candidate.inj hbuilt)
  refine ⟨(environment choice rules generation).stop, hbuild.trans ?_⟩
  exact congrArg Except.ok
    (hheap choice rules generation blocklist (by simpa using hallocates) hbuild).symm

namespace System

variable {builder : Builder} {start : Publication.System} {initialSnapshot : FilterSnapshot}
  {system : System}

/-- Of two commits the one with the greater generation is for the later command. -/
theorem commit_le (h : Inv builder start initialSnapshot system) {id id' : Nat}
    {snapshot snapshot' : FilterSnapshot} (hmem : (id, snapshot) ∈ system.commits)
    (hmem' : (id', snapshot') ∈ system.commits)
    (hle : snapshot.generation ≤ snapshot'.generation) : id ≤ id' := by
  have hids : system.commits.Pairwise fun first second => first.1 < second.1 :=
    List.pairwise_map.mp h.commits_sorted
  have hgenerations : system.commits.Pairwise fun first second =>
      first.2.generation < second.2.generation := by
    have hrange : (List.range' (initialSnapshot.generation + 1)
        system.commits.length).Pairwise (· < ·) := List.pairwise_lt_range'
    rw [← h.generations] at hrange
    exact List.pairwise_map.mp hrange
  obtain ⟨first, hfirst, hget⟩ := List.getElem_of_mem hmem
  obtain ⟨second, hsecond, hget'⟩ := List.getElem_of_mem hmem'
  rcases Nat.lt_trichotomy first second with hlt | rfl | hgt
  · have hless := List.pairwise_iff_getElem.mp hids first second hfirst hsecond hlt
    rw [hget, hget'] at hless
    exact hless.le
  · obtain ⟨rfl, -⟩ := Prod.mk.inj (hget.symm.trans hget')
    exact le_rfl
  · have hless := List.pairwise_iff_getElem.mp hgenerations second first hsecond hfirst hgt
    rw [hget, hget'] at hless
    exact absurd hle (not_le.mpr hless)

/-- A snapshot that was published since a successful update was built of the rules of that
update, or of a later one. -/
theorem published_since (h : Inv builder start initialSnapshot system)
    (hpublished : system.publication.published =
      initialSnapshot :: system.commits.map Prod.snd) {id : Nat} {first : FilterSnapshot}
    (hfirst : (id, first) ∈ system.commits) {snapshot : FilterSnapshot}
    (hmem : snapshot ∈ system.publication.published)
    (hle : first.generation ≤ snapshot.generation) :
    ∃ command ∈ system.accepted, id ≤ command.id ∧ (command.id, snapshot) ∈ system.commits ∧
      ∃ choice, builder choice command.rules snapshot.generation = .candidate (some snapshot) := by
  rw [hpublished] at hmem
  rcases List.mem_cons.mp hmem with rfl | hcommitted
  · -- the initial snapshot is older than every commit
    have hrange : first.generation ∈
        List.range' (snapshot.generation + 1) system.commits.length := by
      rw [← h.generations]
      exact List.mem_map.mpr ⟨_, hfirst, rfl⟩
    obtain ⟨hge, -⟩ := List.mem_range'_1.mp hrange
    omega
  · obtain ⟨⟨id', snapshot⟩, hcommit, rfl⟩ := List.mem_map.mp hcommitted
    obtain ⟨command, haccepted, rfl, choice, hbuilt⟩ := h.built _ hcommit
    exact ⟨command, haccepted, commit_le h hfirst hcommit hle, hcommit, choice, hbuilt⟩

end System

end DnsPro.Update

namespace DnsPro.DataPlane

open DnsPro.EventLoop DnsPro.Filter DnsPro.Protocol DnsPro.Publication DnsPro.Runtime
open DnsPro.Server DnsPro.Update

namespace Node

variable {env : Server.Environment} {contents : FilterSnapshot → DomainBlocklist}
  {builder : Builder} {start : Publication.System} {initialSnapshot : FilterSnapshot}
  {node final : Node}

/-- Commits are never taken back. -/
theorem commits_run {labels : List Label}
    (hrun : Transition.run (step env contents builder) node labels = some final) :
    node.update.commits ⊆ final.update.commits := by
  refine Transition.run_invariant (fun state : Node => node.update.commits ⊆ state.update.commits)
    (fun state label next h hstep => ?_) (List.Subset.refl _) hrun
  rcases update_of_step hstep with hsame | ⟨seen, hseen⟩
  · exact hsame ▸ h
  · rcases Update.System.commits_step hseen with hsame | ⟨-, command, candidate, -, hnew⟩
    · exact hsame ▸ h
    · exact hnew ▸ List.subset_append_of_subset_left _ h

/-- After a successful update every snapshot blocks what it and all later updates block. -/
theorem Coherent.bans (h : Coherent contents builder start initialSnapshot final) {maxSize : Nat}
    (hbuilds : Builds env.hash maxSize contents builder) {names : DomainName → Prop} {id : Nat}
    {first : FilterSnapshot} (hfirst : (id, first) ∈ final.update.commits)
    (hnames : ∀ command ∈ final.update.accepted, id ≤ command.id →
      (∃ snapshot, (command.id, snapshot) ∈ final.update.commits) →
      ∀ name, names name → command.Blocks name) :
    final.plane.Bans env contents names first.generation := by
  intro snapshot hmem hle name hname
  obtain ⟨command, haccepted, hid, hcommit, choice, hbuilt⟩ :=
    Update.System.published_since h.update h.published hfirst hmem hle
  obtain ⟨rule, hrule, blocked, hparse, hsub⟩ :=
    hnames command haccepted hid ⟨snapshot, hcommit⟩ name hname
  obtain ⟨stop, hbuild⟩ := hbuilds choice command.rules snapshot.generation snapshot hbuilt
  exact matches_of_rule hbuild hrule hparse hsub

/-- A successful update is enforced.  In every run of the controller, the publication and any
number of workers, in any interleaving with submitters, clients, the upstream server, timers,
the reclaimer, stops and restarts: once the promise of a command is set to success, a worker
has asked the upstream server for a name that the rules of this command and of all updates
committed later block only if it had asked before, and what it sends to a client that asks
for such a name refuses it, unless the coroutine of the client had begun before. -/
theorem successful_update_enforced {maximumWorkers graceTimeout maxSize : Nat}
    {limits : FilterUpdateLimits} {labels later : List Label}
    (hbuilds : Builds env.hash maxSize contents builder)
    (hrun : run env contents builder initialSnapshot maximumWorkers graceTimeout limits labels =
      some node) {id : Nat} {version : FilterVersion}
    (hsuccess : (id, .ok version) ∈ node.update.results)
    (hlater : Transition.run (step env contents builder) node later = some final)
    {names : DomainName → Prop}
    (hnames : ∀ command ∈ final.update.accepted, id ≤ command.id →
      (∃ snapshot, (command.id, snapshot) ∈ final.update.commits) →
      ∀ name, names name → command.Blocks name)
    {workerId : Nat} {entry : Instance} (hentry : final.instances workerId = some entry) :
    (∀ query, query < entry.loop.worker.upstream.queryCount →
      names (entry.loop.worker.upstream.queries query).question.name →
      node.plane.Asked workerId entry.instanceId query) ∧
    ∀ sent ∈ entry.loop.worker.sent, ∀ frame request question,
      entry.loop.worker.frames sent.task = some frame → frame.datagram.Accepts request →
      request.questions = [question] → names question.name →
      node.plane.Began workerId entry.instanceId sent.task ∨
        ∃ message, RespondsTo request sent.response message ∧
          message.header.responseCode = ResponseCode.refused.code := by
  obtain ⟨start, hcoherent⟩ := coherent_run hrun
  obtain ⟨first, hcommit, hversion⟩ := hcoherent.update.settled _ hsuccess
  have hfirst : version.generation = first.generation := by
    rw [← hversion]
    rfl
  have hconverged := hcoherent.told version (.inl ⟨id, hsuccess⟩)
  have hfinal : Coherent contents builder start initialSnapshot final :=
    Transition.run_invariant (Coherent contents builder start initialSnapshot)
      (fun _ _ _ h hstep => h.step hstep) hcoherent hlater
  have hbans := hfinal.bans hbuilds (commits_run hlater hcommit) hnames
  obtain ⟨seen, hseen⟩ := Transition.run_simulated plane
    (Coherent contents builder start initialSnapshot) (fun _ _ _ h hstep => h.step hstep)
    (fun _ _ _ h hstep => plane_of_step h.update hstep) hcoherent hlater
  obtain ⟨hlinked, henforced⟩ := Plane.enforced_run hcoherent.linked
    (hfirst ▸ hconverged) hseen hbans
  refine ⟨(henforced workerId entry hentry).queries, ?_⟩
  intro sent hsent frame request question hframe haccepts hquestions hname
  exact henforced.refused hlinked hentry hsent hframe haccepts hquestions hname

/-! ## A submitted rule, as an example -/

/-- A build has memory for the rule `ad`, and for no other rules. -/
def sampleBuild (_ : Nat) (rules : List Bytes) (_ : Nat) : BuildEnvironment where
  stop _ := false
  stopAfter := false
  allocationFails := decide (rules ≠ [[0x61, 0x64]])
  object := 1

def sampleBuilder : Builder := fun _ rules generation =>
  if rules = [[0x61, 0x64]] then .candidate (some ⟨1, generation, 1, 4⟩) else .exception

theorem sampleBuilder_eq : sampleBuilder = fun choice rules generation =>
    buildFilterSnapshot Worker.sampleEnvironment.hash (2 ^ 58) (sampleBuild choice rules generation)
      rules generation := by
  funext choice rules generation
  by_cases hrules : rules = [[0x61, 0x64]]
  · subst hrules
    rfl
  · unfold sampleBuilder buildFilterSnapshot
    rw [if_neg hrules, if_pos (by simpa [sampleBuild] using hrules)]

theorem sample_builds :
    Builds Worker.sampleEnvironment.hash (2 ^ 58) Plane.sampleContents sampleBuilder := by
  let heap (object : Nat) : DomainBlocklist :=
    if object = 1 then Worker.sampleBlocklist
    else { Worker.sampleBlocklist with tree := RadixTree.create }
  rw [sampleBuilder_eq]
  refine @buildFilterSnapshot_builds Worker.sampleEnvironment.hash (2 ^ 58) heap sampleBuild ?_
  intro _ rules _ blocklist hallocates hbuild
  have hrules : rules = [[0x61, 0x64]] := by simpa [sampleBuild] using hallocates
  subst hrules
  have hsample : DomainBlocklist.build Worker.sampleEnvironment.hash (fun _ => false) (2 ^ 58)
      [[0x61, 0x64]] = .ok Worker.sampleBlocklist := rfl
  exact Except.ok.inj (hsample.symm.trans hbuild)

/-- A worker registers and passes its gates. -/
def sampleGates : List Label :=
  [.update (.publication (.registerWorker 0 1)),
    .update (.publication (.refreshWorkerSnapshot 0 1)), .update (.publication .startReclaimer)]

/-- The rule `ad` is submitted and published, the worker refreshes, and the promise is set. -/
def sampleSubmitted : List Label :=
  [.update (.submitReplace [[0x61, 0x64]] false false), .update .startRunner] ++
    List.replicate 8 (.update (.runner 0 0 false)) ++
    [.worker (.loop 0 .refreshRequested), .worker (.loop 0 .advance), .worker (.loop 0 (.timing 20)),
      .worker (.loop 0 (.polled (.events [.generation]))), .worker (.loop 0 .advance),
      .worker (.loop 0 .advance), .worker (.loop 0 .advance), .worker (.refresh 0),
      .update (.publication (.reclaimerIteration 0 false))] ++
    List.replicate 2 (.update (.runner 0 0 false))

theorem client_refused_after_success : ∃ node final entry sent message,
    run Worker.sampleEnvironment Plane.sampleContents sampleBuilder ⟨0, 1, 0, 0⟩ 1 1 {}
        (sampleGates ++ .worker (.enter 0 1 { capacity := 8 } 3 Upstream.System.sampleConfig) ::
          sampleSubmitted) = some node ∧
      node.update.results = [(0, .ok ⟨2, 1⟩)] ∧
      Transition.run (step Worker.sampleEnvironment Plane.sampleContents sampleBuilder) node
        (Plane.sampleAsked.map fun label => .worker (.loop 0 label)) = some final ∧
      final.instances 0 = some entry ∧ entry.loop.worker.sent = [sent] ∧
      RespondsTo Worker.sampleRequest sent.response message ∧
      message.header.responseCode = ResponseCode.refused.code := by
  obtain ⟨update, gated, node, before, final, entry, sent, frame, command, hnew, hgates, hlocal,
      hsubmitted, hresults, hbefore, hframes, hasked, hentry, hsent, htask, hframe, hdatagram,
      haccepted, hrules⟩ :
      ∃ update gated node before final entry sent frame command,
        Update.System.new ⟨0, 1, 0, 0⟩ 1 1 {} = some update ∧
        Transition.run (step Worker.sampleEnvironment Plane.sampleContents sampleBuilder)
          { update := update } sampleGates = some { update := gated } ∧
        gated.publication.localSnapshot 0 1 = some ⟨0, 1, 0, 0⟩ ∧
        Transition.run (step Worker.sampleEnvironment Plane.sampleContents sampleBuilder)
          (({ update := gated } : Node).setPlane
            ((({ update := gated } : Node).plane).setInstance 0
              (some ⟨1, Loop.sampleLoop (some (Plane.sampleContents ⟨0, 1, 0, 0⟩))⟩)))
          sampleSubmitted = some node ∧
        node.update.results = [(0, .ok ⟨2, 1⟩)] ∧
        node.instances 0 = some before ∧ before.loop.worker.frames 0 = none ∧
        Transition.run (step Worker.sampleEnvironment Plane.sampleContents sampleBuilder) node
          (Plane.sampleAsked.map fun label => .worker (.loop 0 label)) = some final ∧
        final.instances 0 = some entry ∧ entry.loop.worker.sent = [sent] ∧ sent.task = 0 ∧
        entry.loop.worker.frames 0 = some frame ∧ frame.datagram = Worker.sampleQuery ∧
        final.update.accepted = [command] ∧ command.rules = [[0x61, 0x64]] :=
    ⟨_, _, _, _, _, _, _, _, _, rfl, rfl, rfl, rfl, rfl, rfl, rfl, rfl, rfl, rfl, rfl, rfl, rfl,
      rfl, rfl⟩
  have henter : (({ update := gated } : Node)).step Worker.sampleEnvironment Plane.sampleContents
      sampleBuilder (.worker (.enter 0 1 { capacity := 8 } 3 Upstream.System.sampleConfig)) =
      some (({ update := gated } : Node).setPlane
        ((({ update := gated } : Node).plane).setInstance 0
          (some ⟨1, Loop.sampleLoop (some (Plane.sampleContents ⟨0, 1, 0, 0⟩))⟩))) := by
    unfold step
    dsimp only
    have hplane : ({ update := gated } : Node).plane = { publication := gated.publication } := rfl
    rw [hplane, Plane.sample_enter hlocal, Option.map_some]
  have hrun : run Worker.sampleEnvironment Plane.sampleContents sampleBuilder ⟨0, 1, 0, 0⟩ 1 1 {}
      (sampleGates ++ .worker (.enter 0 1 { capacity := 8 } 3 Upstream.System.sampleConfig) ::
        sampleSubmitted) = some node := by
    refine Option.bind_eq_some_iff.mpr ⟨update, hnew, ?_⟩
    refine Transition.run_append.mpr ⟨_, hgates, ?_⟩
    exact Transition.run_cons.mpr ⟨_, henter, hsubmitted⟩
  have hnames : ∀ other ∈ final.update.accepted, 0 ≤ other.id →
      (∃ snapshot, (other.id, snapshot) ∈ final.update.commits) →
      ∀ name, command.Blocks name → other.Blocks name := by
    intro other hother _ _ name hblocks
    rw [haccepted, List.mem_singleton] at hother
    exact hother ▸ hblocks
  have hnew : ¬ node.plane.Began 0 entry.instanceId sent.task := by
    rintro ⟨loop, began, hloop, hbegan, -⟩
    obtain rfl := Option.some.inj (hbefore.symm.trans (Plane.loopOf_eq_some hloop))
    rw [htask, hframes] at hbegan
    cases hbegan
  have hsuccess : (0, Except.ok ⟨2, 1⟩) ∈ node.update.results := by
    rw [hresults]
    exact List.mem_singleton.mpr rfl
  obtain ⟨-, hresponses⟩ := successful_update_enforced sample_builds hrun hsuccess hasked hnames
    hentry
  obtain hbegan | ⟨message, hresponds, hrefused⟩ := hresponses sent (by simp [hsent]) frame
    Worker.sampleRequest _ (htask ▸ hframe) (by rw [hdatagram]; rfl) rfl
    ⟨[0x61, 0x64], by simp [hrules], _, rfl, rfl⟩
  · exact absurd hbegan hnew
  · exact ⟨node, final, entry, sent, message, hrun, hresults, hasked, hentry, hsent, hresponds,
      hrefused⟩

end Node

end DnsPro.DataPlane
