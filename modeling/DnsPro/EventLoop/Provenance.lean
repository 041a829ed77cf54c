import DnsPro.EventLoop.Sound
import DnsPro.Server.Genuine

/-!
# Where the answers come from

The event loop hands nothing to the channel but what arrived at its upstream socket, so every
record that a client gets repeats a record of such a packet.  The packet may have arrived at
the socket of an earlier worker, whose shard the loop took over.
-/

namespace DnsPro.EventLoop

open DnsPro.Cache DnsPro.Filter DnsPro.Protocol DnsPro.Readiness DnsPro.Runtime DnsPro.Server
  DnsPro.Transition DnsPro.Upstream

variable {env : Server.Environment} {stop : Bool} {worker : Worker} {came : Bytes → Prop}

/-- What the loop does with the channel is a step of the worker. -/
theorem call_step (env : Server.Environment) (call : System.Label) {system : System}
    (hexternal : Worker.external worker.upstream call = true)
    (hstep : worker.upstream.step env.upstream call = some system) :
    worker.step env (.upstream call) = some { worker with upstream := system } :=
  Worker.step_eq_some.mpr (.upstream hexternal hstep)

theorem failAll_genuine (h : Worker.Genuine came worker) (env : Server.Environment)
    (outcome : QueryOutcome) (errorNumber : Int) :
    Worker.Genuine came { worker with
      upstream := (worker.upstream.failAll env.upstream outcome errorNumber).2 } :=
  h.silent (call_step env (.failAll outcome errorNumber) rfl rfl) rfl

theorem observed_genuine (h : Worker.Genuine came worker) (env : Server.Environment)
    (stop : Bool) : Worker.Genuine came (observed stop worker) := by
  unfold observed
  split
  · exact h.silent (call_step env .requestStop rfl rfl) rfl
  · exact h

theorem setStats_genuine (h : Worker.Genuine came worker) (stats : WorkerStats) :
    Worker.Genuine came { worker with stats := stats } :=
  ⟨⟨⟨h.ok.inv.upstream, h.ok.inv.frames, h.ok.inv.sent, h.ok.inv.once⟩, h.ok.shard, h.ok.keys,
    h.ok.servable⟩, h.upstream, h.shard, h.frames, h.sent⟩

namespace Loop

variable {loop next : Loop} {label : Label}

/-! ## Steps -/

/-- A step of the loop hands nothing to the channel but what it reads from the socket. -/
theorem genuine_of_stepped (h : Worker.Genuine came loop.worker)
    (hqueue : ∀ payload ∈ loop.upstreamSocket.queue, came (payload.take upstreamReceiveBufferSize))
    (hstepped : Stepped env loop label next) : Worker.Genuine came next.worker := by
  cases hstepped with
  | stopped | waiting | timing | interrupted | pollFailed | dispatched | synchronizing | upToDate
  | stale | receiveInterrupted | receiveEmpty | receiveFailed | received | receivedAll
  | drainInterrupted | drainEmpty | notRunning | drainedAll | noError | errorCleared | ran | thrown
  | broken | checked | arrives | upstreamArrives | upstreamRaises | stopRequested | wakeWritten
  | refreshRequested => exact h
  | @polled _ _ events =>
    dsimp only [goto]
    rw [(report_worker events loop).1]
    exact h
  | @dispatch event =>
    dsimp only [goto]
    rw [(dispatch_worker loop event).1]
    exact h
  | @refreshed snapshot =>
    have hstep : loop.worker.step env (.refresh snapshot) =
      some { loop.worker with snapshot := snapshot } := rfl
    exact h.silent hstep rfl
  | lost => exact setStats_genuine h _
  | spawned _ hstep => exact (observed_genuine h env loop.stop).silent hstep rfl
  | drainFailed | errorFailed => exact failAll_genuine h env _ _
  | hungUp socketError =>
    have hfailed := failAll_genuine h env .socketError socketError
    have hstep : Worker.step env { loop.worker with
        upstream := (loop.worker.upstream.failAll env.upstream .socketError socketError).2 }
        .hangup = some { loop.worker with
          upstream := (loop.worker.upstream.failAll env.upstream .socketError socketError).2
          upstreamUsable := false } := rfl
    exact hfailed.silent hstep rfl
  | @drained _ payload rest truncated allocationFails _ _ htaken =>
    have hpayload : payload ∈ loop.upstreamSocket.queue := by
      rw [(Source.take_eq_some htaken).1]
      exact List.mem_cons_self
    refine h.step (call_step env (.handleDatagram (payload.take upstreamReceiveBufferSize) truncated
      allocationFails) rfl rfl) fun packet hpacket => ?_
    rw [List.mem_singleton.mp hpacket]
    exact hqueue payload hpayload
  | @expired now => exact h.silent (call_step env (.expire now timerBudget) rfl rfl) rfl
  | readied => exact observed_genuine h env loop.stop
  | resumed _ _ _ hstep => exact h.silent hstep rfl
  | @acted _ _ _ action before _ _ hbefore hactor hstep =>
    have hgenuine : Worker.Genuine came before := by
      rcases hbefore with rfl | rfl
      · exact h
      · exact observed_genuine h env loop.stop
    refine hgenuine.silent hstep ?_
    cases action with
    | upstream | receive | refresh | hangup => cases hactor
    | process | resume | respond | fail => rfl

/-! ## The upstream socket -/

/-- What arrived at the upstream socket, as `recvmsg` cuts it. -/
def upstreamPackets (loop : Loop) : List Bytes :=
  loop.upstreamSocket.arrived.map (List.take upstreamReceiveBufferSize)

theorem report_upstream (events : List Event) (loop : Loop) :
    (events.foldl report loop).upstreamSocket.queue = loop.upstreamSocket.queue ∧
      (events.foldl report loop).upstreamSocket.arrived = loop.upstreamSocket.arrived := by
  induction events generalizing loop with
  | nil => exact ⟨rfl, rfl⟩
  | cons event events ih =>
    obtain ⟨hqueue, harrived⟩ := ih (loop.report event)
    rw [List.foldl_cons, hqueue, harrived]
    cases event with
    | listener | wake | generation | upstream => exact ⟨rfl, rfl⟩

/-- What is in the queue has arrived, and nothing that arrived is forgotten. -/
theorem upstream_of_stepped
    (hqueue : ∀ payload ∈ loop.upstreamSocket.queue, payload ∈ loop.upstreamSocket.arrived)
    (hstepped : Stepped env loop label next) :
    (∀ payload ∈ next.upstreamSocket.queue, payload ∈ next.upstreamSocket.arrived) ∧
      ∀ payload ∈ loop.upstreamSocket.arrived, payload ∈ next.upstreamSocket.arrived := by
  have hsame : (∀ payload ∈ loop.upstreamSocket.queue, payload ∈ loop.upstreamSocket.arrived) ∧
      ∀ payload ∈ loop.upstreamSocket.arrived, payload ∈ loop.upstreamSocket.arrived :=
    ⟨hqueue, fun _ hpayload => hpayload⟩
  cases hstepped with
  | @polled _ _ events =>
    obtain ⟨hevents, harrived⟩ := report_upstream events loop
    dsimp only [goto]
    rw [hevents, harrived]
    exact hsame
  | @dispatch event =>
    cases event with
    | listener | wake | generation | upstream => exact hsame
  | drained _ _ htaken =>
    refine ⟨(Source.mem_arrived_of_take hqueue htaken).2, fun payload hpayload => ?_⟩
    dsimp only [goto, setUpstream]
    rwa [(Source.take_eq_some htaken).2.2]
  | hungUp => exact ⟨fun _ hpayload => absurd hpayload List.not_mem_nil, hsame.2⟩
  | upstreamArrives payload =>
    exact ⟨Source.mem_arrived_arrive hqueue payload, fun _ hold => List.mem_append_left _ hold⟩
  | _ => exact hsame

/-! ## Runs -/

/-- The worker holds nothing but what arrived here or at an earlier worker. -/
structure Fed (earlier : List Bytes) (loop : Loop) : Prop where
  queue : ∀ payload ∈ loop.upstreamSocket.queue, payload ∈ loop.upstreamSocket.arrived
  genuine : Worker.Genuine (· ∈ earlier ++ loop.upstreamPackets) loop.worker

theorem fed_step {earlier : List Bytes} (h : loop.Fed earlier)
    (hstep : loop.step env label = some next) : next.Fed earlier := by
  have hstepped := stepped_of_step hstep
  obtain ⟨hqueue, harrived⟩ := upstream_of_stepped h.queue hstepped
  have hread : ∀ payload ∈ loop.upstreamSocket.queue,
      payload.take upstreamReceiveBufferSize ∈ earlier ++ loop.upstreamPackets :=
    fun payload hpayload =>
      List.mem_append_right _ (List.mem_map_of_mem (h.queue payload hpayload))
  refine ⟨hqueue, (genuine_of_stepped h.genuine hread hstepped).mono fun packet hpacket => ?_⟩
  rcases List.mem_append.mp hpacket with hold | hcame
  · exact List.mem_append_left _ hold
  · obtain ⟨payload, hpayload, rfl⟩ := List.mem_map.mp hcame
    exact List.mem_append_right _ (List.mem_map_of_mem (harrived payload hpayload))

end Loop

/-- A shard that event loops have used, one after the other, and what arrived at their upstream
sockets.  A worker reads no packet after its loop. -/
inductive UsedShard : CacheShard → List Bytes → Prop where
  | fresh (capacity : Nat) : UsedShard { capacity := capacity } []
  | loop {env : Server.Environment} {cache : CacheShard} {earlier : List Bytes}
      {snapshot : Option DomainBlocklist} {socketFd : Int} {config : ChannelConfig}
      {labels : List Loop.Label} {loop : Loop} {rest : List Worker.Label} {worker : Worker}
      (hcache : UsedShard cache earlier)
      (hrun : Loop.run env cache snapshot socketFd config labels = some loop)
      (hrest : run (Worker.step env) loop.worker rest = some worker)
      (hsilent : ∀ label ∈ rest, label.packets = []) :
      UsedShard worker.cache (earlier ++ loop.upstreamPackets)

namespace Loop

variable {loop : Loop} {cache : CacheShard} {earlier : List Bytes}
  {snapshot : Option DomainBlocklist} {socketFd : Int} {config : ChannelConfig}
  {labels : List Label}

theorem fed_run (hinv : cache.Inv) (hshard : ShardFrom (· ∈ earlier) cache)
    (hrun : run env cache snapshot socketFd config labels = some loop) : loop.Fed earlier := by
  have hstart : (Worker.initial cache snapshot).step env
      (.upstream (.start socketFd config true false)) =
    some (initial env cache snapshot socketFd config).worker := rfl
  refine run_invariant (Fed earlier) (fun _ _ _ h hstep => fed_step h hstep)
    ⟨fun _ hpayload => absurd hpayload List.not_mem_nil, ?_⟩ hrun
  have hinitial := Worker.genuine_initial hinv hshard snapshot
  exact (hinitial.silent hstart rfl).mono fun packet hpacket => List.mem_append_left _ hpacket

/-- What the shard of a worker holds goes on to the next worker. -/
theorem shard_of_used (h : UsedShard cache earlier) :
    cache.Inv ∧ ShardFrom (· ∈ earlier) cache := by
  induction h with
  | fresh capacity =>
    exact ⟨CacheShard.inv_empty capacity, fun _ _ _ _ hslot => by cases hslot⟩
  | @loop env cache earlier snapshot socketFd config labels loop rest worker hcache hrun hrest
      hsilent ih =>
    have hfed := fed_run ih.1 ih.2 hrun
    have halong : Along (Worker.step env) (fun _ label => label.packets = []) loop.worker rest := by
      rintro past label after reached rfl -
      exact hsilent label (by simp)
    have hgenuine := run_invariant_along (Worker.Genuine (· ∈ earlier ++ loop.upstreamPackets))
      (fun _ label => label.packets = []) (fun _ _ _ h hlabel hstep => h.silent hstep hlabel)
      hfed.genuine hrest halong
    exact ⟨hgenuine.ok.shard, hgenuine.shard⟩

/-- Every answer arrived.  In every run of the loop, over a shard that other loops have used:
whatever is sent is parsed, and each of its records has the type, the class and the data of a
record in a packet that arrived at the upstream socket of this worker or of an earlier one over
the shard.  The packet is a message with the one question that the client asks, and the client
asks it in a datagram that is accepted and goes back to its sender. -/
theorem every_answer_arrived (hcache : UsedShard cache earlier)
    (hrun : run env cache snapshot socketFd config labels = some loop) :
    ∀ entry ∈ loop.worker.sent, ∃ frame message, loop.worker.frames entry.task = some frame ∧
      entry.clientAddress = frame.datagram.clientAddress ∧
      parseMessage entry.response {} = .ok message ∧
      ∀ record ∈ message.answers ++ message.authorities ++ message.additionals,
        ∃ request question packet original answered source,
          frame.datagram.Accepts request ∧ request.questions = [question] ∧
          packet ∈ earlier ++ loop.upstreamSocket.arrived.map (List.take upstreamReceiveBufferSize) ∧
          parseMessage packet System.upstreamLimits = .ok original ∧
          original.questions = [answered] ∧ SameQuestion answered question ∧
          source ∈ original.answers ++ original.authorities ++ original.additionals ∧
          record.type = source.type ∧ record.recordClass = source.recordClass ∧
          record.rdata = source.rdata := by
  obtain ⟨hinv, hshard⟩ := shard_of_used hcache
  have hgenuine := (fed_run hinv hshard hrun).genuine
  intro entry hentry
  obtain ⟨frame, hframe, message, hparse, hrecords⟩ := hgenuine.sent entry hentry
  obtain ⟨owner, howner, -, haddress, -⟩ := hgenuine.ok.inv.sent entry hentry
  obtain rfl := Option.some.inj (howner.symm.trans hframe)
  refine ⟨owner, message, hframe, haddress, hparse, fun record hrecord => ?_⟩
  obtain ⟨request, question, haccepts, hquestions, packet, original, answered, hpacket, horiginal,
    hanswered, hsame, source, hsource, hrepeats⟩ := hrecords record hrecord
  exact ⟨request, question, packet, original, answered, source, haccepts, hquestions, hpacket,
    horiginal, hanswered, hsame, hsource, hrepeats.type, hrepeats.recordClass, hrepeats.rdata⟩

/-! ## An answer from the cache, as an example -/

/-- A pass of the loop for one query of a client. -/
def sampleIntake (datagram : ClientDatagram) (task : TaskId) (now : TimePoint) : List Label :=
  [.arrives ⟨datagram.packet, datagram.clientAddress⟩, .advance, .timing now,
    .polled (.events [.listener]), .advance, .advance, .advance, .refreshed none,
    .received (.datagram false), .spawned task false, .received .wouldBlock, .socketError 0,
    .expired now, .advance, .resumed]

/-- The first query is forwarded and answered, and the second one hits. -/
def sampleReplayed : List Label :=
  sampleIntake Worker.sampleLookup 0 20 ++
    [.acted (.process 0 5 false false (.sent 19)), .advance, .advance,
      .upstreamArrives Worker.sampleAnswer, .advance, .timing 25,
      .polled (.events [.upstream false false]), .advance, .advance, .advance, .refreshed none,
      .received (.datagram false), .received .wouldBlock, .socketError 0, .expired 25, .advance,
      .resumed, .acted (.resume 0 6 false false), .acted (.respond 0 (.sent 35)), .advance,
      .advance] ++
    sampleIntake Worker.sampleSecond 1 30 ++
    [.acted (.process 1 7 false false (.sent 35)), .acted (.respond 1 (.sent 35))]

/-- The response to the second client. -/
def sampleReplay : Bytes :=
  [0, 9, 0x80, 0x80, 0, 1, 0, 1, 0, 0, 0, 0, 1, 0x58, 0, 0, 1, 0, 1,
    0xc0, 12, 0, 1, 0, 1, 0, 0, 0, 60, 0, 4, 10, 0, 0, 1]

/-- The second client gets the address that the upstream server sent to the first one. -/
theorem answer_replayed_when_cached : ∃ loop entry message,
    run Worker.sampleEnvironment { capacity := 8 } none 3 System.sampleConfig sampleReplayed =
        some loop ∧
      entry ∈ loop.worker.sent ∧ entry.clientAddress = Worker.sampleSecond.clientAddress ∧
      parseMessage entry.response {} = .ok message ∧ message.answers ≠ [] ∧
      ∀ record ∈ message.answers, ∃ original source,
        parseMessage Worker.sampleAnswer System.upstreamLimits = .ok original ∧
        source ∈ original.answers ++ original.authorities ++ original.additionals ∧
        record.rdata = source.rdata := by
  have hstate : ((Transition.run (step Worker.sampleEnvironment) (sampleLoop none)
      sampleReplayed).map fun loop => (loop.worker.sent.getLast?, loop.upstreamSocket.arrived)) =
      some (some ⟨1, Worker.sampleSecond.clientAddress, sampleReplay⟩, [Worker.sampleAnswer]) := by
    decide +kernel
  obtain ⟨loop, hstart, hfacts⟩ := Option.map_eq_some_iff.mp hstate
  obtain ⟨hlast, harrived⟩ := Prod.mk.inj hfacts
  have hrun := (run_sample none sampleReplayed).trans hstart
  have hentry := List.mem_of_getLast? hlast
  obtain ⟨frame, message, -, -, hparse, hrecords⟩ :=
    every_answer_arrived (.fresh 8) hrun _ hentry
  have hanswers : (parseMessage sampleReplay {}).toOption.map (·.answers.length) = some 1 := by
    decide +kernel
  rw [hparse] at hanswers
  refine ⟨loop, _, message, hrun, hentry, rfl, hparse, ?_, fun record hrecord => ?_⟩
  · intro hnone
    simp [Except.toOption, hnone] at hanswers
  · obtain ⟨request, question, packet, original, answered, source, -, -, hpacket, horiginal, -, -,
      hsource, -, -, hrdata⟩ :=
      hrecords record (List.mem_append_left _ (List.mem_append_left _ hrecord))
    rw [harrived, List.nil_append] at hpacket
    obtain rfl : packet = Worker.sampleAnswer := List.mem_singleton.mp hpacket
    exact ⟨original, source, horiginal, hsource, hrdata⟩

end Loop

end DnsPro.EventLoop
