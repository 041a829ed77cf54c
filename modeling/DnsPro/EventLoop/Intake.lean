import DnsPro.EventLoop.Sound

/-!
# Every packet has one owner

A packet of the listener is in its queue, in the hands of `drain_listener`, or owned: by the
one coroutine that was made for it, or by nobody where there was no memory for that.  `Taken`
says so, in the order in which the packets arrived.  Two lemmas carry it: `keeps_of_driven`,
for what the loop does to the frames of its coroutines, and `passes_of_stepped`, for what a
step does to the packets.
-/

namespace DnsPro.EventLoop

open DnsPro.Filter DnsPro.Protocol DnsPro.Readiness DnsPro.Runtime DnsPro.Server DnsPro.Upstream

/-- The packet that was read and is not owned yet. -/
def Point.inHand : Point → List Packet
  | .spawning _ packet => [packet]
  | _ => []

/-- The same coroutines have the same datagrams, and those that were bound are. -/
structure Keeps (worker next : Worker) : Prop where
  received : next.stats.receivedDatagrams = worker.stats.receivedDatagrams
  frame : ∀ task frame, worker.frames task = some frame →
    ∃ frame', next.frames task = some frame' ∧ frame'.datagram = frame.datagram
  owner : ∀ task frame, next.frames task = some frame → worker.frames task ≠ none
  bound : ∀ task, (next.upstream.scheduler.tasks task).bound =
    (worker.upstream.scheduler.tasks task).bound

variable {env : Server.Environment} {stop : Bool} {worker next : Worker}

theorem keeps_of_frames (hframes : next.frames = worker.frames)
    (hstats : next.stats = worker.stats)
    (hbound : ∀ task, (next.upstream.scheduler.tasks task).bound =
      (worker.upstream.scheduler.tasks task).bound) : Keeps worker next where
  received := by rw [hstats]
  frame task frame hframe := ⟨frame, by rw [hframes, hframe], rfl⟩
  owner task frame hframe := by
    rw [← hframes, hframe]
    exact Option.some_ne_none frame
  bound := hbound

theorem keeps_observed (stop : Bool) (worker : Worker) : Keeps worker (observed stop worker) := by
  unfold observed
  split
  · exact keeps_of_frames rfl rfl fun _ => rfl
  · exact keeps_of_frames rfl rfl fun _ => rfl

theorem Keeps.trans {third : Worker} (h : Keeps worker next) (h' : Keeps next third) :
    Keeps worker third where
  received := h'.received.trans h.received
  frame task frame hframe := by
    obtain ⟨middle, hmiddle, hsame⟩ := h.frame task frame hframe
    obtain ⟨last, hlast, hsame'⟩ := h'.frame task middle hmiddle
    exact ⟨last, hlast, hsame'.trans hsame⟩
  owner task frame hframe := by
    obtain ⟨middle, hmiddle⟩ := Option.ne_none_iff_exists'.mp (h'.owner task frame hframe)
    exact h.owner task middle hmiddle
  bound task := (h'.bound task).trans (h.bound task)

theorem keeps_of_actor (h : worker.Inv) {task : TaskId} {label : Worker.Label}
    (hactor : label.actor = some task) (hstep : worker.step env label = some next) :
    Keeps worker next := by
  have hcontained := Worker.step_contained h hstep hactor
  obtain ⟨before, after, hbefore, hnext, -, -, -⟩ := Worker.step_actor h hstep hactor
  refine ⟨hcontained.received, ?_, ?_, hcontained.undisturbed.scheduler.bound⟩
  · intro other frame hframe
    obtain ⟨frame', hframe', hsame, -⟩ := Worker.step_keeps_frame h hstep hframe
    exact ⟨frame', hframe', hsame⟩
  · intro other frame hframe
    by_cases hself : other = task
    · rw [hself, hbefore]
      exact Option.some_ne_none before
    · rw [hnext, Function.update_of_ne hself] at hframe
      rw [hframe]
      exact Option.some_ne_none frame

theorem keeps_of_driven (h : Steady stop worker) {label : Loop.Label}
    (hdriven : Driven env stop worker label next)
    (hspawned : ∀ task allocationFails, label ≠ .spawned task allocationFails) :
    Keeps worker next := by
  cases hdriven with
  | @lost task => exact absurd rfl (hspawned task true)
  | @spawned task => exact absurd rfl (hspawned task false)
  | same | refreshed => exact keeps_of_frames rfl rfl fun _ => rfl
  | observed => exact keeps_observed stop worker
  | upstream _ _ hended | hangup _ _ hended =>
    exact keeps_of_frames rfl rfl hended.undisturbed.scheduler.bound
  | resumed hstep =>
    have hbound := (resume_undisturbed h.inv hstep).scheduler.bound
    cases Worker.step_eq_some.mp hstep with
    | upstream => exact keeps_of_frames rfl rfl hbound
  | acted hbefore hactor hstep =>
    rcases hbefore with rfl | rfl
    · exact keeps_of_actor h.inv hactor hstep
    · exact (keeps_observed stop worker).trans (keeps_of_actor h.observed.inv hactor hstep)

namespace Loop

variable {loop next : Loop} {label : Label}

structure Taken (loop : Loop) : Prop where
  order : loop.listener.arrived =
    loop.owned.map Prod.fst ++ loop.point.inHand ++ loop.listener.queue
  count : loop.worker.stats.receivedDatagrams = loop.owned.length
  tasks : (loop.owned.filterMap Prod.snd).Nodup
  frame : ∀ packet task, (packet, some task) ∈ loop.owned →
    ∃ frame, loop.worker.frames task = some frame ∧ frame.datagram = packet.datagram
  bound : ∀ packet task, (packet, some task) ∈ loop.owned →
    (loop.worker.upstream.scheduler.tasks task).bound = true ∨ loop.stop = true
  owner : ∀ task frame, loop.worker.frames task = some frame →
    ∃ packet, (packet, some task) ∈ loop.owned

/-- No packet changes hands, besides the one that is read. -/
structure Passes (loop next : Loop) : Prop where
  owned : next.owned = loop.owned
  arrived : next.listener.arrived = loop.listener.arrived
  held : next.point.inHand ++ next.listener.queue = loop.point.inHand ++ loop.listener.queue

/-! ## Packets -/

theorem passes_of_idle (hpoint : loop.point.inHand = []) (hnext : next.point.inHand = [])
    (howned : next.owned = loop.owned) (harrived : next.listener.arrived = loop.listener.arrived)
    (hqueue : next.listener.queue = loop.listener.queue) : Passes loop next where
  owned := howned
  arrived := harrived
  held := by rw [hpoint, hnext, hqueue]

theorem passes_goto (hpoint : loop.point.inHand = []) {point : Point} (hnext : point.inHand = [])
    (howned : next.owned = loop.owned) (hlistener : next.listener = loop.listener) :
    Passes loop (next.goto point) :=
  passes_of_idle hpoint hnext howned (congrArg Source.arrived hlistener)
    (congrArg Source.queue hlistener)

theorem upstreamPoint_idle (upstreamPending : Bool) :
    (upstreamPoint upstreamPending).inHand = [] := by
  cases upstreamPending <;> rfl

theorem listenerPoint_idle (listenerPending upstreamPending : Bool) :
    (listenerPoint listenerPending upstreamPending).inHand = [] := by
  cases listenerPending
  · exact upstreamPoint_idle upstreamPending
  · rfl

theorem report_listener (events : List Event) (loop : Loop) :
    (events.foldl report loop).owned = loop.owned ∧
      (events.foldl report loop).listener.arrived = loop.listener.arrived ∧
      (events.foldl report loop).listener.queue = loop.listener.queue := by
  induction events generalizing loop with
  | nil => exact ⟨rfl, rfl, rfl⟩
  | cons event events ih =>
    obtain ⟨howned, harrived, hqueue⟩ := ih (loop.report event)
    rw [List.foldl_cons, howned, harrived, hqueue]
    cases event with
    | listener | wake | generation | upstream => exact ⟨rfl, rfl, rfl⟩

/-- A step of the loop leaves the packets where they were, unless one arrives or is owned. -/
theorem passes_of_stepped (hstepped : Stepped env loop label next)
    (harrives : ∀ packet, label ≠ .arrives packet)
    (hspawned : ∀ task allocationFails, label ≠ .spawned task allocationFails) :
    Passes loop next := by
  have hidle : ∀ {point : Point}, loop.point = point → point.inHand = [] →
      loop.point.inHand = [] := by
    rintro point rfl hpoint
    exact hpoint
  cases hstepped with
  | stopped hpoint =>
    rcases hpoint with hpoint | hpoint
    · exact passes_goto (hidle hpoint rfl) rfl rfl rfl
    · exact passes_goto (hidle hpoint rfl) rfl rfl rfl
  | waiting hpoint | timing hpoint | interrupted hpoint | pollFailed hpoint | dispatched hpoint
  | synchronizing hpoint | stale hpoint | drainEmpty hpoint | drainFailed hpoint | drained hpoint
  | notRunning hpoint | drainedAll hpoint | noError hpoint | errorCleared hpoint
  | errorFailed _ hpoint | hungUp _ hpoint | expired hpoint | readied hpoint | resumed hpoint
  | acted hpoint | ran hpoint | thrown hpoint | broken hpoint | checked hpoint =>
    exact passes_goto (hidle hpoint rfl) rfl rfl rfl
  | @polled now timeout events hpoint =>
    obtain ⟨howned, harrived, hqueue⟩ := report_listener events loop
    exact passes_of_idle (hidle hpoint rfl) rfl howned harrived hqueue
  | @dispatch event events hpoint =>
    cases event with
    | listener | wake | generation | upstream => exact passes_goto (hidle hpoint rfl) rfl rfl rfl
  | upToDate hpoint | refreshed hpoint =>
    exact passes_goto (hidle hpoint rfl) (listenerPoint_idle _ _) rfl rfl
  | receiveEmpty hpoint | receiveFailed hpoint | receivedAll hpoint =>
    exact passes_goto (hidle hpoint rfl) (upstreamPoint_idle _) rfl rfl
  | @received datagrams packet rest _ hpoint _ htaken =>
    -- the packet goes from the queue into the hand
    obtain ⟨hqueue, -, harrived⟩ := Source.take_eq_some htaken
    refine ⟨rfl, harrived, ?_⟩
    rw [hidle hpoint rfl, hqueue]
    rfl
  | @lost _ _ task => exact absurd rfl (hspawned task true)
  | @spawned _ _ task => exact absurd rfl (hspawned task false)
  | arrives packet => exact absurd rfl (harrives packet)
  | receiveInterrupted | drainInterrupted | upstreamArrives | upstreamRaises | stopRequested
  | wakeWritten | refreshRequested => exact ⟨rfl, rfl, rfl⟩

/-! ## Runs -/

/-- What the loop does to the worker leaves every owner its packet. -/
theorem Taken.keeps (h : loop.Taken) (hpasses : Passes loop next)
    (hkeeps : Keeps loop.worker next.worker) (hstop : loop.stop = true → next.stop = true) :
    next.Taken where
  order := by
    rw [hpasses.arrived, hpasses.owned, h.order, List.append_assoc, List.append_assoc,
      hpasses.held]
  count := by rw [hkeeps.received, hpasses.owned, h.count]
  tasks := by
    rw [hpasses.owned]
    exact h.tasks
  frame packet task howned := by
    rw [hpasses.owned] at howned
    obtain ⟨frame, hframe, hdatagram⟩ := h.frame packet task howned
    obtain ⟨frame', hframe', hsame⟩ := hkeeps.frame task frame hframe
    exact ⟨frame', hframe', hsame.trans hdatagram⟩
  bound packet task howned := by
    rw [hpasses.owned] at howned
    rw [hkeeps.bound task]
    exact (h.bound packet task howned).imp id hstop
  owner task frame hframe := by
    obtain ⟨before, hbefore⟩ := Option.ne_none_iff_exists'.mp (hkeeps.owner task frame hframe)
    rw [hpasses.owned]
    exact h.owner task before hbefore

/-- There was no memory for a coroutine. -/
theorem Taken.lost (h : loop.Taken) {datagrams : Nat} {packet : Packet}
    (hpoint : loop.point = .spawning datagrams packet) {stats : WorkerStats}
    (hstats : stats.receivedDatagrams = loop.worker.stats.receivedDatagrams + 1) :
    Taken ({ loop with
      worker := { loop.worker with stats := stats }
      owned := loop.owned ++ [(packet, none)] }.goto (.receiving (datagrams + 1))) where
  order := by
    have horder := h.order
    rw [hpoint] at horder
    simpa [goto, Point.inHand] using horder
  count := by simp [goto, hstats, h.count]
  tasks := by simpa [goto] using h.tasks
  frame other task howned := by
    rcases List.mem_append.mp howned with hold | hnew
    · exact h.frame other task hold
    · simp at hnew
  bound other task howned := by
    rcases List.mem_append.mp howned with hold | hnew
    · exact h.bound other task hold
    · simp at hnew
  owner task frame hframe := by
    obtain ⟨other, hother⟩ := h.owner task frame hframe
    exact ⟨other, List.mem_append_left _ hother⟩

/-- A scheduler that accepts binds the new coroutine. -/
theorem spawn_bound {scheduler : Scheduler} {task : TaskId} (hrunning : scheduler.running = true)
    (haccepting : scheduler.accepting = !scheduler.stopRequested)
    (hstop : scheduler.stopRequested = false) :
    ((scheduler.spawn task).tasks task).bound = true := by
  unfold Scheduler.spawn
  rw [if_neg (by simp [hrunning, haccepting, hstop])]
  refine (Scheduler.schedule_calm _ task).bound task |>.trans ?_
  simp

theorem Taken.spawned (h : loop.Taken) (hsound : loop.Sound) {datagrams : Nat} {packet : Packet}
    (hpoint : loop.point = .spawning datagrams packet) {task : TaskId} {worker : Worker}
    (hstep : (observed loop.stop loop.worker).step env (.receive task packet.datagram) =
      some worker) :
    Taken ({ loop with worker := worker, owned := loop.owned ++ [(packet, some task)] }.goto
      (.receiving (datagrams + 1))) := by
  have hobserved := hsound.steady.observed
  have hkeeps := keeps_observed loop.stop loop.worker
  generalize observed loop.stop loop.worker = before at hstep hobserved hkeeps
  cases Worker.step_eq_some.mp hstep with
  | receive _ hfresh hnone =>
    have hnew : ∀ other, (other, some task) ∉ loop.owned := by
      intro other hother
      obtain ⟨frame, hframe, -⟩ := h.frame other task hother
      obtain ⟨frame', hframe', -⟩ := hkeeps.frame task frame hframe
      rw [hnone] at hframe'
      cases hframe'
    have hspawned := (Scheduler.spawn_same before.upstream.scheduler task).2
    refine ⟨?_, ?_, ?_, ?_, ?_, ?_⟩
    · have horder := h.order
      rw [hpoint] at horder
      simpa [goto, Point.inHand] using horder
    · simp [goto, Worker.receiveDatagram, hkeeps.received, h.count]
    · dsimp only [goto]
      rw [List.filterMap_append, List.nodup_append]
      refine ⟨h.tasks, by simp, ?_⟩
      rintro old hold _ hlast rfl
      obtain rfl : old = task := by simpa using hlast
      obtain ⟨⟨other, owner⟩, hmem, howner⟩ := List.mem_filterMap.mp hold
      obtain rfl : owner = some old := howner
      exact hnew other hmem
    · intro other owner howned
      rcases List.mem_append.mp howned with hold | hlast
      · obtain ⟨frame, hframe, hdatagram⟩ := h.frame other owner hold
        obtain ⟨frame', hframe', hsame⟩ := hkeeps.frame owner frame hframe
        have hne : owner ≠ task := by
          rintro rfl
          exact hnew other hold
        exact ⟨frame', (Function.update_of_ne hne _ _).trans hframe', hsame.trans hdatagram⟩
      · obtain ⟨rfl, rfl⟩ : other = packet ∧ owner = task := by simpa using hlast
        exact ⟨{ datagram := other.datagram }, Function.update_self _ _ _, rfl⟩
    · intro other owner howned
      rcases List.mem_append.mp howned with hold | hlast
      · have hne : owner ≠ task := by
          rintro rfl
          exact hnew other hold
        show ((before.upstream.scheduler.spawn task).tasks owner).bound = true ∨ _
        rw [hspawned owner hne, hkeeps.bound owner]
        exact h.bound other owner hold
      · obtain ⟨rfl, rfl⟩ : other = packet ∧ owner = task := by simpa using hlast
        cases hstop : before.upstream.scheduler.stopRequested with
        | true => exact .inr (hobserved.stopped hstop)
        | false =>
          exact .inl (spawn_bound hobserved.inv.upstream.scheduler.running hobserved.accepting
            hstop)
    · intro owner frame hframe
      by_cases hself : owner = task
      · exact ⟨packet, by simp [goto, hself]⟩
      · have hold : before.frames owner = some frame :=
          (Function.update_of_ne hself _ _).symm.trans hframe
        obtain ⟨old, hframe'⟩ := Option.ne_none_iff_exists'.mp (hkeeps.owner owner frame hold)
        obtain ⟨other, hother⟩ := h.owner owner old hframe'
        exact ⟨other, List.mem_append_left _ hother⟩

theorem Taken.arrives (h : loop.Taken) (packet : Packet) :
    Taken { loop with listener := loop.listener.arrive packet } where
  order := by
    show loop.listener.arrived ++ [packet] = _
    rw [h.order]
    simp [Source.arrive]
  count := h.count
  tasks := h.tasks
  frame := h.frame
  bound := h.bound
  owner := h.owner

theorem taken_step (hsound : loop.Sound) (h : loop.Taken)
    (hstep : loop.step env label = some next) : next.Taken := by
  have hstepped := stepped_of_step hstep
  by_cases hspawned : ∃ task allocationFails, label = .spawned task allocationFails
  · obtain ⟨task, allocationFails, rfl⟩ := hspawned
    cases hstepped with
    | lost hpoint hstats => exact h.lost hpoint hstats
    | spawned hpoint hworker => exact h.spawned hsound hpoint hworker
  by_cases harrives : ∃ packet, label = .arrives packet
  · obtain ⟨packet, rfl⟩ := harrives
    cases hstepped with
    | arrives packet => exact h.arrives packet
  simp only [not_exists] at hspawned harrives
  refine h.keeps (passes_of_stepped hstepped harrives hspawned) ?_ fun hstop => ?_
  · exact keeps_of_driven hsound.steady (driven_of_stepped hsound.steady.inv hstepped) hspawned
  · rcases stop_of_stepped hstepped with hsame | htrue
    · exact hsame.trans hstop
    · exact htrue

/-- Nothing was read before the loop began. -/
theorem taken_initial (env : Server.Environment) (cache : Cache.CacheShard)
    (snapshot : Option DomainBlocklist) (socketFd : Int) (config : ChannelConfig) :
    (initial env cache snapshot socketFd config).Taken where
  order := rfl
  count := rfl
  tasks := List.nodup_nil
  frame _ _ howned := by cases howned
  bound _ _ howned := by cases howned
  owner _ _ hframe := by cases hframe

theorem taken_run {cache : Cache.CacheShard} {snapshot : Option DomainBlocklist}
    {socketFd : Int} {config : ChannelConfig} {labels : List Label}
    (hstarted : Started env socketFd config)
    (hrun : run env cache snapshot socketFd config labels = some loop) : loop.Taken :=
  run_invariant_sound Taken (taken_initial env cache snapshot socketFd config)
    (fun _ _ _ hsound h hstep => taken_step hsound h hstep) hstarted hrun

/-- Every packet has one owner.  In every run of the loop with the network and the other
threads, in every order: the packets that arrived are, in this order, those that were owned,
the one in hand and those in the queue, and `received_datagrams` counts the owned ones.  No
coroutine owns two packets; the one that owns a packet has its bytes and its address, and it
was bound to the scheduler unless a stop was requested.  Every datagram that was sent went to
the address of a packet that the sending coroutine owns, and no packet got two. -/
theorem every_packet_owned_once {cache : Cache.CacheShard} {snapshot : Option DomainBlocklist}
    {socketFd : Int} {config : ChannelConfig} {labels : List Label}
    (hstarted : Started env socketFd config)
    (hrun : run env cache snapshot socketFd config labels = some loop) :
    loop.listener.arrived =
        loop.owned.map Prod.fst ++ loop.point.inHand ++ loop.listener.queue ∧
      loop.worker.stats.receivedDatagrams = loop.owned.length ∧
      (loop.owned.filterMap Prod.snd).Nodup ∧
      (∀ packet task, (packet, some task) ∈ loop.owned →
        (∃ frame, loop.worker.frames task = some frame ∧ frame.datagram = packet.datagram) ∧
          ((loop.worker.upstream.scheduler.tasks task).bound = true ∨ loop.stop = true)) ∧
      (loop.worker.sent.map Sent.task).Nodup ∧
      ∀ entry ∈ loop.worker.sent, ∃ packet, (packet, some entry.task) ∈ loop.owned ∧
        entry.clientAddress = packet.address := by
  have hsound := sound_run hstarted hrun
  have h := taken_run hstarted hrun
  refine ⟨h.order, h.count, h.tasks, ?_, hsound.steady.inv.once, ?_⟩
  · intro packet task howned
    exact ⟨h.frame packet task howned, h.bound packet task howned⟩
  · intro entry hentry
    obtain ⟨frame, hframe, -, haddress, -⟩ := hsound.steady.inv.sent entry hentry
    obtain ⟨packet, howned⟩ := h.owner entry.task frame hframe
    obtain ⟨frame', hframe', hdatagram⟩ := h.frame packet entry.task howned
    obtain rfl := Option.some.inj (hframe.symm.trans hframe')
    refine ⟨packet, howned, ?_⟩
    rw [haddress, hdatagram]
    rfl

/-- A query for a blocked name. -/
def samplePacket : Packet := ⟨Worker.sampleQuery.packet, Worker.sampleQuery.clientAddress⟩

/-- From its arrival to its refusal. -/
def sampleServed : List Label :=
  [.arrives samplePacket, .advance, .timing 20, .polled (.events [.listener]), .advance, .advance,
    .advance, .refreshed none, .received (.datagram false), .spawned 0 false,
    .received .wouldBlock, .socketError 0, .expired 20, .advance, .resumed,
    .acted (.process 0 5 false false (.sent 22)), .acted (.respond 0 (.sent 22))]

theorem packet_owned_when_served : ∃ loop entry,
    run Worker.sampleEnvironment { capacity := 8 } (some Worker.sampleBlocklist) 3
        System.sampleConfig sampleServed = some loop ∧
      loop.worker.sent = [entry] ∧ entry.clientAddress = samplePacket.address := by
  rw [run_sample]
  obtain ⟨loop, entry, hrun, hsent, howned⟩ : ∃ loop entry,
      Transition.run (step Worker.sampleEnvironment) (sampleLoop (some Worker.sampleBlocklist))
          sampleServed = some loop ∧
        loop.worker.sent = [entry] ∧ loop.owned = [(samplePacket, some 0)] :=
    ⟨_, _, rfl, rfl, rfl⟩
  obtain ⟨-, -, -, -, -, hentries⟩ :=
    every_packet_owned_once sample_started ((run_sample _ sampleServed).trans hrun)
  obtain ⟨packet, hpacket, haddress⟩ := hentries entry (by simp [hsent])
  obtain ⟨rfl, -⟩ : packet = samplePacket ∧ entry.task = 0 := by simpa [howned] using hpacket
  exact ⟨loop, entry, hrun, hsent, haddress⟩

end Loop

end DnsPro.EventLoop
