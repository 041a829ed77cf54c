import DnsPro.EventLoop.Wakeups
import DnsPro.WorkerRuntime.Cancellation

/-!
# After the upstream socket hung up

When `epoll_wait` reports `EPOLLHUP` for the upstream socket, the loop fails every query that
is pending, closes the socket and never uses it again.  `Cut` is what every step keeps from
then on: no query is pending and none is sent, nothing is read, and no flag of the loop asks
for the socket.
-/

namespace DnsPro.EventLoop

open DnsPro.Filter DnsPro.Protocol DnsPro.Readiness DnsPro.Runtime DnsPro.Server DnsPro.Upstream
open DnsPro.WorkerRuntime

variable {env : Server.Environment} {stop : Bool} {worker next : Worker}

/-- No query is pending after `fail_all`. -/
theorem failAll_ends (env : Upstream.Environment) {system : System} (h : System.Inv none system)
    {outcome : QueryOutcome} (houtcome : outcome = .cancelled ∨ outcome = .socketError)
    (errorNumber : Int) (query : QueryId) :
    ((system.failAll env outcome errorNumber).2.queries query).state ≠ .pending := by
  suffices hfailed : ∃ next, (system.failAll env outcome errorNumber).2 = next ∧
      System.Inv none next ∧ ∀ id, next.channel.slots id = none by
    obtain ⟨next, heq, hinv, hfree⟩ := hfailed
    rw [heq]
    exact hinv.not_pending (hinv.counted.zero_iff.mpr hfree) query
  unfold System.failAll
  split
  · rename_i hrefused
    have hstopped : system.channel.running = false := by
      rcases hrefused with hstopped | hother
      · exact hstopped
      · exact absurd houtcome (not_or.mpr hother)
    exact ⟨system, rfl, h, h.stopped hstopped⟩
  · have hends : ∀ {next : System},
        Failed system (List.range system.channel.config.transactionIdCapacity) next →
        ∃ last, next = last ∧ System.Inv none last ∧ ∀ id, last.channel.slots id = none :=
      fun hfailed => ⟨_, rfl, hfailed.inv, hfailed.slots_free⟩
    refine hends (failed_foldl ?_ _ [] ⟨h, Unharmed.refl system, rfl, by simp⟩)
    intro done state index hfailed
    split
    · rename_i hslot
      refine ⟨hfailed.inv, hfailed.unharmed, hfailed.config, ?_⟩
      intro other hother
      rcases List.mem_append.mp hother with hother | hother
      · exact hfailed.free other hother
      · rw [List.mem_singleton.mp hother]
        exact hslot
    · rename_i query hslot
      obtain ⟨hpending, hid⟩ := hfailed.inv.slot _ query hslot
      obtain ⟨hinv, hunharmed, hconfig, hslots⟩ :=
        finish_ends env hfailed.inv hpending (.inr (.inr houtcome)) [] errorNumber
      refine ⟨hinv, hfailed.unharmed.trans hunharmed, hconfig.trans hfailed.config, ?_⟩
      intro other hother
      dsimp only
      rw [hslots, hid]
      by_cases heq : UInt16.ofNat other = UInt16.ofNat index
      · rw [heq, Function.update_self]
      · rw [Function.update_of_ne heq]
        rcases List.mem_append.mp hother with hother | hother
        · exact hfailed.free other hother
        · exact absurd (List.mem_singleton.mp hother ▸ rfl) heq

/-- A worker whose socket is gone sends nothing. -/
theorem unsent_of_driven (h : Steady stop worker) (husable : worker.upstreamUsable = false)
    {label : Loop.Label} (hdriven : Driven env stop worker label next) :
    System.Unsent worker.upstream next.upstream := by
  rcases asks_of_driven h hdriven with hunsent | hasks
  · exact hunsent
  · have husable' := hasks.usable
    rw [husable] at husable'
    cases husable'

/-- The socket is not used again. -/
theorem unusable_of_driven (h : Steady stop worker) (husable : worker.upstreamUsable = false)
    {label : Loop.Label} (hdriven : Driven env stop worker label next) :
    next.upstreamUsable = false := by
  have hobserved := (observed_frame stop worker).2.2.trans husable
  cases hdriven with
  | same | refreshed | lost | upstream => exact husable
  | hangup => rfl
  | observed => exact hobserved
  | spawned hstep =>
    cases Worker.step_eq_some.mp hstep with
    | receive => exact hobserved
  | resumed hstep =>
    cases Worker.step_eq_some.mp hstep with
    | upstream => exact husable
  | acted hbefore hactor hstep =>
    rcases hbefore with rfl | rfl
    · exact (Worker.step_contained h.inv hstep hactor).usable.trans husable
    · exact (Worker.step_contained h.observed.inv hstep hactor).usable.trans hobserved

namespace Loop

variable {loop next : Loop} {label : Label}

/-- The socket is closed, and nothing of the loop refers to it. -/
structure Closed (loop : Loop) : Prop where
  queue : loop.upstreamSocket.queue = []
  edge : loop.upstreamSocket.edge = false
  pending : loop.upstreamPending = false
  errorPending : loop.upstreamErrorPending = false
  hangupPending : loop.upstreamHangupPending = false
  reports : loop.point.reports Event.isUpstream = false
  draining : loop.point.isDraining = false

structure Cut (loop : Loop) : Prop where
  closed : loop.worker.upstreamUsable = false → loop.Closed
  ended : loop.worker.upstreamUsable = false →
    ∀ query, (loop.worker.upstream.queries query).state ≠ .pending

/-! ## Steps -/

/-- The socket and its flags are as they were. -/
theorem Closed.same (h : loop.Closed) (hsocket : next.upstreamSocket = loop.upstreamSocket)
    (hpending : next.upstreamPending = loop.upstreamPending)
    (herror : next.upstreamErrorPending = loop.upstreamErrorPending)
    (hhangup : next.upstreamHangupPending = loop.upstreamHangupPending)
    (hreports : next.point.reports Event.isUpstream = false)
    (hdraining : next.point.isDraining = false) : next.Closed where
  queue := hsocket ▸ h.queue
  edge := hsocket ▸ h.edge
  pending := hpending.trans h.pending
  errorPending := herror.trans h.errorPending
  hangupPending := hhangup.trans h.hangupPending
  reports := hreports
  draining := hdraining

theorem Closed.upstreamPoint (h : loop.Closed) :
    Loop.upstreamPoint loop.upstreamPending = .failing := by
  rw [h.pending]
  rfl

/-- The pass goes on behind the socket. -/
theorem Closed.toUpstream (h : loop.Closed) (hsocket : next.upstreamSocket = loop.upstreamSocket)
    (hpending : next.upstreamPending = loop.upstreamPending)
    (herror : next.upstreamErrorPending = loop.upstreamErrorPending)
    (hhangup : next.upstreamHangupPending = loop.upstreamHangupPending) :
    (next.goto (Loop.upstreamPoint loop.upstreamPending)).Closed := by
  rw [h.upstreamPoint]
  exact h.same hsocket hpending herror hhangup rfl rfl

theorem Closed.toListener (h : loop.Closed) (hsocket : next.upstreamSocket = loop.upstreamSocket)
    (hpending : next.upstreamPending = loop.upstreamPending)
    (herror : next.upstreamErrorPending = loop.upstreamErrorPending)
    (hhangup : next.upstreamHangupPending = loop.upstreamHangupPending) :
    (next.goto (listenerPoint loop.listenerPending loop.upstreamPending)).Closed := by
  unfold listenerPoint
  split
  · exact h.same hsocket hpending herror hhangup rfl rfl
  · exact h.toUpstream hsocket hpending herror hhangup

/-- An event of a closed socket is not reported. -/
theorem Closed.polled (h : loop.Closed) {events : List Event} (hready : events.all loop.ready) :
    ((events.foldl report loop).goto (.dispatching events)).Closed := by
  have hnone : events.any Event.isUpstream = false := by
    rw [List.any_eq_false]
    intro event hevent hupstream
    have hedge := List.all_eq_true.mp hready event hevent
    cases event with
    | upstream => exact absurd (hedge.symm.trans h.edge) (by decide)
    | _ => cases hupstream
  obtain ⟨listener, upstream, heq, -, hsame⟩ := reported events loop
  rw [heq, hsame hnone]
  exact h.same rfl rfl rfl rfl hnone rfl

theorem Closed.dispatch (h : loop.Closed) {event : Event} {events : List Event}
    (hpoint : loop.point = .dispatching (event :: events)) :
    ((loop.dispatch event).goto (.dispatching events)).Closed := by
  have hreports := h.reports
  rw [hpoint] at hreports
  obtain ⟨hevent, hevents⟩ := Bool.or_eq_false_iff.mp hreports
  cases event with
  | upstream => cases hevent
  | _ => exact h.same rfl rfl rfl rfl hevents rfl

theorem closed_of_stepped (husable : loop.worker.upstreamUsable = false) (h : loop.Closed)
    (hstepped : Stepped env loop label next) : next.Closed := by
  cases hstepped with
  | stopped | waiting | timing | interrupted | pollFailed | dispatched | synchronizing | stale
  | received | lost | spawned | noError | expired | readied | resumed | acted | ran | thrown
  | broken | checked => exact h.same rfl rfl rfl rfl rfl rfl
  | polled _ hready => exact h.polled hready
  | dispatch hpoint => exact h.dispatch hpoint
  | upToDate | refreshed => exact h.toListener rfl rfl rfl rfl
  | receiveEmpty | receiveFailed | receivedAll => exact h.toUpstream rfl rfl rfl rfl
  | receiveInterrupted | drainInterrupted => exact h
  | drainEmpty hpoint | drainFailed hpoint | drained hpoint | notRunning hpoint
  | drainedAll hpoint =>
    have hdrains := h.draining
    rw [hpoint] at hdrains
    cases hdrains
  | errorCleared | errorFailed => exact ⟨h.queue, h.edge, h.pending, rfl, rfl, rfl, rfl⟩
  | hungUp => exact ⟨rfl, rfl, rfl, rfl, rfl, rfl, rfl⟩
  | arrives | stopRequested | wakeWritten | refreshRequested =>
    exact h.same rfl rfl rfl rfl h.reports h.draining
  | upstreamArrives _ husable' | upstreamRaises husable' =>
    rw [husable] at husable'
    cases husable'

/-- The socket is given up where it hung up, and nowhere else. -/
theorem cut_cases (h : loop.Sound) (hstepped : Stepped env loop label next)
    (husable : next.worker.upstreamUsable = false) :
    loop.worker.upstreamUsable = false ∨
      next.Closed ∧ ∀ query, (next.worker.upstream.queries query).state ≠ .pending := by
  cases hstepped with
  | @polled now timeout events =>
    dsimp only [goto] at husable
    rw [(report_worker events loop).1] at husable
    exact .inl husable
  | @dispatch event events =>
    dsimp only [goto] at husable
    rw [(dispatch_worker loop event).1] at husable
    exact .inl husable
  | spawned _ hstep =>
    rw [← (observed_frame loop.stop loop.worker).2.2]
    cases Worker.step_eq_some.mp hstep with
    | receive => exact .inl husable
  | hungUp socketError =>
    exact .inr ⟨⟨rfl, rfl, rfl, rfl, rfl, rfl, rfl⟩,
      failAll_ends env.upstream h.steady.inv.upstream (.inr rfl) socketError⟩
  | readied =>
    dsimp only [goto] at husable
    rw [(observed_frame loop.stop loop.worker).2.2] at husable
    exact .inl husable
  | resumed _ _ _ hstep =>
    cases Worker.step_eq_some.mp hstep with
    | upstream => exact .inl husable
  | acted _ hbefore hactor hstep =>
    refine .inl ?_
    rcases hbefore with rfl | rfl
    · exact (Worker.step_contained h.steady.inv hstep hactor).usable.symm.trans husable
    · rw [← (observed_frame loop.stop loop.worker).2.2]
      exact (Worker.step_contained h.steady.observed.inv hstep hactor).usable.symm.trans husable
  | _ => exact .inl husable

theorem unsent_of_step (hsound : loop.Sound) (husable : loop.worker.upstreamUsable = false)
    (hstep : loop.step env label = some next) :
    System.Unsent loop.worker.upstream next.worker.upstream ∧
      next.worker.upstreamUsable = false := by
  have hdriven := driven_of_stepped hsound.steady.inv (stepped_of_step hstep)
  exact ⟨unsent_of_driven hsound.steady husable hdriven,
    unusable_of_driven hsound.steady husable hdriven⟩

theorem cut_step (hsound : loop.Sound) (h : loop.Cut) (hstep : loop.step env label = some next) :
    next.Cut := by
  have hstepped := stepped_of_step hstep
  constructor
  · intro husable
    rcases cut_cases hsound hstepped husable with hbefore | ⟨hclosed, -⟩
    · exact closed_of_stepped hbefore (h.closed hbefore) hstepped
    · exact hclosed
  · intro husable query hpending
    rcases cut_cases hsound hstepped husable with hbefore | ⟨-, hended⟩
    · exact h.ended hbefore query ((unsent_of_step hsound hbefore hstep).1.pending query hpending)
    · exact hended query hpending

/-! ## Runs -/

/-- What holds from the hang-up on. -/
structure After (loop later : Loop) : Prop where
  sound : later.Sound
  usable : later.worker.upstreamUsable = false
  sent : later.worker.upstream.channel.stats.queriesSent =
    loop.worker.upstream.channel.stats.queriesSent

/-- The upstream socket is given up for good.  In every run of the loop with the network and
the other threads, in every order: once the socket has hung up, no query is pending, whatever
the loop still had to read is gone, and no flag or event asks for the socket; and in every
continuation of the run this stays so and no further query is sent. -/
theorem upstream_given_up {cache : Cache.CacheShard} {snapshot : Option DomainBlocklist}
    {socketFd : Int} {config : ChannelConfig} {labels : List Label}
    (hstarted : Started env socketFd config)
    (hrun : run env cache snapshot socketFd config labels = some loop)
    (husable : loop.worker.upstreamUsable = false) :
    loop.Closed ∧ (∀ query, (loop.worker.upstream.queries query).state ≠ .pending) ∧
      ∀ later final, Transition.run (step env) loop later = some final →
        final.worker.upstreamUsable = false ∧
          final.worker.upstream.channel.stats.queriesSent =
            loop.worker.upstream.channel.stats.queriesSent ∧
          ∀ query, (final.worker.upstream.queries query).state ≠ .pending := by
  have hsound := sound_run hstarted hrun
  have hcut : ∀ {labels reached}, run env cache snapshot socketFd config labels = some reached →
      reached.Cut := fun hreached =>
    run_invariant_sound Cut
      ⟨fun hunusable => (by cases hunusable), fun hunusable => (by cases hunusable)⟩
      (fun _ _ _ hsound h hstep => cut_step hsound h hstep) hstarted hreached
  refine ⟨(hcut hrun).closed husable, (hcut hrun).ended husable, ?_⟩
  intro later final hlater
  have hafter : After loop final := Transition.run_invariant (After loop)
    (fun before _ _ h hstep =>
      ⟨sound_step h.sound hstep, (unsent_of_step h.sound h.usable hstep).2,
        (unsent_of_step h.sound h.usable hstep).1.queriesSent.trans h.sent⟩)
    ⟨hsound, husable, rfl⟩ hlater
  have hwhole := Transition.run_append.mpr ⟨loop, hrun, hlater⟩
  exact ⟨hafter.usable, hafter.sent, (hcut hwhole).ended hafter.usable⟩

/-- A query is forwarded, and then the upstream socket hangs up. -/
def sampleHangup : List Label :=
  [.arrives ⟨Worker.sampleQuery.packet, Worker.sampleQuery.clientAddress⟩, .advance, .timing 20,
    .polled (.events [.listener]), .advance, .advance, .advance, .refreshed none,
    .received (.datagram false), .spawned 0 false, .received .wouldBlock, .socketError 0,
    .expired 20, .advance, .resumed, .acted (.process 0 5 false false (.sent 22)), .advance,
    .advance, .advance, .upstreamRaises, .timing 20, .polled (.events [.upstream false true]),
    .advance, .advance, .advance, .refreshed none, .received .wouldBlock, .socketError 0]

/-- The query was sent, and it is not pending any more. -/
theorem given_up_when_hung_up : ∃ loop,
    run Worker.sampleEnvironment { capacity := 8 } none 3 System.sampleConfig sampleHangup =
        some loop ∧
      loop.worker.upstream.channel.stats.queriesSent = 1 ∧ loop.Closed ∧
      (loop.worker.upstream.queries 0).state ≠ .pending := by
  rw [run_sample]
  obtain ⟨loop, hrun, husable, hsent⟩ : ∃ loop,
      Transition.run (step Worker.sampleEnvironment) (sampleLoop none) sampleHangup = some loop ∧
        loop.worker.upstreamUsable = false ∧
        loop.worker.upstream.channel.stats.queriesSent = 1 :=
    ⟨_, rfl, rfl, rfl⟩
  obtain ⟨hclosed, hended, -⟩ :=
    upstream_given_up sample_started ((run_sample none sampleHangup).trans hrun) husable
  exact ⟨loop, hrun, hsent, hclosed, hended 0⟩

end Loop

end DnsPro.EventLoop
