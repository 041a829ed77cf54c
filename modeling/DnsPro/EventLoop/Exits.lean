import DnsPro.EventLoop.Sound

/-!
# Why the loop ends

Of the results that the loop can end with, an unhandled exception and a broken runtime
invariant are those that say that the program is wrong.  No exception leaves a coroutine.  The
checks of the scheduler and of the timers never fail, and those of the channel fail only where
parsing an upstream datagram ran out of memory.
-/

namespace DnsPro.EventLoop

open DnsPro.Filter DnsPro.Protocol DnsPro.Readiness DnsPro.Runtime DnsPro.Server DnsPro.Upstream
open DnsPro.Service (WorkerRunResult)

namespace Loop

variable {env : Server.Environment} {loop next : Loop} {label : Label} {result : WorkerRunResult}

/-- Why the loop ends with this result. -/
inductive Explains (loop : Loop) : WorkerRunResult → Prop where
  | stopped (hstop : loop.stop = true) : Explains loop requestedStop
  | pollFailed (errorNumber : Int) : Explains loop (fatalExit .waitForEvents errorNumber)
  | filterStale : Explains loop (fatalExit .synchronizeFilter)
  | outOfMemory (hlog : Upstream.Event.outOfMemory ∈ loop.worker.upstream.log) :
      Explains loop (fatalExit .runtimeInvariant)

theorem Explains.same (h : loop.Explains result) (hstop : loop.stop = true → next.stop = true)
    (hworker : next.worker = loop.worker) : next.Explains result := by
  cases h with
  | stopped hstopped => exact .stopped (hstop hstopped)
  | pollFailed errorNumber => exact .pollFailed errorNumber
  | filterStale => exact .filterStale
  | outOfMemory hlog => exact .outOfMemory (hworker ▸ hlog)

/-- The checks of the scheduler and the timers hold, and so do those of the channel unless
there was no memory. -/
theorem Sound.out_of_memory (h : loop.Sound) {failures : Nat}
    (hpoint : loop.point = .checking failures)
    (hbroken : failures ≠ 0 ∨ loop.runtimeInvariantsHold = false) :
    Upstream.Event.outOfMemory ∈ loop.worker.upstream.log := by
  have hzero : failures = 0 := by
    have hfailures := h.failures
    rw [hpoint] at hfailures
    exact hfailures
  by_contra hlog
  have hchannel := h.steady.inv.upstream.failures hlog
  rcases hbroken with hfailures | hbroken
  · exact hfailures hzero
  · simp [runtimeInvariantsHold, h.steady.scheduler, h.steady.timers, hchannel] at hbroken

theorem explains_step (hsound : loop.Sound)
    (h : ∀ result, loop.point = .exited result → loop.Explains result)
    (hstepped : Stepped env loop label next) (hexited : next.point = .exited result) :
    next.Explains result := by
  cases hstepped with
  | stopped _ hstop =>
    obtain rfl := Point.exited.inj hexited
    exact .stopped hstop
  | pollFailed =>
    obtain rfl := Point.exited.inj hexited
    exact .pollFailed _
  | stale =>
    obtain rfl := Point.exited.inj hexited
    exact .filterStale
  | thrown _ hthrown => exact absurd hsound.exceptions hthrown
  | broken hpoint hbroken =>
    obtain rfl := Point.exited.inj hexited
    exact .outOfMemory (hsound.out_of_memory hpoint hbroken)
  | upToDate | refreshed => exact absurd hexited (listenerPoint_ne rfl _ _)
  | receiveEmpty | receiveFailed | receivedAll => exact absurd hexited (upstreamPoint_ne rfl _)
  | receiveInterrupted | drainInterrupted => exact h result hexited
  | arrives | upstreamArrives | upstreamRaises | wakeWritten | refreshRequested =>
    exact (h result hexited).same id rfl
  | stopRequested => exact (h result hexited).same (fun _ => rfl) rfl
  | _ => cases hexited

/-- In every run of the loop with the network and the other threads, in every order, no
exception of a coroutine is counted, and a loop that ended was stopped by a request, or
`epoll_wait` failed, or the filter could not be refreshed; that a runtime invariant was broken
it finds only where parsing an upstream datagram ran out of memory. -/
theorem exits_explained {cache : Cache.CacheShard} {snapshot : Option DomainBlocklist}
    {socketFd : Int} {config : ChannelConfig} {labels : List Label}
    (hstarted : Started env socketFd config)
    (hrun : run env cache snapshot socketFd config labels = some loop) :
    loop.unhandledRootExceptions = 0 ∧ ∀ result, loop.point = .exited result →
      (result = requestedStop ∧ loop.stop = true) ∨
        (∃ errorNumber, result = fatalExit .waitForEvents errorNumber) ∨
        result = fatalExit .synchronizeFilter ∨
        (result = fatalExit .runtimeInvariant ∧
          Upstream.Event.outOfMemory ∈ loop.worker.upstream.log) := by
  have hexplains := run_invariant_sound
    (fun loop => ∀ result, loop.point = .exited result → loop.Explains result)
    (fun result hfirst => by cases hfirst)
    (fun _ _ _ hsound h hstep _ hexited =>
      explains_step hsound h (stepped_of_step hstep) hexited) hstarted hrun
  refine ⟨(sound_run hstarted hrun).exceptions, fun result hexited => ?_⟩
  cases hexplains result hexited with
  | stopped hstop => exact .inl ⟨rfl, hstop⟩
  | pollFailed errorNumber => exact .inr (.inl ⟨errorNumber, rfl⟩)
  | filterStale => exact .inr (.inr (.inl rfl))
  | outOfMemory hlog => exact .inr (.inr (.inr ⟨rfl, hlog⟩))

/-- A query is forwarded, and there is no memory for parsing its response. -/
def sampleFatal : List Label :=
  [.arrives ⟨Worker.sampleQuery.packet, Worker.sampleQuery.clientAddress⟩, .advance, .timing 20,
    .polled (.events [.listener]), .advance, .advance, .advance, .refreshed none,
    .received (.datagram false), .spawned 0 false, .received .wouldBlock, .socketError 0,
    .expired 20, .advance, .resumed, .acted (.process 0 5 false false (.sent 22)), .advance,
    .advance, .advance, .upstreamArrives [0, 0], .timing 20,
    .polled (.events [.upstream false false]), .advance, .advance, .advance, .refreshed none,
    .received (.datagram true), .received .wouldBlock, .socketError 0, .expired 20, .advance,
    .resumed, .acted (.resume 0 5 false false), .acted (.respond 0 (.sent 22)), .advance, .advance]

theorem exit_explained_when_fatal : ∃ loop,
    run Worker.sampleEnvironment { capacity := 8 } none 3 System.sampleConfig sampleFatal =
        some loop ∧
      loop.point = .exited (fatalExit .runtimeInvariant) ∧ loop.unhandledRootExceptions = 0 ∧
      Upstream.Event.outOfMemory ∈ loop.worker.upstream.log := by
  rw [run_sample]
  obtain ⟨loop, hrun, hexited⟩ : ∃ loop,
      Transition.run (step Worker.sampleEnvironment) (sampleLoop none) sampleFatal = some loop ∧
        loop.point = .exited (fatalExit .runtimeInvariant) := ⟨_, rfl, rfl⟩
  obtain ⟨hexceptions, hexplained⟩ :=
    exits_explained sample_started ((run_sample none sampleFatal).trans hrun)
  refine ⟨loop, hrun, hexited, hexceptions, ?_⟩
  rcases hexplained _ hexited with
    ⟨hstopped, -⟩ | ⟨errorNumber, hfailed⟩ | hstale | ⟨-, hlog⟩
  · exact absurd hstopped (by decide)
  · cases hfailed
  · exact absurd hstale (by decide)
  · exact hlog

end Loop

end DnsPro.EventLoop
