import DnsPro.EventLoop.Sound

/-!
# No wake-up is lost

The two sockets are watched edge-triggered: an edge is reported once, and the loop has to
remember it over the passes that its budgets cut the reading into.  The two counters are
watched level-triggered and are read before the loop looks at what they stand for.

`Alert` is what every step keeps: what a socket holds is announced by its edge, by the flag
of the loop, or by an event that is still to be dispatched; a request to refresh the filter
that was not met is counted or noted; and while the loop is on its way into `epoll_wait`, a
stop is counted or about to be.  A stop that the loop sees while it reads makes it forget the
listener, but then it does not wait again.
-/

namespace DnsPro.EventLoop

open DnsPro.Filter DnsPro.Protocol DnsPro.Readiness DnsPro.Runtime DnsPro.Server DnsPro.Upstream

def Event.isListener : Event → Bool
  | .listener => true
  | _ => false

def Event.isUpstream : Event → Bool
  | .upstream _ _ => true
  | _ => false

namespace Point

/-- An event of the kind is still to be dispatched. -/
def reports (kind : Event → Bool) : Point → Bool
  | .dispatching events => events.any kind
  | _ => false

/-- The loop is in `drain_listener`. -/
def reading : Point → Bool
  | .receiving _ => true
  | .spawning _ _ => true
  | _ => false

/-- The loop is in `UpstreamChannel::drain`. -/
def isDraining : Point → Bool
  | .draining _ => true
  | _ => false

/-- The loop has looked at the stop token and goes into `epoll_wait`. -/
def waiting : Point → Bool
  | .timing => true
  | .polling _ _ => true
  | _ => false

def quiet (point : Point) : Bool := !point.reading && !point.isDraining && !point.waiting

/-- The events of a poll are dispatched, or the filter is about to be refreshed. -/
def collects : Point → Bool
  | .dispatching _ => true
  | .synchronizing => true
  | .refreshing => true
  | _ => false

end Point

namespace Loop

/-- The loop remembers that there may be packets. -/
def listenerNoted (loop : Loop) : Bool :=
  loop.listenerPending || loop.listenerFaulted || loop.point.reports Event.isListener

def upstreamNoted (loop : Loop) : Bool :=
  loop.upstreamPending || loop.upstreamFaulted || loop.point.reports Event.isUpstream

structure Alert (loop : Loop) : Prop where
  listener : loop.stop = false ∨ loop.point.waiting = true →
    loop.listener.Announced loop.listenerNoted
  upstream : loop.upstreamSocket.Announced loop.upstreamNoted
  refresh : loop.point.ended = false → loop.generation.Heard loop.generationPending
  collected : loop.generationPending = true → loop.point.collects = true ∨ loop.point.ended = true
  reading : loop.point.reading = true → loop.listenerPending = true
  draining : loop.point.isDraining = true → loop.upstreamPending = true
  stop : loop.point.waiting = true → loop.stop = true → 0 < loop.wake ∨ 0 < loop.stoppers
  timeout : ∀ now timeout, loop.point = .polling now timeout →
    loop.worker.upstream.timers.pollTimeout loop.listenerPending loop.upstreamPending
      (decide (loop.worker.upstream.scheduler.ready ≠ [])) now = some timeout

variable {env : Server.Environment} {loop next : Loop} {label : Label}

theorem reports_false {kind : Event → Bool} {point : Point}
    (hpoint : ∀ events, point ≠ .dispatching events) : ¬ point.reports kind = true := by
  unfold Point.reports
  split
  · rename_i events
    exact absurd rfl (hpoint events)
  · decide

theorem Alert.listener_noted (h : loop.Alert) (hpoint : ∀ events, loop.point ≠ .dispatching events)
    (hstop : loop.stop = false ∨ loop.point.waiting = true) :
    loop.listener.Announced (loop.listenerPending || loop.listenerFaulted) := by
  refine (h.listener hstop).mono fun hnoted => ?_
  unfold listenerNoted at hnoted
  rw [Bool.or_eq_true] at hnoted
  exact hnoted.resolve_right (reports_false hpoint)

theorem Alert.upstream_noted (h : loop.Alert)
    (hpoint : ∀ events, loop.point ≠ .dispatching events) :
    loop.upstreamSocket.Announced (loop.upstreamPending || loop.upstreamFaulted) := by
  refine h.upstream.mono fun hnoted => ?_
  unfold upstreamNoted at hnoted
  rw [Bool.or_eq_true] at hnoted
  exact hnoted.resolve_right (reports_false hpoint)

/-- What a loop remembers that has refreshed its filter since the last poll. -/
structure Noted (loop : Loop) : Prop where
  listener : loop.stop = false →
    loop.listener.Announced (loop.listenerPending || loop.listenerFaulted)
  upstream : loop.upstreamSocket.Announced (loop.upstreamPending || loop.upstreamFaulted)
  refresh : loop.generation.Heard loop.generationPending
  settled : loop.generationPending = false

theorem Alert.noted (h : loop.Alert) (hcollects : loop.point.collects = false)
    (hended : loop.point.ended = false) : loop.Noted := by
  have hpoint : ∀ events, loop.point ≠ .dispatching events := by
    intro events hpoint
    rw [hpoint] at hcollects
    cases hcollects
  refine ⟨fun hstop => h.listener_noted hpoint (.inl hstop), h.upstream_noted hpoint,
    h.refresh hended, ?_⟩
  by_contra hpending
  rcases h.collected (by simpa using hpending) with hcollected | hfinal
  · rw [hcollects] at hcollected
    cases hcollected
  · rw [hended] at hfinal
    cases hfinal

/-- The loop may be at any point that its flags allow. -/
theorem Noted.alert (h : loop.Noted) (hwaiting : loop.point.waiting = false)
    (hreading : loop.point.reading = true → loop.listenerPending = true)
    (hdraining : loop.point.isDraining = true → loop.upstreamPending = true) : loop.Alert where
  listener hcases := by
    rw [hwaiting] at hcases
    have hstop := hcases.resolve_right Bool.false_ne_true
    exact (h.listener hstop).mono fun hnoted => Bool.or_eq_true_iff.mpr (.inl hnoted)
  upstream := h.upstream.mono fun hnoted => Bool.or_eq_true_iff.mpr (.inl hnoted)
  refresh _ := h.refresh
  collected hpending := by
    rw [h.settled] at hpending
    cases hpending
  reading := hreading
  draining := hdraining
  stop := by
    rw [hwaiting]
    exact fun hwaits => absurd hwaits (by decide)
  timeout := by
    intro now timeout hpolling
    rw [hpolling] at hwaiting
    cases hwaiting

theorem Noted.quiet (h : loop.Noted) (hquiet : loop.point.quiet = true) : loop.Alert := by
  unfold Point.quiet at hquiet
  simp only [Bool.and_eq_true, Bool.not_eq_true'] at hquiet
  obtain ⟨⟨hreading, hdraining⟩, hwaiting⟩ := hquiet
  refine h.alert hwaiting ?_ ?_
  · rw [hreading]
    exact fun hreads => absurd hreads (by decide)
  · rw [hdraining]
    exact fun hdrains => absurd hdrains (by decide)

theorem Noted.toUpstream (h : loop.Noted) :
    (loop.goto (upstreamPoint loop.upstreamPending)).Alert := by
  unfold upstreamPoint
  by_cases hpending : loop.upstreamPending = true
  · rw [if_pos hpending]
    exact Noted.alert ⟨h.listener, h.upstream, h.refresh, h.settled⟩ rfl
      (fun hreads => by cases hreads) fun _ => hpending
  · rw [if_neg hpending]
    exact Noted.quiet ⟨h.listener, h.upstream, h.refresh, h.settled⟩ rfl

theorem Noted.toListener (h : loop.Noted) :
    (loop.goto (listenerPoint loop.listenerPending loop.upstreamPending)).Alert := by
  unfold listenerPoint
  by_cases hpending : loop.listenerPending = true
  · rw [if_pos hpending]
    exact Noted.alert ⟨h.listener, h.upstream, h.refresh, h.settled⟩ rfl (fun _ => hpending)
      fun hdrains => by cases hdrains
  · rw [if_neg hpending]
    exact h.toUpstream

/-- `next` has the token, the sockets, the counter for refreshes and their notes as they
were. -/
structure SameNotes (loop next : Loop) : Prop where
  stop : next.stop = loop.stop := by rfl
  listener : next.listener = loop.listener := by rfl
  listenerPending : next.listenerPending = loop.listenerPending := by rfl
  listenerFaulted : next.listenerFaulted = loop.listenerFaulted := by rfl
  upstreamSocket : next.upstreamSocket = loop.upstreamSocket := by rfl
  upstreamPending : next.upstreamPending = loop.upstreamPending := by rfl
  upstreamFaulted : next.upstreamFaulted = loop.upstreamFaulted := by rfl
  generation : next.generation = loop.generation := by rfl
  generationPending : next.generationPending = loop.generationPending := by rfl

theorem Noted.same (h : loop.Noted) (hsame : SameNotes loop next) : next.Noted where
  listener := by
    rw [hsame.stop, hsame.listener, hsame.listenerPending, hsame.listenerFaulted]
    exact h.listener
  upstream := by
    rw [hsame.upstreamSocket, hsame.upstreamPending, hsame.upstreamFaulted]
    exact h.upstream
  refresh := by
    rw [hsame.generation, hsame.generationPending]
    exact h.refresh
  settled := hsame.generationPending.trans h.settled

/-! ## The other parties -/

theorem Alert.arrives (h : loop.Alert) (packet : Packet) :
    Alert { loop with listener := loop.listener.arrive packet } where
  listener _ := Source.announced_arrive _ _ _
  upstream := h.upstream
  refresh := h.refresh
  collected := h.collected
  reading := h.reading
  draining := h.draining
  stop := h.stop
  timeout := h.timeout

theorem Alert.setUpstreamSocket (h : loop.Alert) {source : Source Bytes}
    (hsource : ∀ noted, source.Announced noted) :
    Alert { loop with upstreamSocket := source } where
  listener := h.listener
  upstream := hsource _
  refresh := h.refresh
  collected := h.collected
  reading := h.reading
  draining := h.draining
  stop := h.stop
  timeout := h.timeout

theorem counterLimit_pos : 0 < counterLimit := by decide

theorem Alert.stopRequested (h : loop.Alert) :
    Alert { loop with stop := true, stoppers := loop.stoppers + 1 } where
  listener hcases := h.listener (.inr (hcases.resolve_left fun hstop => by cases hstop))
  upstream := h.upstream
  refresh := h.refresh
  collected := h.collected
  reading := h.reading
  draining := h.draining
  stop _ _ := .inr (Nat.succ_pos _)
  timeout := h.timeout

theorem Alert.wakeWritten (h : loop.Alert) :
    Alert { loop with stoppers := loop.stoppers - 1, wake := ring counterLimit loop.wake } where
  listener := h.listener
  upstream := h.upstream
  refresh := h.refresh
  collected := h.collected
  reading := h.reading
  draining := h.draining
  stop _ _ := .inl (ring_pos counterLimit_pos _)
  timeout := h.timeout

theorem Alert.refreshRequested (h : loop.Alert) :
    Alert { loop with generation := loop.generation.request counterLimit } where
  listener := h.listener
  upstream := h.upstream
  refresh hended := (h.refresh hended).request counterLimit_pos
  collected := h.collected
  reading := h.reading
  draining := h.draining
  stop := h.stop
  timeout := h.timeout

/-! ## Polling -/

/-- The token is looked at before the loop waits, so a stop comes with a signal from then
on. -/
theorem Noted.waiting (h : loop.Noted) (hstop : loop.stop = false) : Alert (loop.goto .timing) where
  listener _ := (h.listener hstop).mono fun hlistener => Bool.or_eq_true_iff.mpr (.inl hlistener)
  upstream := h.upstream.mono fun hupstream => Bool.or_eq_true_iff.mpr (.inl hupstream)
  refresh _ := h.refresh
  collected hpending := absurd (h.settled.symm.trans hpending) (by decide)
  reading hreads := by cases hreads
  draining hdrains := by cases hdrains
  stop _ hstopped := absurd (hstop.symm.trans hstopped) (by decide)
  timeout now timeout hpolling := by cases hpolling

theorem Alert.timing (h : loop.Alert) (hpoint : loop.point = .timing) {now : TimePoint}
    {timeout : Int}
    (htimeout : loop.worker.upstream.timers.pollTimeout loop.listenerPending loop.upstreamPending
      (decide (loop.worker.upstream.scheduler.ready ≠ [])) now = some timeout) :
    Alert (loop.goto (.polling now timeout)) := by
  have hnoted := h.noted (by rw [hpoint]; rfl) (by rw [hpoint]; rfl)
  exact {
    listener := fun _ =>
      (h.listener_noted (by simp [hpoint]) (.inr (by rw [hpoint]; rfl))).mono
        fun hlistener => Bool.or_eq_true_iff.mpr (.inl hlistener)
    upstream := hnoted.upstream.mono fun hupstream => Bool.or_eq_true_iff.mpr (.inl hupstream)
    refresh := fun _ => hnoted.refresh
    collected := fun hpending => absurd (hnoted.settled.symm.trans hpending) (by decide)
    reading := fun hreads => by cases hreads
    draining := fun hdrains => by cases hdrains
    stop := fun _ => h.stop (by rw [hpoint]; rfl)
    timeout := by
      intro now' timeout' hpolling
      obtain ⟨rfl, rfl⟩ := Point.polling.inj hpolling
      exact htimeout }

/-- What the reports of `epoll_wait` change. -/
theorem reported (events : List Event) (loop : Loop) :
    ∃ listener upstream, events.foldl report loop =
        { loop with listener := listener, upstreamSocket := upstream } ∧
      (events.any Event.isListener = false → listener = loop.listener) ∧
      (events.any Event.isUpstream = false → upstream = loop.upstreamSocket) := by
  induction events generalizing loop with
  | nil => exact ⟨_, _, rfl, fun _ => rfl, fun _ => rfl⟩
  | cons event events ih =>
    obtain ⟨listener, upstream, heq, hlistener, hupstream⟩ := ih (loop.report event)
    rw [List.foldl_cons, heq]
    refine ⟨listener, upstream, ?_, ?_, ?_⟩
    · cases event <;> rfl
    · intro hnone
      rw [List.any_cons, Bool.or_eq_false_iff] at hnone
      rw [hlistener hnone.2]
      cases event with
      | listener => cases hnone.1
      | _ => rfl
    · intro hnone
      rw [List.any_cons, Bool.or_eq_false_iff] at hnone
      rw [hupstream hnone.2]
      cases event with
      | upstream => cases hnone.1
      | _ => rfl

/-- A lowered edge is made up for by the event. -/
theorem announced_reported {α : Type} {source reported : Source α} {noted found : Bool}
    (h : source.Announced noted) (hsame : found = false → reported = source) :
    reported.Announced (noted || found) := by
  cases found with
  | true =>
    rw [Bool.or_true]
    exact reported.announced_noted
  | false =>
    rw [hsame rfl, Bool.or_false]
    exact h

theorem Alert.polled (h : loop.Alert) {now : TimePoint} {timeout : Int}
    (hpoint : loop.point = .polling now timeout) (events : List Event) :
    Alert ((events.foldl report loop).goto (.dispatching events)) := by
  obtain ⟨listener, upstream, heq, hlistener, hupstream⟩ := reported events loop
  have hnoted := h.noted (by rw [hpoint]; rfl) (by rw [hpoint]; rfl)
  rw [heq]
  exact {
    listener := fun hcases => announced_reported
      (hnoted.listener (hcases.resolve_right fun hwaits => by cases hwaits)) hlistener
    upstream := announced_reported hnoted.upstream hupstream
    refresh := fun _ => hnoted.refresh
    collected := fun hpending => absurd (hnoted.settled.symm.trans hpending) (by decide)
    reading := fun hreads => by cases hreads
    draining := fun hdrains => by cases hdrains
    stop := fun hwaits => by cases hwaits
    timeout := fun now timeout hpolling => by cases hpolling }

theorem Alert.dispatch (h : loop.Alert) {event : Event} {events : List Event}
    (hpoint : loop.point = .dispatching (event :: events)) :
    Alert ((loop.dispatch event).goto (.dispatching events)) := by
  have hlistener := fun hstop => h.listener (.inl hstop)
  have hupstream := h.upstream
  have hrefresh := h.refresh (by rw [hpoint]; rfl)
  unfold listenerNoted at hlistener
  unfold upstreamNoted at hupstream
  rw [hpoint] at hlistener hupstream
  simp only [Point.reports, List.any_cons] at hlistener hupstream
  refine ⟨?_, ?_, ?_, fun _ => .inl rfl, fun hreads => (by cases hreads),
    fun hdrains => (by cases hdrains),
    fun hwaits => (by cases hwaits), fun now timeout hpolling => (by cases hpolling)⟩
  · intro hcases
    have hstop := hcases.resolve_right fun hwaits => by cases hwaits
    cases event with
    | listener => exact Source.announced_noted _
    | _ => exact hlistener hstop
  · cases event with
    | upstream => exact Source.announced_noted _
    | _ => exact hupstream
  · intro _
    cases event with
    | generation => exact hrefresh.silence
    | _ => exact hrefresh

theorem Alert.dispatched (h : loop.Alert) (hpoint : loop.point = .dispatching []) :
    Alert (loop.goto .synchronizing) := by
  have hlistener := fun hstop => h.listener (.inl hstop)
  have hupstream := h.upstream
  unfold listenerNoted at hlistener
  unfold upstreamNoted at hupstream
  rw [hpoint] at hlistener hupstream
  exact {
    listener := fun hcases => hlistener (hcases.resolve_right fun hwaits => by cases hwaits)
    upstream := hupstream
    refresh := fun _ => h.refresh (by rw [hpoint]; rfl)
    collected := fun _ => .inl rfl
    reading := fun hreads => by cases hreads
    draining := fun hdrains => by cases hdrains
    stop := fun hwaits => by cases hwaits
    timeout := fun now timeout hpolling => by cases hpolling }

/-! ## The rest of a pass -/

/-- The token is looked at once more, and the filter refreshed, with the note still there. -/
theorem Alert.goto_quiet (h : loop.Alert) (hdispatched : ∀ events, loop.point ≠ .dispatching events)
    (hended : loop.point.ended = false) {point : Point} (hquiet : point.quiet = true)
    (hcollected : point.collects = true ∨ point.ended = true) : Alert (loop.goto point) := by
  unfold Point.quiet at hquiet
  simp only [Bool.and_eq_true, Bool.not_eq_true'] at hquiet
  obtain ⟨⟨hreading, hdraining⟩, hwaiting⟩ := hquiet
  exact {
    listener := fun hcases => by
      have hstop := hcases.resolve_right fun hwaits =>
        absurd (hwaiting.symm.trans hwaits) Bool.false_ne_true
      exact (h.listener_noted hdispatched (.inl hstop)).mono
        fun hlistener => Bool.or_eq_true_iff.mpr (.inl hlistener)
    upstream := (h.upstream_noted hdispatched).mono
      fun hupstream => Bool.or_eq_true_iff.mpr (.inl hupstream)
    refresh := fun _ => h.refresh hended
    collected := fun _ => hcollected
    reading := fun hreads => absurd (hreading.symm.trans hreads) (by decide)
    draining := fun hdrains => absurd (hdraining.symm.trans hdrains) (by decide)
    stop := fun hwaits => absurd (hwaiting.symm.trans hwaits) (by decide)
    timeout := by
      intro now timeout hpolling
      rw [show point = .polling now timeout from hpolling] at hwaiting
      cases hwaiting }

/-- The note is dropped without an answer, and the loop ends. -/
theorem Alert.stale (h : loop.Alert) (hpoint : loop.point = .refreshing)
    {result : DnsPro.Service.WorkerRunResult} :
    Alert ({ loop with generationPending := false }.goto (.exited result)) where
  listener hcases := by
    have hstop := hcases.resolve_right fun hwaits => by cases hwaits
    exact (h.listener_noted (by simp [hpoint]) (.inl hstop)).mono
      fun hnoted => Bool.or_eq_true_iff.mpr (.inl hnoted)
  upstream := (h.upstream_noted (by simp [hpoint])).mono
    fun hnoted => Bool.or_eq_true_iff.mpr (.inl hnoted)
  refresh hended := by cases hended
  collected hpending := by cases hpending
  reading hreads := by cases hreads
  draining hdrains := by cases hdrains
  stop hwaits := by cases hwaits
  timeout now timeout hpolling := by cases hpolling

/-! ## Runs -/

theorem alert_step (h : loop.Alert) (hrunning : loop.worker.upstream.channel.running = true)
    (hstep : loop.step env label = some next) : next.Alert := by
  have hnoted : ∀ {point : Point}, loop.point = point → point.collects = false →
      point.ended = false → loop.Noted := by
    rintro point rfl hcollects hended
    exact h.noted hcollects hended
  cases stepped_of_step hstep with
  | stopped hpoint =>
    rcases hpoint with htop | hsynchronizing
    · exact Noted.quiet ((hnoted htop rfl rfl).same {}) rfl
    · exact h.goto_quiet (by simp [hsynchronizing]) (by rw [hsynchronizing]; rfl) rfl (.inr rfl)
  | waiting hpoint hstop => exact (hnoted hpoint rfl rfl).waiting hstop
  | timing hpoint htimeout => exact h.timing hpoint htimeout
  | interrupted hpoint | pollFailed hpoint | noError hpoint | errorCleared hpoint
  | errorFailed _ hpoint | expired hpoint | readied hpoint | resumed hpoint | acted hpoint
  | ran hpoint | thrown hpoint | broken hpoint | checked hpoint =>
    exact Noted.quiet ((hnoted hpoint rfl rfl).same {}) rfl
  | polled hpoint => exact h.polled hpoint _
  | dispatch hpoint => exact h.dispatch hpoint
  | dispatched hpoint => exact h.dispatched hpoint
  | synchronizing hpoint =>
    exact h.goto_quiet (by simp [hpoint]) (by rw [hpoint]; rfl) rfl (.inl rfl)
  | upToDate hpoint hsettled =>
    exact Noted.toListener ⟨fun hstop => h.listener_noted (by simp [hpoint]) (.inl hstop),
      h.upstream_noted (by simp [hpoint]), h.refresh (by rw [hpoint]; rfl), hsettled⟩
  | stale hpoint => exact h.stale hpoint
  | refreshed hpoint =>
    exact Noted.toListener ⟨fun hstop => h.listener_noted (by simp [hpoint]) (.inl hstop),
      h.upstream_noted (by simp [hpoint]), Bell.heard_answer _ _, rfl⟩
  | receiveInterrupted | drainInterrupted => exact h
  | receiveEmpty hpoint _ hempty =>
    have hn := hnoted hpoint rfl rfl
    exact Noted.toUpstream ⟨fun _ => Source.announced_empty hempty _, hn.upstream, hn.refresh,
      hn.settled⟩
  | receiveFailed hpoint =>
    have hn := hnoted hpoint rfl rfl
    exact Noted.toUpstream ⟨fun _ => Source.announced_noted _, hn.upstream, hn.refresh, hn.settled⟩
  | received hpoint =>
    -- a packet is read while the flag stands
    have hn := hnoted hpoint rfl rfl
    have hpending := h.reading (by rw [hpoint]; rfl)
    refine Noted.alert ⟨fun _ => ?_, hn.upstream, hn.refresh, hn.settled⟩ rfl (fun _ => hpending)
      fun hdrains => by cases hdrains
    dsimp only [goto]
    rw [hpending]
    exact Source.announced_noted _
  | receivedAll hpoint =>
    have hn := hnoted hpoint rfl rfl
    refine Noted.toUpstream ⟨fun hstop => ?_, hn.upstream, hn.refresh, hn.settled⟩
    rw [show loop.stop = false from hstop]
    exact Source.announced_noted _
  | lost hpoint | spawned hpoint =>
    exact Noted.alert ((hnoted hpoint rfl rfl).same {}) rfl
      (fun _ => h.reading (by rw [hpoint]; rfl)) fun hdrains => by cases hdrains
  | drainEmpty hpoint hempty =>
    have hn := hnoted hpoint rfl rfl
    exact Noted.quiet ⟨hn.listener, Source.announced_empty hempty _, hn.refresh, hn.settled⟩ rfl
  | drainFailed hpoint | drainedAll hpoint =>
    have hn := hnoted hpoint rfl rfl
    refine Noted.quiet ⟨hn.listener, ?_, hn.refresh, hn.settled⟩ rfl
    exact Source.announced_noted _
  | drained hpoint =>
    have hn := hnoted hpoint rfl rfl
    have hpending := h.draining (by rw [hpoint]; rfl)
    refine Noted.alert ⟨hn.listener, ?_, hn.refresh, hn.settled⟩ rfl (fun hreads => by cases hreads)
      fun _ => hpending
    dsimp only [goto, setUpstream]
    rw [hpending]
    exact Source.announced_noted _
  | notRunning hpoint hnot =>
    rw [hrunning] at hnot
    cases hnot
  | hungUp _ hpoint =>
    have hn := hnoted hpoint rfl rfl
    exact Noted.quiet ⟨hn.listener, Source.announced_close _ _, hn.refresh, hn.settled⟩ rfl
  | arrives packet => exact h.arrives packet
  | upstreamArrives payload => exact h.setUpstreamSocket (Source.announced_arrive _ _)
  | upstreamRaises => exact h.setUpstreamSocket (Source.announced_raise _)
  | stopRequested => exact h.stopRequested
  | wakeWritten => exact h.wakeWritten
  | refreshRequested => exact h.refreshRequested

theorem alert_initial (cache : Cache.CacheShard) (snapshot : Option DomainBlocklist)
    (socketFd : Int) (config : ChannelConfig) :
    (initial env cache snapshot socketFd config).Alert where
  listener _ := Source.announced_empty rfl _
  upstream := Source.announced_empty rfl _
  refresh _ := ⟨Nat.le_refl _, fun hless => absurd hless (Nat.lt_irrefl _)⟩
  collected hpending := by cases hpending
  reading hreads := by cases hreads
  draining hdrains := by cases hdrains
  stop hwaits := by cases hwaits
  timeout _ _ hpolling := by cases hpolling

/-- The loop is inside `epoll_wait` and no event can be reported. -/
structure Blocked (loop : Loop) (now : TimePoint) (timeout : Int) : Prop where
  point : loop.point = .polling now timeout
  timeout : timeout ≠ 0
  listener : loop.listener.edge = false
  upstream : loop.upstreamSocket.edge = false
  wake : loop.wake = 0
  generation : loop.generation.count = 0

/-- What a poll that is not a mere look means: nothing was pending, and no timer was due. -/
theorem idle_of_pollTimeout {ν : Type} [DecidableEq ν] {timers : TimerQueue ν}
    (hok : timers.Ok) (hsorted : timers.Sorted) {listenerPending upstreamPending hasReady : Bool}
    {now : TimePoint} {timeout : Int}
    (h : timers.pollTimeout listenerPending upstreamPending hasReady now = some timeout)
    (htimeout : timeout ≠ 0) :
    listenerPending = false ∧ upstreamPending = false ∧ hasReady = false ∧
      ∀ deadline ∈ timers.deadlines, now < deadline := by
  unfold TimerQueue.pollTimeout at h
  split at h
  · exact absurd (Option.some.inj h).symm htimeout
  rename_i hidle
  simp only [Bool.or_eq_true, not_or, Bool.not_eq_true] at hidle
  obtain ⟨⟨hlistener, hupstream⟩, hready⟩ := hidle
  refine ⟨hlistener, hupstream, hready, ?_⟩
  rintro deadline ⟨node, harmed, rfl⟩
  have hnode := (hok.owner_iff node).mp harmed
  obtain ⟨front, hfront⟩ : ∃ front, timers.heap.nodes.head? = some front :=
    Option.ne_none_iff_exists'.mp
      (mt List.head?_eq_none_iff.mp (List.ne_nil_of_mem hnode))
  have hleast := (hsorted.deadline_least hok hfront).2 ⟨node, harmed, rfl⟩
  refine Int.lt_of_lt_of_le ?_ hleast
  by_contra hdue
  unfold TimerQueue.waitTimeout at h
  rw [hfront] at h
  dsimp only at h
  rw [if_pos (not_lt.mp hdue)] at h
  exact htimeout (Option.some.inj h).symm

theorem alert_run {cache : Cache.CacheShard} {snapshot : Option DomainBlocklist}
    {socketFd : Int} {config : ChannelConfig} {labels : List Label}
    (hstarted : Started env socketFd config)
    (hrun : run env cache snapshot socketFd config labels = some loop) : loop.Alert :=
  run_invariant_sound Alert (alert_initial cache snapshot socketFd config)
    (fun _ _ _ hsound h hstep => alert_step h hsound.steady.running hstep) hstarted hrun

/-- A loop that is blocked remembers nothing, and has nothing to do before the first deadline. -/
theorem Blocked.idle {now : TimePoint} {timeout : Int} (h : loop.Blocked now timeout)
    (hsound : loop.Sound) (halert : loop.Alert) :
    loop.listenerPending = false ∧ loop.upstreamPending = false ∧
      loop.worker.upstream.scheduler.ready = [] ∧
      ∀ deadline ∈ loop.worker.upstream.timers.deadlines, now < deadline := by
  obtain ⟨hlistener, hupstream, hready, hdeadlines⟩ :=
    idle_of_pollTimeout hsound.steady.inv.upstream.timers hsound.steady.sorted
      (halert.timeout now timeout h.point) h.timeout
  exact ⟨hlistener, hupstream, by simpa using hready, hdeadlines⟩

/-- No wake-up is lost.  In every run of the loop with the network and with the threads that
stop it or ask it to refresh its filter, in every order, whenever the loop is blocked in
`epoll_wait`: no coroutine is ready and no armed timer was due; every request to refresh the
filter was met; after a stop, a thread is still about to write to the counter that wakes the
loop; and neither the listener nor the upstream socket has a packet, unless the last `recvmsg`
on it failed. -/
theorem no_lost_wakeup {cache : Cache.CacheShard} {snapshot : Option DomainBlocklist}
    {socketFd : Int} {config : ChannelConfig} {labels : List Label}
    (hstarted : Started env socketFd config)
    (hrun : run env cache snapshot socketFd config labels = some loop) {now : TimePoint}
    {timeout : Int} (hblocked : loop.Blocked now timeout) :
    loop.worker.upstream.scheduler.ready = [] ∧
      (∀ deadline ∈ loop.worker.upstream.timers.deadlines, now < deadline) ∧
      loop.generation.met = loop.generation.made ∧
      (loop.stop = true → 0 < loop.stoppers) ∧
      (loop.listenerFaulted = false → loop.listener.queue = []) ∧
      (loop.upstreamFaulted = false → loop.upstreamSocket.queue = []) := by
  have hsound := sound_run hstarted hrun
  have halert := alert_run hstarted hrun
  have hnoted := halert.noted (by rw [hblocked.point]; rfl) (by rw [hblocked.point]; rfl)
  obtain ⟨hlistener, hupstream, hready, hdeadlines⟩ := hblocked.idle hsound halert
  refine ⟨hready, hdeadlines, ?_, ?_, ?_, ?_⟩
  · exact hnoted.refresh.all_met hblocked.generation hnoted.settled
  · intro hstop
    rcases halert.stop (by rw [hblocked.point]; rfl) hstop with hwake | hstoppers
    · rw [hblocked.wake] at hwake
      exact absurd hwake (Nat.lt_irrefl 0)
    · exact hstoppers
  · intro hfaulted
    have hannounced := halert.listener_noted (by simp [hblocked.point])
      (.inr (by rw [hblocked.point]; rfl))
    exact hannounced.empty hblocked.listener (by simp [hlistener, hfaulted])
  · intro hfaulted
    exact hnoted.upstream.empty hblocked.upstream (by simp [hupstream, hfaulted])

/-- A packet and a request for a refresh are polled, and there is no memory for the packet.
A thread is in the middle of `request_stop` when the loop waits again. -/
def sampleIdle : List Label :=
  [.arrives ⟨[0, 7], [127, 0, 0, 1]⟩, .refreshRequested, .advance, .timing 20,
    .polled (.events [.generation, .listener]), .advance, .advance, .advance, .advance,
    .refreshed (some none), .received (.datagram false), .spawned 0 true, .received .wouldBlock,
    .socketError 0, .expired 20, .advance, .advance, .advance, .advance, .timing 20,
    .stopRequested]

/-- One request was made and met, and the packet was read, when the loop is blocked, and the
stop will wake it. -/
theorem no_lost_wakeup_when_idle : ∃ loop,
    run Worker.sampleEnvironment { capacity := 8 } none 3 System.sampleConfig sampleIdle =
        some loop ∧
      loop.Blocked 20 (-1) ∧ loop.generation.made = 1 ∧ loop.generation.met = 1 ∧
      loop.stop = true ∧ 0 < loop.stoppers ∧ loop.listener.queue = [] := by
  rw [run_sample]
  obtain ⟨loop, hrun, hblocked, hmade, hstop, hfaulted⟩ : ∃ loop,
      Transition.run (step Worker.sampleEnvironment) (sampleLoop none) sampleIdle = some loop ∧
        loop.Blocked 20 (-1) ∧ loop.generation.made = 1 ∧ loop.stop = true ∧
        loop.listenerFaulted = false :=
    ⟨_, rfl, ⟨rfl, by decide, rfl, rfl, rfl, rfl⟩, rfl, rfl, rfl⟩
  obtain ⟨-, -, hmet, hstoppers, hlistener, -⟩ :=
    no_lost_wakeup sample_started ((run_sample none sampleIdle).trans hrun) hblocked
  exact ⟨loop, hrun, hblocked, hmade, hmet.trans hmade, hstop, hstoppers hstop,
    hlistener hfaulted⟩

end Loop

end DnsPro.EventLoop
