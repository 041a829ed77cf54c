import DnsPro.Upstream.IdPool
import DnsPro.Upstream.System

/-!
# The invariant of the channel

A query is pending, has its slot, has its timer and suspends its task, all at
once or not at all.  `Inv` says so, together with the id pool, the counters and
the log.

Its first argument is the timer that the queue has taken off the heap and is
about to complete, if any: between the two steps of `complete_front` this timer
still counts as held.  At the boundary of an operation there is none.
-/

namespace DnsPro.Upstream

open DnsPro.Protocol DnsPro.Runtime

/-- The timer is armed or about to be completed. -/
def Held (exempt : Option Timer) (timers : TimerQueue Timer) (timer : Timer) : Prop :=
  (timers.registrations timer).owner = true ∨ exempt = some timer

/-- What a pending query has. -/
structure PendingOk (exempt : Option Timer) (slots : UInt16 → Option QueryId) (running : Bool)
    (timers : TimerQueue Timer) (scheduler : Scheduler) (query : QueryId)
    (awaiter : QueryAwaiter) : Prop where
  owner : awaiter.owner = true
  task : awaiter.task = some awaiter.frame
  slot : slots awaiter.transactionId = some query
  running : running = true
  timersRunning : timers.running = true
  waiting : scheduler.Waiting awaiter.frame (.query query)
  held : Held exempt timers (.query query)

/-- What a sleeping task has. -/
structure SleepOk (scheduler : Scheduler) (sleep : Nat) (awaiter : SleepAwaiter) : Prop where
  task : awaiter.task = some awaiter.frame
  waiting : scheduler.Waiting awaiter.frame (.sleep sleep)

/-- A configuration that `start` accepts. -/
structure ChannelConfig.Valid (config : ChannelConfig) : Prop where
  timeout_pos : 0 < config.queryTimeout
  timeout_le : config.queryTimeout ≤ config.idReuseGuard
  capacity_pos : 0 < config.transactionIdCapacity
  capacity_le : config.transactionIdCapacity ≤ transactionIdSpace

/-- The ids of a channel that was started. -/
structure IdsOk (channel : UpstreamChannel) : Prop where
  config : channel.config.Valid
  pool : channel.Pool
  pending_iff : ∀ id, channel.idStates id = .pending ↔ channel.slots id ≠ none

/-- `pending_count_` is the number of occupied slots. -/
def Counted (slots : UInt16 → Option QueryId) (pendingCount : Nat) : Prop :=
  ∃ ids : Finset UInt16, (∀ id, id ∈ ids ↔ slots id ≠ none) ∧ ids.card = pendingCount

/-- Every query that was sent is pending or was counted when it ended. -/
def Balanced (stats : ChannelStats) (pendingCount : Nat) : Prop :=
  stats.queriesSent = stats.responsesCompleted + stats.timeouts + stats.cancellations +
    stats.socketErrors + pendingCount

/-- A suspended query ends once, and is pending until then. -/
structure LogOk (log : List Event) (queries : QueryId → QueryAwaiter) : Prop where
  ended : ∀ query, log.count (.suspended query) =
    log.countP (Event.ends query) + if (queries query).state = .pending then 1 else 0
  once : ∀ query, log.count (.suspended query) ≤ 1
  begun : ∀ query, .suspended query ∈ log → (queries query).state ≠ .idle

namespace System

structure Inv (exempt : Option Timer) (system : System) : Prop where
  scheduler : system.scheduler.Ok
  timers : system.timers.Ok
  ids : system.channel.hasStarted = true → IdsOk system.channel
  running : system.channel.running = true →
    system.channel.hasStarted = true ∧ system.channel.attached = true
  stopped : system.channel.running = false → ∀ id, system.channel.slots id = none
  slot : ∀ id query, system.channel.slots id = some query →
    (system.queries query).state = .pending ∧ (system.queries query).transactionId = id
  pending : ∀ query, (system.queries query).state = .pending →
    PendingOk exempt system.channel.slots system.channel.running system.timers system.scheduler query
      (system.queries query)
  heldQuery : ∀ query, Held exempt system.timers (.query query) →
    (system.queries query).state = .pending
  heldSleep : ∀ sleep, Held exempt system.timers (.sleep sleep) →
    SleepOk system.scheduler sleep (system.sleeps sleep)
  counted : Counted system.channel.slots system.channel.pendingCount
  balanced : Balanced system.channel.stats system.channel.pendingCount
  failures : Event.outOfMemory ∉ system.log → system.channel.stats.invariantFailures = 0
  unmade : ∀ query, system.queryCount ≤ query → system.queries query = {}
  unmadeSleep : ∀ sleep, system.sleepCount ≤ sleep → system.sleeps sleep = {}
  log : LogOk system.log system.queries

end System

/-! ## Slots and counters -/

variable {slots : UInt16 → Option QueryId} {pendingCount : Nat} {id : UInt16} {query : QueryId}

theorem Counted.occupy (h : Counted slots pendingCount) (hfree : slots id = none) :
    Counted (Function.update slots id (some query)) (pendingCount + 1) := by
  obtain ⟨ids, hmem, hcard⟩ := h
  refine ⟨insert id ids, ?_, ?_⟩
  · intro other
    rw [Finset.mem_insert, hmem]
    by_cases hother : other = id <;> simp [hother]
  · rw [Finset.card_insert_of_notMem (by simp [hmem, hfree]), hcard]

theorem Counted.vacate (h : Counted slots pendingCount) (hslot : slots id = some query) :
    Counted (Function.update slots id none) (pendingCount - 1) ∧ 0 < pendingCount := by
  obtain ⟨ids, hmem, hcard⟩ := h
  have hid : id ∈ ids := by
    rw [hmem, hslot]
    simp
  refine ⟨⟨ids.erase id, ?_, ?_⟩, ?_⟩
  · intro other
    rw [Finset.mem_erase, hmem]
    by_cases hother : other = id <;> simp [hother]
  · rw [Finset.card_erase_of_mem hid, hcard]
  · rw [← hcard]
    exact Finset.card_pos.mpr ⟨id, hid⟩

theorem Counted.zero_iff (h : Counted slots pendingCount) :
    pendingCount = 0 ↔ ∀ id, slots id = none := by
  obtain ⟨ids, hmem, rfl⟩ := h
  rw [Finset.card_eq_zero, Finset.eq_empty_iff_forall_notMem]
  simp [hmem]

/-- The counter of an outcome that `finish` is called with. -/
theorem Balanced.countOutcome {stats : ChannelStats} {outcome : QueryOutcome}
    (h : Balanced stats (pendingCount + 1))
    (houtcome : outcome = .response ∨ outcome = .timeout ∨ outcome = .cancelled ∨
      outcome = .socketError) :
    Balanced (stats.countOutcome outcome) pendingCount := by
  unfold Balanced at h ⊢
  rcases houtcome with rfl | rfl | rfl | rfl
  all_goals
    simp only [ChannelStats.countOutcome]
    omega

@[simp] theorem countOutcome_invariantFailures (stats : ChannelStats) (outcome : QueryOutcome) :
    (stats.countOutcome outcome).invariantFailures = stats.invariantFailures := by
  cases outcome <;> rfl

/-! ## The log -/

variable {log : List Event} {queries : QueryId → QueryAwaiter} {awaiter : QueryAwaiter}

/-- A change that leaves every query as pending, or as fresh, as it was. -/
theorem LogOk.congr {queries' : QueryId → QueryAwaiter} (h : LogOk log queries)
    (hpending : ∀ query, (queries' query).state = .pending ↔ (queries query).state = .pending)
    (hidle : ∀ query, (queries' query).state = .idle → (queries query).state = .idle) :
    LogOk log queries' := by
  refine ⟨?_, h.once, fun query hbegun hstate => h.begun query hbegun (hidle query hstate)⟩
  intro query
  rw [h.ended]
  simp only [hpending]

theorem count_suspended_append {event : Event} (hsuspended : ∀ other, event ≠ .suspended other)
    (log : List Event) (other : QueryId) :
    (log ++ [event]).count (.suspended other) = log.count (.suspended other) := by
  rw [List.count_append, List.count_singleton, if_neg (by simpa using hsuspended other),
    Nat.add_zero]

/-- A pending query ends. -/
theorem LogOk.end {event : Event} (h : LogOk log queries)
    (hpending : (queries query).state = .pending)
    (hends : ∀ other, event.ends other = decide (query = other))
    (hsuspended : ∀ other, event ≠ .suspended other) (hstate : awaiter.state = .completed) :
    LogOk (log ++ [event]) (Function.update queries query awaiter) := by
  have hcount := count_suspended_append hsuspended log
  refine ⟨?_, fun other => (hcount other).trans_le (h.once other), ?_⟩
  · intro other
    rw [hcount, h.ended, List.countP_append, List.countP_singleton, hends]
    by_cases hother : query = other
    · subst hother
      simp [hpending, hstate]
    · simp [hother, Function.update_of_ne (Ne.symm hother)]
  · intro other hbegun
    rw [List.mem_append, List.mem_singleton] at hbegun
    by_cases hother : other = query
    · subst hother
      simp [hstate]
    · rw [Function.update_of_ne hother]
      exact hbegun.elim (h.begun other) fun heq => absurd heq.symm (hsuspended other)

/-- An idle query is suspended. -/
theorem LogOk.suspend (h : LogOk log queries) (hidle : (queries query).state = .idle)
    (hstate : awaiter.state = .pending) :
    LogOk (log ++ [.suspended query]) (Function.update queries query awaiter) := by
  have hfresh : log.count (.suspended query) = 0 := by
    rw [List.count_eq_zero]
    exact fun hbegun => h.begun query hbegun hidle
  have hcount : ∀ other, (log ++ [Event.suspended query]).count (.suspended other) =
      log.count (.suspended other) + if query = other then 1 else 0 := by
    intro other
    rw [List.count_append, List.count_singleton]
    simp
  refine ⟨?_, ?_, ?_⟩
  · intro other
    rw [hcount, h.ended, List.countP_append, List.countP_singleton]
    by_cases hother : query = other
    · subst hother
      simp [Event.ends, hidle, hstate]
    · simp [Event.ends, hother, Function.update_of_ne (Ne.symm hother)]
  · intro other
    rw [hcount]
    by_cases hother : query = other
    · subst hother
      simp [hfresh]
    · simp [hother, h.once other]
  · intro other hbegun
    rw [List.mem_append, List.mem_singleton] at hbegun
    by_cases hother : other = query
    · subst hother
      simp [hstate]
    · rw [Function.update_of_ne hother]
      exact hbegun.elim (h.begun other) fun heq => absurd (Event.suspended.inj heq) hother

/-- An event that neither suspends nor ends a query. -/
theorem LogOk.note {event : Event} (h : LogOk log queries)
    (hends : ∀ other, event.ends other = false)
    (hsuspended : ∀ other, event ≠ .suspended other) : LogOk (log ++ [event]) queries := by
  have hcount := count_suspended_append hsuspended log
  refine ⟨?_, fun other => (hcount other).trans_le (h.once other), ?_⟩
  · intro other
    rw [hcount, h.ended, List.countP_append, List.countP_singleton, hends]
    simp
  · intro other hbegun
    rw [List.mem_append, List.mem_singleton] at hbegun
    exact hbegun.elim (h.begun other) fun heq => absurd heq.symm (hsuspended other)

namespace System

variable {env : Environment} {exempt : Option Timer} {system : System}

/-! ## Ending a query -/

/-- A pending query leaves its slot and its timer, and its id is retired. -/
theorem Inv.unlink (env : Environment) (h : Inv exempt system)
    (hpending : (system.queries query).state = .pending) :
    ∃ timers retired,
      system.unlink env query = { system with
        timers := timers
        channel := { system.channel with
          slots := Function.update system.channel.slots (system.queries query).transactionId none
          pendingCount := system.channel.pendingCount - 1
          idStates := Function.update system.channel.idStates
            (system.queries query).transactionId .retired
          retiredIds := retired }
        readings := system.readings + 1 } ∧
      TimerQueue.Rearmed system.timers timers (.query query) false ∧
      retired.Perm (⟨system.channel.guardedReuseTime (system.now env),
        (system.queries query).transactionId⟩ :: system.channel.retiredIds) ∧
      PoolOk system.channel.config.transactionIdCapacity
        (Function.update system.channel.idStates (system.queries query).transactionId .retired)
        system.channel.freeIds retired := by
  have hquery := h.pending query hpending
  obtain ⟨hstarted, hattached⟩ := h.running hquery.running
  have hids := h.ids hstarted
  have hidState : system.channel.idStates (system.queries query).transactionId = .pending := by
    rw [hids.pending_iff, hquery.slot]
    simp
  have hguard : 0 < system.channel.config.idReuseGuard :=
    hids.config.timeout_pos.trans_le hids.config.timeout_le
  obtain ⟨timers, hdisarm, hrearmed⟩ : ∃ timers,
      (if system.armed (.query query) ∧ system.channel.attached then
        system.timers.disarm (.query query) else (true, system.timers)) = (true, timers) ∧
      TimerQueue.Rearmed system.timers timers (.query query) false := by
    cases harmed : system.armed (.query query) with
    | true =>
      obtain ⟨hresult, hrearmed⟩ := h.timers.disarm harmed
      refine ⟨_, ?_, hrearmed⟩
      rw [if_pos ⟨rfl, hattached⟩, ← hresult]
    | false =>
      exact ⟨system.timers, by simp, h.timers, rfl, rfl, harmed, fun _ _ => rfl⟩
  obtain ⟨retired, hrelease, hperm, hpool⟩ := UpstreamChannel.releaseId_sent env
    { system.channel with
      slots := Function.update system.channel.slots (system.queries query).transactionId none
      pendingCount := system.channel.pendingCount - 1 } (system.now env) hids.pool hidState hguard
  refine ⟨timers, retired, ?_, hrearmed, hperm, hpool⟩
  unfold System.unlink
  dsimp only
  rw [hdisarm]
  simp only [if_true]
  rw [hrelease]

/-- The tasks of two pending queries are different. -/
theorem Inv.frame_ne (h : Inv exempt system) {other : QueryId}
    (hpending : (system.queries query).state = .pending)
    (hother : (system.queries other).state = .pending) (hne : other ≠ query) :
    (system.queries other).frame ≠ (system.queries query).frame := by
  intro hframe
  have hpoint := (h.pending query hpending).waiting.point_eq
  have hpoint' := (h.pending other hother).waiting.point_eq
  rw [hframe, hpoint] at hpoint'
  exact hne (Point.query.inj hpoint').symm

/-- A pending query of `system` has ended in `next`, one way or the other: it is
completed, and its slot, its timer and its task are free of it. -/
structure Left (system : System) (query : QueryId) (next : System) : Prop where
  scheduler : next.scheduler.Ok
  tasks : ∀ task, task ≠ (system.queries query).frame →
    next.scheduler.tasks task = system.scheduler.tasks task
  timers : TimerQueue.Rearmed system.timers next.timers (.query query) false
  completed : (next.queries query).state = .completed
  queries : ∀ other, other ≠ query → next.queries other = system.queries other
  queryCount : next.queryCount = system.queryCount
  sleeps : next.sleeps = system.sleeps
  sleepCount : next.sleepCount = system.sleepCount
  channel : ∃ retired stats, next.channel = { system.channel with
      slots := Function.update system.channel.slots (system.queries query).transactionId none
      pendingCount := system.channel.pendingCount - 1
      idStates := Function.update system.channel.idStates
        (system.queries query).transactionId .retired
      retiredIds := retired
      stats := stats } ∧
    PoolOk system.channel.config.transactionIdCapacity
      (Function.update system.channel.idStates (system.queries query).transactionId .retired)
      system.channel.freeIds retired ∧
    Balanced stats (system.channel.pendingCount - 1) ∧
    stats.invariantFailures = system.channel.stats.invariantFailures
  log : ∃ event, next.log = system.log ++ [event] ∧
    (∀ other, event.ends other = decide (query = other)) ∧ ∀ other, event ≠ .suspended other

section Left

variable {next : System}

theorem Left.slots_eq (h : Left system query next) : next.channel.slots =
    Function.update system.channel.slots (system.queries query).transactionId none := by
  obtain ⟨retired, stats, hchannel, -⟩ := h.channel
  rw [hchannel]

theorem Left.running_eq (h : Left system query next) :
    next.channel.running = system.channel.running := by
  obtain ⟨retired, stats, hchannel, -⟩ := h.channel
  rw [hchannel]

/-- The query that has ended is not pending. -/
theorem Left.ne (h : Left system query next) {other : QueryId}
    (hother : (next.queries other).state = .pending) : other ≠ query := by
  rintro rfl
  rw [h.completed] at hother
  cases hother

/-- A timer that is held was held before, and is not the one of the query. -/
theorem Left.held (h : Left system query next) (exempt : Option Timer) {timer : Timer}
    (hheld : Held none next.timers timer) :
    timer ≠ .query query ∧ Held exempt system.timers timer := by
  rcases hheld with howner | hnone
  · have hne : timer ≠ .query query := by
      rintro rfl
      rw [h.timers.owner_eq] at howner
      cases howner
    exact ⟨hne, .inl (h.timers.others timer hne ▸ howner)⟩
  · cases hnone

theorem Left.slot (h : Left system query next) (hinv : Inv exempt system) {other : QueryId}
    (hslot : next.channel.slots id = some other) :
    (next.queries other).state = .pending ∧ (next.queries other).transactionId = id := by
  rw [h.slots_eq] at hslot
  have hid : id ≠ (system.queries query).transactionId := by
    rintro rfl
    rw [Function.update_self] at hslot
    cases hslot
  rw [Function.update_of_ne hid] at hslot
  obtain ⟨hother, htransaction⟩ := hinv.slot id other hslot
  have hne : other ≠ query := by
    rintro rfl
    exact hid htransaction.symm
  rw [h.queries other hne]
  exact ⟨hother, htransaction⟩

/-- The other pending queries have their slots, timers and tasks. -/
theorem Left.pending (h : Left system query next) (hinv : Inv exempt system)
    (hpending : (system.queries query).state = .pending)
    (hexempt : ∀ timer, exempt = some timer → timer = .query query) {other : QueryId}
    (hother : (next.queries other).state = .pending) :
    PendingOk none next.channel.slots next.channel.running next.timers next.scheduler other
      (next.queries other) := by
  have hne := h.ne hother
  rw [h.queries other hne] at hother ⊢
  have hok := hinv.pending other hother
  have hid : (system.queries other).transactionId ≠ (system.queries query).transactionId := by
    intro heq
    have hslot := hok.slot
    rw [heq, (hinv.pending query hpending).slot] at hslot
    exact hne (Option.some.inj hslot).symm
  have howner : (system.timers.registrations (.query other)).owner = true := by
    rcases hok.held with howner | hheldExempt
    · exact howner
    · exact absurd (Timer.query.inj (hexempt _ hheldExempt)) hne
  rw [h.slots_eq, h.running_eq]
  exact
    { owner := hok.owner
      task := hok.task
      slot := (Function.update_of_ne hid _ _).trans hok.slot
      running := hok.running
      timersRunning := h.timers.running.trans hok.timersRunning
      waiting := hok.waiting.congr (h.tasks _ (hinv.frame_ne hpending hother hne))
      held := .inl (by
        rw [h.timers.others _ fun heq => hne (Timer.query.inj heq)]
        exact howner) }

theorem Left.heldQuery (h : Left system query next) (hinv : Inv exempt system) {other : QueryId}
    (hheld : Held none next.timers (.query other)) : (next.queries other).state = .pending := by
  obtain ⟨hne, hold⟩ := h.held exempt hheld
  rw [h.queries other fun heq => hne (heq ▸ rfl)]
  exact hinv.heldQuery other hold

theorem Left.heldSleep (h : Left system query next) (hinv : Inv exempt system)
    (hpending : (system.queries query).state = .pending) {sleep : Nat}
    (hheld : Held none next.timers (.sleep sleep)) :
    SleepOk next.scheduler sleep (next.sleeps sleep) := by
  obtain ⟨-, hold⟩ := h.held exempt hheld
  have hok := hinv.heldSleep sleep hold
  rw [h.sleeps]
  refine ⟨hok.task, hok.waiting.congr (h.tasks _ fun heq => ?_)⟩
  have hpoint := hok.waiting.point_eq
  rw [heq, (hinv.pending query hpending).waiting.point_eq] at hpoint
  cases hpoint

theorem Left.ids (h : Left system query next) (hinv : Inv exempt system)
    (hstarted : system.channel.hasStarted = true) : IdsOk next.channel := by
  obtain ⟨retired, stats, hchannel, hpool, -⟩ := h.channel
  have hids := hinv.ids hstarted
  rw [hchannel]
  refine ⟨hids.config, hpool, fun other => ?_⟩
  show Function.update _ _ _ other = _ ↔ Function.update _ _ _ other ≠ _
  by_cases hother : other = (system.queries query).transactionId
  · simp [hother]
  · rw [Function.update_of_ne hother, Function.update_of_ne hother]
    exact hids.pending_iff other

theorem Left.logOk (h : Left system query next) (hinv : Inv exempt system)
    (hpending : (system.queries query).state = .pending) : LogOk next.log next.queries := by
  obtain ⟨event, hlog, hends, hsuspended⟩ := h.log
  have hqueries : next.queries = Function.update system.queries query (next.queries query) := by
    funext other
    by_cases hne : other = query
    · rw [hne, Function.update_self]
    · rw [Function.update_of_ne hne, h.queries other hne]
  rw [hlog, hqueries]
  exact hinv.log.end hpending hends hsuspended h.completed

/-- The state after a pending query has ended. -/
theorem Left.inv (h : Left system query next) (hinv : Inv exempt system)
    (hpending : (system.queries query).state = .pending)
    (hexempt : ∀ timer, exempt = some timer → timer = .query query) : Inv none next := by
  have hquery := hinv.pending query hpending
  obtain ⟨hstarted, hattached⟩ := hinv.running hquery.running
  have hids := h.ids hinv hstarted
  obtain ⟨retired, stats, hchannel, -, hbalanced, hfailures⟩ := h.channel
  exact
    { scheduler := h.scheduler
      timers := h.timers.ok
      ids := fun _ => hids
      running := fun _ => by
        rw [hchannel]
        exact ⟨hstarted, hattached⟩
      stopped := fun hstopped => by
        rw [h.running_eq, hquery.running] at hstopped
        cases hstopped
      slot := fun id other => h.slot hinv
      pending := fun other => h.pending hinv hpending hexempt
      heldQuery := fun other => h.heldQuery hinv
      heldSleep := fun sleep => h.heldSleep hinv hpending
      counted := by
        rw [hchannel]
        exact (hinv.counted.vacate hquery.slot).1
      balanced := by
        rw [hchannel]
        exact hbalanced
      failures := fun hmemory => by
        obtain ⟨event, hlog, -⟩ := h.log
        rw [hchannel]
        refine hfailures.trans (hinv.failures fun hmem => hmemory ?_)
        rw [hlog]
        exact List.mem_append_left _ hmem
      unmade := fun other hother => by
        rw [h.queryCount] at hother
        have hnone := hinv.unmade other hother
        rw [h.queries other, hnone]
        rintro rfl
        rw [hnone] at hpending
        cases hpending
      unmadeSleep := fun sleep hsleep => by
        rw [h.sleepCount] at hsleep
        rw [h.sleeps]
        exact hinv.unmadeSleep sleep hsleep
      log := h.logOk hinv hpending }

end Left

/-- The outcomes that `finish` is called with. -/
def Ending (outcome : QueryOutcome) : Prop :=
  outcome = .response ∨ outcome = .timeout ∨ outcome = .cancelled ∨ outcome = .socketError

/-- The state that `finish` leaves behind for a pending query. -/
def finished (env : Environment) (system : System) (query : QueryId) (result : QueryResult)
    (timers : TimerQueue Timer) (retired : List RetiredId) : System :=
  let awaiter := system.queries query
  { system with
    timers := timers
    scheduler :=
      { system.scheduler.setTask awaiter.frame
          { system.scheduler.tasks awaiter.frame with queued := true } with
        ready := system.scheduler.ready ++ [awaiter.frame] }
    queries := Function.update system.queries query { awaiter with
      task := none, owner := false, state := .completed, result := result }
    channel := { system.channel with
      slots := Function.update system.channel.slots awaiter.transactionId none
      pendingCount := system.channel.pendingCount - 1
      idStates := Function.update system.channel.idStates awaiter.transactionId .retired
      retiredIds := retired
      stats := system.channel.stats.countOutcome result.outcome }
    readings := system.readings + 1
    log := system.log ++
      [.scheduled query awaiter.transactionId (system.now env) result.outcome] }

/-- `finish` of a pending query: its task is scheduled. -/
theorem Inv.finish (env : Environment) (h : Inv exempt system)
    (hpending : (system.queries query).state = .pending)
    (hexempt : ∀ timer, exempt = some timer → timer = .query query) {outcome : QueryOutcome}
    (houtcome : Ending outcome) (response : Bytes) (errorNumber : Int) :
    ∃ timers retired,
      system.finish env query outcome response errorNumber =
        (true, finished env system query ⟨outcome, response, errorNumber⟩ timers retired) ∧
      TimerQueue.Rearmed system.timers timers (.query query) false ∧
      retired.Perm (⟨system.channel.guardedReuseTime (system.now env),
        (system.queries query).transactionId⟩ :: system.channel.retiredIds) ∧
      Inv none (finished env system query ⟨outcome, response, errorNumber⟩ timers retired) := by
  have hquery := h.pending query hpending
  obtain ⟨hstarted, hattached⟩ := h.running hquery.running
  obtain ⟨timers, retired, hunlink, hrearmed, hperm, hpool⟩ := h.unlink env hpending
  obtain ⟨hschedule, hok⟩ := h.scheduler.schedule hquery.waiting (by simp) (by simp) (by simp)
    (by simp)
  refine ⟨timers, retired, ?_, hrearmed, hperm, ?_⟩
  · have hidState : system.channel.idStates (system.queries query).transactionId = .pending := by
      rw [(h.ids hstarted).pending_iff, hquery.slot]
      simp
    have hcapacity := UpstreamChannel.capacity_of_pending (h.ids hstarted).pool hidState
    unfold System.finish
    dsimp only
    rw [if_neg (by simp [hquery.owner, hpending, hcapacity, hquery.slot]), hquery.task, hunlink]
    dsimp only [setQuery]
    rw [if_neg (by simp [hattached])]
    simp only [hschedule, if_true]
    rfl
  · obtain ⟨-, hpositive⟩ := h.counted.vacate hquery.slot
    have hbalanced : Balanced (system.channel.stats.countOutcome outcome)
        (system.channel.pendingCount - 1) := by
      refine Balanced.countOutcome ?_ houtcome
      rw [Nat.sub_add_cancel hpositive]
      exact h.balanced
    refine Left.inv ?_ h hpending hexempt
    exact
      { scheduler := hok
        tasks := fun task hne => by simp [finished, Scheduler.setTask, hne]
        timers := hrearmed
        completed := by simp [finished]
        queries := fun other hne => Function.update_of_ne hne _ _
        queryCount := rfl
        sleeps := rfl
        sleepCount := rfl
        channel := ⟨retired, _, rfl, hpool, hbalanced, by simp⟩
        log := ⟨_, rfl, by simp [Event.ends], by simp⟩ }

theorem Inv.made (h : Inv exempt system) (halive : (system.queries query).alive = true) :
    query < system.queryCount := by
  by_contra hunmade
  rw [h.unmade query (Nat.le_of_not_lt hunmade)] at halive
  cases halive

/-- A query that is not pending is not armed. -/
theorem Inv.not_armed (h : Inv none system) (hpending : (system.queries query).state ≠ .pending) :
    (system.timers.registrations (.query query)).owner = false := by
  by_contra howner
  exact hpending (h.heldQuery query (.inl (by simpa using howner)))

/-- A change of a query that is pending neither before nor after. -/
theorem Inv.setQuery (h : Inv exempt system) {awaiter : QueryAwaiter}
    (halive : (system.queries query).alive = true)
    (hbefore : (system.queries query).state ≠ .pending) (hafter : awaiter.state ≠ .pending)
    (hidle : awaiter.state = .idle → (system.queries query).state = .idle) :
    Inv exempt (system.setQuery query awaiter) := by
  have hmade := h.made halive
  have hstate : ∀ other, (Function.update system.queries query awaiter other).state = .pending ↔
      (system.queries other).state = .pending := by
    intro other
    by_cases hother : other = query
    · subst hother
      simp [hbefore, hafter]
    · rw [Function.update_of_ne hother]
  have hstill : ∀ other, (system.queries other).state = .pending →
      Function.update system.queries query awaiter other = system.queries other := by
    intro other hother
    refine Function.update_of_ne ?_ _ _
    rintro rfl
    exact hbefore hother
  refine { h with slot := ?_, pending := ?_, heldQuery := ?_, unmade := ?_, log := ?_ }
  · intro id other hslot
    obtain ⟨hother, htransaction⟩ := h.slot id other hslot
    show (Function.update system.queries query awaiter other).state = _ ∧
      (Function.update system.queries query awaiter other).transactionId = _
    rw [hstill other hother]
    exact ⟨hother, htransaction⟩
  · intro other hother
    have hother := (hstate other).mp hother
    show PendingOk exempt _ _ _ _ other (Function.update system.queries query awaiter other)
    rw [hstill other hother]
    exact h.pending other hother
  · intro other hheld
    exact (hstate other).mpr (h.heldQuery other hheld)
  · intro other hother
    change system.queryCount ≤ other at hother
    show Function.update system.queries query awaiter other = {}
    rw [Function.update_of_ne (Nat.ne_of_gt (Nat.lt_of_lt_of_le hmade hother))]
    exact h.unmade other hother
  · refine h.log.congr hstate fun other hother => ?_
    by_cases hne : other = query
    · subst hne
      exact hidle (by simpa [System.setQuery] using hother)
    · simpa [System.setQuery, hne] using hother

/-- The state that `abandon` leaves behind for a pending query. -/
def abandoned (env : Environment) (system : System) (query : QueryId)
    (timers : TimerQueue Timer) (retired : List RetiredId) : System :=
  let awaiter := system.queries query
  let stats := system.channel.stats
  { system with
    timers := timers
    queries := Function.update system.queries query { awaiter with
      task := none, owner := false, state := .completed
      result := { awaiter.result with outcome := .cancelled } }
    channel := { system.channel with
      slots := Function.update system.channel.slots awaiter.transactionId none
      pendingCount := system.channel.pendingCount - 1
      idStates := Function.update system.channel.idStates awaiter.transactionId .retired
      retiredIds := retired
      stats := { stats with cancellations := stats.cancellations + 1 } }
    readings := system.readings + 1
    log := system.log ++ [.abandoned query awaiter.transactionId (system.now env)] }

theorem Inv.abandon (env : Environment) (h : Inv none system)
    (hpending : (system.queries query).state = .pending) :
    ∃ timers retired,
      system.abandon env query = abandoned env system query timers retired ∧
      TimerQueue.Rearmed system.timers timers (.query query) false ∧
      retired.Perm (⟨system.channel.guardedReuseTime (system.now env),
        (system.queries query).transactionId⟩ :: system.channel.retiredIds) ∧
      PoolOk system.channel.config.transactionIdCapacity
        (Function.update system.channel.idStates (system.queries query).transactionId .retired)
        system.channel.freeIds retired := by
  have hquery := h.pending query hpending
  obtain ⟨hstarted, -⟩ := h.running hquery.running
  obtain ⟨timers, retired, hunlink, hrearmed, hperm, hpool⟩ := h.unlink env hpending
  refine ⟨timers, retired, ?_, hrearmed, hperm, hpool⟩
  have hidState : system.channel.idStates (system.queries query).transactionId = .pending := by
    rw [(h.ids hstarted).pending_iff, hquery.slot]
    simp
  have hcapacity := UpstreamChannel.capacity_of_pending (h.ids hstarted).pool hidState
  unfold System.abandon
  dsimp only
  rw [if_neg (by simp [hquery.owner, hpending]), if_neg (by simp [hcapacity, hquery.slot]), hunlink]
  rfl

/-- A registration that is not armed is destroyed without effect. -/
theorem abandon_unarmed {timers : TimerQueue Timer} {timer : Timer}
    (howner : (timers.registrations timer).owner = false) : timers.abandon timer = timers := by
  unfold TimerQueue.abandon
  simp [howner]

/-- Destroying an awaiter that is not pending. -/
theorem Inv.destroyQuery_eq (env : Environment) (h : Inv none system)
    (hpending : (system.queries query).state ≠ .pending) :
    system.destroyQuery env query =
      system.setQuery query { system.queries query with alive := false } := by
  have hunarmed := h.not_armed hpending
  have habandon : (if (system.queries query).owner then system.abandon env query else system) =
      system := by
    split
    · unfold System.abandon
      simp [hpending]
    · rfl
  unfold System.destroyQuery
  dsimp only
  rw [habandon, if_neg hpending, abandon_unarmed hunarmed]
  rfl

/-- A pending awaiter goes with the frame around it. -/
theorem Inv.destroyQuery_pending (env : Environment) (h : Inv none system)
    (hpending : (system.queries query).state = .pending) :
    ∃ timers retired,
      system.destroyQuery env query = { abandoned env system query timers retired with
        queries := Function.update system.queries query { system.queries query with
          alive := false, task := none, owner := false, state := .completed
          result := { (system.queries query).result with outcome := .cancelled } }
        scheduler := system.scheduler.setPoint (system.queries query).frame .destroyed } ∧
      TimerQueue.Rearmed system.timers timers (.query query) false ∧
      PoolOk system.channel.config.transactionIdCapacity
        (Function.update system.channel.idStates (system.queries query).transactionId .retired)
        system.channel.freeIds retired := by
  obtain ⟨timers, retired, habandon, hrearmed, -, hpool⟩ := h.abandon env hpending
  refine ⟨timers, retired, ?_, hrearmed, hpool⟩
  unfold System.destroyQuery
  dsimp only
  rw [if_pos (h.pending query hpending).owner, if_pos hpending, habandon]
  dsimp only [abandoned, System.setQuery]
  rw [abandon_unarmed hrearmed.owner_eq, Function.update_idem, Function.update_self]

/-- Destroying an awaiter, and with a pending one the frame around it. -/
theorem Inv.destroyQuery (env : Environment) (h : Inv none system) (query : QueryId) :
    Inv none (system.destroyQuery env query) := by
  by_cases hpending : (system.queries query).state = .pending
  · have hquery := h.pending query hpending
    obtain ⟨timers, retired, hdestroy, hrearmed, hpool⟩ := h.destroyQuery_pending env hpending
    obtain ⟨-, hpositive⟩ := h.counted.vacate hquery.slot
    have hscheduler := h.scheduler.setPoint hquery.waiting (by simp) (by simp) (by simp) .destroyed
    have hbalanced := h.balanced
    rw [hdestroy]
    refine Left.inv ?_ h hpending (by simp)
    exact
      { scheduler := hscheduler
        tasks := fun task hne => by simp [hne]
        timers := hrearmed
        completed := by simp
        queries := fun other hne => Function.update_of_ne hne _ _
        queryCount := rfl
        sleeps := rfl
        sleepCount := rfl
        channel := ⟨retired, _, rfl, hpool, by
          unfold Balanced at hbalanced ⊢
          dsimp only
          omega, rfl⟩
        log := ⟨_, rfl, by simp [Event.ends], by simp⟩ }
  · rw [h.destroyQuery_eq env hpending]
    cases halive : (system.queries query).alive with
    | true => exact h.setQuery halive hpending hpending id
    | false =>
      have hsame : system.setQuery query { system.queries query with alive := false } = system := by
        rw [← halive]
        unfold System.setQuery
        rw [Function.update_eq_self]
      rw [hsame]
      exact h

end System

end DnsPro.Upstream
