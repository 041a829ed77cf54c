import DnsPro.Upstream.Ending

/-!
# Every query ends once

The invariant read at the boundary of an operation: what the log, the slots,
the timers and the counters say about a query agree in every run.
-/

namespace DnsPro.Upstream

open DnsPro.Protocol DnsPro.Runtime

namespace System

/-- The slots, the awaiters and the timers agree on which queries are pending,
and the tasks of these are suspended and not on the ready list. -/
structure Linked (system : System) : Prop where
  slot_iff : ∀ query, (system.queries query).state = .pending ↔
    system.channel.slots (system.queries query).transactionId = some query
  armed_iff : ∀ query, (system.queries query).state = .pending ↔
    system.armed (.query query) = true
  slot_id : ∀ id query, system.channel.slots id = some query →
    (system.queries query).transactionId = id
  waiting : ∀ query, (system.queries query).state = .pending →
    (system.queries query).task = some (system.queries query).frame ∧
      (system.scheduler.tasks (system.queries query).frame).point = .query query ∧
      (system.queries query).frame ∉ system.scheduler.ready

theorem Inv.linked {system : System} (h : Inv none system) : Linked system where
  slot_iff query := by
    constructor
    · exact fun hpending => (h.pending query hpending).slot
    · exact fun hslot => (h.slot _ query hslot).1
  armed_iff query := by
    constructor
    · exact fun hpending => (h.pending query hpending).held.resolve_right (by simp)
    · exact fun harmed => h.heldQuery query (.inl harmed)
  slot_id id query hslot := (h.slot id query hslot).2
  waiting query hpending := by
    have hquery := h.pending query hpending
    refine ⟨hquery.task, hquery.waiting.point_eq, ?_⟩
    rw [← h.scheduler.queued_iff, hquery.waiting.queued]
    decide

/-! ## A query and its answer, as an example -/

/-- The heap algorithms by sorting, no randomness, and a clock that counts its
readings. -/
def sampleEnvironment : Environment where
  clock reading := reading
  heaps := HeapAlgorithms.ofSort retiredLater
    (by
      intro first second
      unfold retiredLater
      grind)
    (by
      intro first second third
      unfold retiredLater
      grind)
  random := Randomness.constant

/-- One id, given out in order. -/
def sampleConfig : ChannelConfig := { transactionIdCapacity := 1, randomizeTransactionIds := false }

/-- The state after a `start` that the checks let through. -/
def started (env : Environment) (system : System) (socketFd : Int) (config : ChannelConfig) :
    System :=
  { system.preparePool env config with
    channel := { (system.preparePool env config).channel with
      attached := true, config := config, socketFd := socketFd, pendingCount := 0
      running := true, accepting := true, hasStarted := true } }

/-- A run goes on through a `start`, whose audit of all ids succeeds. -/
theorem run_start {env : Environment} {labels : List Label} {system : System}
    (hrun : run env labels = some system) {socketFd : Int} {config : ChannelConfig}
    (hstartable : system.startable socketFd config true = true) :
    run env (labels ++ [.start socketFd config true false]) =
      some (started env system socketFd config) := by
  refine Transition.run_append.mpr ⟨system, hrun, ?_⟩
  have hstep : step env system (.start socketFd config true false) =
      some (started env system socketFd config) := by
    show some (start env system socketFd config true false).2 = _
    rw [(inv_run env hrun).start_eq, if_neg (by simp [hstartable]), if_neg (by simp)]
    rfl
  simp only [Transition.run, hstep]

/-- A task that executes before the channel is started. -/
def sampleTask : System := (run sampleEnvironment [.spawn 0, .resume]).get rfl

/-- The channel has been started, with the labels that lead there. -/
def sampleStart : List Label := [.spawn 0, .resume] ++ [.start 3 sampleConfig true false]

def sampleStarted : System := started sampleEnvironment sampleTask 3 sampleConfig

theorem run_sampleStart : run sampleEnvironment sampleStart = some sampleStarted :=
  run_start rfl rfl

/-- The address of the root, and a response that repeats the question. -/
def sampleQuestion : Question := ⟨DomainName.ofLabels [] labelsOk_nil, 1, 1⟩

def sampleReply : Bytes := [0, 0, 0x80, 0, 0, 1, 0, 0, 0, 0, 0, 0, 0, 0, 1, 0, 1]

/-- The task sends a query. -/
def sampleQuery : List Label :=
  [.queryUntil 0 { id := 7 } sampleQuestion 100, .awaitQuery 0 false false (.sent 17)]

/-- The response arrives. -/
def sampleArrival : Label := .handleDatagram sampleReply false false

def sampleAnswered : List Label := sampleQuery ++ [sampleArrival]

/-! ## The guarantee -/

/-- Exactly-once completion.  In every run of the channel with its scheduler
and its timers, a query that `begin` suspended has been ended once, by
scheduling its task with one outcome or by being abandoned, or it is pending and
has not been ended; the slots, the awaiters and the timers agree on the pending
queries; every query that was sent is accounted for; and every step that logs an
end has put the task on the ready list with this outcome, or destroyed its frame. -/
theorem exactly_once_per_query (env : Environment) {labels : List Label} {system : System}
    (hrun : run env labels = some system) :
    (∀ query, .suspended query ∈ system.log →
      system.log.count (.suspended query) = 1 ∧
      if (system.queries query).state = .pending then system.log.countP (Event.ends query) = 0
      else system.log.countP (Event.ends query) = 1) ∧
    (∀ query, .suspended query ∉ system.log → system.log.countP (Event.ends query) = 0 ∧
      (system.queries query).state ≠ .pending) ∧
    Linked system ∧
    system.channel.stats.queriesSent =
      system.channel.stats.responsesCompleted + system.channel.stats.timeouts +
      system.channel.stats.cancellations + system.channel.stats.socketErrors +
      system.channel.pendingCount ∧
    ∀ label next, step env system label = some next → Recorded system next := by
  have h := inv_run env hrun
  refine ⟨?_, ?_, h.linked, h.balanced, fun label next hstep => recorded_step env label h hstep⟩
  · intro query hbegun
    have hended := h.log.ended query
    have honce : system.log.count (.suspended query) = 1 :=
      Nat.le_antisymm (h.log.once query) (List.count_pos_iff.mpr hbegun)
    refine ⟨honce, ?_⟩
    rw [honce] at hended
    split
    · rename_i hpending
      rw [if_pos hpending] at hended
      omega
    · rename_i hpending
      rw [if_neg hpending] at hended
      omega
  · intro query hbegun
    have hended := h.log.ended query
    rw [List.count_eq_zero_of_not_mem hbegun] at hended
    split at hended <;> simp_all

/-- The response ends the query: its task is on the ready list, once, and reads the
outcome. -/
theorem exactly_once_when_answered : ∃ system next,
    run sampleEnvironment (sampleStart ++ sampleQuery) = some system ∧
    step sampleEnvironment system sampleArrival = some next ∧
    Event.suspended 0 ∈ next.log ∧ next.log.countP (Event.ends 0) = 1 ∧
    next.scheduler.ready.count 0 = 1 ∧ (next.scheduler.tasks 0).queued = true ∧
    (next.queries 0).result.outcome = .response := by
  obtain ⟨system, next, hrun, hstep, hstate, hframe, hbegun, hevent⟩ : ∃ system next,
      run sampleEnvironment (sampleStart ++ sampleQuery) = some system ∧
      step sampleEnvironment system sampleArrival = some next ∧
      (system.queries 0).state = .pending ∧ (system.queries 0).frame = 0 ∧
      Event.suspended 0 ∈ system.log ∧ Event.scheduled 0 0 1 .response ∈ next.log :=
    ⟨_, _, Transition.run_append.mpr ⟨_, run_sampleStart, rfl⟩, rfl, by decide, by decide,
      by decide, by decide⟩
  obtain ⟨hended, -, -, -, hrecorded⟩ := exactly_once_per_query sampleEnvironment hrun
  obtain ⟨added, hadded, hdone⟩ := (hrecorded _ next hstep).log
  -- the query has not ended before the step, so the event is one that the step logs
  have hnew : Event.scheduled 0 0 1 .response ∈ added := by
    have hnone := (hended 0 hbegun).2
    rw [if_pos hstate, List.countP_eq_zero] at hnone
    rw [hadded, List.mem_append] at hevent
    exact hevent.resolve_left fun hold => hnone _ hold rfl
  have hscheduled : Scheduled system next 0 0 .response := hdone _ hnew
  obtain ⟨result, houtcome, hresult⟩ := hscheduled.result
  have hnext : run sampleEnvironment (sampleStart ++ sampleQuery ++ [sampleArrival]) = some next :=
    Transition.run_append.mpr ⟨system, hrun, Transition.run_cons.mpr ⟨next, hstep, rfl⟩⟩
  have hlater : Event.suspended 0 ∈ next.log := hadded ▸ List.mem_append_left _ hbegun
  have honce := ((exactly_once_per_query sampleEnvironment hnext).1 0 hlater).2
  rw [if_neg (by simp [hresult])] at honce
  exact ⟨system, next, hrun, hstep, hlater, honce, hframe ▸ hscheduled.ready,
    hframe ▸ hscheduled.queued, by rw [hresult, houtcome]⟩

end System

end DnsPro.Upstream
