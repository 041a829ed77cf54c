import DnsPro.WorkerRuntime.Runs

/-!
# Cancelling what is pending

The first part of `shutdown_runtime`.  `cancel_all` of the channel ends the query in
every slot, and a slot that is free stays free, so that no query is pending after it
(`cancelAll_ends`).  The heap then holds the timers of sleeping tasks alone, and each
pass of `cancel_all` of the timer queue takes one of them off and wakes its task
(`cancelTimers_ends`).  No call fails and no counter of failures increases.
-/

namespace DnsPro.WorkerRuntime

open DnsPro.Protocol DnsPro.Runtime DnsPro.Upstream DnsPro.Ownership

variable {env : Environment} {state : State} {system next third : System} {exempt : Option Timer}
  {query : QueryId}

/-- Tasks may have been woken, and no counter of failures has increased. -/
structure Unharmed (system next : System) : Prop where
  channel : next.channel.stats.invariantFailures = system.channel.stats.invariantFailures
  timers : next.timers.invariantFailures = system.timers.invariantFailures
  woken : Woken system.scheduler next.scheduler

theorem Unharmed.refl (system : System) : Unharmed system system := ⟨rfl, rfl, Woken.refl _⟩

theorem Unharmed.trans (h : Unharmed system next) (h' : Unharmed next third) :
    Unharmed system third :=
  ⟨h'.channel.trans h.channel, h'.timers.trans h.timers, h.woken.trans h'.woken⟩

/-! ## The counter of the timer queue -/

theorem removeAt_failures (timers : TimerQueue Timer) (index : Nat) :
    (timers.removeAt index).invariantFailures = timers.invariantFailures := by
  unfold TimerQueue.removeAt
  split <;> rfl

theorem disarm_failures {timers : TimerQueue Timer} (h : timers.Ok) (timer : Timer) :
    (timers.disarm timer).2.invariantFailures = timers.invariantFailures := by
  cases harmed : (timers.registrations timer).owner with
  | true =>
    obtain ⟨index, -, hdisarm⟩ := h.disarm_eq harmed
    rw [hdisarm]
    exact removeAt_failures timers index
  | false =>
    unfold TimerQueue.disarm
    rw [if_pos (.inr harmed)]

theorem unlink_timers (h : System.Inv exempt system) (query : QueryId) :
    (system.unlink env query).timers.invariantFailures = system.timers.invariantFailures := by
  have hdisarm := disarm_failures h.timers (.query query)
  unfold System.unlink
  dsimp only
  split
  · exact hdisarm
  · rfl

theorem finish_timers (env : Environment) (h : System.Inv exempt system) (query : QueryId)
    (outcome : QueryOutcome) (response : Bytes) (errorNumber : Int) :
    (system.finish env query outcome response errorNumber).2.timers.invariantFailures =
      system.timers.invariantFailures := by
  have hunlink : (system.unlink env query).timers.invariantFailures = _ := unlink_timers h query
  unfold System.finish
  dsimp only
  split
  · rfl
  split
  · exact hunlink
  split
  · exact hunlink
  · split
    · exact hunlink
    · exact hunlink

/-! ## Pending queries -/

/-- A pending query is ended, and its slot is free. -/
theorem finish_ends (env : Environment) (h : System.Inv none system)
    (hpending : (system.queries query).state = .pending) {outcome : QueryOutcome}
    (houtcome : System.Ending outcome) (response : Bytes) (errorNumber : Int) :
    System.Inv none (system.finish env query outcome response errorNumber).2 ∧
      Unharmed system (system.finish env query outcome response errorNumber).2 ∧
      (system.finish env query outcome response errorNumber).2.channel.config =
        system.channel.config ∧
      (system.finish env query outcome response errorNumber).2.channel.slots =
        Function.update system.channel.slots (system.queries query).transactionId none := by
  have htimers := finish_timers env h query outcome response errorNumber
  have hwoken := finish_woken env system query outcome response errorNumber
  obtain ⟨timers, retired, hfinish, -, -, hinv⟩ :=
    h.finish env hpending (by simp) houtcome response errorNumber
  rw [hfinish] at htimers hwoken ⊢
  exact ⟨hinv, ⟨countOutcome_invariantFailures _ _, htimers, hwoken⟩, rfl, rfl⟩

/-- The loop of `fail_all` has passed the slots at `indices`. -/
structure Failed (system : System) (indices : List Nat) (next : System) : Prop where
  inv : System.Inv none next
  unharmed : Unharmed system next
  config : next.channel.config = system.channel.config
  free : ∀ index ∈ indices, next.channel.slots (UInt16.ofNat index) = none

theorem failed_foldl {pass : Nat × System → Nat → Nat × System}
    (hpass : ∀ done state index, Failed system done state.2 →
      Failed system (done ++ [index]) (pass state index).2)
    (indices done : List Nat) {state : Nat × System} (h : Failed system done state.2) :
    Failed system (done ++ indices) (indices.foldl pass state).2 := by
  induction indices generalizing done state with
  | nil => simpa using h
  | cons index indices ih =>
    rw [List.append_cons, List.foldl_cons]
    exact ih (done ++ [index]) (hpass done state index h)

/-- A slot that was passed is free, and an id that is not a slot is not pending. -/
theorem Failed.slots_free (h : Failed system
      (List.range system.channel.config.transactionIdCapacity) next) (id : UInt16) :
    next.channel.slots id = none := by
  cases hrunning : next.channel.running with
  | false => exact h.inv.stopped hrunning id
  | true =>
    have hids := h.inv.ids (h.inv.running hrunning).1
    by_contra hslot
    have hcapacity :=
      UpstreamChannel.capacity_of_pending hids.pool ((hids.pending_iff id).mpr hslot)
    rw [h.config] at hcapacity
    apply hslot
    rw [← UInt16.ofNat_toNat (x := id)]
    exact h.free id.toNat (List.mem_range.mpr (Nat.lt_of_not_le hcapacity))

/-- No query is pending after `cancel_all` of the channel. -/
theorem cancelAll_ends (env : Environment) (h : System.Inv none system) :
    System.Inv none (system.cancelAll env).2 ∧ Unharmed system (system.cancelAll env).2 ∧
      (system.cancelAll env).2.channel.pendingCount = 0 := by
  unfold System.cancelAll System.failAll
  split
  · rename_i hstopped
    have hrunning : system.channel.running = false := hstopped.resolve_right (by simp)
    exact ⟨h, Unharmed.refl system, h.counted.zero_iff.mpr (h.stopped hrunning)⟩
  have hends : ∀ {next : System}, Failed system
        (List.range system.channel.config.transactionIdCapacity) next →
      System.Inv none next ∧ Unharmed system next ∧ next.channel.pendingCount = 0 :=
    fun hfailed =>
      ⟨hfailed.inv, hfailed.unharmed, hfailed.inv.counted.zero_iff.mpr hfailed.slots_free⟩
  refine hends (failed_foldl ?_ _ [] ⟨h, Unharmed.refl system, rfl, by simp⟩)
  intro done state index hfailed
  split
  · rename_i hslot
    refine ⟨hfailed.inv, hfailed.unharmed, hfailed.config, ?_⟩
    intro other hother
    rcases List.mem_append.mp hother with hother | hother
    · exact hfailed.free other hother
    · rw [List.mem_singleton.mp hother]
      exact hslot
  · rename_i query hslot
    obtain ⟨hpending, hid⟩ := hfailed.inv.slot _ query hslot
    obtain ⟨hinv, hunharmed, hconfig, hslots⟩ :=
      finish_ends env hfailed.inv hpending (.inr (.inr (.inl rfl))) [] 0
    refine ⟨hinv, hfailed.unharmed.trans hunharmed, hconfig.trans hfailed.config, ?_⟩
    intro other hother
    dsimp only
    rw [hslots, hid]
    by_cases heq : UInt16.ofNat other = UInt16.ofNat index
    · rw [heq, Function.update_self]
    · rw [Function.update_of_ne heq]
      rcases List.mem_append.mp hother with hother | hother
      · exact hfailed.free other hother
      · exact absurd (List.mem_singleton.mp hother ▸ rfl) heq

/-! ## Timers -/

/-- When no query is pending the armed timers are those of sleeping tasks. -/
theorem sleep_of_armed (h : System.Inv none system) (hcount : system.channel.pendingCount = 0)
    {timer : Timer} (harmed : timer ∈ system.timers.heap.nodes) :
    ∃ sleep, timer = .sleep sleep := by
  cases timer with
  | query query =>
    have howner := (h.timers.owner_iff _).mpr harmed
    exact absurd (h.heldQuery query (.inl howner)) (h.not_pending hcount query)
  | sleep sleep => exact ⟨sleep, rfl⟩

/-- The loop of `cancel_all` of the timer queue has made a number of passes. -/
structure Woke (system : System) (failures : Nat) (next : System × DispatchResult) : Prop where
  inv : System.Inv none next.1
  unharmed : Unharmed system next.1
  channel : next.1.channel = system.channel
  failures_eq : next.2.scheduleFailures = failures

/-- The timer at the front is taken off, and its task is woken. -/
theorem completeFront_wakes (env : Environment) (h : System.Inv none system) {sleep : Nat}
    (hfront : system.timers.heap.nodes.head? = some (.sleep sleep)) (result : DispatchResult) :
    Woke system result.scheduleFailures
        ((System.host env).completeFront .cancelled (.sleep sleep) system result) ∧
      ((System.host env).completeFront .cancelled (.sleep sleep) system
        result).1.timers.heap.nodes.length + 1 = system.timers.heap.nodes.length := by
  have hremoved := h.removeFront hfront
  have hat : system.timers.heap.nodes[0]? = some (.sleep sleep) := by
    rwa [← List.head?_eq_getElem?]
  have howner := (h.timers.owner_iff _).mpr (List.mem_of_getElem? hat)
  obtain ⟨hcompleted, hinv⟩ :=
    hremoved.completeSleep (h.timers.removeAt hat).owner_eq .cancelled
  have hwoken := completeSleep_woken { system with timers := system.timers.removeAt 0 } sleep
    .cancelled
  obtain ⟨sleeps, scheduler, -, hframe⟩ := System.completeSleep_frame
    { system with timers := system.timers.removeAt 0 } sleep .cancelled
  have hlength : (system.timers.removeAt 0).heap.nodes.length + 1 =
      system.timers.heap.nodes.length := by
    unfold TimerQueue.removeAt
    rw [hat]
    exact (IndexedHeap.removeAt_keeps system.timers.earlier h.timers.indexed hat).2.length_eq
  have hfailures := removeAt_failures system.timers 0
  unfold TimerQueue.Host.completeFront
  dsimp only [System.host, System.completeTimer]
  rw [if_pos (h.timers.completion _ howner)]
  generalize System.completeSleep { system with timers := system.timers.removeAt 0 } sleep
    .cancelled = outcome at hcompleted hinv hwoken hframe
  obtain ⟨completed, next⟩ := outcome
  dsimp only at hcompleted hinv hwoken hframe ⊢
  rw [if_pos hcompleted]
  subst hframe
  exact ⟨⟨hinv, ⟨rfl, hfailures, hwoken⟩, rfl, rfl⟩, hlength⟩

theorem cancelLoop_wakes (env : Environment) (fuel : Nat) (result : DispatchResult)
    (h : System.Inv none system) (hcount : system.channel.pendingCount = 0)
    (hfuel : system.timers.heap.nodes.length ≤ fuel) :
    Woke system result.scheduleFailures ((System.host env).cancelLoop fuel system result) ∧
      ((System.host env).cancelLoop fuel system result).1.timers.heap.nodes = [] := by
  have hdone : system.timers.heap.nodes = [] →
      Woke system result.scheduleFailures (system, result) ∧ system.timers.heap.nodes = [] :=
    fun hnil => ⟨⟨h, Unharmed.refl system, rfl, rfl⟩, hnil⟩
  induction fuel generalizing system result with
  | zero => exact hdone (List.eq_nil_of_length_eq_zero (by omega))
  | succ fuel ih =>
    rw [TimerQueue.Host.cancelLoop]
    split
    · rename_i hnone
      exact hdone (List.head?_eq_none_iff.mp hnone)
    · rename_i timer hfront
      change system.timers.heap.nodes.head? = some timer at hfront
      obtain ⟨sleep, rfl⟩ := sleep_of_armed h hcount (List.mem_of_mem_head? hfront)
      obtain ⟨hwoke, hlength⟩ := completeFront_wakes env h hfront result
      generalize (System.host env).completeFront .cancelled (.sleep sleep) system result = outcome
        at hwoke hlength
      obtain ⟨next, result'⟩ := outcome
      dsimp only at hlength ⊢
      have hinv : System.Inv none next := hwoke.inv
      have hchannel : next.channel = system.channel := hwoke.channel
      have hcount' : next.channel.pendingCount = 0 := by rw [hchannel, hcount]
      obtain ⟨hrest, hnil⟩ := ih result' hinv hcount' (by omega)
        fun hnil => ⟨⟨hinv, Unharmed.refl next, rfl, rfl⟩, hnil⟩
      exact ⟨⟨hrest.inv, hwoke.unharmed.trans hrest.unharmed, hrest.channel.trans hchannel,
        hrest.failures_eq.trans hwoke.failures_eq⟩, hnil⟩

/-- No timer is armed after `cancel_all` of the timer queue. -/
theorem cancelTimers_ends (env : Environment) (h : System.Inv none system)
    (hcount : system.channel.pendingCount = 0) :
    Woke system 0 ((System.host env).cancelAll system) ∧
      ((System.host env).cancelAll system).1.timers.heap.nodes = [] := by
  unfold TimerQueue.Host.cancelAll
  split
  · rename_i hstopped
    change system.timers.running = false at hstopped
    refine ⟨⟨h, Unharmed.refl system, rfl, rfl⟩, ?_⟩
    by_contra harmed
    rw [h.timers.running harmed] at hstopped
    cases hstopped
  · exact cancelLoop_wakes env _ {} h hcount (Nat.le_refl _)

/-! ## Both -/

/-- The components are closed, and nothing is pending. -/
structure Drained (state next : State) : Prop where
  rests : Rests next
  unharmed : Unharmed state.system next.system
  destroyed : next.destroyed = state.destroyed
  frames : next.frames = state.frames
  count : next.system.channel.pendingCount = 0
  heap : next.system.timers.heap.nodes = []

theorem Rests.cancelPendingWork (env : Environment) (h : Rests state) :
    Drained state (state.cancelPendingWork env).1 ∧
      (state.cancelPendingWork env).2.scheduleFailures = 0 := by
  have hclosed := h.closeScheduler.inv.system.close.closeTimers
  obtain ⟨hfailed, hunharmed, hcount⟩ := cancelAll_ends env hclosed
  obtain ⟨hwoke, hheap⟩ := cancelTimers_ends env hfailed hcount
  have hplaces := hunharmed.woken.trans hwoke.unharmed.woken
  have hbefore : Unharmed state.system
      { state.closeScheduler.system.close with
        timers := state.closeScheduler.system.close.timers.close } :=
    ⟨rfl, rfl, rfl, rfl, rfl, rfl⟩
  refine ⟨⟨h.still hwoke.inv hplaces.places, hbefore.trans (hunharmed.trans hwoke.unharmed), rfl,
    rfl, ?_, hheap⟩, hwoke.failures_eq⟩
  exact (congrArg UpstreamChannel.pendingCount hwoke.channel).trans hcount

end DnsPro.WorkerRuntime
