import DnsPro.Upstream.IdConservation

/-!
# A used id rests before it is given again

When a query that was sent ends, its id stays retired for `id_reuse_guard`.  The
log orders the ends of queries and the ids that `begin` was given, and the
invariant below follows the entry of an ended query through `retired_ids_`: it
is there until the clock was read at or after the end of the quarantine.
-/

namespace DnsPro.Upstream

open DnsPro.Protocol DnsPro.Runtime

/-- The id of the query that the event ends, and when it ends. -/
def Event.retires : Event → Option (UInt16 × TimePoint)
  | .scheduled _ id now _ => some (id, now)
  | .abandoned _ id now => some (id, now)
  | _ => none

/-- `t + id_reuse_guard`, saturated at `TimePoint::max()`. -/
def ChannelConfig.quarantineEnd (config : ChannelConfig) (now : TimePoint) : TimePoint :=
  min (now + config.idReuseGuard) durationMax

/-- An event that comes after the end of a query and gives its id away comes
after the quarantine. -/
def Event.Respects (config : ChannelConfig) (ended later : Event) : Prop :=
  ∀ query id now reused, ended.retires = some (id, now) → later = .allocated query id reused →
    config.quarantineEnd now ≤ reused

theorem Event.Respects.of_retires_eq_none {config : ChannelConfig} {event later : Event}
    (hevent : event.retires = none) : event.Respects config later := by
  intro query id now reused hretires
  rw [hevent] at hretires
  cases hretires

theorem UpstreamChannel.quarantineEnd_le {channel : UpstreamChannel} (hvalid : channel.config.Valid)
    (now : TimePoint) : channel.config.quarantineEnd now ≤ channel.guardedReuseTime now := by
  have hguard := hvalid.timeout_pos.trans_le hvalid.timeout_le
  unfold ChannelConfig.quarantineEnd guardedReuseTime
  dsimp only
  rw [if_neg (not_le.mpr hguard)]
  split
  · exact min_le_right _ _
  · exact min_le_left _ _

namespace System

variable {env : Environment} {exempt : Option Timer} {system next : System} {query : QueryId}

/-- The quarantine that began at `now` is kept by an entry of `retired_ids_`, or
the clock was read after it. -/
def Rests (env : Environment) (config : ChannelConfig) (retired : List RetiredId) (readings : Nat)
    (id : UInt16) (now : TimePoint) : Prop :=
  (∃ entry ∈ retired, entry.id = id ∧ config.quarantineEnd now ≤ entry.reusableAt) ∨
    ∃ reading < readings, config.quarantineEnd now ≤ env.clock reading

structure Quarantined (env : Environment) (system : System) : Prop where
  rests : ∀ event ∈ system.log, ∀ id now, event.retires = some (id, now) →
    Rests env system.channel.config system.channel.retiredIds system.readings id now
  ordered : system.log.Pairwise (Event.Respects system.channel.config)
  unstarted : system.channel.hasStarted = false → ∀ event ∈ system.log, event.retires = none

/-- Entries leave `retired_ids_` only when the clock has reached them. -/
theorem Rests.mono {config : ChannelConfig} {retired retired' : List RetiredId}
    {readings readings' : Nat} {id : UInt16} {now : TimePoint}
    (h : Rests env config retired readings id now) (hreadings : readings ≤ readings')
    (hkept : ∀ entry ∈ retired, entry ∈ retired' ∨
      ∃ reading < readings', entry.reusableAt ≤ env.clock reading) :
    Rests env config retired' readings' id now := by
  obtain ⟨entry, hentry, hid, hend⟩ | ⟨reading, hreading, hend⟩ := h
  · obtain hmem | ⟨reading, hreading, hreached⟩ := hkept entry hentry
    · exact .inl ⟨entry, hmem, hid, hend⟩
    · exact .inr ⟨reading, hreading, hend.trans hreached⟩
  · exact .inr ⟨reading, hreading.trans_le hreadings, hend⟩

/-- A step that ends no query and gives no id away. -/
theorem Quarantined.reclaimed (h : Quarantined env system)
    (hkept : ∀ entry ∈ system.channel.retiredIds, entry ∈ next.channel.retiredIds ∨
      ∃ reading < next.readings, entry.reusableAt ≤ env.clock reading)
    (hconfig : next.channel.config = system.channel.config)
    (hstarted : next.channel.hasStarted = system.channel.hasStarted)
    (hreadings : system.readings ≤ next.readings) (hlog : next.log = system.log) :
    Quarantined env next := by
  constructor
  · intro event hevent id now hretires
    rw [hlog] at hevent
    rw [hconfig]
    exact (h.rests event hevent id now hretires).mono hreadings hkept
  · rw [hlog, hconfig]
    exact h.ordered
  · rw [hlog, hstarted]
    exact h.unstarted

theorem Quarantined.frame (h : Quarantined env system)
    (hretired : next.channel.retiredIds = system.channel.retiredIds)
    (hconfig : next.channel.config = system.channel.config)
    (hstarted : next.channel.hasStarted = system.channel.hasStarted)
    (hreadings : system.readings ≤ next.readings) (hlog : next.log = system.log) :
    Quarantined env next := by
  refine h.reclaimed (fun entry hentry => .inl ?_) hconfig hstarted hreadings hlog
  rwa [hretired]

/-- An event that neither ends a query nor gives an id away. -/
theorem Quarantined.note (h : Quarantined env system) (event : Event)
    (hevent : event.retires = none) (hgiven : ∀ query id now, event ≠ .allocated query id now) :
    Quarantined env { system with log := system.log ++ [event] } := by
  constructor
  · intro other hother id now hretires
    rcases List.mem_append.mp hother with hold | hnew
    · exact h.rests other hold id now hretires
    · rw [List.mem_singleton.mp hnew, hevent] at hretires
      cases hretires
  · rw [List.pairwise_append]
    refine ⟨h.ordered, List.pairwise_singleton _ _, ?_⟩
    intro ended _ later hlater query id now reused _ heq
    exact absurd ((List.mem_singleton.mp hlater).symm.trans heq) (hgiven query id reused)
  · intro hstarted other hother
    rcases List.mem_append.mp hother with hold | hnew
    · exact h.unstarted hstarted other hold
    · rw [List.mem_singleton.mp hnew, hevent]

/-- A query ends, and its id is retired. -/
theorem Quarantined.retire (h : Quarantined env system) (hvalid : system.channel.config.Valid)
    {event : Event} {id : UInt16} {now : TimePoint} (hevent : event.retires = some (id, now))
    (hretired : next.channel.retiredIds.Perm
      (⟨system.channel.guardedReuseTime now, id⟩ :: system.channel.retiredIds))
    (hconfig : next.channel.config = system.channel.config)
    (hstarted : next.channel.hasStarted = true)
    (hreadings : system.readings ≤ next.readings) (hlog : next.log = system.log ++ [event]) :
    Quarantined env next := by
  constructor
  · intro other hother id' now' hretires
    rw [hconfig]
    rw [hlog] at hother
    rcases List.mem_append.mp hother with hold | hnew
    · refine (h.rests other hold id' now' hretires).mono hreadings fun entry hentry => .inl ?_
      exact hretired.mem_iff.mpr (List.mem_cons_of_mem _ hentry)
    · rw [List.mem_singleton.mp hnew, hevent] at hretires
      obtain ⟨rfl, rfl⟩ := Prod.mk.inj (Option.some.inj hretires)
      refine .inl ⟨_, hretired.mem_iff.mpr (List.mem_cons_self ..), rfl, ?_⟩
      exact UpstreamChannel.quarantineEnd_le hvalid now
  · rw [hlog, hconfig, List.pairwise_append]
    refine ⟨h.ordered, List.pairwise_singleton _ _, ?_⟩
    intro ended _ later hlater query id' now' reused _ heq
    rw [List.mem_singleton.mp hlater] at heq
    rw [heq] at hevent
    cases hevent
  · intro hunstarted
    rw [hstarted] at hunstarted
    cases hunstarted

/-! ## Ending a query -/

theorem Quarantined.finish (h : Quarantined env system) (hinv : Inv exempt system)
    (hpending : (system.queries query).state = .pending)
    (hexempt : ∀ timer, exempt = some timer → timer = .query query) {outcome : QueryOutcome}
    (houtcome : Ending outcome) (response : Bytes) (errorNumber : Int) :
    Quarantined env (system.finish env query outcome response errorNumber).2 := by
  obtain ⟨hstarted, -⟩ := hinv.running (hinv.pending query hpending).running
  obtain ⟨timers, retired, hfinish, -, hperm, -⟩ :=
    hinv.finish env hpending hexempt houtcome response errorNumber
  rw [hfinish]
  exact h.retire (hinv.ids hstarted).config rfl hperm rfl hstarted (Nat.le_succ _) rfl

theorem Quarantined.destroyQuery (h : Quarantined env system) (hinv : Inv none system) :
    Quarantined env (system.destroyQuery env query) := by
  have habandon : Quarantined env (system.abandon env query) := by
    by_cases hpending : (system.queries query).state = .pending
    · obtain ⟨hstarted, -⟩ := hinv.running (hinv.pending query hpending).running
      obtain ⟨timers, retired, habandon, -, hperm, -⟩ := hinv.abandon env hpending
      rw [habandon]
      exact h.retire (hinv.ids hstarted).config rfl hperm rfl hstarted (Nat.le_succ _) rfl
    · unfold System.abandon
      simpa [hpending] using h
  unfold System.destroyQuery
  dsimp only
  split
  · exact habandon.frame rfl rfl rfl (Nat.le_refl _) rfl
  · exact h.frame rfl rfl rfl (Nat.le_refl _) rfl

theorem quarantined_stable (env : Environment) : Stable env (Quarantined env) where
  frame _ _ _ h := h.frame rfl rfl rfl (Nat.le_refl _) rfl
  stats _ h := h.frame rfl rfl rfl (Nat.le_refl _) rfl
  outOfMemory h := h.note .outOfMemory rfl (by simp)
  finish response errorNumber hinv h hpending hexempt houtcome _ :=
    h.finish hinv hpending hexempt houtcome response errorNumber

/-! ## Starting, and giving ids away -/

/-- Before the first start no query has ended. -/
theorem Quarantined.first (h : Quarantined env system)
    (hunstarted : system.channel.hasStarted = false) (hlog : next.log = system.log) :
    Quarantined env next := by
  have hnone : ∀ event ∈ next.log, event.retires = none := by
    rw [hlog]
    exact h.unstarted hunstarted
  constructor
  · intro event hevent id now hretires
    rw [hnone event hevent] at hretires
    cases hretires
  · rw [List.pairwise_iff_forall_sublist]
    intro ended later hsublist
    exact Event.Respects.of_retires_eq_none (hnone ended (hsublist.subset (List.mem_cons_self ..)))
  · exact fun _ => hnone

theorem Quarantined.start (h : Quarantined env system) (hinv : Inv none system) (socketFd : Int)
    (config : ChannelConfig) (discarded faulty : Bool) :
    Quarantined env (system.start env socketFd config discarded faulty).2 := by
  rw [hinv.start_eq]
  split
  · exact h
  rename_i hstartable
  obtain ⟨-, -, -, hsame⟩ := startable_config (Bool.eq_true_of_not_eq_false hstartable)
  split
  · rename_i hfirst
    exact h.first hfirst.1 rfl
  cases hstarted : system.channel.hasStarted with
  | false =>
    refine h.first hstarted ?_
    simp [System.preparePool, hstarted]
  | true =>
    have hids := hinv.ids hstarted
    have hreclaimed := UpstreamChannel.reclaimIds_spec env
      { system.channel with slots := fun _ => none, stats := {} } (system.now env) hids.pool
      fun id hslot => absurd rfl hslot
    have hprepared : system.preparePool env config = { system with
        channel := UpstreamChannel.reclaimIds env (system.now env)
          { system.channel with slots := fun _ => none, stats := {} }
        readings := system.readings + 1 } := by
      unfold System.preparePool
      rw [if_pos hstarted]
    rw [hprepared]
    refine h.reclaimed ?_ (hsame hstarted) hstarted.symm (Nat.le_succ _) rfl
    exact fun entry hentry => (hreclaimed.kept entry hentry).imp_right fun hreached =>
      ⟨system.readings, Nat.lt_succ_self _, hreached⟩

/-- `begin` logs the id that it was given. -/
theorem Quarantined.allocate (h : Quarantined env system) (hclock : Monotone env.clock)
    (query : QueryId) {id : UInt16} {channel : UpstreamChannel}
    (hreserved : Reserved (system.now env) system channel id) :
    Quarantined env { system with
      channel := channel
      readings := system.readings + 1
      log := system.log ++ [.allocated query id (system.now env)] } := by
  have hconfig := hreserved.frame.config_eq
  have hstarted : channel.hasStarted = system.channel.hasStarted := by rw [hreserved.frame]
  constructor
  · intro event hevent id' now hretires
    show Rests env channel.config channel.retiredIds (system.readings + 1) id' now
    rcases List.mem_append.mp hevent with hold | hnew
    · rw [hconfig]
      refine (h.rests event hold id' now hretires).mono (Nat.le_succ _) fun entry hentry => ?_
      exact (hreserved.kept entry hentry).imp_right fun hreached =>
        ⟨system.readings, Nat.lt_succ_self _, hreached⟩
    · rw [List.mem_singleton.mp hnew] at hretires
      cases hretires
  · show (system.log ++ _).Pairwise (Event.Respects channel.config)
    rw [hconfig, List.pairwise_append]
    refine ⟨h.ordered, List.pairwise_singleton _ _, ?_⟩
    intro ended hended later hlater query' id' now reused hretires heq
    rw [List.mem_singleton.mp hlater] at heq
    obtain ⟨-, rfl, rfl⟩ := Event.allocated.inj heq
    obtain ⟨entry, hentry, rfl, hend⟩ | ⟨reading, hreading, hend⟩ :=
      h.rests ended hended id now hretires
    · -- an entry that is still there would make the id retired, and it is pending
      obtain hmem | hreached := hreserved.kept entry hentry
      · have hretired := (hreserved.pool.retired_iff entry.id).mp (List.mem_map_of_mem hmem)
        rw [hreserved.state] at hretired
        cases hretired
      · exact hend.trans hreached
    · exact hend.trans (hclock hreading.le)
  · intro hunstarted event hevent
    change channel.hasStarted = false at hunstarted
    rcases List.mem_append.mp hevent with hold | hnew
    · exact h.unstarted (hstarted ▸ hunstarted) event hold
    · rw [List.mem_singleton.mp hnew]
      rfl

/-- The rest of `begin`. -/
theorem Quarantined.continue (h : Quarantined env system) {next : System}
    (hnext : Continues system.channel system.readings system.log query next) :
    Quarantined env next := by
  rcases hnext.log with hlog | hlog
  · exact h.frame hnext.retired hnext.config hnext.started hnext.readings hlog
  · exact (h.note (.suspended query) rfl (by simp)).frame hnext.retired hnext.config
      hnext.started hnext.readings hlog

theorem Quarantined.begin (h : Quarantined env system) (hclock : Monotone env.clock)
    (htrace : BeginTrace env query system next) : Quarantined env next := by
  cases htrace with
  | refused heq => exact heq ▸ h
  | overloaded channel hreclaimed hnext =>
    have hframe := hreclaimed.frame
    have hmiddle : Quarantined env
        { system with channel := channel, readings := system.readings + 1 } := by
      refine h.reclaimed ?_ hframe.config_eq ?_ (Nat.le_succ _) rfl
      · exact fun entry hentry => (hreclaimed.kept entry hentry).imp_right fun hreached =>
          ⟨system.readings, Nat.lt_succ_self _, hreached⟩
      · show channel.hasStarted = system.channel.hasStarted
        rw [hframe]
    exact hmiddle.continue hnext
  | allocated id channel hreserved hnext =>
    have hmiddle := h.allocate hclock query hreserved
    exact hmiddle.continue hnext

theorem Quarantined.awaitQuery (h : Quarantined env system) (hinv : Inv none system)
    (hclock : Monotone env.clock) (halive : (system.queries query).alive = true)
    (hexecuting : system.executing (system.queries query).frame) (writeFails armFails : Bool)
    (sent : SendOutcome) :
    Quarantined env (system.awaitQuery env query writeFails armFails sent) := by
  unfold System.awaitQuery
  dsimp only
  split
  · exact h.frame rfl rfl rfl (Nat.le_refl _) rfl
  split
  · exact h.frame rfl rfl rfl (Nat.le_refl _) rfl
  split
  · exact h.frame rfl rfl rfl (Nat.le_refl _) rfl
  rename_i hfresh
  have hidle : (system.queries query).state = .idle := by
    by_contra hstate
    exact hfresh (.inr hstate)
  have hbegin := fun result next hresult => h.begin hclock
    (Idle.begin env ⟨hinv, halive, hidle⟩ hexecuting writeFails armFails sent result next hresult).1
  split
  · rename_i next hresult
    exact hbegin _ _ hresult
  · rename_i next hresult
    exact (hbegin _ _ hresult).frame rfl rfl rfl (Nat.le_refl _) rfl
  · rename_i result next _ hresult
    exact (hbegin _ _ hresult).frame rfl rfl rfl (Nat.le_refl _) rfl

/-! ## Runs -/

theorem quarantined_initial (env : Environment) : Quarantined env initial where
  rests event hevent := by cases hevent
  ordered := List.Pairwise.nil
  unstarted _ event hevent := by cases hevent

theorem quarantined_step (hclock : Monotone env.clock) (label : Label) (hinv : Inv none system)
    (h : Quarantined env system) (hstep : step env system label = some next) :
    Quarantined env next := by
  have hkept := (quarantined_stable env).kept
  have hframe : ∀ next : System, next.channel = system.channel →
      system.readings ≤ next.readings → next.log = system.log → Quarantined env next :=
    fun next hchannel hreadings hlog => h.frame (by rw [hchannel]) (by rw [hchannel])
      (by rw [hchannel]) hreadings hlog
  cases label with
  | start socketFd config discarded faulty =>
    obtain rfl := Option.some.inj hstep
    exact h.start hinv socketFd config discarded faulty
  | close =>
    obtain rfl := Option.some.inj hstep
    exact h.frame rfl rfl rfl (Nat.le_refl _) rfl
  | stop =>
    obtain rfl := Option.some.inj hstep
    rw [hinv.stop_eq]
    split
    · exact h
    · exact h.frame rfl rfl rfl (Nat.le_refl _) rfl
  | query task header question =>
    obtain ⟨-, rfl⟩ := Transition.enabled hstep
    exact hframe _ rfl (Nat.le_succ _) rfl
  | awaitQuery query writeFails armFails sent =>
    obtain ⟨⟨halive, hexecuting⟩, rfl⟩ := Transition.enabled hstep
    exact h.awaitQuery hinv hclock halive hexecuting writeFails armFails sent
  | destroyQuery query =>
    obtain ⟨-, rfl⟩ := Transition.enabled hstep
    exact h.destroyQuery hinv
  | handleDatagram packet truncated allocationFails =>
    obtain rfl := Option.some.inj hstep
    exact (hkept.handleDatagram ⟨hinv, h⟩ packet truncated allocationFails).2
  | drain budget received =>
    obtain rfl := Option.some.inj hstep
    exact (hkept.drain ⟨hinv, h⟩ budget received).2
  | failAll outcome errorNumber =>
    obtain rfl := Option.some.inj hstep
    exact (hkept.failAll ⟨hinv, h⟩ outcome errorNumber).2
  | expire now budget =>
    obtain rfl := Option.some.inj hstep
    exact (hkept.expire ⟨hinv, h⟩ now budget).2
  | cancelTimers =>
    obtain rfl := Option.some.inj hstep
    exact (hkept.cancelTimers ⟨hinv, h⟩).2
  | startTimers | closeTimers | stopTimers | clearReady | requestStop =>
    obtain rfl := Option.some.inj hstep
    exact hframe _ rfl (Nat.le_refl _) rfl
  | awaitSleep sleep armFails =>
    obtain ⟨-, rfl⟩ := Transition.enabled hstep
    obtain ⟨sleeps, scheduler, timers, hsleep⟩ := awaitSleep_frame system sleep armFails
    rw [hsleep]
    exact hframe _ rfl (Nat.le_refl _) rfl
  | resume =>
    obtain ⟨scheduler, -, rfl⟩ := Option.map_eq_some_iff.mp hstep
    exact hframe _ rfl (Nat.le_refl _) rfl
  | queryUntil | sleepUntil | destroySleep | spawn | yield | awaitTask | complete =>
    obtain ⟨-, rfl⟩ := Transition.enabled hstep
    exact hframe _ rfl (Nat.le_refl _) rfl

theorem quarantined_run (hclock : Monotone env.clock) {labels : List Label}
    (hrun : run env labels = some system) : Quarantined env system :=
  (Transition.run_invariant (fun system => Inv none system ∧ Quarantined env system)
    (fun _ label _ h hstep =>
      ⟨inv_step env label h.1 hstep, quarantined_step hclock label h.1 h.2 hstep⟩)
    ⟨inv_initial, quarantined_initial env⟩ hrun).2

/-! ## The guarantee -/

/-- During its quarantine an id has no slot. -/
theorem Quarantined.slot_eq_none (h : Quarantined env system) (hinv : Inv none system)
    {ended : Event} (hended : ended ∈ system.log) {id : UInt16} {now time : TimePoint}
    (hretires : ended.retires = some (id, now))
    (hread : ∀ reading < system.readings, env.clock reading ≤ time)
    (hwindow : time < system.channel.config.quarantineEnd now) : system.channel.slots id = none := by
  cases hstarted : system.channel.hasStarted with
  | false =>
    rw [h.unstarted hstarted ended hended] at hretires
    cases hretires
  | true =>
    obtain ⟨entry, hentry, rfl, -⟩ | ⟨reading, hreading, hend⟩ :=
      h.rests ended hended id now hretires
    · have hids := hinv.ids hstarted
      have hretired := (hids.pool.retired_iff entry.id).mp (List.mem_map_of_mem hentry)
      exact hids.slot_eq_none entry.id (by simp [hretired])
    · exact absurd (hend.trans (hread reading hreading)) (not_le.mpr hwindow)

/-- A datagram whose id nobody waits for. -/
theorem handleDatagram_of_slot_eq_none (env : Environment) {packet : Bytes} {id : UInt16}
    (hid : transactionId packet = some id) (hslot : system.channel.slots id = none)
    (truncated allocationFails : Bool) :
    system.handleDatagram env packet truncated allocationFails =
      if system.channel.running = false then (.invariantFailure, system)
      else if truncated ∨ upstreamReceiveBufferSize < packet.length then
        (.invalid, system.countInvalid)
      else (.unmatched, system.countUnmatched) := by
  unfold System.handleDatagram
  rw [hid]
  dsimp only
  rw [hslot]
  dsimp only
  rw [ite_self]

/-- Id quarantine.  In every run with a clock that does not go back, an id of a
query that was sent and has ended at `now` is given to no later `begin` before the
end of the quarantine.  A datagram with this id that is handled during the
quarantine completes no query: it is counted as unmatched, or as invalid when it
is truncated or too long, and a channel that does not run ignores it. -/
theorem id_quarantine (env : Environment) (hclock : Monotone env.clock) {labels : List Label}
    {system : System} (hrun : run env labels = some system) :
    (∀ before between after ended query id now reused,
      system.log = before ++ ended :: (between ++ .allocated query id reused :: after) →
      ended.retires = some (id, now) →
      min (now + system.channel.config.idReuseGuard) durationMax ≤ reused) ∧
    ∀ ended ∈ system.log, ∀ id now time, ended.retires = some (id, now) →
      (∀ reading < system.readings, env.clock reading ≤ time) →
      time < min (now + system.channel.config.idReuseGuard) durationMax →
      ∀ packet truncated allocationFails, transactionId packet = some id →
        system.handleDatagram env packet truncated allocationFails =
          if system.channel.running = false then (.invariantFailure, system)
          else if truncated ∨ upstreamReceiveBufferSize < packet.length then
            (.invalid, system.countInvalid)
          else (.unmatched, system.countUnmatched) := by
  have h := quarantined_run hclock hrun
  constructor
  · intro before between after ended query id now reused hlog hretires
    have hordered := h.ordered
    rw [hlog, List.pairwise_append, List.pairwise_cons] at hordered
    exact hordered.2.1.1 _ (List.mem_append_right _ (List.mem_cons_self ..)) query id now reused
      hretires rfl
  · intro ended hended id now time hretires hread hwindow packet truncated allocationFails hid
    exact handleDatagram_of_slot_eq_none env hid
      (h.slot_eq_none (inv_run env hrun) hended hretires hread hwindow) truncated allocationFails

/-- The response comes twice: the second one is unmatched. -/
theorem duplicate_unmatched_in_quarantine : ∃ system,
    run sampleEnvironment (sampleStart ++ sampleAnswered) = some system ∧
    Event.scheduled 0 0 1 .response ∈ system.log ∧
    (system.handleDatagram sampleEnvironment sampleReply false false).1 = .unmatched := by
  obtain ⟨system, hrun, hlog, hreadings, hguard, hrunning⟩ : ∃ system,
      run sampleEnvironment (sampleStart ++ sampleAnswered) = some system ∧
      Event.scheduled 0 0 1 .response ∈ system.log ∧ system.readings = 2 ∧
      system.channel.config.idReuseGuard = 4000000000 ∧ system.channel.running = true :=
    ⟨_, Transition.run_append.mpr ⟨_, run_sampleStart, rfl⟩, by decide, rfl, rfl, rfl⟩
  have hclock : Monotone sampleEnvironment.clock := fun _ _ h => Int.ofNat_le.mpr h
  refine ⟨system, hrun, hlog, ?_⟩
  rw [(id_quarantine sampleEnvironment hclock hrun).2 _ hlog 0 1 2 rfl ?_ ?_ sampleReply false false
    (by decide)]
  · rw [if_neg (by simp [hrunning]), if_neg (by decide)]
  · intro reading hreading
    rw [hreadings] at hreading
    exact Int.ofNat_le.mpr hreading.le
  · rw [hguard]
    decide

/-- The second response is truncated on its way: it is invalid. -/
theorem truncated_duplicate_invalid : ∃ system,
    run sampleEnvironment (sampleStart ++ sampleAnswered) = some system ∧
    Event.scheduled 0 0 1 .response ∈ system.log ∧
    (∀ reading < system.readings, sampleEnvironment.clock reading ≤ 2) ∧
    (2 : Int) < min (1 + system.channel.config.idReuseGuard) durationMax ∧
    transactionId sampleReply = some 0 ∧
    (system.handleDatagram sampleEnvironment sampleReply true false).1 = .invalid := by
  refine ⟨_, Transition.run_append.mpr ⟨_, run_sampleStart, rfl⟩, by decide,
    ?_, by decide, by decide, by decide⟩
  intro reading hreading
  exact Int.ofNat_le.mpr (Nat.le_of_lt hreading)

end System

end DnsPro.Upstream
