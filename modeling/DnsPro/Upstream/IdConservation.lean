import DnsPro.Upstream.Completion

/-!
# No id is lost or given twice

Over every run of the channel the ids below the capacity stay divided between
the free ones, the retired ones and the pending ones, and the audit of `start`
and `stop` succeeds.
-/

namespace DnsPro.Upstream

open DnsPro.Protocol DnsPro.Runtime

/-- The id is at exactly one of the three places, and there once. -/
def InOnePlace (channel : UpstreamChannel) (id : UInt16) : Prop :=
  (channel.idStates id = .free ∧ channel.freeIds.count id = 1 ∧
    (channel.retiredIds.map RetiredId.id).count id = 0 ∧ channel.slots id = none) ∨
  (channel.idStates id = .retired ∧ channel.freeIds.count id = 0 ∧
    (channel.retiredIds.map RetiredId.id).count id = 1 ∧ channel.slots id = none) ∨
  (channel.idStates id = .pending ∧ channel.freeIds.count id = 0 ∧
    (channel.retiredIds.map RetiredId.id).count id = 0 ∧ channel.slots id ≠ none)

/-- The id is at none of them. -/
def InNoPlace (channel : UpstreamChannel) (id : UInt16) : Prop :=
  channel.idStates id = .unavailable ∧ channel.freeIds.count id = 0 ∧
    (channel.retiredIds.map RetiredId.id).count id = 0 ∧ channel.slots id = none

namespace IdsOk

variable {channel : UpstreamChannel}

theorem count_free (h : IdsOk channel) (id : UInt16) :
    channel.freeIds.count id = if channel.idStates id = .free then 1 else 0 := by
  split
  · rename_i hfree
    exact List.count_eq_one_of_mem h.pool.free_nodup ((h.pool.free_iff id).mpr hfree)
  · rename_i hfree
    exact List.count_eq_zero_of_not_mem fun hmem => hfree ((h.pool.free_iff id).mp hmem)

theorem count_retired (h : IdsOk channel) (id : UInt16) :
    (channel.retiredIds.map RetiredId.id).count id =
      if channel.idStates id = .retired then 1 else 0 := by
  split
  · rename_i hretired
    exact List.count_eq_one_of_mem h.pool.retired_nodup ((h.pool.retired_iff id).mpr hretired)
  · rename_i hretired
    exact List.count_eq_zero_of_not_mem fun hmem => hretired ((h.pool.retired_iff id).mp hmem)

theorem slot_eq_none (h : IdsOk channel) (id : UInt16) (hstate : channel.idStates id ≠ .pending) :
    channel.slots id = none := by
  by_contra hslot
  exact hstate ((h.pending_iff id).mpr hslot)

theorem inOnePlace (h : IdsOk channel) {id : UInt16}
    (hid : id.toNat < channel.config.transactionIdCapacity) : InOnePlace channel id := by
  have hfree := h.count_free id
  have hretired := h.count_retired id
  unfold InOnePlace
  cases hstate : channel.idStates id with
  | unavailable =>
    have := (h.pool.unavailable_iff id).mp hstate
    omega
  | free =>
    have := h.slot_eq_none id (by simp [hstate])
    simp_all
  | pending =>
    have := (h.pending_iff id).mp hstate
    simp_all
  | retired =>
    have := h.slot_eq_none id (by simp [hstate])
    simp_all

theorem inNoPlace (h : IdsOk channel) {id : UInt16}
    (hid : channel.config.transactionIdCapacity ≤ id.toNat) : InNoPlace channel id := by
  have hstate := (h.pool.unavailable_iff id).mpr hid
  refine ⟨hstate, ?_, ?_, h.slot_eq_none id (by simp [hstate])⟩
  · rw [h.count_free, hstate]
    rfl
  · rw [h.count_retired, hstate]
    rfl

end IdsOk

theorem Counted.ncard_eq {slots : UInt16 → Option QueryId} {pendingCount : Nat}
    (h : Counted slots pendingCount) : pendingCount = {id | slots id ≠ none}.ncard := by
  obtain ⟨ids, hmem, rfl⟩ := h
  rw [← Set.ncard_coe_finset]
  congr 1
  ext id
  simp [hmem]

namespace System

/-- The transaction-id pool.  In every run: once the channel has been started,
every id below the capacity is free, retired or pending, at exactly one of the
three places and there once, and every other id is at none; `pending_count_` is
the number of occupied slots; two pending queries have different ids; no
failure is counted unless a datagram ran out of memory; and the audit succeeds
at every `stop` without a pending query and at every `start` that reaches it. -/
theorem ids_conserved (env : Environment) {labels : List Label} {system : System}
    (hrun : run env labels = some system) :
    (system.channel.hasStarted = true → ∀ id : UInt16,
      (id.toNat < system.channel.config.transactionIdCapacity → InOnePlace system.channel id) ∧
      (system.channel.config.transactionIdCapacity ≤ id.toNat → InNoPlace system.channel id)) ∧
    system.channel.pendingCount = {id | system.channel.slots id ≠ none}.ncard ∧
    (∀ query other, (system.queries query).state = .pending →
      (system.queries other).state = .pending →
      (system.queries query).transactionId = (system.queries other).transactionId →
      query = other) ∧
    (Event.outOfMemory ∉ system.log → system.channel.stats.invariantFailures = 0) ∧
    (system.channel.hasStarted = true → system.channel.pendingCount = 0 →
      system.channel.validateIdPool system.channel.config.transactionIdCapacity = true) ∧
    ∀ socketFd config discarded, system.startable socketFd config discarded = true →
      (system.preparePool env config).channel.validateIdPool config.transactionIdCapacity =
        true := by
  have h := inv_run env hrun
  refine ⟨?_, h.counted.ncard_eq, ?_, h.failures, h.validated, ?_⟩
  · intro hstarted id
    exact ⟨(h.ids hstarted).inOnePlace, (h.ids hstarted).inNoPlace⟩
  · intro query other hquery hother hid
    have hslot := (h.pending query hquery).slot
    rw [hid, (h.pending other hother).slot] at hslot
    exact (Option.some.inj hslot).symm
  · intro socketFd config discarded hstartable
    obtain ⟨hconfig, -, hcount, hsame⟩ := startable_config hstartable
    have hprepared := h.preparePool env hconfig hcount hsame
    exact UpstreamChannel.validateIdPool_of_pool hconfig.capacity_pos hconfig.capacity_le
      hprepared.pool hprepared.count hprepared.slots hprepared.not_pending

theorem ids_conserved_when_answered : ∃ system,
    run sampleEnvironment (sampleStart ++ sampleAnswered) = some system ∧
    system.channel.stats.invariantFailures = 0 ∧ InOnePlace system.channel 0 ∧
    InNoPlace system.channel 1 := by
  obtain ⟨system, hrun, hstarted, hconfig, hmemory⟩ : ∃ system,
      run sampleEnvironment (sampleStart ++ sampleAnswered) = some system ∧
      system.channel.hasStarted = true ∧ system.channel.config = sampleConfig ∧
      Event.outOfMemory ∉ system.log :=
    ⟨_, Transition.run_append.mpr ⟨_, run_sampleStart, rfl⟩, rfl, rfl, by decide⟩
  obtain ⟨hplaces, -, -, hfailures, -⟩ := ids_conserved sampleEnvironment hrun
  have hcapacity : system.channel.config.transactionIdCapacity = 1 := by rw [hconfig]; rfl
  refine ⟨system, hrun, hfailures hmemory, (hplaces hstarted 0).1 ?_, (hplaces hstarted 1).2 ?_⟩
  · rw [hcapacity]
    decide
  · rw [hcapacity]
    decide

end System

end DnsPro.Upstream
