import DnsPro.Upstream.Channel

/-!
# The id pool keeps every id

`PoolOk` says where each id is.  An id below the capacity is free and stands
once among the free ids, or retired and stands once in the heap, or pending;
the other ids are unavailable.  Each operation of the pool keeps this when the
slots agree with the states, and none of their checks fails.
-/

namespace DnsPro.Upstream

open DnsPro.Protocol DnsPro.Runtime

/-- Where each id is. -/
structure PoolOk (capacity : Nat) (idStates : UInt16 → IdState) (freeIds : List UInt16)
    (retiredIds : List RetiredId) : Prop where
  free_nodup : freeIds.Nodup
  free_iff : ∀ id, id ∈ freeIds ↔ idStates id = .free
  retired_nodup : (retiredIds.map RetiredId.id).Nodup
  retired_iff : ∀ id, id ∈ retiredIds.map RetiredId.id ↔ idStates id = .retired
  unavailable_iff : ∀ id, idStates id = .unavailable ↔ capacity ≤ id.toNat
  heap : isHeap retiredLater retiredIds = true

/-- An id that is neither free nor retired becomes free. -/
theorem PoolOk.insert_free {capacity : Nat} {idStates : UInt16 → IdState}
    {freeIds ids : List UInt16} {retiredIds : List RetiredId} (id : UInt16)
    (h : PoolOk capacity idStates freeIds retiredIds)
    (hfree : idStates id ≠ .free) (hretired : idStates id ≠ .retired)
    (havailable : idStates id ≠ .unavailable) (hperm : ids.Perm (id :: freeIds)) :
    PoolOk capacity (Function.update idStates id .free) ids retiredIds := by
  refine ⟨?_, ?_, h.retired_nodup, ?_, ?_, h.heap⟩
  · rw [hperm.nodup_iff, List.nodup_cons, h.free_iff]
    exact ⟨hfree, h.free_nodup⟩
  · intro other
    rw [hperm.mem_iff, List.mem_cons, h.free_iff]
    by_cases hother : other = id <;> simp [hother]
  · intro other
    rw [h.retired_iff]
    by_cases hother : other = id
    · simp [hother, hretired]
    · simp [hother]
  · intro other
    rw [← h.unavailable_iff]
    by_cases hother : other = id
    · simp [hother, havailable]
    · simp [hother]

/-- A pending id is taken from the front of the retired ones. -/
theorem PoolOk.remove_retired {capacity : Nat} {idStates : UInt16 → IdState}
    {freeIds : List UInt16} {retiredIds rest : List RetiredId} {retired : RetiredId}
    (h : PoolOk capacity idStates freeIds retiredIds)
    (hperm : (rest ++ [retired]).Perm retiredIds) (hheap : isHeap retiredLater rest = true) :
    PoolOk capacity (Function.update idStates retired.id .pending) freeIds rest := by
  have hids : (retired.id :: rest.map RetiredId.id).Perm (retiredIds.map RetiredId.id) := by
    have := hperm.map RetiredId.id
    rw [List.map_append, List.map_singleton] at this
    exact (List.perm_append_singleton _ _).symm.trans this
  have hnodup := hids.nodup_iff.mpr h.retired_nodup
  rw [List.nodup_cons] at hnodup
  have hstate : idStates retired.id = .retired := by
    rw [← h.retired_iff, ← hids.mem_iff]
    exact List.mem_cons_self
  refine ⟨h.free_nodup, ?_, hnodup.2, ?_, ?_, hheap⟩
  · intro other
    rw [h.free_iff]
    by_cases hother : other = retired.id
    · simp [hother, hstate]
    · simp [hother]
  · intro other
    by_cases hother : other = retired.id
    · simpa [hother] using hnodup.1
    · rw [Function.update_of_ne hother, ← h.retired_iff, ← hids.mem_iff, List.mem_cons]
      simp [hother]
  · intro other
    rw [← h.unavailable_iff]
    by_cases hother : other = retired.id
    · simp [hother, hstate]
    · simp [hother]

namespace UpstreamChannel

/-- The pool of a channel that has been started. -/
def Pool (channel : UpstreamChannel) : Prop :=
  PoolOk channel.config.transactionIdCapacity channel.idStates channel.freeIds channel.retiredIds

/-- Only a pending id has a slot. -/
def SlotsPending (channel : UpstreamChannel) : Prop :=
  ∀ id, channel.slots id ≠ none → channel.idStates id = .pending

/-- `next` differs from `channel` in its pool alone. -/
def PoolFrame (channel next : UpstreamChannel) : Prop :=
  next = { channel with
    idStates := next.idStates, freeIds := next.freeIds, retiredIds := next.retiredIds,
    draws := next.draws }

theorem PoolFrame.refl (channel : UpstreamChannel) : PoolFrame channel channel := rfl

theorem PoolFrame.trans {first second third : UpstreamChannel} (h : PoolFrame first second)
    (h' : PoolFrame second third) : PoolFrame first third := by
  unfold PoolFrame at h h' ⊢
  rw [h', h]

variable {env : Environment} {channel : UpstreamChannel} {id : UInt16}

theorem insertFreeId_spec (env : Environment) (channel : UpstreamChannel) (id : UInt16) :
    ∃ ids draws, insertFreeId env channel id = { channel with freeIds := ids, draws := draws } ∧
      ids.Perm (id :: channel.freeIds) := by
  unfold insertFreeId
  dsimp only
  split
  · exact ⟨_, _, rfl, List.perm_append_singleton _ _⟩
  · exact ⟨_, _, rfl, (swapEntries_perm _ _ _).trans (List.perm_append_singleton _ _)⟩

/-- What `reclaim_ids` does with retired ids. -/
structure Reclaimed (now : TimePoint) (channel next : UpstreamChannel) : Prop where
  frame : PoolFrame channel next
  pool : next.Pool
  pending_iff : ∀ id, next.idStates id = .pending ↔ channel.idStates id = .pending
  kept : ∀ retired ∈ channel.retiredIds, retired ∈ next.retiredIds ∨ retired.reusableAt ≤ now

theorem Reclaimed.refl (now : TimePoint) (h : channel.Pool) : Reclaimed now channel channel :=
  ⟨PoolFrame.refl _, h, fun _ => Iff.rfl, fun _ hmem => .inl hmem⟩

theorem reclaimFront_spec (env : Environment) {now : TimePoint} {front : RetiredId}
    {rest : List RetiredId}
    (h : channel.Pool) (hslots : channel.SlotsPending) (hfront : channel.retiredIds = front :: rest)
    (hdue : front.reusableAt ≤ now) : Reclaimed now channel (reclaimFront env channel) := by
  obtain ⟨others, hpop, hheap⟩ := env.heaps.pop_isHeap front rest (hfront ▸ h.heap)
  have hperm : (others ++ [front]).Perm channel.retiredIds := by
    rw [hfront, ← hpop]
    exact env.heaps.pop_perm _
  have hstate : channel.idStates front.id = .retired := by
    rw [← h.retired_iff, hfront]
    simp
  have hcapacity : ¬ channel.config.transactionIdCapacity ≤ front.id.toNat := by
    rw [← h.unavailable_iff, hstate]
    simp
  have hslot : channel.slots front.id = none := by
    by_contra hslot
    rw [hslots _ hslot] at hstate
    cases hstate
  have hchecks : ¬ (channel.config.transactionIdCapacity ≤ front.id.toNat ∨
      channel.idStates front.id ≠ .retired ∨ channel.slots front.id ≠ none) := by
    simp [hstate, hslot, hcapacity]
  obtain ⟨ids, draws, hinsert, hids⟩ := insertFreeId_spec env
    (({ channel with retiredIds := others }).setIdState front.id .free) front.id
  have hresult : reclaimFront env channel =
      { channel with
        retiredIds := others, idStates := Function.update channel.idStates front.id .free
        freeIds := ids, draws := draws } := by
    unfold reclaimFront
    rw [hfront, hpop]
    simp only [List.getLast?_append, List.getLast?_singleton, Option.some_or, List.dropLast_concat]
    rw [if_neg hchecks, hinsert]
    rfl
  rw [hresult]
  refine ⟨rfl, ?_, ?_, ?_⟩
  · have := PoolOk.insert_free front.id (PoolOk.remove_retired h hperm hheap) (by simp) (by simp)
      (by simp) hids
    simpa [Pool] using this
  · intro id
    by_cases hid : id = front.id
    · simp [hid, hstate]
    · simp [hid]
  · intro retired hmem
    rw [← hperm.mem_iff, List.mem_append, List.mem_singleton] at hmem
    rcases hmem with hother | rfl
    · exact .inl hother
    · exact .inr hdue

theorem PoolFrame.slots_eq {next : UpstreamChannel} (h : PoolFrame channel next) :
    next.slots = channel.slots := by
  rw [h]

theorem PoolFrame.config_eq {next : UpstreamChannel} (h : PoolFrame channel next) :
    next.config = channel.config := by
  rw [h]

theorem PoolFrame.attached_eq {next : UpstreamChannel} (h : PoolFrame channel next) :
    next.attached = channel.attached := by
  rw [h]

theorem reclaimLoop_spec {now : TimePoint} :
    ∀ (fuel : Nat) (channel : UpstreamChannel), channel.Pool → channel.SlotsPending →
      Reclaimed now channel (reclaimLoop env now fuel channel) := by
  intro fuel
  induction fuel with
  | zero => exact fun channel h _ => Reclaimed.refl now h
  | succ fuel ih =>
    intro channel h hslots
    rw [reclaimLoop]
    split
    · exact Reclaimed.refl now h
    · rename_i front rest hfront
      split
      · rename_i hdue
        have hstep := reclaimFront_spec env h hslots hfront hdue
        have hslots' : (reclaimFront env channel).SlotsPending := by
          intro id hslot
          rw [hstep.frame.slots_eq] at hslot
          exact (hstep.pending_iff id).mpr (hslots id hslot)
        have hrest := ih _ hstep.pool hslots'
        refine ⟨hstep.frame.trans hrest.frame, hrest.pool,
          fun id => (hrest.pending_iff id).trans (hstep.pending_iff id), ?_⟩
        intro retired hmem
        rcases hstep.kept retired hmem with hmem | hdue
        · exact hrest.kept retired hmem
        · exact .inr hdue
      · exact Reclaimed.refl now h

theorem reclaimIds_spec (env : Environment) (channel : UpstreamChannel) (now : TimePoint)
    (h : channel.Pool) (hslots : channel.SlotsPending) : Reclaimed now channel
      (reclaimIds env now channel) :=
  reclaimLoop_spec _ channel h hslots

/-- The last free id is taken. -/
theorem takeFreeId_spec (h : channel.Pool) (hslots : channel.SlotsPending) :
    (takeFreeId channel.freeIds.length channel = (none, channel) ∧ channel.freeIds = []) ∨
    ∃ id ids, channel.idStates id = .free ∧ channel.freeIds = ids ++ [id] ∧
      takeFreeId channel.freeIds.length channel =
        (some id, { channel with
          freeIds := ids, idStates := Function.update channel.idStates id .pending }) ∧
      PoolOk channel.config.transactionIdCapacity (Function.update channel.idStates id .pending) ids
        channel.retiredIds := by
  rcases List.eq_nil_or_concat channel.freeIds with hnil | ⟨ids, id, hids⟩
  · left
    rw [hnil]
    exact ⟨rfl, rfl⟩
  right
  rw [List.concat_eq_append] at hids
  have hfree : channel.idStates id = .free := by
    rw [← h.free_iff, hids]
    simp
  have hcapacity : ¬ channel.config.transactionIdCapacity ≤ id.toNat := by
    rw [← h.unavailable_iff, hfree]
    simp
  have hslot : channel.slots id = none := by
    by_contra hslot
    rw [hslots _ hslot] at hfree
    cases hfree
  refine ⟨id, ids, hfree, hids, ?_, ?_⟩
  · rw [hids, List.length_append, List.length_singleton, takeFreeId, hids]
    simp [hcapacity, hfree, hslot, setIdState]
  · have hnodup := h.free_nodup
    rw [hids, List.nodup_append] at hnodup
    refine ⟨hnodup.1, ?_, h.retired_nodup, ?_, ?_, h.heap⟩
    · intro other
      by_cases hother : other = id
      · subst hother
        simpa using fun hmem => hnodup.2.2 other hmem other (by simp) rfl
      · rw [Function.update_of_ne hother, ← h.free_iff, hids]
        simp [hother]
    · intro other
      rw [h.retired_iff]
      by_cases hother : other = id
      · simp [hother, hfree]
      · simp [hother]
    · intro other
      rw [← h.unavailable_iff]
      by_cases hother : other = id
      · simp [hother, hfree]
      · simp [hother]

/-- What `allocate_id` does: after the reclaiming there is no free id, or one
free id becomes pending. -/
theorem allocateId_spec (env : Environment) (now : TimePoint) (h : channel.Pool)
    (hslots : channel.SlotsPending) :
    ∃ middle, Reclaimed now channel middle ∧
      (allocateId env now channel = (none, middle) ∨
        ∃ id ids, middle.idStates id = .free ∧
          allocateId env now channel =
            (some id, { middle with
              freeIds := ids, idStates := Function.update middle.idStates id .pending }) ∧
          PoolOk middle.config.transactionIdCapacity
            (Function.update middle.idStates id .pending) ids middle.retiredIds) := by
  have hreclaimed := reclaimIds_spec env channel now h hslots
  refine ⟨reclaimIds env now channel, hreclaimed, ?_⟩
  have hslots' : (reclaimIds env now channel).SlotsPending := by
    intro id hslot
    rw [hreclaimed.frame.slots_eq] at hslot
    exact (hreclaimed.pending_iff id).mpr (hslots id hslot)
  rcases takeFreeId_spec hreclaimed.pool hslots' with ⟨hnone, -⟩ | ⟨id, ids, hfree, -, hsome, hpool⟩
  · exact .inl hnone
  · exact .inr ⟨id, ids, hfree, hsome, hpool⟩

theorem capacity_of_pending (h : channel.Pool) (hpending : channel.idStates id = .pending) :
    ¬ channel.config.transactionIdCapacity ≤ id.toNat := by
  rw [← h.unavailable_iff, hpending]
  simp

/-- An id that was never sent is free at once. -/
theorem releaseId_unsent (env : Environment) (channel : UpstreamChannel) (now : TimePoint)
    (h : channel.Pool)
    (hpending : channel.idStates id = .pending) :
    ∃ ids draws, releaseId env id now false channel =
        { channel with
          idStates := Function.update channel.idStates id .free, freeIds := ids, draws := draws } ∧
      PoolOk channel.config.transactionIdCapacity (Function.update channel.idStates id .free) ids
        channel.retiredIds := by
  obtain ⟨ids, draws, hinsert, hperm⟩ := insertFreeId_spec env (channel.setIdState id .free) id
  refine ⟨ids, draws, ?_, PoolOk.insert_free id h (by simp [hpending]) (by simp [hpending])
    (by simp [hpending]) hperm⟩
  unfold releaseId
  rw [if_neg (by simp [hpending, capacity_of_pending h hpending]), if_pos (.inl rfl), hinsert]
  rfl

/-- An id that was sent is retired until the guard has passed. -/
theorem releaseId_sent (env : Environment) (channel : UpstreamChannel) (now : TimePoint)
    (h : channel.Pool)
    (hpending : channel.idStates id = .pending) (hguard : 0 < channel.config.idReuseGuard) :
    ∃ retired, releaseId env id now true channel =
        { channel with
          idStates := Function.update channel.idStates id .retired, retiredIds := retired } ∧
      retired.Perm (⟨channel.guardedReuseTime now, id⟩ :: channel.retiredIds) ∧
      PoolOk channel.config.transactionIdCapacity (Function.update channel.idStates id .retired)
        channel.freeIds retired := by
  have hperm : (env.heaps.pushHeap
      (channel.retiredIds ++ [⟨channel.guardedReuseTime now, id⟩])).Perm
      (⟨channel.guardedReuseTime now, id⟩ :: channel.retiredIds) :=
    (env.heaps.push_perm _).trans (List.perm_append_singleton _ _)
  refine ⟨_, ?_, hperm, ?_⟩
  · unfold releaseId
    rw [if_neg (by simp [hpending, capacity_of_pending h hpending]), if_neg (by simp [hguard])]
    rfl
  · have hids := hperm.map RetiredId.id
    rw [List.map_cons] at hids
    refine ⟨h.free_nodup, ?_, ?_, ?_, ?_, env.heaps.push_isHeap _ _ h.heap⟩
    · intro other
      rw [h.free_iff]
      by_cases hother : other = id
      · simp [hother, hpending]
      · simp [hother]
    · rw [hids.nodup_iff, List.nodup_cons, h.retired_iff, hpending]
      exact ⟨by simp, h.retired_nodup⟩
    · intro other
      rw [hids.mem_iff, List.mem_cons, h.retired_iff]
      by_cases hother : other = id <;> simp [hother]
    · intro other
      rw [← h.unavailable_iff]
      by_cases hother : other = id
      · simp [hother, hpending]
      · simp [hother]

/-! ## The pool at the start -/

private theorem toNat_ofNat_of_lt {index : Nat} (h : index < transactionIdSpace) :
    (UInt16.ofNat index).toNat = index :=
  UInt16.toNat_ofNat_of_lt' h

private theorem rangeIds_spec {capacity : Nat} (hspace : capacity ≤ transactionIdSpace) :
    ((List.range capacity).map UInt16.ofNat).Nodup ∧
      ∀ id, id ∈ (List.range capacity).map UInt16.ofNat ↔ id.toNat < capacity := by
  refine ⟨?_, ?_⟩
  · refine List.Nodup.map_on ?_ List.nodup_range
    intro first hfirst second hsecond heq
    rw [List.mem_range] at hfirst hsecond
    have := congrArg UInt16.toNat heq
    rwa [toNat_ofNat_of_lt (by omega), toNat_ofNat_of_lt (by omega)] at this
  · intro id
    simp only [List.mem_map, List.mem_range]
    constructor
    · rintro ⟨index, hindex, rfl⟩
      rwa [toNat_ofNat_of_lt (by omega)]
    · exact fun hid => ⟨id.toNat, hid, UInt16.ofNat_toNat⟩

/-- The ids of the initial pool are those below the capacity, each once. -/
theorem initialIds_spec (env : Environment) {config : ChannelConfig}
    (hpos : 0 < config.transactionIdCapacity)
    (hspace : config.transactionIdCapacity ≤ transactionIdSpace) :
    (initialIds env config).Nodup ∧
      ∀ id, id ∈ initialIds env config ↔ id.toNat < config.transactionIdCapacity := by
  unfold initialIds
  dsimp only
  split
  · have hperm := env.random.shuffle_perm
      ((List.range config.transactionIdCapacity).map UInt16.ofNat)
    exact ⟨hperm.nodup_iff.mpr (rangeIds_spec hspace).1,
      fun id => hperm.mem_iff.trans ((rangeIds_spec hspace).2 id)⟩
  · -- counting down from the first id, modulo the capacity
    generalize hcapacity : config.transactionIdCapacity = capacity at *
    generalize config.initialTransactionId.toNat % capacity = first
    have hlt : ∀ index, (first + index) % capacity < transactionIdSpace := fun index =>
      (Nat.mod_lt _ hpos).trans_le hspace
    refine ⟨?_, ?_⟩
    · refine List.Nodup.map_on ?_ (List.nodup_reverse.mpr List.nodup_range)
      intro left hleft right hright heq
      rw [List.mem_reverse, List.mem_range] at hleft hright
      have hmod := congrArg UInt16.toNat heq
      rw [toNat_ofNat_of_lt (hlt left), toNat_ofNat_of_lt (hlt right)] at hmod
      exact Nat.ModEq.eq_of_lt_of_lt (Nat.ModEq.add_left_cancel' first hmod) hleft hright
    · intro id
      simp only [List.mem_map, List.mem_reverse, List.mem_range]
      constructor
      · rintro ⟨index, -, rfl⟩
        rw [toNat_ofNat_of_lt (hlt index)]
        exact Nat.mod_lt _ hpos
      · intro hid
        have hmultiple : first ≤ capacity * first := Nat.le_mul_of_pos_left first hpos
        refine ⟨(id.toNat + (capacity * first - first)) % capacity, Nat.mod_lt _ hpos, ?_⟩
        rw [Nat.add_mod_mod, show first + (id.toNat + (capacity * first - first)) =
          id.toNat + capacity * first by omega, Nat.add_mul_mod_self_left, Nat.mod_eq_of_lt hid]
        exact UInt16.ofNat_toNat

theorem initializeIdPool_spec (env : Environment) (channel : UpstreamChannel)
    {config : ChannelConfig} (hpos : 0 < config.transactionIdCapacity)
    (hspace : config.transactionIdCapacity ≤ transactionIdSpace) :
    PoolOk config.transactionIdCapacity (initializeIdPool env config channel).idStates
      (initializeIdPool env config channel).freeIds
      (initializeIdPool env config channel).retiredIds := by
  obtain ⟨hnodup, hmem⟩ := initialIds_spec env hpos hspace
  refine ⟨hnodup, ?_, List.nodup_nil, ?_, ?_, isHeap_nil _⟩
  · intro id
    show _ ↔ (if id ∈ initialIds env config then IdState.free else .unavailable) = .free
    split <;> simp_all [initializeIdPool]
  · intro id
    show id ∈ [] ↔ (if id ∈ initialIds env config then IdState.free else .unavailable) = .retired
    split <;> simp
  · intro id
    show (if id ∈ initialIds env config then IdState.free else .unavailable) = .unavailable ↔ _
    rw [← Nat.not_lt, ← hmem]
    split <;> simp_all

/-! ## The audit -/

private theorem markIds_eq {capacity : Nat} {state : IdState}
    (hslots : ∀ id, channel.slots id = none)
    (hcapacity : ∀ id, channel.idStates id = state → id.toNat < capacity) :
    ∀ (ids : List UInt16) (seen : Finset UInt16), ids.Nodup → (∀ id ∈ ids, id ∉ seen) →
      (∀ id ∈ ids, channel.idStates id = state) →
      channel.markIds capacity state ids seen = some (seen ∪ ids.toFinset) := by
  intro ids
  induction ids with
  | nil =>
    intro seen _ _ _
    simp [markIds]
  | cons id ids ih =>
    intro seen hnodup hseen hstates
    obtain ⟨hid, hnodup⟩ := List.nodup_cons.mp hnodup
    have hstate := hstates id List.mem_cons_self
    have hchecks : ¬ (capacity ≤ id.toNat ∨ id ∈ seen ∨ channel.idStates id ≠ state ∨
        channel.slots id ≠ none) := by
      have := hcapacity id hstate
      simp [hseen id List.mem_cons_self, hstate, hslots id, this]
    rw [markIds, if_neg hchecks, ih _ hnodup ?_ fun other hother =>
      hstates other (List.mem_cons_of_mem _ hother)]
    · simp [Finset.insert_union]
    · intro other hother
      rw [Finset.mem_insert, not_or]
      exact ⟨fun heq => hid (heq ▸ hother), hseen other (List.mem_cons_of_mem _ hother)⟩

/-- Without a pending id, the free and the retired ids are all ids below the
capacity. -/
theorem PoolOk.perm_range {capacity : Nat} {idStates : UInt16 → IdState} {freeIds : List UInt16}
    {retiredIds : List RetiredId} (h : PoolOk capacity idStates freeIds retiredIds)
    (hspace : capacity ≤ transactionIdSpace) (hpending : ∀ id, idStates id ≠ .pending) :
    (freeIds ++ retiredIds.map RetiredId.id).Perm ((List.range capacity).map UInt16.ofNat) := by
  have hnodup : (freeIds ++ retiredIds.map RetiredId.id).Nodup := by
    refine List.nodup_append.mpr ⟨h.free_nodup, h.retired_nodup, ?_⟩
    rintro id hfree other hretired rfl
    rw [h.free_iff] at hfree
    rw [h.retired_iff, hfree] at hretired
    cases hretired
  obtain ⟨hplain, hrange⟩ := rangeIds_spec hspace
  refine (List.perm_ext_iff_of_nodup hnodup hplain).mpr fun id => ?_
  rw [hrange, ← Nat.not_le, ← h.unavailable_iff, List.mem_append, h.free_iff, h.retired_iff]
  have := hpending id
  cases hstate : idStates id <;> simp_all

/-- A pool without a pending query passes the audit. -/
theorem validateIdPool_of_pool {capacity : Nat} (hpos : 0 < capacity)
    (hspace : capacity ≤ transactionIdSpace)
    (h : PoolOk capacity channel.idStates channel.freeIds channel.retiredIds)
    (hcount : channel.pendingCount = 0) (hslots : ∀ id, channel.slots id = none)
    (hpending : ∀ id, channel.idStates id ≠ .pending) :
    channel.validateIdPool capacity = true := by
  have hperm := PoolOk.perm_range h hspace hpending
  have hlength : channel.freeIds.length + channel.retiredIds.length = capacity := by
    simpa using hperm.length_eq
  have hnodup := hperm.nodup_iff.mpr (rangeIds_spec hspace).1
  have hmem : ∀ id, id ∈ channel.freeIds ++ channel.retiredIds.map RetiredId.id ↔
      id.toNat < capacity := fun id => hperm.mem_iff.trans ((rangeIds_spec hspace).2 id)
  have hcapacity : ∀ id, channel.idStates id ≠ .unavailable → id.toNat < capacity := by
    intro id hid
    rw [← Nat.not_le, ← h.unavailable_iff]
    exact hid
  have hfree := markIds_eq hslots (fun id hid => hcapacity id (by simp [hid])) channel.freeIds ∅
    h.free_nodup (by simp) fun id => (h.free_iff id).mp
  have hretired := markIds_eq hslots (fun id hid => hcapacity id (by simp [hid]))
    (channel.retiredIds.map RetiredId.id) (∅ ∪ channel.freeIds.toFinset) h.retired_nodup
    (by
      intro id hid
      rw [h.retired_iff] at hid
      simp [h.free_iff, hid])
    fun id => (h.retired_iff id).mp
  rw [Finset.empty_union, ← List.toFinset_append] at hretired
  rw [Finset.empty_union] at hfree
  unfold validateIdPool
  rw [if_neg (by simp [hcount, hlength, h.heap]; omega), hfree]
  dsimp only
  rw [hretired]
  dsimp only
  rw [Bool.and_eq_true]
  constructor
  · unfold auditIds
    rw [List.all_eq_true]
    intro index hindex
    have hid : (UInt16.ofNat index).toNat = index :=
      toNat_ofNat_of_lt (List.mem_range.mp hindex)
    dsimp only
    split
    · rename_i hle
      have := (h.unavailable_iff (UInt16.ofNat index)).mpr (by omega)
      simp [this, hslots]
    · rename_i hlt
      have hseen := (hmem (UInt16.ofNat index)).mpr (by omega)
      simp only [List.mem_toFinset, hseen, hslots, decide_true, Option.isNone_none, Bool.and_true,
        Bool.true_and, decide_eq_true_eq]
      exact hpending _
  · rw [List.toFinset_card_of_nodup hnodup, List.length_append, List.length_map, hlength]
    simp

end UpstreamChannel

end DnsPro.Upstream
