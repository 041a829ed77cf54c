import DnsPro.Cache.AbortedInserts

/-!
# The victim of the clock

A `put` of a new key into a full shard goes round the slots from the hand on.  A
slot that is empty, expired or without its chance is taken; any other slot loses
its chance.  After one round every slot that was left has lost its chance, so the
hand stops at the latest where it started.
-/

namespace DnsPro.Cache

open DnsPro.Loop DnsPro.Runtime DnsPro.Transition

/-- The slot may be taken: it is empty, expired, or without its chance. -/
def Reusable (now : TimePoint) : Option CacheEntry → Prop
  | none => True
  | some entry => entry.expiry ≤ now ∨ entry.chance = false

/-- An entry that was passed over. -/
def CacheEntry.clearChance (entry : CacheEntry) : CacheEntry := { entry with chance := false }

namespace CacheShard

variable {shard : CacheShard} {now : TimePoint} {passes slot : Nat}

/-- The slot that is `passes` slots after the hand. -/
def slotAfter (shard : CacheShard) (passes : Nat) : Nat := (shard.hand + passes) % shard.capacity

/-- The hand moves over an entry and takes its chance. -/
def passOver (shard : CacheShard) : CacheShard :=
  { shard with
    entries := shard.entries.modify shard.hand (Option.map CacheEntry.clearChance)
    hand := (shard.hand + 1) % shard.capacity }

/-! ## Positions on the ring -/

theorem slotAfter_eq (hhand : shard.hand < shard.capacity) (hpasses : passes ≤ shard.capacity) :
    shard.slotAfter passes =
      if shard.hand + passes < shard.capacity then shard.hand + passes
      else shard.hand + passes - shard.capacity := by
  rw [slotAfter]
  split
  · rename_i hlt
    exact Nat.mod_eq_of_lt hlt
  · rename_i hle
    rw [Nat.mod_eq_sub_mod (Nat.le_of_not_lt hle)]
    exact Nat.mod_eq_of_lt (by omega)

theorem slotAfter_lt (hhand : shard.hand < shard.capacity) (passes : Nat) :
    shard.slotAfter passes < shard.capacity :=
  Nat.mod_lt _ (by omega)

/-- A round comes to each slot once. -/
theorem slotAfter_ne (hhand : shard.hand < shard.capacity) {earlier : Nat}
    (hearlier : earlier < passes) (hpasses : passes < shard.capacity) :
    shard.slotAfter passes ≠ shard.slotAfter earlier := by
  rw [slotAfter_eq hhand (by omega), slotAfter_eq hhand (by omega)]
  split <;> split <;> omega

theorem slotAfter_capacity (hhand : shard.hand < shard.capacity) :
    shard.slotAfter shard.capacity = shard.hand := by
  rw [slotAfter, Nat.add_mod_right]
  exact Nat.mod_eq_of_lt hhand

/-! ## The entries that were passed over -/

theorem passOver_capacity (passes : Nat) : (passOver^[passes] shard).capacity = shard.capacity := by
  induction passes with
  | zero => rfl
  | succ passes ih =>
    rw [Function.iterate_succ_apply']
    exact ih

theorem passOver_index (passes : Nat) : (passOver^[passes] shard).index = shard.index := by
  induction passes with
  | zero => rfl
  | succ passes ih =>
    rw [Function.iterate_succ_apply']
    exact ih

theorem passOver_length (passes : Nat) :
    (passOver^[passes] shard).entries.length = shard.entries.length := by
  induction passes with
  | zero => rfl
  | succ passes ih =>
    rw [Function.iterate_succ_apply', passOver, List.length_modify]
    exact ih

theorem passOver_hand (hhand : shard.hand < shard.capacity) (passes : Nat) :
    (passOver^[passes] shard).hand = shard.slotAfter passes := by
  induction passes with
  | zero => exact (Nat.mod_eq_of_lt hhand).symm
  | succ passes ih =>
    rw [Function.iterate_succ_apply', passOver, ih, passOver_capacity, slotAfter, slotAfter,
      Nat.mod_add_mod, Nat.add_assoc]

/-- A slot has lost its chance exactly when the hand was there. -/
theorem passOver_entries (hhand : shard.hand < shard.capacity) (passes slot : Nat) :
    ((∃ pass < passes, slot = shard.slotAfter pass) →
      (passOver^[passes] shard).entries[slot]? =
        shard.entries[slot]?.map (Option.map CacheEntry.clearChance)) ∧
    ((¬ ∃ pass < passes, slot = shard.slotAfter pass) →
      (passOver^[passes] shard).entries[slot]? = shard.entries[slot]?) := by
  induction passes with
  | zero =>
    constructor
    · intro hpassed
      obtain ⟨pass, hpass, -⟩ := hpassed
      exact absurd hpass (Nat.not_lt_zero pass)
    · intro _
      rfl
  | succ passes ih =>
    have hmodify : (passOver^[passes + 1] shard).entries[slot]? =
        if shard.slotAfter passes = slot then
          (passOver^[passes] shard).entries[slot]?.map (Option.map CacheEntry.clearChance)
        else (passOver^[passes] shard).entries[slot]? := by
      rw [Function.iterate_succ_apply', passOver, List.getElem?_modify, passOver_hand hhand]
      split
      · rfl
      · exact id_map _
    rw [hmodify]
    constructor
    · intro hpassed
      obtain ⟨pass, hpass, hslot⟩ := hpassed
      by_cases hbefore : ∃ earlier < passes, slot = shard.slotAfter earlier
      · rw [ih.1 hbefore]
        split
        · rw [Option.map_map]
          congr 1
          funext entry
          cases entry with
          | none => rfl
          | some entry => rfl
        · rfl
      · have hlast : pass = passes := by
          by_contra hne
          exact hbefore ⟨pass, by omega, hslot⟩
        rw [if_pos (hlast ▸ hslot.symm), ih.2 hbefore]
    · intro hnever
      have hbefore : ¬ ∃ earlier < passes, slot = shard.slotAfter earlier := by
        intro hpassed
        obtain ⟨earlier, hearlier, hslot⟩ := hpassed
        exact hnever ⟨earlier, Nat.lt_succ_of_lt hearlier, hslot⟩
      have hnow : shard.slotAfter passes ≠ slot := fun hslot =>
        hnever ⟨passes, Nat.lt_succ_self passes, hslot.symm⟩
      rw [if_neg hnow, ih.2 hbefore]

/-! ## The loop -/

/-- The loop leaves at a slot that may be taken. -/
theorem clockBody_reusable {entry : Option CacheEntry}
    (hentry : shard.entries[shard.hand]? = some entry)
    (hreusable : Reusable now entry) : clockBody now shard = .done shard := by
  unfold clockBody
  rw [hentry]
  cases entry with
  | none => rfl
  | some entry =>
    change entry.expiry ≤ now ∨ entry.chance = false at hreusable
    dsimp only
    rw [if_pos hreusable]

/-- It passes over any other slot. -/
theorem clockBody_passOver {entry : Option CacheEntry}
    (hentry : shard.entries[shard.hand]? = some entry)
    (hkeep : ¬ Reusable now entry) : clockBody now shard = .again shard.passOver := by
  unfold clockBody
  rw [hentry]
  cases entry with
  | none => exact absurd trivial hkeep
  | some entry =>
    change ¬ (entry.expiry ≤ now ∨ entry.chance = false) at hkeep
    dsimp only
    rw [if_neg hkeep, passOver, List.modify_eq_set_getElem?, hentry]
    rfl

/-- The slots from the hand on that may not be taken, and where the hand stops. -/
structure Stops (shard : CacheShard) (now : TimePoint) (passes : Nat) : Prop where
  le : passes ≤ shard.capacity
  kept : ∀ pass < passes, ∀ entry, shard.entries[shard.slotAfter pass]? = some entry →
    ¬ Reusable now entry
  taken : passes < shard.capacity → ∀ entry, shard.entries[shard.slotAfter passes]? = some entry →
    Reusable now entry

/-- The hand stops somewhere. -/
theorem exists_stops (shard : CacheShard) (now : TimePoint) : ∃ passes, shard.Stops now passes := by
  classical
  by_cases hfree : ∃ pass, pass < shard.capacity ∧
      ∀ entry, shard.entries[shard.slotAfter pass]? = some entry → Reusable now entry
  · refine ⟨Nat.find hfree, Nat.le_of_lt (Nat.find_spec hfree).1, ?_, fun _ =>
      (Nat.find_spec hfree).2⟩
    intro pass hpass entry hentry hreusable
    refine Nat.find_min hfree hpass ⟨Nat.lt_trans hpass (Nat.find_spec hfree).1, ?_⟩
    intro other hother
    rw [hentry] at hother
    exact Option.some.inj hother ▸ hreusable
  · refine ⟨shard.capacity, Nat.le_refl _, ?_, fun hlt => absurd hlt (Nat.lt_irrefl _)⟩
    intro pass hpass entry hentry hreusable
    refine hfree ⟨pass, hpass, ?_⟩
    intro other hother
    rw [hentry] at hother
    exact Option.some.inj hother ▸ hreusable

/-- A full shard has an entry, or an empty one, in every slot. -/
theorem exists_entry (hhand : shard.hand < shard.capacity)
    (hfull : shard.entries.length = shard.capacity) (pass : Nat) :
    ∃ entry, shard.entries[shard.slotAfter pass]? = some entry := by
  have hlt : shard.slotAfter pass < shard.entries.length := by
    rw [hfull]
    exact slotAfter_lt hhand pass
  exact ⟨_, List.getElem?_eq_getElem hlt⟩

/-- The loop passes over the slots before the one where it stops. -/
theorem Stops.iterate (h : shard.Stops now passes) (hhand : shard.hand < shard.capacity)
    (hfull : shard.entries.length = shard.capacity) :
    iterate (clockBody now) (passes + 1) shard = some (passOver^[passes] shard) := by
  have hentry := exists_entry hhand hfull
  have hfresh : ∀ pass, pass < shard.capacity →
      (passOver^[pass] shard).entries[(passOver^[pass] shard).hand]? =
        shard.entries[shard.slotAfter pass]? := by
    intro pass hpass
    rw [passOver_hand hhand]
    apply (passOver_entries hhand pass _).2
    intro hpassed
    obtain ⟨earlier, hearlier, hslot⟩ := hpassed
    exact slotAfter_ne hhand hearlier hpass hslot
  apply iterate_of_passes
  · intro pass hpass
    obtain ⟨entry, hslot⟩ := hentry pass
    rw [Function.iterate_succ_apply']
    apply clockBody_passOver
    · rw [hfresh pass (Nat.lt_of_lt_of_le hpass h.le), hslot]
    · exact h.kept pass hpass entry hslot
  · obtain ⟨entry, hslot⟩ := hentry passes
    by_cases hround : passes < shard.capacity
    · apply clockBody_reusable
      · rw [hfresh passes hround, hslot]
      · exact h.taken hround entry hslot
    · -- the hand is back where it started, and that slot has lost its chance
      have hpasses : passes = shard.capacity := Nat.le_antisymm h.le (Nat.le_of_not_lt hround)
      have hpassed : ∃ pass < passes, shard.slotAfter passes = shard.slotAfter pass := by
        refine ⟨0, by omega, ?_⟩
        rw [hpasses, slotAfter_capacity hhand]
        exact (Nat.mod_eq_of_lt hhand).symm
      apply @clockBody_reusable _ _ (entry.map CacheEntry.clearChance)
      · rw [passOver_hand hhand, (passOver_entries hhand passes _).1 hpassed, hslot]
        rfl
      · cases entry with
        | none => exact trivial
        | some entry => exact Or.inr rfl

/-- The loop ends with the hand at the slot where it stops. -/
theorem Stops.exec (h : shard.Stops now passes) (hhand : shard.hand < shard.capacity)
    (hfull : shard.entries.length = shard.capacity) :
    exec (clockLoop now) shard = passOver^[passes] shard := by
  have hloop := h.iterate hhand hfull
  exact (@iterate_eq_some_iff _ _ (clockLoop now) shard _ (passes + 1)
    (Option.isSome_iff_exists.mpr ⟨_, hloop⟩)).mp hloop

theorem entries_replaceSlot (slot : Nat) (entry : CacheEntry) (emplaceFails : Bool) :
    (shard.replaceSlot slot entry emplaceFails).2.entries = shard.entries.set slot
      (some entry) := by
  have hreplace : shard.replaceSlot slot entry emplaceFails =
      { shard with
        index := shard.unlinked slot
        entries := shard.entries.set slot (some entry) }.emplace entry.key slot emplaceFails := rfl
  rw [hreplace, emplace]
  split
  · rfl
  · split
    · rfl
    · rfl

/-- What a `put` of a new key does to a full shard. -/
theorem Stops.put (h : shard.Stops now passes) (hinv : shard.Inv) (hcapacity : 0 < shard.capacity)
    (hfull : shard.entries.length = shard.capacity) {key : CacheKey}
    (hkey : shard.index.lookup key = none) {addresses : List IPAddress} {ttlSeconds : UInt32}
    (haddresses : addresses ≠ []) (httl : ttlSeconds ≠ 0) :
    (shard.put key addresses ttlSeconds now false).1 = true ∧
      (shard.put key addresses ttlSeconds now false).2.hand =
        (shard.slotAfter passes + 1) % shard.capacity ∧
      (shard.put key addresses ttlSeconds now false).2.entries =
        (passOver^[passes] shard).entries.set (shard.slotAfter passes)
          (some ⟨key, addresses, now + ttlSeconds.toNat * second, true⟩) := by
  have hhand := hinv.hand_lt (Nat.ne_of_gt hcapacity)
  have hexec := h.exec hhand hfull
  have hin : shard.slotAfter passes < (passOver^[passes] shard).entries.length := by
    rw [passOver_length, hfull]
    exact slotAfter_lt hhand passes
  have hindex : (passOver^[passes] shard).index.lookup key = none := by
    rw [passOver_index, hkey]
  have hreturned := (slots_replaceSlot hindex hin
    { key := key, addresses := addresses, expiry := now + ttlSeconds.toNat * second } rfl false).1
  have hentries : ((passOver^[passes] shard).replaceSlot (shard.slotAfter passes)
      { key := key, addresses := addresses, expiry := now + ttlSeconds.toNat * second }
      false).2.entries = (passOver^[passes] shard).entries.set (shard.slotAfter passes)
        (some ⟨key, addresses, now + ttlSeconds.toNat * second, true⟩) :=
    entries_replaceSlot _ _ _
  generalize hplaced : (passOver^[passes] shard).replaceSlot (shard.slotAfter passes)
    { key := key, addresses := addresses, expiry := now + ttlSeconds.toNat * second } false = placed
    at hreturned hentries
  have hput : shard.put key addresses ttlSeconds now false =
      if placed.1 then
        (true, { placed.2 with hand := (shard.slotAfter passes + 1) % shard.capacity })
      else (false, placed.2) := by
    unfold CacheShard.put
    rw [if_neg (Nat.ne_of_gt hcapacity)]
    dsimp only
    rw [if_neg (not_or.mpr ⟨httl, haddresses⟩), hkey]
    dsimp only
    rw [if_neg (by omega), hexec, passOver_hand hhand, passOver_capacity, hplaced]
  rw [hput, if_pos (by rw [hreturned]; rfl)]
  exact ⟨rfl, rfl, hentries⟩

/-- The slots after an entry was put where the loop stopped. -/
theorem entries_placed (hhand : shard.hand < shard.capacity)
    (hfull : shard.entries.length = shard.capacity) (passes : Nat) (placed : CacheEntry)
    {entries : List (Option CacheEntry)}
    (hentries : entries =
      (passOver^[passes] shard).entries.set (shard.slotAfter passes) (some placed)) :
    entries.length = shard.capacity ∧
      entries[shard.slotAfter passes]? = some (some placed) ∧
      (∀ slot, slot ≠ shard.slotAfter passes → (∃ pass < passes, slot = shard.slotAfter pass) →
        entries[slot]? = shard.entries[slot]?.map (Option.map CacheEntry.clearChance)) ∧
      (∀ slot, slot ≠ shard.slotAfter passes → (¬ ∃ pass < passes, slot = shard.slotAfter pass) →
        entries[slot]? = shard.entries[slot]?) := by
  have hlength := @passOver_length shard passes
  subst hentries
  refine ⟨?_, ?_, ?_, ?_⟩
  · rw [List.length_set, hlength, hfull]
  · apply List.getElem?_set_self
    rw [hlength, hfull]
    exact slotAfter_lt hhand passes
  · intro slot hne hpassed
    rw [List.getElem?_set_ne (Ne.symm hne)]
    exact (passOver_entries hhand passes slot).1 hpassed
  · intro slot hne hpassed
    rw [List.getElem?_set_ne (Ne.symm hne)]
    exact (passOver_entries hhand passes slot).2 hpassed

end CacheShard

/-- In every full shard that a run reaches, also one with aborted inserts, a `put` of
a new key inspects at most one slot more than there are.  It takes the first slot
from the hand on that may be taken, or the one at the hand when there is none, and
the slots before it, and no others, lose their chance. -/
theorem clock_takes_first_reusable (capacity : Nat) (hcapacity : 0 < capacity) (start : TimePoint)
    (attempts : List Attempt) (usage : Usage)
    (hrun : run Usage.attempt (Usage.fresh capacity start) attempts = some usage)
    (hfull : usage.session.shard.entries.length = capacity) (key : CacheKey)
    (hkey : usage.session.shard.index.lookup key = none) (addresses : List IPAddress)
    (haddresses : addresses ≠ []) (ttlSeconds : UInt32) (httl : ttlSeconds ≠ 0) (now : TimePoint) :
    let shard := usage.session.shard
    let result := shard.put key addresses ttlSeconds now false
    iterate (CacheShard.clockBody now) (capacity + 1) shard =
        some (exec (CacheShard.clockLoop now) shard) ∧
      result.1 = true ∧
      ∃ passes victim,
        ((passes < capacity ∧ victim = (shard.hand + passes) % capacity ∧
            ∃ entry, shard.entries[victim]? = some entry ∧ Reusable now entry) ∨
          (passes = capacity ∧ victim = shard.hand)) ∧
        (∀ pass < passes, ∃ entry, shard.entries[(shard.hand + pass) % capacity]? = some entry ∧
          ¬ Reusable now entry) ∧
        result.2.entries.length = capacity ∧
        result.2.entries[victim]? =
          some (some ⟨key, addresses, now + ttlSeconds.toNat * second, true⟩) ∧
        (∀ slot, slot ≠ victim → (∃ pass < passes, slot = (shard.hand + pass) % capacity) →
          result.2.entries[slot]? = shard.entries[slot]?.map (Option.map CacheEntry.clearChance)) ∧
        (∀ slot, slot ≠ victim → (¬ ∃ pass < passes, slot = (shard.hand + pass) % capacity) →
          result.2.entries[slot]? = shard.entries[slot]?) ∧
        result.2.hand = (victim + 1) % capacity := by
  intro shard result
  have hbacked := Usage.backed_of_run hrun
  have hinv : shard.Inv := hbacked.inv
  obtain rfl : shard.capacity = capacity := hbacked.capacity_eq
  have hhand : shard.hand < shard.capacity := hinv.hand_lt (Nat.ne_of_gt hcapacity)
  obtain ⟨passes, hstops⟩ := CacheShard.exists_stops shard now
  obtain ⟨hreturned, hnext, hentries⟩ := hstops.put hinv hcapacity hfull hkey haddresses httl
  obtain ⟨hlength, hvictim, hpassed, hothers⟩ :=
    CacheShard.entries_placed hhand hfull passes _ hentries
  have hentry := CacheShard.exists_entry hhand hfull
  refine ⟨?_, hreturned, passes, shard.slotAfter passes, ?_, ?_, hlength, hvictim, hpassed, hothers,
    hnext⟩
  · rw [hstops.exec hhand hfull]
    exact iterate_mono (CacheShard.clockBody now) (shard.capacity + 1)
      (Nat.succ_le_succ hstops.le) (hstops.iterate hhand hfull)
  · rcases Nat.lt_or_eq_of_le hstops.le with hlt | heq
    · obtain ⟨entry, hslot⟩ := hentry passes
      exact Or.inl ⟨hlt, rfl, entry, hslot, hstops.taken hlt entry hslot⟩
    · rw [heq]
      exact Or.inr ⟨rfl, CacheShard.slotAfter_capacity hhand⟩
  · intro pass hpass
    obtain ⟨entry, hslot⟩ := hentry pass
    exact ⟨entry, hslot, hstops.kept pass hpass entry hslot⟩

/-- A shard of two slots that is full. -/
def fullAttempts : List Attempt := [Usage.sampleAttempt 1 0 false, Usage.sampleAttempt 2 1 false]

theorem clock_takes_first_reusable_two :
    ∃ usage, run Usage.attempt (Usage.fresh 2 0) fullAttempts = some usage ∧
      (usage.session.shard.put (sampleKey 3) [.v4 #v[10, 0, 0, 3]] 60 (2 * second) false).1 =
        true := by
  have hreached : (run Usage.attempt (Usage.fresh 2 0) fullAttempts).map (fun usage =>
      (usage.session.shard.entries.length, usage.session.shard.index.lookup (sampleKey 3))) =
      some (2, none) := by decide +kernel
  obtain ⟨usage, hrun, hpair⟩ := Option.map_eq_some_iff.mp hreached
  obtain ⟨hfull, hkey⟩ := Prod.mk.inj hpair
  exact ⟨usage, hrun, (clock_takes_first_reusable 2 (by decide) 0 fullAttempts usage hrun hfull
    (sampleKey 3) hkey [.v4 #v[10, 0, 0, 3]] (by decide) 60 (by decide) (2 * second)).2.1⟩

end DnsPro.Cache
