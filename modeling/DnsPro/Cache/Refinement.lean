import DnsPro.Cache.Shard
import DnsPro.Lib.SlotMap
import DnsPro.Lib.Transition

/-!
# The shard is a map with lifetimes

The vector of entries and the index of a shard are a `SlotMap`, and what `get` and
`put` do to it is one of the operations of that library.  A run of calls keeps the
two in step, so a hit is what the latest `put` of the key stored.
-/

namespace DnsPro.Cache

open DnsPro.Loop DnsPro.Runtime

/-- What a slot holds, without the chance bit. -/
def CacheEntry.pair (entry : CacheEntry) : CacheKey × List IPAddress × TimePoint :=
  (entry.key, entry.addresses, entry.expiry)

/-- The pair in the slot of a vector. -/
def slotPair (entries : List (Option CacheEntry)) (index : Nat) :
    Option (CacheKey × List IPAddress × TimePoint) :=
  (entries[index]?).join.map CacheEntry.pair

section

variable {entries : List (Option CacheEntry)} {index : Nat}

theorem slotPair_eq_some {pair : CacheKey × List IPAddress × TimePoint} :
    slotPair entries index = some pair ↔
      ∃ entry, entries[index]? = some (some entry) ∧ entry.pair = pair := by
  rw [slotPair, Option.map_eq_some_iff]
  simp only [Option.join_eq_some_iff]

theorem lt_length_of_slotPair {pair : CacheKey × List IPAddress × TimePoint}
    (h : slotPair entries index = some pair) : index < entries.length := by
  obtain ⟨entry, hentry, -⟩ := slotPair_eq_some.mp h
  exact (List.getElem?_eq_some_iff.mp hentry).1

theorem slotPair_set (hindex : index < entries.length) (slot : Option CacheEntry) :
    slotPair (entries.set index slot) =
      Function.update (slotPair entries) index (slot.map CacheEntry.pair) := by
  funext other
  by_cases hother : other = index
  · subst hother
    rw [Function.update_self, slotPair, List.getElem?_set_self hindex]
    rfl
  · rw [Function.update_of_ne hother, slotPair, List.getElem?_set_ne (Ne.symm hother)]
    rfl

/-- Writing what is there changes nothing. -/
theorem slotPair_set_same {entry entry' : CacheEntry} (hentry : entries[index]? = some (some entry))
    (hpair : entry'.pair = entry.pair) :
    slotPair (entries.set index (some entry')) = slotPair entries := by
  rw [slotPair_set (List.getElem?_eq_some_iff.mp hentry).1, Option.map_some, hpair]
  exact Function.update_eq_self_iff.mpr (slotPair_eq_some.mpr ⟨entry, hentry, rfl⟩).symm

theorem slotPair_append (entry : CacheEntry) :
    slotPair (entries ++ [some entry]) =
      Function.update (slotPair entries) entries.length (some entry.pair) := by
  funext other
  rcases Nat.lt_trichotomy other entries.length with hlt | rfl | hgt
  · rw [Function.update_of_ne (Nat.ne_of_lt hlt), slotPair, List.getElem?_append_left hlt]
    rfl
  · rw [Function.update_self, slotPair, List.getElem?_concat_length]
    rfl
  · rw [Function.update_of_ne (Nat.ne_of_gt hgt), slotPair, slotPair,
      List.getElem?_eq_none (by simp; omega), List.getElem?_eq_none (by omega)]

end

theorem lookup_erase_eq (index : AList (fun _ : CacheKey => Nat)) (key : CacheKey) :
    (index.erase key).lookup = Function.update index.lookup key none := by
  funext other
  by_cases hkey : other = key
  · subst hkey
    rw [Function.update_self, AList.lookup_erase]
  · rw [Function.update_of_ne hkey, AList.lookup_erase_ne hkey]

theorem lookup_insert_eq (index : AList (fun _ : CacheKey => Nat)) (key : CacheKey) (slot : Nat) :
    (index.insert key slot).lookup = Function.update index.lookup key (some slot) := by
  funext other
  by_cases hkey : other = key
  · subst hkey
    rw [Function.update_self, AList.lookup_insert]
  · rw [Function.update_of_ne hkey, AList.lookup_insert_ne hkey]

namespace CacheShard

variable {shard : CacheShard} {key other : CacheKey} {now : TimePoint}

/-- The index and the slots of a shard. -/
def slots (shard : CacheShard) : SlotMap CacheKey (List IPAddress × TimePoint) where
  lookup := shard.index.lookup
  slot := slotPair shard.entries

/-- What every `put` and `get` keeps, even a `put` whose `emplace` throws. -/
structure Inv (shard : CacheShard) : Prop where
  sound : shard.slots.Sound
  length_le : shard.entries.length ≤ shard.capacity
  hand_lt : shard.capacity ≠ 0 → shard.hand < shard.capacity

/-- The entry that the index leads to. -/
theorem Inv.entry_of_lookup (h : Inv shard) {slot : Nat}
    (hlookup : shard.index.lookup key = some slot) :
    ∃ entry, shard.entries[slot]? = some (some entry) ∧ entry.key = key := by
  obtain ⟨value, hvalue⟩ := h.sound key slot hlookup
  obtain ⟨entry, hentry, hpair⟩ := slotPair_eq_some.mp hvalue
  exact ⟨entry, hentry, congrArg Prod.fst hpair⟩

theorem slots_vacate {slot : Nat} (hslot : slot < shard.entries.length) :
    (shard.vacate key slot).slots = shard.slots.erase key slot := by
  unfold slots vacate SlotMap.erase
  rw [lookup_erase_eq, slotPair_set hslot]
  rfl

/-! ## `get` -/

/-- What `get` returns and leaves. -/
theorem Inv.get_cases (h : Inv shard) (key : CacheKey) (now : TimePoint) :
    (shard.index.lookup key = none ∧ shard.get key now = (none, shard)) ∨
    ∃ slot entry, shard.index.lookup key = some slot ∧
      shard.entries[slot]? = some (some entry) ∧ entry.key = key ∧
      ((entry.expiry ≤ now ∧ shard.get key now = (none, shard.vacate key slot)) ∨
        (now < entry.expiry ∧ shard.get key now =
          (some ⟨entry.addresses, remainingSeconds entry.expiry now⟩,
            { shard with
              entries := shard.entries.set slot (some { entry with chance := true }) }))) := by
  unfold get
  cases hlookup : shard.index.lookup key with
  | none => exact Or.inl ⟨rfl, rfl⟩
  | some slot =>
    obtain ⟨entry, hentry, hkey⟩ := h.entry_of_lookup hlookup
    refine Or.inr ⟨slot, entry, rfl, hentry, hkey, ?_⟩
    dsimp only
    rw [hentry]
    dsimp only
    by_cases hexpired : now ≥ entry.expiry
    · rw [if_pos hexpired]
      exact Or.inl ⟨hexpired, rfl⟩
    · rw [if_neg hexpired]
      exact Or.inr ⟨lt_of_not_ge hexpired, rfl⟩

theorem Inv.vacate (h : Inv shard) {slot : Nat} (hlookup : shard.index.lookup key = some slot) :
    Inv (shard.vacate key slot) := by
  obtain ⟨entry, hentry, -⟩ := h.entry_of_lookup hlookup
  refine ⟨?_, ?_, h.hand_lt⟩
  · rw [slots_vacate (List.getElem?_eq_some_iff.mp hentry).1]
    exact h.sound.erase hlookup
  · show (shard.entries.set slot none).length ≤ shard.capacity
    rw [List.length_set]
    exact h.length_le

/-- Another chance bit. -/
theorem Inv.setChance (h : Inv shard) {slot : Nat} {entry : CacheEntry}
    (hentry : shard.entries[slot]? = some (some entry)) (chance : Bool) :
    ({ shard with entries := shard.entries.set slot (some { entry with chance := chance }) }
      : CacheShard).slots = shard.slots ∧
    Inv { shard with
      entries := shard.entries.set slot (some { entry with chance := chance }) } := by
  have hslots :
    ({ shard with entries := shard.entries.set slot (some { entry with chance := chance }) }
      : CacheShard).slots = shard.slots := by
    have hpair : ({ entry with chance := chance } : CacheEntry).pair = entry.pair := rfl
    unfold slots
    dsimp only
    rw [slotPair_set_same hentry hpair]
  refine ⟨hslots, ?_, ?_, h.hand_lt⟩
  · rw [hslots]
    exact h.sound
  · rw [List.length_set]
    exact h.length_le

theorem Inv.get (h : Inv shard) (key : CacheKey) (now : TimePoint) : Inv (shard.get key now).2 := by
  rcases h.get_cases key now
    with ⟨-, hget⟩ | ⟨slot, entry, hlookup, hentry, -, ⟨-, hget⟩ | ⟨-, hget⟩⟩
  · rw [hget]
    exact h
  · rw [hget]
    exact h.vacate hlookup
  · rw [hget]
    exact (h.setChance hentry true).2

theorem Inv.complete_get (h : Inv shard) (hcomplete : shard.slots.Complete) (key : CacheKey)
    (now : TimePoint) : (shard.get key now).2.slots.Complete := by
  rcases h.get_cases key now
    with ⟨-, hget⟩ | ⟨slot, entry, hlookup, hentry, -, ⟨-, hget⟩ | ⟨-, hget⟩⟩
  · rw [hget]
    exact hcomplete
  · rw [hget, slots_vacate (List.getElem?_eq_some_iff.mp hentry).1]
    exact hcomplete.erase hlookup
  · rw [hget, (h.setChance hentry true).1]
    exact hcomplete

theorem Inv.capacity_get (h : Inv shard) (key : CacheKey) (now : TimePoint) :
    (shard.get key now).2.capacity = shard.capacity := by
  rcases h.get_cases key now with ⟨-, hget⟩ | ⟨slot, entry, -, -, -, ⟨-, hget⟩ | ⟨-, hget⟩⟩
  · rw [hget]
  · rw [hget]
    rfl
  · rw [hget]

/-- The map has what the slot holds that the index leads to. -/
theorem find_of_entry {slot : Nat} {entry : CacheEntry}
    (hlookup : shard.index.lookup key = some slot)
    (hentry : shard.entries[slot]? = some (some entry)) (hkey : entry.key = key) :
    shard.slots.find key = some (entry.addresses, entry.expiry) :=
  SlotMap.find_eq_of_lookup hlookup
    (slotPair_eq_some.mpr ⟨entry, hentry, by rw [CacheEntry.pair, hkey]⟩)

/-- `get` forgets the key that it was asked for when its time is over, and nothing
else. -/
theorem Inv.find_get (h : Inv shard) (key : CacheKey) (now : TimePoint) :
    (shard.get key now).2.slots.find = Function.update shard.slots.find key
      ((shard.slots.find key).filter fun value => decide (now < value.2)) := by
  rcases h.get_cases key now with ⟨hlookup, hget⟩ | ⟨slot, entry, hlookup, hentry, hkey, hcases⟩
  · rw [hget]
    refine (Function.update_eq_self_iff.mpr ?_).symm
    rw [SlotMap.find_of_lookup_none hlookup]
    rfl
  · rw [find_of_entry hlookup hentry hkey, Option.filter_some]
    rcases hcases with ⟨hexpired, hget⟩ | ⟨hlive, hget⟩
    · rw [hget, if_neg (by simpa using hexpired),
        slots_vacate (List.getElem?_eq_some_iff.mp hentry).1]
      exact h.sound.find_erase hlookup
    · rw [hget, if_pos (by simpa using hlive), (h.setChance hentry true).1]
      refine (Function.update_eq_self_iff.mpr ?_).symm
      exact (find_of_entry hlookup hentry hkey).symm

/-- `get` makes nothing up. -/
theorem Inv.forget_get (h : Inv shard) (key : CacheKey) (now : TimePoint) (other : CacheKey) :
    (shard.get key now).2.slots.find other = shard.slots.find other ∨
      (shard.get key now).2.slots.find other = none := by
  rw [h.find_get key now]
  by_cases hother : other = key
  · subst hother
    rw [Function.update_self]
    cases shard.slots.find other with
    | none => exact Or.inl rfl
    | some value =>
      rw [Option.filter_some]
      split
      · exact Or.inl rfl
      · exact Or.inr rfl
  · rw [Function.update_of_ne hother]
    exact Or.inl rfl

/-- What `get` returns is what the map has, with the time that is left. -/
theorem Inv.get_fst (h : Inv shard) (key : CacheKey) (now : TimePoint) :
    (shard.get key now).1 = (shard.slots.find key).bind fun (addresses, expiry) =>
      if now < expiry then some ⟨addresses, remainingSeconds expiry now⟩ else none := by
  rcases h.get_cases key now with ⟨hlookup, hget⟩ | ⟨slot, entry, hlookup, hentry, hkey, hcases⟩
  · rw [hget, SlotMap.find_of_lookup_none hlookup]
    rfl
  · rw [find_of_entry hlookup hentry hkey, Option.bind_some]
    dsimp only
    rcases hcases with ⟨hexpired, hget⟩ | ⟨hlive, hget⟩
    · rw [hget, if_neg (not_lt.mpr hexpired)]
    · rw [hget, if_pos hlive]

/-- `get` puts nothing into a slot. -/
theorem Inv.slot_get (h : Inv shard) {index : Nat} {pair : CacheKey × List IPAddress × TimePoint}
    (hslot : (shard.get key now).2.slots.slot index = some pair) :
    shard.slots.slot index = some pair := by
  rcases h.get_cases key now with ⟨-, hget⟩ | ⟨slot, entry, -, hentry, -, ⟨-, hget⟩ | ⟨-, hget⟩⟩
  · rwa [hget] at hslot
  · rw [hget, slots_vacate (List.getElem?_eq_some_iff.mp hentry).1] at hslot
    exact SlotMap.slot_of_erase hslot
  · rwa [hget, (h.setChance hentry true).1] at hslot

/-! ## `put` -/

variable {addresses : List IPAddress} {ttlSeconds : UInt32} {emplaceFails : Bool}

/-- The hand goes round a full shard and takes chances away; what the slots hold
stays. -/
theorem Inv.clockLoop (h : Inv shard) (hcapacity : shard.capacity ≠ 0) (now : TimePoint) :
    (exec (clockLoop now) shard).slots = shard.slots ∧
      (exec (clockLoop now) shard).index = shard.index ∧
      (exec (clockLoop now) shard).capacity = shard.capacity ∧
      (exec (clockLoop now) shard).entries.length = shard.entries.length ∧
      (exec (clockLoop now) shard).hand < shard.capacity := by
  refine exec_rule (CacheShard.clockLoop now)
    (fun current => current.slots = shard.slots ∧ current.index = shard.index ∧
      current.capacity = shard.capacity ∧ current.entries.length = shard.entries.length ∧
      current.hand < shard.capacity)
    (fun full => full.slots = shard.slots ∧ full.index = shard.index ∧
      full.capacity = shard.capacity ∧ full.entries.length = shard.entries.length ∧
      full.hand < shard.capacity) ?_ ?_ shard ⟨rfl, rfl, rfl, rfl, h.hand_lt hcapacity⟩
  · rintro current next ⟨hslots, hindex, hsame, hlength, hhand⟩ hbody
    change clockBody now current = _ at hbody
    unfold clockBody at hbody
    split at hbody
    · rename_i entry hentry
      split at hbody
      · cases hbody
      · obtain rfl := Iteration.again.inj hbody
        refine ⟨?_, hindex, hsame, ?_, ?_⟩
        · rw [← hslots]
          have hpair : ({ entry with chance := false } : CacheEntry).pair = entry.pair := rfl
          unfold slots
          dsimp only
          rw [slotPair_set_same hentry hpair]
        · rw [List.length_set, hlength]
        · rw [hsame]
          exact Nat.mod_lt _ (Nat.pos_of_ne_zero hcapacity)
    · cases hbody
  · rintro current result hcurrent hbody
    change clockBody now current = _ at hbody
    unfold clockBody at hbody
    split at hbody
    · split at hbody
      · obtain rfl := Iteration.done.inj hbody
        exact hcurrent
      · cases hbody
    · obtain rfl := Iteration.done.inj hbody
      exact hcurrent

/-- The index without the key that a slot holds. -/
def unlinked (shard : CacheShard) (slot : Nat) : AList (fun _ : CacheKey => Nat) :=
  match shard.entries[slot]? with
  | some (some old) => shard.index.erase old.key
  | _ => shard.index

theorem unlink_lookup (shard : CacheShard) (slot : Nat) :
    (shard.slots.unlink slot).lookup = (shard.unlinked slot).lookup := by
  have hslot : shard.slots.slot slot = slotPair shard.entries slot := rfl
  unfold SlotMap.unlink unlinked
  rw [hslot, slotPair]
  split
  · rename_i hnone
    split
    · rename_i old hold
      rw [hold] at hnone
      cases hnone
    · rfl
  · rename_i occupant value hsome
    split
    · rename_i old hold
      rw [hold] at hsome
      obtain ⟨rfl, -⟩ := Prod.mk.inj (Option.some.inj hsome)
      exact (lookup_erase_eq shard.index old.key).symm
    · rename_i hnone
      rw [Option.map_eq_some_iff] at hsome
      obtain ⟨entry, hentry, -⟩ := hsome
      exact absurd (Option.join_eq_some_iff.mp hentry) (hnone entry)

/-- A key that is not in the index is not in it without another key either. -/
theorem lookup_unlinked (hlookup : shard.index.lookup key = none) (slot : Nat) :
    (shard.unlinked slot).lookup key = none := by
  unfold unlinked
  split
  · rename_i old hold
    by_cases hsame : key = old.key
    · rw [hsame, AList.lookup_erase]
    · rw [AList.lookup_erase_ne hsame, hlookup]
  · exact hlookup

/-- A pair that was stored in a slot, and whose key was not put into the index. -/
def orphaned (shard : CacheShard) (key : CacheKey) (slot : Nat)
    (value : List IPAddress × TimePoint) : SlotMap CacheKey (List IPAddress × TimePoint) where
  lookup := (shard.slots.unlink slot).lookup
  slot := Function.update shard.slots.slot slot (some (key, value))

/-- `replace_slot`. -/
theorem slots_replaceSlot (hlookup : shard.index.lookup key = none) {slot : Nat}
    (hslot : slot < shard.entries.length) (entry : CacheEntry) (hkey : entry.key = key)
    (emplaceFails : Bool) :
    (shard.replaceSlot slot entry emplaceFails).1 = !emplaceFails ∧
      (shard.replaceSlot slot entry emplaceFails).2.slots =
        (if emplaceFails then shard.orphaned key slot (entry.addresses, entry.expiry)
          else shard.slots.place key slot (entry.addresses, entry.expiry)) ∧
      (shard.replaceSlot slot entry emplaceFails).2.capacity = shard.capacity ∧
      (shard.replaceSlot slot entry emplaceFails).2.entries.length = shard.entries.length ∧
      (shard.replaceSlot slot entry emplaceFails).2.hand = shard.hand := by
  subst hkey
  have hpairs := slotPair_set hslot (some entry)
  have hunlink := unlink_lookup shard slot
  have hreplace : shard.replaceSlot slot entry emplaceFails =
      { shard with
        index := shard.unlinked slot
        entries := shard.entries.set slot (some entry) }.emplace entry.key slot emplaceFails := rfl
  rw [hreplace, emplace]
  cases emplaceFails with
  | true =>
    refine ⟨rfl, ?_, rfl, List.length_set .., rfl⟩
    show SlotMap.mk (shard.unlinked slot).lookup (slotPair (shard.entries.set slot (some entry))) =
      SlotMap.mk _ _
    rw [hpairs, hunlink]
    rfl
  | false =>
    dsimp only
    rw [if_neg (by simp), if_neg (by simp [lookup_unlinked hlookup])]
    refine ⟨rfl, ?_, rfl, List.length_set .., rfl⟩
    show SlotMap.mk ((shard.unlinked slot).insert entry.key slot).lookup
      (slotPair (shard.entries.set slot (some entry))) = SlotMap.mk _ _
    rw [hpairs, hunlink, lookup_insert_eq]
    rfl

/-- Appending is placing the pair in the slot after the last one. -/
theorem slots_append (hlookup : shard.index.lookup key = none) (entry : CacheEntry)
    (hkey : entry.key = key) (emplaceFails : Bool) :
    let appended := { shard with entries := shard.entries ++ [some entry] }.emplace key
      shard.entries.length emplaceFails
    appended.1 = !emplaceFails ∧
      appended.2.slots =
        (if emplaceFails then shard.orphaned key shard.entries.length
          (entry.addresses, entry.expiry)
          else shard.slots.place key shard.entries.length (entry.addresses, entry.expiry)) ∧
      appended.2.capacity = shard.capacity ∧
      appended.2.entries.length = shard.entries.length + 1 ∧ appended.2.hand = shard.hand := by
  subst hkey
  intro appended
  have hunlink : (shard.slots.unlink shard.entries.length).lookup = shard.index.lookup := by
    rw [unlink_lookup, unlinked, List.getElem?_eq_none (Nat.le_refl _)]
  have happended : appended =
      { shard with entries := shard.entries ++ [some entry] }.emplace entry.key
      shard.entries.length emplaceFails := rfl
  rw [happended, emplace]
  cases emplaceFails with
  | true =>
    refine ⟨rfl, ?_, rfl, by simp, rfl⟩
    show SlotMap.mk shard.index.lookup (slotPair (shard.entries ++ [some entry])) = SlotMap.mk _ _
    rw [slotPair_append, hunlink]
    rfl
  | false =>
    dsimp only
    rw [if_neg (by simp), if_neg (by simp [hlookup])]
    refine ⟨rfl, ?_, rfl, by simp, rfl⟩
    show SlotMap.mk (shard.index.insert entry.key shard.entries.length).lookup
      (slotPair (shard.entries ++ [some entry])) = SlotMap.mk _ _
    rw [slotPair_append, hunlink, lookup_insert_eq]
    rfl

/-- What `put` does to the slots and the index, and whether it returns. -/
inductive PutEffect (shard : CacheShard) (key : CacheKey) (addresses : List IPAddress)
    (ttlSeconds : UInt32) (now : TimePoint) :
    Bool → SlotMap CacheKey (List IPAddress × TimePoint) → Prop where
  | disabled (hcapacity : shard.capacity = 0) :
      PutEffect shard key addresses ttlSeconds now true shard.slots
  | absent (hinvalid : ttlSeconds = 0 ∨ addresses = []) (hlookup : shard.index.lookup key = none) :
      PutEffect shard key addresses ttlSeconds now true shard.slots
  | removed {slot : Nat} (hinvalid : ttlSeconds = 0 ∨ addresses = [])
      (hlookup : shard.index.lookup key = some slot) :
      PutEffect shard key addresses ttlSeconds now true (shard.slots.erase key slot)
  | updated {slot : Nat} (hcapacity : shard.capacity ≠ 0)
      (hvalid : ¬ (ttlSeconds = 0 ∨ addresses = []))
      (hlookup : shard.index.lookup key = some slot) :
      PutEffect shard key addresses ttlSeconds now true
        (shard.slots.assign key slot (addresses, now + ttlSeconds.toNat * second))
  | stored (slot : Nat) (hcapacity : shard.capacity ≠ 0)
      (hvalid : ¬ (ttlSeconds = 0 ∨ addresses = [])) (hlookup : shard.index.lookup key = none)
      (happend : shard.entries.length < shard.capacity → slot = shard.entries.length) :
      PutEffect shard key addresses ttlSeconds now true
        (shard.slots.place key slot (addresses, now + ttlSeconds.toNat * second))
  | aborted (slot : Nat) (hvalid : ¬ (ttlSeconds = 0 ∨ addresses = []))
      (hlookup : shard.index.lookup key = none) :
      PutEffect shard key addresses ttlSeconds now false
        (shard.orphaned key slot (addresses, now + ttlSeconds.toNat * second))

/-- The slot of a key that is there is written in place. -/
theorem Inv.slots_modify (h : Inv shard) {slot : Nat} (hlookup : shard.index.lookup key = some slot)
    (addresses : List IPAddress) (expiry : TimePoint) :
    ({ shard with entries := shard.entries.modify slot (Option.map fun entry =>
      { entry with addresses := addresses, expiry := expiry, chance := true }) } : CacheShard).slots =
      shard.slots.assign key slot (addresses, expiry) := by
  obtain ⟨entry, hentry, rfl⟩ := h.entry_of_lookup hlookup
  obtain ⟨hlt, hget⟩ := List.getElem?_eq_some_iff.mp hentry
  unfold slots SlotMap.assign
  dsimp only
  rw [List.modify_eq_set_getElem? , hentry]
  show SlotMap.mk _ (slotPair (shard.entries.set slot (some _))) = _
  rw [slotPair_set hlt]
  rfl

/-- What `put` returns and leaves. -/
theorem Inv.put_effect (h : Inv shard) (key : CacheKey) (addresses : List IPAddress)
    (ttlSeconds : UInt32) (now : TimePoint) (emplaceFails : Bool) :
    let result := shard.put key addresses ttlSeconds now emplaceFails
    PutEffect shard key addresses ttlSeconds now result.1 result.2.slots ∧
      (emplaceFails = false → result.1 = true) ∧ result.2.capacity = shard.capacity ∧
      result.2.entries.length ≤ shard.capacity ∧
      (shard.capacity ≠ 0 → result.2.hand < shard.capacity) := by
  intro result
  have hresult : result = shard.put key addresses ttlSeconds now emplaceFails := rfl
  clear_value result
  unfold put at hresult
  split at hresult
  · rename_i hcapacity
    subst hresult
    exact ⟨.disabled hcapacity, fun _ => rfl, rfl, h.length_le, h.hand_lt⟩
  rename_i hcapacity
  dsimp only at hresult
  split at hresult
  · rename_i hinvalid
    split at hresult
    · rename_i hlookup
      subst hresult
      exact ⟨.absent hinvalid hlookup, fun _ => rfl, rfl, h.length_le, h.hand_lt⟩
    · rename_i slot hlookup
      subst hresult
      have hkept := h.vacate hlookup
      obtain ⟨entry, hentry, -⟩ := h.entry_of_lookup hlookup
      refine ⟨?_, fun _ => rfl, rfl, hkept.length_le, hkept.hand_lt⟩
      rw [slots_vacate (List.getElem?_eq_some_iff.mp hentry).1]
      exact .removed hinvalid hlookup
  · rename_i hvalid
    split at hresult
    · rename_i slot hlookup
      subst hresult
      refine ⟨?_, fun _ => rfl, rfl, ?_, h.hand_lt⟩
      · rw [h.slots_modify hlookup]
        exact .updated hcapacity hvalid hlookup
      · rw [List.length_modify]
        exact h.length_le
    · rename_i hlookup
      split at hresult
      · rename_i hroom
        obtain ⟨hreturned, hslots, hsame, hlength, hhand⟩ := slots_append hlookup
          { key := key, addresses := addresses, expiry := now + ttlSeconds.toNat * second } rfl
          emplaceFails
        rw [← hresult] at hreturned hslots hsame hlength hhand
        refine ⟨?_, fun hfails => by rw [hreturned, hfails]; rfl, hsame, ?_, ?_⟩
        · rw [hreturned, hslots]
          cases emplaceFails with
          | true => exact .aborted _ hvalid hlookup
          | false => exact .stored _ hcapacity hvalid hlookup fun _ => rfl
        · omega
        · rw [hhand]
          exact h.hand_lt
      · rename_i hfull
        obtain ⟨hkept, hindex, hcap, hlen, hhand⟩ := h.clockLoop hcapacity now
        generalize exec (CacheShard.clockLoop now) shard = full at hresult hkept hindex hcap hlen hhand
        have hin : full.hand < full.entries.length := by omega
        obtain ⟨hreturned, hslots, hsame, hlength, hmoved⟩ := slots_replaceSlot
          (by rw [hindex]; exact hlookup) hin
          { key := key, addresses := addresses, expiry := now + ttlSeconds.toNat * second } rfl
          emplaceFails
        have horphan : ∀ value, full.orphaned key full.hand value =
            shard.orphaned key full.hand value := by
          intro value
          unfold orphaned
          rw [hkept]
        rw [horphan, hkept] at hslots
        have hbound := h.length_le
        generalize full.replaceSlot full.hand _ emplaceFails = replaced at *
        cases emplaceFails with
        | true =>
          rw [if_neg (by simp [hreturned])] at hresult
          subst hresult
          refine ⟨?_, (by simp), hsame.trans hcap, (by dsimp only; omega), fun _ => ?_⟩
          · dsimp only
            rw [hslots]
            exact .aborted _ hvalid hlookup
          · show replaced.2.hand < shard.capacity
            omega
        | false =>
          rw [if_pos (by simp [hreturned])] at hresult
          subst hresult
          refine ⟨?_, fun _ => rfl, hsame.trans hcap, (by dsimp only; omega), fun _ => ?_⟩
          · show PutEffect shard key addresses ttlSeconds now true replaced.2.slots
            rw [hslots]
            exact .stored _ hcapacity hvalid hlookup fun hroom => absurd hroom hfull
          · show (full.hand + 1) % full.capacity < shard.capacity
            rw [hcap]
            exact Nat.mod_lt _ (Nat.pos_of_ne_zero hcapacity)

namespace PutEffect

variable {returned : Bool} {after : SlotMap CacheKey (List IPAddress × TimePoint)}

/-- The index stays sound, also when the `emplace` throws. -/
theorem sound (heffect : PutEffect shard key addresses ttlSeconds now returned after)
    (h : Inv shard) :
    after.Sound := by
  cases heffect with
  | disabled => exact h.sound
  | absent => exact h.sound
  | removed _ hlookup => exact h.sound.erase hlookup
  | updated _ _ hlookup => exact h.sound.assign hlookup _
  | stored slot => exact h.sound.place key slot _
  | aborted slot => exact h.sound.replaceSlot slot _

theorem complete (heffect : PutEffect shard key addresses ttlSeconds now true after)
    (h : shard.slots.Complete) : after.Complete := by
  cases heffect with
  | disabled => exact h
  | absent => exact h
  | removed _ hlookup => exact h.erase hlookup
  | updated _ _ hlookup => exact h.assign hlookup _
  | stored slot _ _ hlookup => exact h.place hlookup _

/-- The key of a `put` that returned holds what was put, or nothing. -/
theorem find_self (heffect : PutEffect shard key addresses ttlSeconds now true after)
    (h : Inv shard) :
    after.find key =
      if shard.capacity = 0 ∨ ttlSeconds = 0 ∨ addresses = [] then none
      else some (addresses, now + ttlSeconds.toNat * second) := by
  have hempty : shard.capacity = 0 → shard.slots.find key = none := by
    intro hcapacity
    cases hfind : shard.slots.find key with
    | none => rfl
    | some value =>
      obtain ⟨index, -, hslot⟩ := h.sound.find_eq_some hfind
      have hlt : index < shard.entries.length := lt_length_of_slotPair hslot
      have := h.length_le
      omega
  cases heffect with
  | disabled hcapacity => rw [if_pos (Or.inl hcapacity), hempty hcapacity]
  | absent hinvalid hlookup => rw [if_pos (Or.inr hinvalid), SlotMap.find_of_lookup_none hlookup]
  | removed hinvalid hlookup =>
    rw [if_pos (Or.inr hinvalid), h.sound.find_erase hlookup, Function.update_self]
  | updated hcapacity hvalid hlookup =>
    rw [if_neg (not_or.mpr ⟨hcapacity, hvalid⟩), h.sound.find_assign hlookup, Function.update_self]
  | stored slot hcapacity hvalid =>
    rw [if_neg (not_or.mpr ⟨hcapacity, hvalid⟩), (h.sound.find_place key slot _).1]

/-- Of the other keys `put` forgets some, and only when the shard is full. -/
theorem find_other (heffect : PutEffect shard key addresses ttlSeconds now true after)
    (h : Inv shard) (hother : other ≠ key) :
    after.find other = shard.slots.find other ∨
      (after.find other = none ∧ shard.index.lookup key = none ∧
        ¬ (ttlSeconds = 0 ∨ addresses = []) ∧ shard.capacity ≠ 0 ∧
        ¬ shard.entries.length < shard.capacity) := by
  cases heffect with
  | disabled => exact Or.inl rfl
  | absent => exact Or.inl rfl
  | removed _ hlookup =>
    refine Or.inl ?_
    rw [h.sound.find_erase hlookup, Function.update_of_ne hother]
  | updated _ _ hlookup =>
    refine Or.inl ?_
    rw [h.sound.find_assign hlookup, Function.update_of_ne hother]
  | stored slot hcapacity hvalid hlookup happend =>
    by_cases hroom : shard.entries.length < shard.capacity
    · refine Or.inl ?_
      obtain rfl := happend hroom
      have hfree : shard.slots.slot shard.entries.length = none := by
        show slotPair shard.entries shard.entries.length = none
        rw [slotPair, List.getElem?_eq_none (Nat.le_refl _)]
        rfl
      exact h.sound.find_place_free hfree hother
    · rcases (h.sound.find_place key slot (addresses, now + ttlSeconds.toNat * second)).2 other hother
        with hsame | hnone
      · exact Or.inl hsame
      · exact Or.inr ⟨hnone, hlookup, hvalid, hcapacity, hroom⟩

/-- A `put` that throws stores nothing that can be found. -/
theorem find_aborted (heffect : PutEffect shard key addresses ttlSeconds now false after)
    (h : Inv shard) (other : CacheKey) :
    after.find other = shard.slots.find other ∨ after.find other = none := by
  cases heffect with
  | aborted slot => exact h.sound.find_replaceSlot slot _ other

/-- What a slot holds after a `put` was there, or is what was put. -/
theorem slot_cases (heffect : PutEffect shard key addresses ttlSeconds now returned after)
    {index : Nat} {pair : CacheKey × List IPAddress × TimePoint}
    (hslot : after.slot index = some pair) :
    shard.slots.slot index = some pair ∨
      pair = (key, addresses, now + ttlSeconds.toNat * second) := by
  cases heffect with
  | disabled => exact Or.inl hslot
  | absent => exact Or.inl hslot
  | removed => exact Or.inl (SlotMap.slot_of_erase hslot)
  | updated => exact SlotMap.slot_of_update hslot
  | stored => exact SlotMap.slot_of_update hslot
  | aborted => exact SlotMap.slot_of_update hslot

end PutEffect

theorem Inv.put (h : Inv shard) (key : CacheKey) (addresses : List IPAddress) (ttlSeconds : UInt32)
    (now : TimePoint) (emplaceFails : Bool) :
    Inv (shard.put key addresses ttlSeconds now emplaceFails).2 := by
  obtain ⟨heffect, -, hcapacity, hlength, hhand⟩ :=
    h.put_effect key addresses ttlSeconds now emplaceFails
  refine ⟨heffect.sound h, ?_, ?_⟩
  · rw [hcapacity]
    exact hlength
  · rw [hcapacity]
    exact hhand

/-- The `put` takes the slot that the hand stops at. -/
def replaces (shard : CacheShard) (key : CacheKey) (addresses : List IPAddress)
    (ttlSeconds : UInt32) :
    Prop :=
  shard.capacity ≠ 0 ∧ ¬ (ttlSeconds = 0 ∨ addresses = []) ∧ shard.index.lookup key = none ∧
    ¬ shard.entries.length < shard.capacity

instance : Decidable (shard.replaces key addresses ttlSeconds) :=
  inferInstanceAs (Decidable (_ ∧ _ ∧ _ ∧ _))

/-- A `put` that replaces no slot is a write to the map. -/
theorem Inv.find_put (h : Inv shard) (hkeep : ¬ shard.replaces key addresses ttlSeconds)
    (now : TimePoint) :
    (shard.put key addresses ttlSeconds now false).2.slots.find = Function.update shard.slots.find key
      (if shard.capacity = 0 ∨ ttlSeconds = 0 ∨ addresses = [] then none
        else some (addresses, now + ttlSeconds.toNat * second)) := by
  obtain ⟨heffect, hreturned, -⟩ := h.put_effect key addresses ttlSeconds now false
  rw [hreturned rfl] at heffect
  funext other
  by_cases hother : other = key
  · subst hother
    rw [Function.update_self]
    exact heffect.find_self h
  · rw [Function.update_of_ne hother]
    rcases heffect.find_other h hother with hsame | ⟨-, hlookup, hvalid, hcapacity, hfull⟩
    · exact hsame
    · exact absurd ⟨hcapacity, hvalid, hlookup, hfull⟩ hkeep

/-- A fresh shard. -/
theorem inv_empty (capacity : Nat) : Inv { capacity := capacity } where
  sound key slot hlookup := by cases hlookup
  length_le := Nat.zero_le _
  hand_lt hcapacity := Nat.pos_of_ne_zero hcapacity

end CacheShard

end DnsPro.Cache
