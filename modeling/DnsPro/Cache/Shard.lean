import DnsPro.Lib.Loop
import DnsPro.Protocol.DomainName
import DnsPro.Runtime.TimerQueue
import Mathlib.Data.List.AList

/-!
# The address cache

`DNS_Cache.{h,cpp}`: a shard is a vector of slots, an index from keys to slots,
and a hand that goes round the slots when the shard is full.  The index is an
unordered map, whose order and hash nothing reads, so it is an `AList`.

`index_.emplace` allocates and may throw after the entry was stored.  `put` takes
whether it does, and returns whether it returned normally.
-/

namespace DnsPro.Cache

open DnsPro.Loop DnsPro.Protocol DnsPro.Runtime

inductive AddressFamily where
  | unspec
  | inet
  | inet6
  deriving DecidableEq, Repr

structure IPAddress where
  bytes : Vector UInt8 16 := Vector.replicate 16 0
  family : AddressFamily := .unspec
  deriving DecidableEq

/-- `IPAddress::v4`. -/
def IPAddress.v4 (value : Vector UInt8 4) : IPAddress where
  bytes := (value ++ Vector.replicate 12 (0 : UInt8) : Vector UInt8 (4 + 12))
  family := .inet

/-- `IPAddress::v6`. -/
def IPAddress.v6 (value : Vector UInt8 16) : IPAddress where
  bytes := value
  family := .inet6

/-- `is_v4`. -/
def IPAddress.isV4 (address : IPAddress) : Bool := decide (address.family = .inet)

/-- `is_v6`. -/
def IPAddress.isV6 (address : IPAddress) : Bool := decide (address.family = .inet6)

structure CacheKey where
  qname : Bytes
  qtype : UInt16
  qclass : UInt16
  deriving DecidableEq

/-- The constructor of `CacheKey` from a name. -/
def CacheKey.ofName (name : DomainName) (type recordClass : UInt16) : CacheKey :=
  ⟨name.canonicalKey, type, recordClass⟩

structure CacheHit where
  addresses : List IPAddress
  remainingTtl : UInt32
  deriving DecidableEq

structure CacheEntry where
  key : CacheKey
  addresses : List IPAddress
  expiry : TimePoint
  chance : Bool := true
  deriving DecidableEq

structure CacheShard where
  capacity : Nat
  hand : Nat := 0
  entries : List (Option CacheEntry) := []
  index : AList (fun _ : CacheKey => Nat) := ∅

/-- One second, in nanoseconds. -/
def second : Duration := 1000000000

namespace CacheShard

/-- The remaining lifetime in seconds, rounded up and clamped to what fits. -/
def remainingSeconds (expiry now : TimePoint) : UInt32 :=
  let remaining := (expiry - now + (second - 1)) / second
  UInt32.ofNat (max 1 (min remaining 4294967295)).toNat

/-- The entry is erased from the index and from its slot. -/
def vacate (shard : CacheShard) (key : CacheKey) (slot : Nat) : CacheShard :=
  { shard with index := shard.index.erase key, entries := shard.entries.set slot none }

/-- `size`. -/
def size (shard : CacheShard) : Nat := shard.index.keys.length

/-- `get`. -/
def get (shard : CacheShard) (key : CacheKey) (now : TimePoint) : Option CacheHit × CacheShard :=
  match shard.index.lookup key with
  | none => (none, shard)
  | some slot =>
    match shard.entries[slot]? with
    | some (some entry) =>
      if now ≥ entry.expiry then (none, shard.vacate key slot)
      else
        (some ⟨entry.addresses, remainingSeconds entry.expiry now⟩,
          { shard with entries := shard.entries.set slot (some { entry with chance := true }) })
    | _ => (none, shard.vacate key slot)

/-- `index_.emplace`, which keeps an entry that is there.  The result is whether
it returned. -/
def emplace (shard : CacheShard) (key : CacheKey) (slot : Nat) (emplaceFails : Bool) :
    Bool × CacheShard :=
  if emplaceFails then (false, shard)
  else if (shard.index.lookup key).isSome then (true, shard)
  else (true, { shard with index := shard.index.insert key slot })

/-- `replace_slot`. -/
def replaceSlot (shard : CacheShard) (slot : Nat) (entry : CacheEntry) (emplaceFails : Bool) :
    Bool × CacheShard :=
  let index := match shard.entries[slot]? with
    | some (some old) => shard.index.erase old.key
    | _ => shard.index
  { shard with
    index := index
    entries := shard.entries.set slot (some entry) }.emplace entry.key slot emplaceFails

/-- The loop of `put` over a full shard, up to the slot that is replaced. -/
def clockBody (now : TimePoint) (shard : CacheShard) : Iteration CacheShard CacheShard :=
  match shard.entries[shard.hand]? with
  | some (some entry) =>
    if now ≥ entry.expiry ∨ entry.chance = false then .done shard
    else
      .again { shard with
        entries := shard.entries.set shard.hand (some { entry with chance := false })
        hand := (shard.hand + 1) % shard.capacity }
  | _ => .done shard

/-- The slot holds an entry that has its chance. -/
def hasChance : Option CacheEntry → Bool
  | some entry => entry.chance
  | none => false

/-- A pass that goes on takes a chance away. -/
theorem clockBody_measure {now : TimePoint} {shard next : CacheShard}
    (h : clockBody now shard = .again next) :
    next.entries.countP hasChance < shard.entries.countP hasChance := by
  unfold clockBody at h
  split at h
  · rename_i entry hentry
    split at h
    · cases h
    · rename_i hkeep
      obtain rfl := Iteration.again.inj h
      obtain ⟨hlt, hget⟩ := List.getElem?_eq_some_iff.mp hentry
      have hchance : hasChance shard.entries[shard.hand] = true := by
        rw [hget]
        simpa [hasChance] using fun hchance => hkeep (.inr hchance)
      have hpositive : 0 < shard.entries.countP hasChance :=
        List.countP_pos_iff.mpr ⟨_, List.getElem_mem hlt, hchance⟩
      rw [List.countP_set hlt, hchance]
      simp only [hasChance, if_true, Bool.false_eq_true, if_false]
      omega
  · cases h

def clockLoop (now : TimePoint) : Terminating CacheShard CacheShard where
  body := clockBody now
  measure shard := shard.entries.countP hasChance
  decreasing := clockBody_measure

/-- `put`.  A time is an unbounded integer here.  The `int64_t` of nanoseconds behind the
expiry does not overflow while `now + ttlSeconds * second < 2 ^ 63`, which holds for every
`ttlSeconds` while the clock shows less than `2 ^ 63 - 2 ^ 32 * second`, 156 years. -/
def put (shard : CacheShard) (key : CacheKey) (addresses : List IPAddress) (ttlSeconds : UInt32)
    (now : TimePoint) (emplaceFails : Bool) : Bool × CacheShard :=
  if shard.capacity = 0 then (true, shard)
  else
    let existing := shard.index.lookup key
    if ttlSeconds = 0 ∨ addresses = [] then
      match existing with
      | none => (true, shard)
      | some slot => (true, shard.vacate key slot)
    else
      let expiry := now + ttlSeconds.toNat * second
      match existing with
      | some slot =>
        (true, { shard with entries := shard.entries.modify slot (Option.map fun entry =>
          { entry with addresses := addresses, expiry := expiry, chance := true }) })
      | none =>
        let entry := { key := key, addresses := addresses, expiry := expiry }
        if shard.entries.length < shard.capacity then
          { shard with entries := shard.entries ++ [some entry] }.emplace key shard.entries.length
            emplaceFails
        else
          let full := exec (clockLoop now) shard
          let (returned, replaced) := full.replaceSlot full.hand entry emplaceFails
          -- the hand moves on when nothing was thrown
          if returned then (true, { replaced with hand := (full.hand + 1) % full.capacity })
          else (false, replaced)

end CacheShard

end DnsPro.Cache
