import DnsPro.Cache.History

/-!
# Runs with aborted inserts

`process_datagram` catches what `put` throws, and the shard stays in use.  The
entry of an aborted `put` is then in a slot that the index does not lead to, and
its key may be stored again in another slot.  The index still leads only to slots
that hold its keys, so nothing finds the entry: a hit is always what the latest
`put` of the key that completed stored.
-/

namespace DnsPro.Cache

open DnsPro.Runtime DnsPro.Transition

/-- A call of a shard, and whether an `index_.emplace` in it throws. -/
inductive Attempt where
  | get (key : CacheKey) (now : TimePoint)
  | put (key : CacheKey) (addresses : List IPAddress) (ttlSeconds : UInt32) (now : TimePoint)
      (emplaceFails : Bool)

def Attempt.time : Attempt → TimePoint
  | .get _ now => now
  | .put _ _ _ now _ => now

/-- A shard, the time of the latest call, and the latest `put` of each key that
completed. -/
structure Usage where
  session : Session
  latest : CacheKey → Option Put

namespace Usage

/-- A fresh shard. -/
def fresh (capacity : Nat) (start : TimePoint) : Usage where
  session := ⟨{ capacity := capacity }, start⟩
  latest _ := none

/-- The shard after a call, and whether the call returned. -/
def perform (shard : CacheShard) : Attempt → Bool × CacheShard
  | .get key now => (true, (shard.get key now).2)
  | .put key addresses ttlSeconds now emplaceFails =>
    shard.put key addresses ttlSeconds now emplaceFails

/-- The completed `put`s after a call. -/
def completed (latest : CacheKey → Option Put) (returned : Bool) :
    Attempt → CacheKey → Option Put
  | .get _ _ => latest
  | .put key addresses ttlSeconds now _ =>
    if returned then Function.update latest key (some ⟨addresses, ttlSeconds, now⟩) else latest

/-- A call, at a time that is not before the latest one. -/
def attempt (usage : Usage) (attempt : Attempt) : Option Usage :=
  let result := perform usage.session.shard attempt
  if usage.session.now ≤ attempt.time then
    some ⟨⟨result.2, attempt.time⟩, completed usage.latest result.1 attempt⟩
  else none

variable {capacity : Nat} {usage next : Usage}

/-- One call, completed or aborted. -/
theorem backed_step {attempt : Attempt} (h : Backed capacity usage.latest usage.session)
    (hstep : usage.attempt attempt = some next) : Backed capacity next.latest next.session := by
  obtain ⟨hnow, rfl⟩ := enabled hstep
  cases attempt with
  | get key now => exact h.get key hnow
  | put key addresses ttlSeconds now emplaceFails =>
    dsimp only [perform, completed]
    split
    · rename_i hreturned
      exact h.put key addresses ttlSeconds emplaceFails hnow hreturned
    · rename_i hthrown
      exact h.put_aborted key addresses ttlSeconds emplaceFails hnow
        (Bool.eq_false_of_not_eq_true hthrown)

theorem backed_fresh (capacity : Nat) (start : TimePoint) :
    Backed capacity (fresh capacity start).latest (fresh capacity start).session where
  inv := CacheShard.inv_empty capacity
  capacity_eq := rfl
  latest key addresses expiry hfind := by cases hfind

theorem backed_of_run {start : TimePoint} {attempts : List Attempt}
    (hrun : run attempt (fresh capacity start) attempts = some usage) :
    Backed capacity usage.latest usage.session :=
  run_invariant (fun usage => Backed capacity usage.latest usage.session)
    (fun _ _ _ h hstep => backed_step h hstep) (backed_fresh capacity start) hrun

/-- After every run in which inserts may be aborted: the index leads only to slots
that hold its keys, the vector and the index stay within the capacity and the hand
in range, and a hit is what the latest completed `put` of its key stored, with the
time that is left of it. -/
theorem aborted_inserts_safe (capacity : Nat) (start : TimePoint) (attempts : List Attempt)
    (usage : Usage) (hrun : run attempt (fresh capacity start) attempts = some usage) :
    (∀ key slot, usage.session.shard.index.lookup key = some slot →
      ∃ entry, usage.session.shard.entries[slot]? = some (some entry) ∧ entry.key = key) ∧
    usage.session.shard.entries.length ≤ capacity ∧ usage.session.shard.size ≤ capacity ∧
    (0 < capacity → usage.session.shard.hand < capacity) ∧
    ∀ key now hit, usage.session.now ≤ now → (usage.session.shard.get key now).1 = some hit →
      ∃ put, usage.latest key = some put ∧ put.ttlSeconds ≠ 0 ∧ put.addresses ≠ [] ∧
        now < put.deadline ∧ hit.addresses = put.addresses ∧
        (hit.remainingTtl.toNat : Int) = ⌈((put.deadline - now : Int) : ℚ) / (second : Int)⌉ ∧
        1 ≤ hit.remainingTtl ∧ hit.remainingTtl ≤ put.ttlSeconds := by
  have h := backed_of_run hrun
  refine ⟨?_, h.length_le, h.size_le, h.hand_lt, ?_⟩
  · intro key slot hlookup
    exact h.inv.entry_of_lookup hlookup
  · intro key now hit hnow hget
    exact h.hit hnow hget

/-- A `put` of one address for a minute. -/
def sampleAttempt (label : UInt8) (now : TimePoint) (emplaceFails : Bool) : Attempt :=
  .put (sampleKey label) [.v4 #v[10, 0, 1, label]] 60 now emplaceFails

/-- An aborted `put` of the first key, and one that goes into another slot. -/
def sampleAttempts : List Attempt := [sampleAttempt 1 0 true, sampleAttempt 1 1 false]

theorem aborted_inserts_safe_sample :
    ∃ usage, run attempt (fresh 3 0) sampleAttempts = some usage ∧
      usage.session.shard.entries.length = 2 ∧ usage.session.shard.size ≤ 3 := by
  have hlength : (run attempt (fresh 3 0) sampleAttempts).map
      (fun usage => usage.session.shard.entries.length) = some 2 := by decide +kernel
  obtain ⟨usage, hrun, htwo⟩ := Option.map_eq_some_iff.mp hlength
  exact ⟨usage, hrun, htwo, (aborted_inserts_safe 3 0 sampleAttempts usage hrun).2.2.1⟩

end Usage

end DnsPro.Cache
