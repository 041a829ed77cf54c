import DnsPro.Cache.Refinement
import Mathlib.Data.Rat.Floor

/-!
# Runs of a shard

A run is a list of calls whose times do not decrease.  The shard stands for the
map from the keys to what their latest `put` stored, less what was evicted or is
over: a hit is never older and never made up.

Evictions read the chance bits, and `get` writes them.  A `get` therefore changes
what a later `get` of another key finds, but only through a `put` in between that
takes the slot of an entry.
-/

namespace DnsPro.Cache

open DnsPro.Runtime DnsPro.Transition

/-- A call of a shard that returns. -/
inductive Call where
  | get (key : CacheKey) (now : TimePoint)
  | put (key : CacheKey) (addresses : List IPAddress) (ttlSeconds : UInt32) (now : TimePoint)

def Call.time : Call → TimePoint
  | .get _ now => now
  | .put _ _ _ now => now

/-- A shard, and the time of the latest call. -/
structure Session where
  shard : CacheShard
  now : TimePoint

namespace Session

/-- The shard after a call. -/
def perform (shard : CacheShard) : Call → CacheShard
  | .get key now => (shard.get key now).2
  | .put key addresses ttlSeconds now => (shard.put key addresses ttlSeconds now false).2

/-- A call, at a time that is not before the latest one. -/
def call (session : Session) (call : Call) : Option Session :=
  if session.now ≤ call.time then some ⟨perform session.shard call, call.time⟩ else none

/-- The call is a `put` that takes the slot of an entry. -/
def Replaces (session : Session) : Call → Prop
  | .get _ _ => False
  | .put key addresses ttlSeconds _ => session.shard.replaces key addresses ttlSeconds

instance (session : Session) (call : Call) : Decidable (session.Replaces call) :=
  match call with
  | .get _ _ => inferInstanceAs (Decidable False)
  | .put key addresses ttlSeconds _ =>
    inferInstanceAs (Decidable (session.shard.replaces key addresses ttlSeconds))

/-- A call that replaces no entry. -/
def callInPlace (session : Session) (call : Call) : Option Session :=
  if session.Replaces call then none else session.call call

end Session

/-- The arguments of a `put`. -/
structure Put where
  addresses : List IPAddress
  ttlSeconds : UInt32
  time : TimePoint

def Put.deadline (put : Put) : TimePoint := put.time + put.ttlSeconds.toNat * second

/-- The `put` stores something. -/
def Put.Valid (put : Put) : Prop := put.ttlSeconds ≠ 0 ∧ put.addresses ≠ []

/-- The latest `put` of each key. -/
def record (latest : CacheKey → Option Put) : Call → CacheKey → Option Put
  | .get _ _ => latest
  | .put key addresses ttlSeconds now =>
    Function.update latest key (some ⟨addresses, ttlSeconds, now⟩)

/-- The latest `put` of each key in a list of calls. -/
def latestPut (calls : List Call) : CacheKey → Option Put := calls.foldl record fun _ => none

theorem latestPut_append (calls : List Call) (call : Call) :
    latestPut (calls ++ [call]) = record (latestPut calls) call := by
  rw [latestPut, List.foldl_append]
  rfl

/-- A shard whose entries are what the latest `put` of their key stored. -/
structure Backed (capacity : Nat) (latest : CacheKey → Option Put) (session : Session) : Prop where
  inv : session.shard.Inv
  capacity_eq : session.shard.capacity = capacity
  latest : ∀ key addresses expiry, session.shard.slots.find key = some (addresses, expiry) →
    ∃ put, latest key = some put ∧ put.Valid ∧ addresses = put.addresses ∧
      expiry = put.deadline ∧ put.time ≤ session.now

namespace Backed

variable {capacity : Nat} {latest : CacheKey → Option Put} {session : Session}

/-- A map that has forgotten some keys. -/
theorem latest_of_forget (h : Backed capacity latest session)
    {find : CacheKey → Option (List IPAddress × TimePoint)} {now : TimePoint}
    (hnow : session.now ≤ now)
    {key : CacheKey} (hforget : find key = session.shard.slots.find key ∨ find key = none)
    {addresses : List IPAddress} {expiry : TimePoint}
    (hfind : find key = some (addresses, expiry)) :
    ∃ put, latest key = some put ∧ put.Valid ∧ addresses = put.addresses ∧
      expiry = put.deadline ∧ put.time ≤ now := by
  rcases hforget with hsame | hnone
  · rw [hsame] at hfind
    obtain ⟨put, hput, hvalid, haddresses, hexpiry, htime⟩ := h.latest _ _ _ hfind
    exact ⟨put, hput, hvalid, haddresses, hexpiry, le_trans htime hnow⟩
  · rw [hnone] at hfind
    cases hfind

theorem get (h : Backed capacity latest session) (key : CacheKey) {now : TimePoint}
    (hnow : session.now ≤ now) : Backed capacity latest ⟨(session.shard.get key now).2, now⟩ where
  inv := h.inv.get key now
  capacity_eq := (h.inv.capacity_get key now).trans h.capacity_eq
  latest := by
    intro other addresses expiry hfind
    exact h.latest_of_forget hnow (h.inv.forget_get key now other) hfind

/-- A `put` that returns is the latest one of its key. -/
theorem put (h : Backed capacity latest session) (key : CacheKey) (addresses : List IPAddress)
    (ttlSeconds : UInt32) {now : TimePoint} (emplaceFails : Bool) (hnow : session.now ≤ now)
    (hreturned : (session.shard.put key addresses ttlSeconds now emplaceFails).1 = true) :
    Backed capacity (Function.update latest key (some ⟨addresses, ttlSeconds, now⟩))
      ⟨(session.shard.put key addresses ttlSeconds now emplaceFails).2, now⟩ := by
  obtain ⟨heffect, -, hcapacity, -, -⟩ :=
    h.inv.put_effect key addresses ttlSeconds now emplaceFails
  rw [hreturned] at heffect
  refine ⟨h.inv.put key addresses ttlSeconds now emplaceFails, hcapacity.trans h.capacity_eq, ?_⟩
  intro other stored expiry hfind
  dsimp only at hfind ⊢
  by_cases hother : other = key
  · subst hother
    rw [Function.update_self]
    rw [heffect.find_self h.inv] at hfind
    split at hfind
    · cases hfind
    · rename_i hvalid
      obtain ⟨rfl, rfl⟩ := Prod.mk.inj (Option.some.inj hfind)
      rw [not_or, not_or] at hvalid
      exact ⟨_, rfl, hvalid.2, rfl, rfl, le_refl now⟩
  · rw [Function.update_of_ne hother]
    refine h.latest_of_forget hnow ?_ hfind
    rcases heffect.find_other h.inv hother with hsame | ⟨hnone, -⟩
    · exact Or.inl hsame
    · exact Or.inr hnone

/-- A `put` that throws stores nothing that a `get` finds. -/
theorem put_aborted (h : Backed capacity latest session) (key : CacheKey)
    (addresses : List IPAddress) (ttlSeconds : UInt32) {now : TimePoint} (emplaceFails : Bool)
    (hnow : session.now ≤ now)
    (hthrown : (session.shard.put key addresses ttlSeconds now emplaceFails).1 = false) :
    Backed capacity latest
      ⟨(session.shard.put key addresses ttlSeconds now emplaceFails).2, now⟩ := by
  obtain ⟨heffect, -, hcapacity, -, -⟩ :=
    h.inv.put_effect key addresses ttlSeconds now emplaceFails
  rw [hthrown] at heffect
  refine ⟨h.inv.put key addresses ttlSeconds now emplaceFails, hcapacity.trans h.capacity_eq, ?_⟩
  intro other stored expiry hfind
  exact h.latest_of_forget hnow (heffect.find_aborted h.inv other) hfind

theorem length_le (h : Backed capacity latest session) :
    session.shard.entries.length ≤ capacity := by
  have hlength := h.inv.length_le
  rwa [h.capacity_eq] at hlength

theorem hand_lt (h : Backed capacity latest session) (hcapacity : 0 < capacity) :
    session.shard.hand < capacity := by
  have hhand := h.inv.hand_lt
  rw [h.capacity_eq] at hhand
  exact hhand (Nat.ne_of_gt hcapacity)

theorem size_le (h : Backed capacity latest session) : session.shard.size ≤ capacity := by
  have hkeys : ∀ key ∈ session.shard.index.keys, (session.shard.slots.lookup key).isSome := by
    intro key hkey
    exact AList.lookup_isSome.mpr (AList.mem_keys.mp hkey)
  have hlength := h.inv.sound.length_keys_le session.shard.index.keys_nodup hkeys
    fun slot pair hslot => lt_length_of_slotPair hslot
  exact le_trans hlength h.length_le

end Backed

/-- What holds after every run. -/
structure Refines (capacity : Nat) (calls : List Call) (session : Session) : Prop where
  inv : session.shard.Inv
  complete : session.shard.slots.Complete
  capacity_eq : session.shard.capacity = capacity
  latest : ∀ key addresses expiry, session.shard.slots.find key = some (addresses, expiry) →
    ∃ put, latestPut calls key = some put ∧ put.Valid ∧ addresses = put.addresses ∧
      expiry = put.deadline ∧ put.time ≤ session.now

namespace Refines

variable {capacity : Nat} {calls : List Call} {session next : Session}

theorem backed (h : Refines capacity calls session) : Backed capacity (latestPut calls) session :=
  ⟨h.inv, h.capacity_eq, h.latest⟩

theorem of_backed {call : Call} (h : Backed capacity (record (latestPut calls) call) session)
    (hcomplete : session.shard.slots.Complete) : Refines capacity (calls ++ [call]) session := by
  refine ⟨h.inv, hcomplete, h.capacity_eq, ?_⟩
  rw [latestPut_append]
  exact h.latest

theorem get (h : Refines capacity calls session) (key : CacheKey) {now : TimePoint}
    (hnow : session.now ≤ now) :
    Refines capacity (calls ++ [.get key now]) ⟨(session.shard.get key now).2, now⟩ :=
  of_backed (h.backed.get key hnow) (h.inv.complete_get h.complete key now)

theorem put (h : Refines capacity calls session) (key : CacheKey) (addresses : List IPAddress)
    (ttlSeconds : UInt32) {now : TimePoint} (hnow : session.now ≤ now) :
    Refines capacity (calls ++ [.put key addresses ttlSeconds now])
      ⟨(session.shard.put key addresses ttlSeconds now false).2, now⟩ := by
  obtain ⟨heffect, hreturned, -⟩ := h.inv.put_effect key addresses ttlSeconds now false
  rw [hreturned rfl] at heffect
  exact of_backed (h.backed.put key addresses ttlSeconds false hnow (hreturned rfl))
    (heffect.complete h.complete)

theorem call (h : Refines capacity calls session) {call : Call}
    (hcall : session.call call = some next) :
    Refines capacity (calls ++ [call]) next := by
  obtain ⟨hnow, rfl⟩ := enabled hcall
  cases call with
  | get key now => exact h.get key hnow
  | put key addresses ttlSeconds now => exact h.put key addresses ttlSeconds hnow

theorem start (capacity : Nat) (now : TimePoint) :
    Refines capacity [] ⟨{ capacity := capacity }, now⟩ where
  inv := CacheShard.inv_empty capacity
  complete key slot value hslot := by cases hslot
  capacity_eq := rfl
  latest key addresses expiry hfind := by cases hfind

end Refines

theorem refines_of_run {capacity : Nat} {start : TimePoint} {calls : List Call} {session : Session}
    (hrun : run Session.call ⟨{ capacity := capacity }, start⟩ calls = some session) :
    Refines capacity calls session :=
  run_trace_invariant (Refines capacity) (fun _ _ _ _ h hcall => h.call hcall) []
    (Refines.start capacity start) hrun

/-! ## Calls that replace no entry -/

/-- Two sessions whose maps differ at most at one key. -/
structure Agree (key : CacheKey) (left right : Session) : Prop where
  left_inv : left.shard.Inv
  right_inv : right.shard.Inv
  capacity_eq : left.shard.capacity = right.shard.capacity
  find_eq : ∀ other ≠ key, left.shard.slots.find other = right.shard.slots.find other

namespace Agree

variable {key : CacheKey} {left right left' right' : Session}

/-- Both maps are written at one key, with what they had there. -/
theorem update_eq (h : Agree key left right)
    (write : Option (List IPAddress × TimePoint) → Option (List IPAddress × TimePoint))
    (written : CacheKey) {other : CacheKey} (hother : other ≠ key) :
    Function.update left.shard.slots.find written (write (left.shard.slots.find written)) other =
      Function.update right.shard.slots.find written (write (right.shard.slots.find written)) other := by
  by_cases hwritten : other = written
  · subst hwritten
    rw [Function.update_self, Function.update_self, h.find_eq other hother]
  · rw [Function.update_of_ne hwritten, Function.update_of_ne hwritten, h.find_eq other hother]

theorem callInPlace (h : Agree key left right) {call : Call}
    (hleft : left.callInPlace call = some left') (hright : right.callInPlace call = some right') :
    Agree key left' right' := by
  unfold Session.callInPlace at hleft hright
  split at hleft
  · cases hleft
  rename_i hleftKeeps
  split at hright
  · cases hright
  rename_i hrightKeeps
  obtain ⟨-, rfl⟩ := enabled hleft
  obtain ⟨-, rfl⟩ := enabled hright
  cases call with
  | get asked now =>
    refine ⟨h.left_inv.get asked now, h.right_inv.get asked now, ?_, ?_⟩
    · show (left.shard.get asked now).2.capacity = (right.shard.get asked now).2.capacity
      rw [h.left_inv.capacity_get, h.right_inv.capacity_get, h.capacity_eq]
    · intro other hother
      show (left.shard.get asked now).2.slots.find other = (right.shard.get asked now).2.slots.find other
      rw [h.left_inv.find_get, h.right_inv.find_get]
      exact h.update_eq (Option.filter fun value => decide (now < value.2)) asked hother
  | put written addresses ttlSeconds now =>
    refine ⟨h.left_inv.put written addresses ttlSeconds now false,
      h.right_inv.put written addresses ttlSeconds now false, ?_, ?_⟩
    · show (left.shard.put written addresses ttlSeconds now false).2.capacity =
        (right.shard.put written addresses ttlSeconds now false).2.capacity
      rw [(h.left_inv.put_effect written addresses ttlSeconds now false).2.2.1,
        (h.right_inv.put_effect written addresses ttlSeconds now false).2.2.1, h.capacity_eq]
    · intro other hother
      show (left.shard.put written addresses ttlSeconds now false).2.slots.find other =
        (right.shard.put written addresses ttlSeconds now false).2.slots.find other
      rw [h.left_inv.find_put hleftKeeps, h.right_inv.find_put hrightKeeps, h.capacity_eq]
      exact h.update_eq (fun _ => _) written hother

theorem run (h : Agree key left right) {calls : List Call}
    (hleft : Transition.run Session.callInPlace left calls = some left')
    (hright : Transition.run Session.callInPlace right calls = some right') :
    Agree key left' right' := by
  induction calls generalizing left right with
  | nil =>
    obtain rfl := Option.some.inj hleft
    obtain rfl := Option.some.inj hright
    exact h
  | cons call calls ih =>
    obtain ⟨left₁, hcallLeft, hleft⟩ := run_cons.mp hleft
    obtain ⟨right₁, hcallRight, hright⟩ := run_cons.mp hright
    exact ih (h.callInPlace hcallLeft hcallRight) hleft hright

end Agree

/-- A `get` changes the map at its own key only. -/
theorem agree_get {session : Session} (h : session.shard.Inv) (key : CacheKey) (now : TimePoint) :
    Agree key ⟨(session.shard.get key now).2, now⟩ session where
  left_inv := h.get key now
  right_inv := h
  capacity_eq := h.capacity_get key now
  find_eq other hother := by
    show (session.shard.get key now).2.slots.find other = _
    rw [h.find_get, Function.update_of_ne hother]

/-! ## The remaining lifetime -/

/-- What is left of a lifetime is at least a second, and at most the lifetime. -/
theorem remainingSeconds_toNat {lifetime : UInt32} {expiry now : Int} (hlive : now < expiry)
    (hexpiry : expiry ≤ now + lifetime.toNat * second) :
    ((CacheShard.remainingSeconds expiry now).toNat : Int) = (expiry - now + (second - 1)) / second ∧
      1 ≤ CacheShard.remainingSeconds expiry now ∧
      CacheShard.remainingSeconds expiry now ≤ lifetime := by
  have hbound := lifetime.toNat_lt
  change expiry ≤ now + lifetime.toNat * (1000000000 : Int) at hexpiry
  have hvalue : ((CacheShard.remainingSeconds expiry now).toNat : Int) =
      (expiry - now + (second - 1)) / second := by
    unfold CacheShard.remainingSeconds
    dsimp only
    change ((UInt32.ofNat (max 1 (min (((expiry : Int) - now + (1000000000 - 1)) / 1000000000)
      4294967295)).toNat).toNat : Int) = ((expiry : Int) - now + (1000000000 - 1)) / 1000000000
    rw [UInt32.toNat_ofNat_of_lt' (by rw [show UInt32.size = 4294967296 from rfl]; omega)]
    omega
  change _ = ((expiry : Int) - now + (1000000000 - 1)) / 1000000000 at hvalue
  refine ⟨hvalue, ?_, ?_⟩
  · rw [UInt32.le_iff_toNat_le]
    show 1 ≤ _
    omega
  · rw [UInt32.le_iff_toNat_le]
    omega

/-- Rounding up. -/
theorem ceil_second (lifetime : Int) :
    (lifetime + (second - 1)) / second = ⌈(lifetime : ℚ) / (second : Int)⌉ := by
  have hdiv : (lifetime + (1000000000 - 1)) / 1000000000 * 1000000000 ≤
      lifetime + (1000000000 - 1) ∧ lifetime + (1000000000 - 1) <
      ((lifetime + (1000000000 - 1)) / 1000000000 + 1) * 1000000000 := by omega
  change (lifetime + (1000000000 - 1)) / 1000000000 = ⌈(lifetime : ℚ) / ((1000000000 : Int) : ℚ)⌉
  generalize (lifetime + (1000000000 - 1)) / 1000000000 = seconds at hdiv ⊢
  symm
  rw [Int.ceil_eq_iff, lt_div_iff₀ (by norm_num), div_le_iff₀ (by norm_num)]
  constructor
  · have : (seconds - 1) * 1000000000 < lifetime := by omega
    exact_mod_cast this
  · have : lifetime ≤ seconds * 1000000000 := by omega
    exact_mod_cast this

/-- A hit is what the latest `put` of the key stored. -/
theorem Backed.hit {capacity : Nat} {latest : CacheKey → Option Put} {session : Session}
    (h : Backed capacity latest session) {key : CacheKey} {now : TimePoint} {hit : CacheHit}
    (hnow : session.now ≤ now) (hget : (session.shard.get key now).1 = some hit) :
    ∃ put, latest key = some put ∧ put.ttlSeconds ≠ 0 ∧ put.addresses ≠ [] ∧
      now < put.deadline ∧ hit.addresses = put.addresses ∧
      (hit.remainingTtl.toNat : Int) = ⌈((put.deadline - now : Int) : ℚ) / (second : Int)⌉ ∧
      1 ≤ hit.remainingTtl ∧ hit.remainingTtl ≤ put.ttlSeconds := by
  rw [h.inv.get_fst, Option.bind_eq_some_iff] at hget
  obtain ⟨⟨addresses, expiry⟩, hfind, hhit⟩ := hget
  obtain ⟨hlive, rfl⟩ := enabled hhit
  obtain ⟨put, hput, ⟨httl, hvalid⟩, rfl, rfl, htime⟩ := h.latest _ _ _ hfind
  have hleft : put.deadline ≤ now + put.ttlSeconds.toNat * second :=
    add_le_add_left (le_trans htime hnow) _
  obtain ⟨hvalue, hone, hmost⟩ := remainingSeconds_toNat hlive hleft
  exact ⟨put, hput, httl, hvalid, hlive, rfl, hvalue.trans (ceil_second _), hone, hmost⟩

/-! ## The map -/

namespace Refines

variable {capacity : Nat} {calls : List Call} {session : Session}

/-- The index and the occupied slots are in step. -/
theorem lookup_iff (h : Refines capacity calls session) (key : CacheKey) (slot : Nat) :
    session.shard.index.lookup key = some slot ↔
      ∃ entry, session.shard.entries[slot]? = some (some entry) ∧ entry.key = key := by
  constructor
  · exact h.inv.entry_of_lookup
  · rintro ⟨entry, hentry, rfl⟩
    exact h.complete _ _ _ (slotPair_eq_some.mpr ⟨entry, hentry, rfl⟩)

/-- A `get` after a `put` of the key hits. -/
theorem get_put (h : Refines capacity calls session) (hcapacity : 0 < capacity) {key : CacheKey}
    {addresses : List IPAddress} {ttlSeconds : UInt32} {now later : TimePoint}
    (httl : ttlSeconds ≠ 0)
    (haddresses : addresses ≠ []) (hlive : later < now + ttlSeconds.toNat * second) :
    ((session.shard.put key addresses ttlSeconds now false).2.get key later).1 =
      some ⟨addresses, CacheShard.remainingSeconds (now + ttlSeconds.toNat * second) later⟩ := by
  obtain ⟨heffect, hreturned, -⟩ := h.inv.put_effect key addresses ttlSeconds now false
  rw [hreturned rfl] at heffect
  have hstores : ¬ (session.shard.capacity = 0 ∨ ttlSeconds = 0 ∨ addresses = []) := by
    rw [h.capacity_eq, not_or, not_or]
    exact ⟨Nat.ne_of_gt hcapacity, httl, haddresses⟩
  rw [(h.inv.put key addresses ttlSeconds now false).get_fst, heffect.find_self h.inv,
    if_neg hstores, Option.bind_some]
  exact if_pos hlive

end Refines

/-- After every run of calls: the index is a bijection between its keys and the
occupied slots, within the capacity; a hit is the unexpired latest `put` of its key,
with the time that is left; a `put` is seen at once; and a `get` changes no later
`get` of another key while no entry is replaced. -/
theorem shard_refines_map (capacity : Nat) (start : TimePoint) (calls : List Call)
    (session : Session)
    (hrun : run Session.call ⟨{ capacity := capacity }, start⟩ calls = some session) :
    (∀ key slot, session.shard.index.lookup key = some slot ↔
      ∃ entry, session.shard.entries[slot]? = some (some entry) ∧ entry.key = key) ∧
    session.shard.entries.length ≤ capacity ∧ session.shard.size ≤ capacity ∧
    (0 < capacity → session.shard.hand < capacity) ∧
    (∀ key now hit, session.now ≤ now → (session.shard.get key now).1 = some hit →
      ∃ put, latestPut calls key = some put ∧ put.ttlSeconds ≠ 0 ∧ put.addresses ≠ [] ∧
        now < put.deadline ∧ hit.addresses = put.addresses ∧
        (hit.remainingTtl.toNat : Int) = ⌈((put.deadline - now : Int) : ℚ) / (second : Int)⌉ ∧
        1 ≤ hit.remainingTtl ∧ hit.remainingTtl ≤ put.ttlSeconds) ∧
    (0 < capacity → ∀ key addresses ttlSeconds now later, ttlSeconds ≠ 0 → addresses ≠ [] →
      session.now ≤ now → now ≤ later → later < now + ttlSeconds.toNat * second →
      ((session.shard.put key addresses ttlSeconds now false).2.get key later).1.isSome) ∧
    (∀ key other now between touched untouched later, other ≠ key → session.now ≤ now →
      run Session.callInPlace ⟨(session.shard.get key now).2, now⟩ between = some touched →
      run Session.callInPlace session between = some untouched →
      (touched.shard.get other later).1 = (untouched.shard.get other later).1) := by
  have h := refines_of_run hrun
  refine ⟨h.lookup_iff, h.backed.length_le, h.backed.size_le, h.backed.hand_lt, ?_, ?_, ?_⟩
  · intro key now hit hnow hget
    exact h.backed.hit hnow hget
  · intro hcapacity key addresses ttlSeconds now later httl haddresses _ _ hlive
    rw [h.get_put hcapacity httl haddresses hlive]
    rfl
  · intro key other now between touched untouched later hother _ htouched huntouched
    have hagree := (agree_get h.inv key now).run htouched huntouched
    rw [hagree.left_inv.get_fst, hagree.right_inv.get_fst, hagree.find_eq other hother]

/-- A key for a name of one label. -/
def sampleKey (label : UInt8) : CacheKey := ⟨[1, label, 0], 1, 1⟩

/-- A `put` of one address for a minute. -/
def samplePut (label : UInt8) (now : TimePoint) : Call :=
  .put (sampleKey label) [.v4 #v[10, 0, 0, label]] 60 (now * second)

/-- A shard of three slots after four `put`s: the fourth took the chances of the
others and the slot of the first. -/
def sampleCalls : List Call := [samplePut 1 0, samplePut 2 1, samplePut 3 2, samplePut 4 3]

theorem shard_refines_map_sample :
    ∃ session, run Session.call ⟨{ capacity := 3 }, 0⟩ sampleCalls = some session ∧
      session.shard.size ≤ 3 ∧
      (session.shard.get (sampleKey 4) (10 * second)).1 = some ⟨[.v4 #v[10, 0, 0, 4]], 53⟩ := by
  have hhit : ((run Session.call ⟨{ capacity := 3 }, 0⟩ sampleCalls).map fun session =>
      (session.shard.get (sampleKey 4) (10 * second)).1) =
        some (some ⟨[.v4 #v[10, 0, 0, 4]], 53⟩) := by decide +kernel
  obtain ⟨session, hrun, hget⟩ := Option.map_eq_some_iff.mp hhit
  exact ⟨session, hrun, (shard_refines_map 3 0 sampleCalls session hrun).2.2.1, hget⟩

/-- The `get` of the second key gives it its chance back, so the next `put` takes
the slot of the third. -/
theorem get_changes_later_get :
    ((run Session.call ⟨{ capacity := 3 }, 0⟩
        (sampleCalls ++ [.get (sampleKey 2) (4 * second), samplePut 5 5])).map fun session =>
      (session.shard.get (sampleKey 3) (6 * second)).1) = some none ∧
    ((run Session.call ⟨{ capacity := 3 }, 0⟩ (sampleCalls ++ [samplePut 5 5])).map fun session =>
      (session.shard.get (sampleKey 3) (6 * second)).1) =
        some (some ⟨[.v4 #v[10, 0, 0, 3]], 56⟩) := by
  constructor
  · decide +kernel
  · decide +kernel

end DnsPro.Cache
