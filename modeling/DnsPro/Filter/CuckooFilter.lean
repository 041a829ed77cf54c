import DnsPro.Lib.CuckooTable
import DnsPro.Protocol.DomainName

/-!
# The cuckoo prefilter

`CuckooFilter.{h,cpp}`: four 16-bit fingerprints per bucket, a power-of-two
number of buckets, and an insert that relocates fingerprints for at most
`maximum_kicks` steps and undoes the whole chain when it fails.

The hash of an item is a parameter, `hash`, which stands for `XXH3_64bits`.
Nothing is assumed about it.  `maxSize` stands for `buckets_.max_size()`,
which the standard library decides.

The invariant is `Holds`: the fingerprint of an accepted item is in one of
the two buckets of the item.  `insert_holds_old` and `insert_holds_new` are the
two facts that `contains` needs, and `kickLoop_failed` is the undo of a failed
chain.
-/

namespace DnsPro.Filter

open DnsPro.Protocol DnsPro.CuckooTable

/-- `FPS_PER_BUCKET` slots. -/
abbrev Slot := Fin 4

/-- `Fingerprint`, a bit set of sixteen bits. -/
abbrev Fingerprint := UInt16

inductive InsertFailureReason where
  | none
  | loadLimit
  | kickLimit
  deriving DecidableEq, Repr

/-- `std::numeric_limits<size_t>::max()`. -/
def maxSizeT : Nat := 2 ^ 64 - 1

/-- `std::bit_ceil`. -/
def bitCeil (value : Nat) : Nat :=
  if value ≤ 1 then 1 else 2 ^ (Nat.log2 (value - 1) + 1)

/-- `normalize_bucket_count`; `none` is the `std::length_error`. -/
def normalizeBucketCount (requested : Nat) : Option Nat :=
  if max requested 4 > 2 ^ 63 then none else some (bitCeil (max requested 4))

/-- `load_limit`. -/
def loadLimit (totalSlots : Nat) : Nat :=
  totalSlots / 100 * 95 + totalSlots % 100 * 95 / 100

/-- `CuckooFilter`.  The number of buckets is a power of two of at least four. -/
structure CuckooFilter where
  bucketCount : Nat
  buckets : Table Nat Slot Fingerprint
  size : Nat
  maximumKicks : Nat
  rngState : UInt64
  lastFailure : InsertFailureReason
  bucketCount_pow : ∃ k, 2 ≤ k ∧ bucketCount = 2 ^ k

/-- `splitmix64`. -/
def splitmix64 (value : UInt64) : UInt64 :=
  let value := value + 0x9e3779b97f4a7c15
  let value := (value ^^^ (value >>> 30)) * 0xbf58476d1ce4e5b9
  let value := (value ^^^ (value >>> 27)) * 0x94d049bb133111eb
  value ^^^ (value >>> 31)

/-- `calc_fp`: one of the values `1` to `MAX_FINGERPRINT_VALUE`. -/
def calcFp (hash : UInt64) : Fingerprint :=
  UInt16.ofNat ((hash >>> 48).toNat % 65535 + 1)

theorem bitCeil_pow {value : Nat} (h : 4 ≤ value) : ∃ k, 2 ≤ k ∧ bitCeil value = 2 ^ k := by
  refine ⟨Nat.log2 (value - 1) + 1, ?_, by rw [bitCeil, if_neg (by omega)]⟩
  have : 1 ≤ Nat.log2 (value - 1) := (Nat.le_log2 (by omega)).mpr (by omega)
  omega

theorem normalizeBucketCount_pow {requested count : Nat}
    (h : normalizeBucketCount requested = some count) : ∃ k, 2 ≤ k ∧ count = 2 ^ k := by
  rw [normalizeBucketCount] at h
  split at h
  · exact absurd h (by simp)
  · rw [← Option.some.inj h]
    exact bitCeil_pow (Nat.le_max_right _ _)

/-- The constructor; `none` is the `std::length_error`. -/
def CuckooFilter.create (maxSize requestedBucketCount maximumKicks : Nat) : Option CuckooFilter :=
  match h : normalizeBucketCount requestedBucketCount with
  | none => none
  | some bucketCount =>
    if bucketCount > maxSize ∨ bucketCount > maxSizeT / 4 then none
    else some {
      bucketCount := bucketCount
      buckets := fun _ _ => 0
      size := 0
      maximumKicks := maximumKicks
      rngState := splitmix64 (UInt64.ofNat bucketCount ^^^ 0xD1B54A32D192ED03)
      lastFailure := .none
      bucketCount_pow := normalizeBucketCount_pow h }

/-- `alternate_index` in a table of `bucketCount` buckets. -/
def alternateIndex (bucketCount index : Nat) (fingerprint : Fingerprint) : Nat :=
  let delta := (splitmix64 fingerprint.toUInt64).toNat &&& (bucketCount - 1)
  index ^^^ (if delta = 0 then 1 else delta)

/-- `next_rand_u64`: the new state and the number. -/
def nextRandU64 (rngState : UInt64) : UInt64 × UInt64 :=
  (rngState + 0x9e3779b97f4a7c15, splitmix64 (rngState + 0x9e3779b97f4a7c15))

/-- `find_empty_slot`. -/
def findEmptySlot (buckets : Table Nat Slot Fingerprint) (index : Nat) : Option Slot :=
  (List.finRange 4).find? fun slot => buckets index slot = 0

/-- `find_fp`. -/
def findFp (bucketCount : Nat) (buckets : Table Nat Slot Fingerprint) (index : Nat)
    (fingerprint : Fingerprint) : Bool :=
  (List.finRange 4).any (fun slot => buckets index slot = fingerprint) ||
    (List.finRange 4).any fun slot =>
      buckets (alternateIndex bucketCount index fingerprint) slot = fingerprint

/-- `KickRecord`. -/
structure KickRecord where
  bucketIndex : Nat
  slotIndex : Slot
  previous : Fingerprint

/-- The undo loop of `kick_out`, over the history from its last record back. -/
def restore (buckets : Table Nat Slot Fingerprint) : List KickRecord → Table Nat Slot Fingerprint
  | [] => buckets
  | record :: older =>
    restore (buckets.set record.bucketIndex record.slotIndex record.previous) older

/-- The loop of `kick_out` with `kicks` iterations left.  The history has its
last record first.  The answer is the success flag, the table and the state of
the random generator. -/
def kickLoop (bucketCount : Nat) :
    Nat → Table Nat Slot Fingerprint → UInt64 → Nat → Fingerprint → List KickRecord →
      Bool × Table Nat Slot Fingerprint × UInt64
  | 0, buckets, rngState, _, _, history => (false, restore buckets history, rngState)
  | kicks + 1, buckets, rngState, victimIndex, fingerprint, history =>
    let (rngState, number) := nextRandU64 rngState
    let slot : Slot := Fin.ofNat 4 (number.toNat % 4)
    let victim := buckets victimIndex slot
    let buckets := buckets.set victimIndex slot fingerprint
    let nextIndex := alternateIndex bucketCount victimIndex victim
    match findEmptySlot buckets nextIndex with
    | some emptySlot => (true, buckets.set nextIndex emptySlot victim, rngState)
    | none =>
      kickLoop bucketCount kicks buckets rngState nextIndex victim
        (⟨victimIndex, slot, victim⟩ :: history)

namespace CuckooFilter

variable (hash : Bytes → UInt64)

/-- The first bucket of an item. -/
def firstIndex (filter : CuckooFilter) (item : Bytes) : Nat :=
  (hash item).toNat &&& (filter.bucketCount - 1)

/-- `contains`. -/
def contains (filter : CuckooFilter) (item : Bytes) : Bool :=
  findFp filter.bucketCount filter.buckets (filter.firstIndex hash item) (calcFp (hash item))

/-- `insert`, with the `kick_out` call in its last branch. -/
def insert (filter : CuckooFilter) (item : Bytes) : Bool × CuckooFilter :=
  let filter := { filter with lastFailure := .none }
  let fingerprint := calcFp (hash item)
  let index1 := filter.firstIndex hash item
  if findFp filter.bucketCount filter.buckets index1 fingerprint then (true, filter)
  else if filter.size ≥ loadLimit (filter.bucketCount * 4) then
    (false, { filter with lastFailure := .loadLimit })
  else
    match findEmptySlot filter.buckets index1 with
    | some emptySlot =>
      (true, { filter with
        buckets := filter.buckets.set index1 emptySlot fingerprint
        size := filter.size + 1 })
    | none =>
      let index2 := alternateIndex filter.bucketCount index1 fingerprint
      match findEmptySlot filter.buckets index2 with
      | some emptySlot =>
        (true, { filter with
          buckets := filter.buckets.set index2 emptySlot fingerprint
          size := filter.size + 1 })
      | none =>
        let (rngState, number) := nextRandU64 filter.rngState
        let victimIndex := if number &&& 1 = 0 then index1 else index2
        match kickLoop filter.bucketCount filter.maximumKicks filter.buckets rngState
            victimIndex fingerprint [] with
        | (true, buckets, rngState) =>
          (true, { filter with
            buckets := buckets
            size := filter.size + 1
            rngState := rngState })
        -- the random generator goes back to its state before the chain
        | (false, buckets, _) =>
          (false, { filter with buckets := buckets, lastFailure := .kickLimit })

end CuckooFilter

/-! ## The alternate bucket -/

theorem alternateIndex_alternateIndex (bucketCount index : Nat) (fingerprint : Fingerprint) :
    alternateIndex bucketCount (alternateIndex bucketCount index fingerprint) fingerprint =
      index := by
  simp only [alternateIndex]
  rw [Nat.xor_assoc, Nat.xor_self, Nat.xor_zero]

/-- The alternate bucket of a bucket of the table is in the table. -/
theorem alternateIndex_lt (filter : CuckooFilter) {index : Nat} (fingerprint : Fingerprint)
    (h : index < filter.bucketCount) :
    alternateIndex filter.bucketCount index fingerprint < filter.bucketCount := by
  obtain ⟨k, hk, hcount⟩ := filter.bucketCount_pow
  simp only [alternateIndex, hcount] at *
  apply Nat.xor_lt_two_pow h
  split
  · exact Nat.one_lt_two_pow (by omega)
  · rw [Nat.and_two_pow_sub_one_eq_mod]
    exact Nat.mod_lt _ (Nat.two_pow_pos k)

theorem firstIndex_lt (hash : Bytes → UInt64) (filter : CuckooFilter) (item : Bytes) :
    filter.firstIndex hash item < filter.bucketCount := by
  obtain ⟨k, _, hcount⟩ := filter.bucketCount_pow
  rw [CuckooFilter.firstIndex, hcount, Nat.and_two_pow_sub_one_eq_mod]
  exact Nat.mod_lt _ (Nat.two_pow_pos k)

theorem calcFp_ne_zero (value : UInt64) : calcFp value ≠ 0 := by
  intro h
  have hn := congrArg UInt16.toNat h
  rw [calcFp, UInt16.toNat_ofNat'] at hn
  have : (value >>> 48).toNat % 65535 < 65535 := Nat.mod_lt _ (by decide)
  have hz : (0 : UInt16).toNat = 0 := rfl
  omega

/-! ## The search functions -/

/-- The fingerprint is in one of its two buckets. -/
abbrev HoldsFp (bucketCount : Nat) (buckets : Table Nat Slot Fingerprint) (index : Nat)
    (fingerprint : Fingerprint) : Prop :=
  buckets.Holds (alternateIndex bucketCount) index fingerprint

theorem findFp_iff {bucketCount : Nat} {buckets : Table Nat Slot Fingerprint} {index : Nat}
    {fingerprint : Fingerprint} :
    findFp bucketCount buckets index fingerprint = true ↔
      HoldsFp bucketCount buckets index fingerprint := by
  simp [findFp, HoldsFp, Table.Holds, Table.Has, List.any_eq_true]

theorem findEmptySlot_some {buckets : Table Nat Slot Fingerprint} {index : Nat} {slot : Slot}
    (h : findEmptySlot buckets index = some slot) : buckets index slot = 0 := by
  simpa using List.find?_some h

/-! ## The chain of kicks -/

/-- A chain of kicks loses nothing that `P` owes, if it succeeds. -/
theorem kickLoop_succeeded {bucketCount : Nat} {P : Nat → Fingerprint → Prop}
    (hP : ∀ index fingerprint, P index fingerprint → fingerprint ≠ 0) :
    ∀ {kicks : Nat} {buckets : Table Nat Slot Fingerprint} {rngState : UInt64}
      {victimIndex : Nat} {fingerprint : Fingerprint} {history : List KickRecord}
      {buckets' : Table Nat Slot Fingerprint} {rngState' : UInt64},
      Covers (alternateIndex bucketCount) P buckets fingerprint victimIndex →
      kickLoop bucketCount kicks buckets rngState victimIndex fingerprint history =
        (true, buckets', rngState') →
      ∀ index fp, P index fp → HoldsFp bucketCount buckets' index fp := by
  intro kicks
  induction kicks with
  | zero => intro _ _ _ _ _ _ _ _ h; simp [kickLoop] at h
  | succ kicks ih =>
    intro buckets rngState victimIndex fingerprint history buckets' rngState' hcovers h
    have hkick := hcovers.kick (alternateIndex_alternateIndex bucketCount)
      (Fin.ofNat 4 ((nextRandU64 rngState).2.toNat % 4))
    simp only [kickLoop] at h
    split at h
    · rename_i emptySlot hempty
      simp only [Prod.mk.injEq, true_and] at h
      intro index fp hfp
      rw [← h.1]
      exact hkick.place (findEmptySlot_some hempty) hfp (hP _ _ hfp)
    · exact ih hkick h

/-- A failed chain of kicks leaves the table that its history restores. -/
theorem kickLoop_failed {bucketCount : Nat} :
    ∀ {kicks : Nat} {buckets : Table Nat Slot Fingerprint} {rngState : UInt64}
      {victimIndex : Nat} {fingerprint : Fingerprint} {history : List KickRecord}
      {buckets' : Table Nat Slot Fingerprint} {rngState' : UInt64},
      kickLoop bucketCount kicks buckets rngState victimIndex fingerprint history =
        (false, buckets', rngState') →
      buckets' = restore buckets history := by
  intro kicks
  induction kicks with
  | zero =>
    intro _ _ _ _ _ _ _ h
    simp only [kickLoop, Prod.mk.injEq, true_and] at h
    exact h.1.symm
  | succ kicks ih =>
    intro buckets rngState victimIndex fingerprint history buckets' rngState' h
    simp only [kickLoop] at h
    split at h
    · simp at h
    · rw [ih h, restore, Table.set_undo]

/-! ## `insert` and `contains` -/

namespace CuckooFilter

variable {hash : Bytes → UInt64} {filter filter' : CuckooFilter} {item : Bytes} {result : Bool}

/-- The fingerprint with home bucket `index` is in one of its two buckets. -/
def Holds (filter : CuckooFilter) (index : Nat) (fingerprint : Fingerprint) : Prop :=
  HoldsFp filter.bucketCount filter.buckets index fingerprint

theorem contains_iff (hash : Bytes → UInt64) (filter : CuckooFilter) (item : Bytes) :
    filter.contains hash item = true ↔
      filter.Holds (filter.firstIndex hash item) (calcFp (hash item)) := findFp_iff

/-- What an insert can do.  Either the table is as before, or the item and all
earlier non-zero fingerprints are held by the new table. -/
theorem insert_cases (h : filter.insert hash item = (result, filter')) :
    filter'.bucketCount = filter.bucketCount ∧
      (result = true ∧ filter'.buckets = filter.buckets ∧
          filter.Holds (filter.firstIndex hash item) (calcFp (hash item)) ∨
        result = false ∧ filter'.buckets = filter.buckets ∨
        result = true ∧ ∀ index fingerprint, fingerprint ≠ 0 →
          filter.Holds index fingerprint ∨
            index = filter.firstIndex hash item ∧ fingerprint = calcFp (hash item) →
          filter'.Holds index fingerprint) := by
  let P : Nat → Fingerprint → Prop := fun index fingerprint => fingerprint ≠ 0 ∧
    (filter.Holds index fingerprint ∨
      index = filter.firstIndex hash item ∧ fingerprint = calcFp (hash item))
  -- the new fingerprint is in hand, and goes to one of its two buckets
  have hcovers : ∀ next : Nat,
      (next = filter.firstIndex hash item ∨
        next = alternateIndex filter.bucketCount (filter.firstIndex hash item)
          (calcFp (hash item))) →
      Covers (alternateIndex filter.bucketCount) P filter.buckets (calcFp (hash item)) next := by
    intro next hnext index fingerprint hP
    rcases hP.2 with hold | ⟨rfl, rfl⟩
    · exact Or.inl hold
    · exact Or.inr ⟨rfl, hnext⟩
  simp only [insert] at h
  split at h
  · rename_i hfound
    obtain ⟨rfl, rfl⟩ := Prod.mk.inj h
    exact ⟨rfl, Or.inl ⟨rfl, rfl, findFp_iff.mp hfound⟩⟩
  · split at h
    · obtain ⟨rfl, rfl⟩ := Prod.mk.inj h
      exact ⟨rfl, Or.inr (Or.inl ⟨rfl, rfl⟩)⟩
    · split at h
      · rename_i slot hslot
        obtain ⟨rfl, rfl⟩ := Prod.mk.inj h
        refine ⟨rfl, Or.inr (Or.inr ⟨rfl, fun index fingerprint hne hold => ?_⟩)⟩
        exact (hcovers _ (Or.inl rfl)).place (findEmptySlot_some hslot) ⟨hne, hold⟩ hne
      · split at h
        · rename_i slot hslot
          obtain ⟨rfl, rfl⟩ := Prod.mk.inj h
          refine ⟨rfl, Or.inr (Or.inr ⟨rfl, fun index fingerprint hne hold => ?_⟩)⟩
          exact (hcovers _ (Or.inr rfl)).place (findEmptySlot_some hslot) ⟨hne, hold⟩ hne
        · split at h
          · rename_i hkick
            obtain ⟨rfl, rfl⟩ := Prod.mk.inj h
            refine ⟨rfl, Or.inr (Or.inr ⟨rfl, fun index fingerprint hne hold => ?_⟩)⟩
            refine kickLoop_succeeded (P := P) (fun _ _ hP => hP.1) (hcovers _ ?_) hkick
              index fingerprint ⟨hne, hold⟩
            split
            · exact Or.inl rfl
            · exact Or.inr rfl
          · rename_i hkick
            obtain ⟨rfl, rfl⟩ := Prod.mk.inj h
            exact ⟨rfl, Or.inr (Or.inl ⟨rfl, by rw [kickLoop_failed hkick, restore]⟩)⟩

theorem insert_bucketCount (h : filter.insert hash item = (result, filter')) :
    filter'.bucketCount = filter.bucketCount := (insert_cases h).1

/-- Whatever an insert answers, it keeps every stored fingerprint findable. -/
theorem insert_holds_old (h : filter.insert hash item = (result, filter')) {index : Nat}
    {fingerprint : Fingerprint} (hne : fingerprint ≠ 0) (hold : filter.Holds index fingerprint) :
    filter'.Holds index fingerprint := by
  obtain ⟨hcount, hcases⟩ := insert_cases h
  rcases hcases with ⟨_, hsame, _⟩ | ⟨_, hsame⟩ | ⟨_, hnew⟩
  · rw [Holds, hcount, hsame]; exact hold
  · rw [Holds, hcount, hsame]; exact hold
  · exact hnew index fingerprint hne (Or.inl hold)

theorem firstIndex_congr (hash : Bytes → UInt64)
    (hcount : filter'.bucketCount = filter.bucketCount) (item : Bytes) :
    filter'.firstIndex hash item = filter.firstIndex hash item := by
  rw [firstIndex, firstIndex, hcount]

/-- An item that an insert accepted is contained. -/
theorem contains_of_insert (h : filter.insert hash item = (true, filter')) :
    filter'.contains hash item = true := by
  obtain ⟨hcount, hcases⟩ := insert_cases h
  rw [contains_iff, firstIndex_congr hash hcount]
  rcases hcases with ⟨_, hsame, hold⟩ | ⟨hfalse, _⟩ | ⟨_, hnew⟩
  · rw [Holds, hcount, hsame]; exact hold
  · exact absurd hfalse (by simp)
  · exact hnew _ _ (calcFp_ne_zero _) (Or.inr ⟨rfl, rfl⟩)

/-- A later insert, accepted or not, keeps an item contained. -/
theorem contains_insert {other : Bytes} (h : filter.insert hash item = (result, filter'))
    (hcontains : filter.contains hash other = true) : filter'.contains hash other = true := by
  rw [contains_iff] at hcontains ⊢
  rw [firstIndex_congr hash (insert_bucketCount h)]
  exact insert_holds_old h (calcFp_ne_zero _) hcontains

end CuckooFilter

end DnsPro.Filter
