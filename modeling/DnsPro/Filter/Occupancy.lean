import DnsPro.Filter.CuckooFilter

/-!
# What the prefilter stores

A filter and the items it has accepted, over every sequence of calls of `insert`.
A chain of kicks keeps every slot in use that was in use, and puts a fingerprint only
where its item may look for it; a chain that fails leaves nothing behind.

`kick_out` reserves its history first.  When that throws, `insert` throws, with
nothing written but `rng_state_` and `last_failure_`.
-/

namespace DnsPro.Filter

open DnsPro.Protocol DnsPro.CuckooTable

namespace CuckooFilter

/-! ## Calls -/

/-- `insert` gets as far as `kick_out`. -/
def kicksOut (hash : Bytes → UInt64) (filter : CuckooFilter) (item : Bytes) : Bool :=
  let fingerprint := calcFp (hash item)
  let index1 := filter.firstIndex hash item
  let index2 := alternateIndex filter.bucketCount index1 fingerprint
  !findFp filter.bucketCount filter.buckets index1 fingerprint &&
    decide (filter.size < loadLimit (filter.bucketCount * 4)) &&
    (findEmptySlot filter.buckets index1).isNone && (findEmptySlot filter.buckets index2).isNone

/-- One call of `insert`; `none` is the exception of `history.reserve`. -/
def call (hash : Bytes → UInt64) (filter : CuckooFilter) (item : Bytes) (reserveThrows : Bool) :
    Option Bool × CuckooFilter :=
  if reserveThrows ∧ filter.kicksOut hash item then
    (none, { filter with lastFailure := .none, rngState := (nextRandU64 filter.rngState).1 })
  else
    let (result, filter) := filter.insert hash item
    (some result, filter)

end CuckooFilter

/-- A filter, and the items for which `insert` returned true. -/
structure FilterRun where
  filter : CuckooFilter
  accepted : List Bytes := []

/-- One call of `insert`. -/
structure InsertCall where
  item : Bytes
  reserveThrows : Bool := false

def FilterRun.step (hash : Bytes → UInt64) (run : FilterRun) (call : InsertCall) : FilterRun :=
  let (result, filter) := run.filter.call hash call.item call.reserveThrows
  ⟨filter, if result = some true then call.item :: run.accepted else run.accepted⟩

/-- The calls, one after the other. -/
def FilterRun.after (hash : Bytes → UInt64) (filter : CuckooFilter) (calls : List InsertCall) :
    FilterRun :=
  calls.foldl (FilterRun.step hash) ⟨filter, []⟩

/-! ## The slots -/

/-- The number of slots that are not empty. -/
def CuckooFilter.occupied (filter : CuckooFilter) : Nat :=
  (filter.buckets.inUse 0 (Finset.range filter.bucketCount)).card

theorem findEmptySlot_none {buckets : Table Nat Slot Fingerprint} {index : Nat}
    (h : findEmptySlot buckets index = none) (slot : Slot) : buckets index slot ≠ 0 := by
  simpa using List.find?_eq_none.mp h slot (List.mem_finRange slot)

/-- A fingerprint may be written where `P` holds: inside the table, and then in the
alternate bucket as well. -/
structure Places (bucketCount : Nat) (P : Nat → Fingerprint → Prop) : Prop where
  lt : ∀ {index fingerprint}, P index fingerprint → index < bucketCount
  ne_zero : ∀ {index fingerprint}, P index fingerprint → fingerprint ≠ 0
  alternate : ∀ {index fingerprint}, P index fingerprint →
    P (alternateIndex bucketCount index fingerprint) fingerprint

section Places

variable {bucketCount : Nat} {P : Nat → Fingerprint → Prop}
  {buckets : Table Nat Slot Fingerprint}

/-- A write to an empty slot takes one more slot. -/
theorem Places.fill (hP : Places bucketCount P) (hwithin : Within 0 P buckets) {index : Nat}
    {slot : Slot} {fingerprint : Fingerprint} (hfingerprint : P index fingerprint)
    (hslot : findEmptySlot buckets index = some slot) :
    Within 0 P (buckets.set index slot fingerprint) ∧
      ((buckets.set index slot fingerprint).inUse 0 (Finset.range bucketCount)).card =
        (buckets.inUse 0 (Finset.range bucketCount)).card + 1 :=
  ⟨hwithin.set hfingerprint slot,
    Table.card_set_free (Finset.mem_range.mpr (hP.lt hfingerprint)) (hP.ne_zero hfingerprint)
      (findEmptySlot_some hslot)⟩

/-- A chain that succeeds puts every fingerprint where it may be, and takes one more
slot.  Every kick but the last meets a full bucket. -/
theorem Places.kickLoop (hP : Places bucketCount P) {kicks : Nat} {rngState rngState' : UInt64}
    {victimIndex : Nat} {fingerprint : Fingerprint} {history : List KickRecord}
    {buckets' : Table Nat Slot Fingerprint} (hwithin : Within 0 P buckets)
    (hfingerprint : P victimIndex fingerprint) (hfull : findEmptySlot buckets victimIndex = none)
    (h : Filter.kickLoop bucketCount kicks buckets rngState victimIndex fingerprint history =
      (true, buckets', rngState')) :
    Within 0 P buckets' ∧
      (buckets'.inUse 0 (Finset.range bucketCount)).card =
        (buckets.inUse 0 (Finset.range bucketCount)).card + 1 := by
  induction kicks generalizing buckets rngState victimIndex fingerprint history with
  | zero => simp [Filter.kickLoop] at h
  | succ kicks ih =>
    simp only [Filter.kickLoop] at h
    generalize (Fin.ofNat 4 ((nextRandU64 rngState).2.toNat % 4) : Slot) = slot at h
    have hused := findEmptySlot_none hfull slot
    have hvictim := hP.alternate (hwithin victimIndex slot hused)
    have hkicked := hwithin.set hfingerprint slot
    have hcard := Table.card_set_used (Finset.mem_range.mpr (hP.lt hfingerprint))
      (hP.ne_zero hfingerprint) hused
    split at h
    · rename_i emptySlot hempty
      obtain ⟨rfl, -⟩ := Prod.mk.inj (Prod.mk.inj h).2
      rw [← hcard]
      exact hP.fill hkicked hvictim hempty
    · rename_i hnext
      rw [← hcard]
      exact ih hkicked hvictim hnext h

end Places

/-! ## `insert` -/

namespace CuckooFilter

variable {hash : Bytes → UInt64} {filter filter' : CuckooFilter} {item : Bytes}

/-- An `insert` that returns false leaves everything but `last_failure_`. -/
theorem insert_rejected (h : filter.insert hash item = (false, filter')) :
    filter' = { filter with lastFailure := filter'.lastFailure } := by
  simp only [insert] at h
  split at h
  · simp at h
  · split at h
    · rw [← (Prod.mk.inj h).2]
    · split at h
      · simp at h
      · split at h
        · simp at h
        · split at h
          · simp at h
          · rename_i hkick
            obtain ⟨-, rfl⟩ := Prod.mk.inj h
            simp only [kickLoop_failed hkick, restore]

/-- An `insert` that returns true finds the fingerprint, or stores it below the load
limit. -/
theorem insert_accepted {P : Nat → Fingerprint → Prop} (hP : Places filter.bucketCount P)
    (hwithin : Within 0 P filter.buckets)
    (hitem : P (filter.firstIndex hash item) (calcFp (hash item)))
    (h : filter.insert hash item = (true, filter')) :
    filter'.bucketCount = filter.bucketCount ∧ Within 0 P filter'.buckets ∧
      (filter'.size = filter.size ∧ filter'.occupied = filter.occupied ∨
        filter.size < loadLimit (filter.bucketCount * 4) ∧ filter'.size = filter.size + 1 ∧
          filter'.occupied = filter.occupied + 1) := by
  have hother := hP.alternate hitem
  simp only [insert] at h
  split at h
  · obtain ⟨-, rfl⟩ := Prod.mk.inj h
    exact ⟨rfl, hwithin, Or.inl ⟨rfl, rfl⟩⟩
  · split at h
    · simp at h
    · rename_i hlimit
      split at h
      · rename_i slot hslot
        obtain ⟨-, rfl⟩ := Prod.mk.inj h
        obtain ⟨hwithin', hcard⟩ := hP.fill hwithin hitem hslot
        exact ⟨rfl, hwithin', Or.inr ⟨not_le.mp hlimit, rfl, hcard⟩⟩
      · rename_i hfull1
        split at h
        · rename_i slot hslot
          obtain ⟨-, rfl⟩ := Prod.mk.inj h
          obtain ⟨hwithin', hcard⟩ := hP.fill hwithin hother hslot
          exact ⟨rfl, hwithin', Or.inr ⟨not_le.mp hlimit, rfl, hcard⟩⟩
        · rename_i hfull2
          split at h
          · rename_i hkick
            obtain ⟨-, rfl⟩ := Prod.mk.inj h
            -- both buckets are full, so it does not matter which one the chain starts in
            split at hkick
            · obtain ⟨hwithin', hcard⟩ := hP.kickLoop hwithin hitem hfull1 hkick
              exact ⟨rfl, hwithin', Or.inr ⟨not_le.mp hlimit, rfl, hcard⟩⟩
            · obtain ⟨hwithin', hcard⟩ := hP.kickLoop hwithin hother hfull2 hkick
              exact ⟨rfl, hwithin', Or.inr ⟨not_le.mp hlimit, rfl, hcard⟩⟩
          · simp at h

end CuckooFilter

/-! ## Runs -/

/-- A bucket where an accepted item with this fingerprint may be stored. -/
def FilterRun.Home (hash : Bytes → UInt64) (run : FilterRun) (index : Nat)
    (fingerprint : Fingerprint) : Prop :=
  ∃ item ∈ run.accepted, calcFp (hash item) = fingerprint ∧
    (index = run.filter.firstIndex hash item ∨
      index = alternateIndex run.filter.bucketCount (run.filter.firstIndex hash item) fingerprint)

structure FilterRun.Ok (hash : Bytes → UInt64) (run : FilterRun) : Prop where
  contained : ∀ item ∈ run.accepted, run.filter.contains hash item = true
  size_eq : run.filter.size = run.filter.occupied
  size_le : run.filter.size ≤ loadLimit (run.filter.bucketCount * 4)
  home : Within 0 (run.Home hash) run.filter.buckets

/-- `load_limit` does not overflow on its way to 95 percent. -/
theorem loadLimit_eq (totalSlots : Nat) : loadLimit totalSlots = totalSlots * 95 / 100 := by
  rw [loadLimit]
  omega

namespace FilterRun

variable {hash : Bytes → UInt64} {filter filter' : CuckooFilter} {accepted : List Bytes}

theorem home_places (hash : Bytes → UInt64) (filter : CuckooFilter) (accepted : List Bytes) :
    Places filter.bucketCount (Home hash ⟨filter, accepted⟩) where
  lt := by
    rintro index fingerprint ⟨item, -, rfl, rfl | rfl⟩
    · exact firstIndex_lt hash filter item
    · exact alternateIndex_lt filter _ (firstIndex_lt hash filter item)
  ne_zero := by
    rintro index fingerprint ⟨item, -, rfl, -⟩
    exact calcFp_ne_zero (hash item)
  alternate := by
    rintro index fingerprint ⟨item, hitem, hfingerprint, rfl | rfl⟩
    · exact ⟨item, hitem, hfingerprint, Or.inr rfl⟩
    · refine ⟨item, hitem, hfingerprint, Or.inl ?_⟩
      exact alternateIndex_alternateIndex _ _ _

theorem home_congr (hcount : filter'.bucketCount = filter.bucketCount) :
    Home hash ⟨filter', accepted⟩ = Home hash ⟨filter, accepted⟩ := by
  funext index fingerprint
  simp only [Home, hcount, CuckooFilter.firstIndex_congr hash hcount]

/-- The start: no item is accepted, and every slot is empty. -/
theorem ok_create {maxSize requested kicks : Nat}
    (h : CuckooFilter.create maxSize requested kicks = some filter) : Ok hash ⟨filter, []⟩ := by
  have hfresh : filter.buckets = (fun _ _ => 0) ∧ filter.size = 0 := by
    rw [CuckooFilter.create] at h
    split at h
    · cases h
    · split at h
      · cases h
      · rw [← Option.some.inj h]
        exact ⟨rfl, rfl⟩
  obtain ⟨hbuckets, hsize⟩ := hfresh
  refine ⟨by simp, ?_, hsize.trans_le (Nat.zero_le _), ?_⟩
  · rw [hsize, CuckooFilter.occupied, hbuckets]
    simp [Table.inUse]
  · intro bucket slot hstored
    rw [hbuckets] at hstored
    exact absurd rfl hstored

theorem ok_accepted {item : Bytes} (h : Ok hash ⟨filter, accepted⟩)
    (hinsert : filter.insert hash item = (true, filter')) :
    Ok hash ⟨filter', item :: accepted⟩ := by
  have hwithin : Within 0 (Home hash ⟨filter, item :: accepted⟩) filter.buckets :=
    h.home.mono fun _ _ ⟨other, hother, hhome⟩ => ⟨other, List.mem_cons_of_mem item hother, hhome⟩
  have hitem : Home hash ⟨filter, item :: accepted⟩ (filter.firstIndex hash item)
      (calcFp (hash item)) :=
    ⟨item, List.mem_cons_self, rfl, Or.inl rfl⟩
  obtain ⟨hcount, hwithin', hsize⟩ :=
    CuckooFilter.insert_accepted (home_places hash filter _) hwithin hitem hinsert
  have heq := h.size_eq
  have hle := h.size_le
  dsimp only at heq hle
  refine ⟨?_, ?_, ?_, ?_⟩
  · intro other hother
    cases hother with
    | head => exact CuckooFilter.contains_of_insert hinsert
    | tail _ hother => exact CuckooFilter.contains_insert hinsert (h.contained other hother)
  · dsimp only
    omega
  · dsimp only
    rw [hcount]
    omega
  · rw [home_congr hcount]
    exact hwithin'

/-- Nothing here depends on `rng_state_` and `last_failure_`. -/
theorem Ok.congr (h : Ok hash ⟨filter, accepted⟩)
    (hcount : filter'.bucketCount = filter.bucketCount)
    (hbuckets : filter'.buckets = filter.buckets)
    (hsize : filter'.size = filter.size) : Ok hash ⟨filter', accepted⟩ where
  contained item hitem := by
    have hcontained := h.contained item hitem
    rw [CuckooFilter.contains, CuckooFilter.firstIndex] at hcontained ⊢
    rwa [hcount, hbuckets]
  size_eq := by
    rw [CuckooFilter.occupied, hcount, hbuckets, hsize]
    exact h.size_eq
  size_le := by
    rw [hcount, hsize]
    exact h.size_le
  home := by
    rw [home_congr hcount, hbuckets]
    exact h.home

/-- One call, whatever its result, keeps every accepted item. -/
theorem ok_step {run : FilterRun} (h : Ok hash run) (call : InsertCall) :
    Ok hash (run.step hash call) := by
  by_cases hthrows : call.reserveThrows ∧ run.filter.kicksOut hash call.item
  · rw [step, CuckooFilter.call, if_pos hthrows]
    exact h.congr rfl rfl rfl
  · rw [step, CuckooFilter.call, if_neg hthrows]
    cases hinsert : run.filter.insert hash call.item with
    | mk result filter =>
      cases result with
      | true => exact ok_accepted h hinsert
      | false =>
        rw [CuckooFilter.insert_rejected hinsert]
        exact h.congr rfl rfl rfl

theorem ok_after {maxSize requested kicks : Nat}
    (h : CuckooFilter.create maxSize requested kicks = some filter) (calls : List InsertCall) :
    Ok hash (after hash filter calls) := by
  refine List.foldlRecOn calls (FilterRun.step hash) (motive := Ok hash) (ok_create h) ?_
  exact fun _ hrun call _ => ok_step hrun call

end FilterRun

/-- After every sequence of calls of `insert` on a new filter: an item whose insert
returned true is contained; the size is the number of slots in use, and is at most 95
percent of the slots; what a slot in use holds is the fingerprint of an accepted item,
in one of the two buckets of that item; and an insert that returns false would change
nothing but `last_failure_`. -/
theorem inserts_keep_accepted (hash : Bytes → UInt64) {maxSize requested kicks : Nat}
    {filter : CuckooFilter} (hcreate : CuckooFilter.create maxSize requested kicks = some filter)
    (calls : List InsertCall) :
    let run := FilterRun.after hash filter calls
    (∀ item ∈ run.accepted, run.filter.contains hash item = true) ∧
      run.filter.size = run.filter.occupied ∧
      run.filter.size ≤ run.filter.bucketCount * 4 * 95 / 100 ∧
      (∀ index slot, run.filter.buckets index slot ≠ 0 →
        index < run.filter.bucketCount ∧ run.Home hash index (run.filter.buckets index slot)) ∧
      (∀ item, calcFp (hash item) ≠ 0) ∧
      ∀ item reserveThrows filter',
        run.filter.call hash item reserveThrows = (some false, filter') →
        filter' = { run.filter with lastFailure := filter'.lastFailure } := by
  intro run
  have hok : FilterRun.Ok hash run := FilterRun.ok_after hcreate calls
  refine ⟨hok.contained, hok.size_eq, ?_, ?_, fun item => calcFp_ne_zero (hash item), ?_⟩
  · rw [← loadLimit_eq]
    exact hok.size_le
  · intro index slot hstored
    have hhome := hok.home index slot hstored
    exact ⟨(FilterRun.home_places hash run.filter run.accepted).lt hhome, hhome⟩
  · intro item reserveThrows filter' hcall
    rw [CuckooFilter.call] at hcall
    split at hcall
    · simp at hcall
    · obtain ⟨hfalse, rfl⟩ := Prod.mk.inj hcall
      have hinsert : run.filter.insert hash item = (false, (run.filter.insert hash item).2) :=
        Prod.ext (Option.some.inj hfalse) rfl
      exact CuckooFilter.insert_rejected hinsert

/-- The first byte decides the fingerprint, and its last bit the first bucket. -/
def firstByteHash (item : Bytes) : UInt64 :=
  let byte := (item.headD 0).toUInt64
  (byte <<< 48) ||| (byte &&& 1)

/-- An insert for each item of one byte from `23` on. -/
def oneByteCalls (count : Nat) : List InsertCall :=
  (List.range count).map fun index => ⟨[UInt8.ofNat (23 + index)], false⟩

/-- Four buckets and one kick.  The ninth insert moves the fingerprint `30` from its first
bucket to the other one, and the tenth finds no place within one kick. -/
theorem inserts_keep_accepted_kicked :
    ∃ filter, CuckooFilter.create 8 4 1 = some filter ∧
      let before := FilterRun.after firstByteHash filter (oneByteCalls 8)
      let run := FilterRun.after firstByteHash filter (oneByteCalls 10)
      (before.filter.buckets 1 3 = 30 ∧ run.filter.buckets 1 3 = 32 ∧ run.filter.buckets 3 0 = 30) ∧
      run.accepted = [[31], [30], [29], [28], [27], [26], [25], [24], [23]] ∧
        (∀ item ∈ run.accepted, run.filter.contains firstByteHash item = true) ∧
        run.filter.size = run.filter.occupied ∧
        ∃ filter', run.filter.call firstByteHash [32] false = (some false, filter') ∧
          filter' = { run.filter with lastFailure := filter'.lastFailure } := by
  obtain ⟨filter, hcreate⟩ : ∃ filter, CuckooFilter.create 8 4 1 = some filter := ⟨_, rfl⟩
  have hrun := inserts_keep_accepted firstByteHash hcreate (oneByteCalls 10)
  obtain ⟨hcontained, hsize, -, -, -, hrejected⟩ := hrun
  obtain ⟨filter', hcall⟩ : ∃ filter', (FilterRun.after firstByteHash filter
      (oneByteCalls 10)).filter.call firstByteHash [32] false = (some false, filter') := by
    have hfails : ((FilterRun.after firstByteHash filter (oneByteCalls 10)).filter.call
        firstByteHash [32] false).1 = some false := by
      obtain rfl := Option.some.inj hcreate
      decide +kernel
    generalize (FilterRun.after firstByteHash filter (oneByteCalls 10)).filter.call firstByteHash
      [32] false = outcome at hfails ⊢
    exact ⟨outcome.2, Prod.ext hfails rfl⟩
  refine ⟨filter, hcreate, ?_, ?_, hcontained, hsize, filter', hcall,
    hrejected [32] false filter' hcall⟩
  · obtain rfl := Option.some.inj hcreate
    decide +kernel
  · obtain rfl := Option.some.inj hcreate
    decide +kernel

end DnsPro.Filter
