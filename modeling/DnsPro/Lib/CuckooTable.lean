import Mathlib.Tactic

/-!
# Partial-key cuckoo tables

A table of buckets and slots holds fingerprints.  A fingerprint `f` with home
bucket `i` may sit in bucket `i` or in the alternate bucket `alt i f`, and
`alt` is an involution in its first argument.  This file has the facts about
relocation: `Covers` is the invariant of a chain of kicks, where one
fingerprint is in the hand of the algorithm and all others are in the table.
`Within` and `inUse` say what is stored, and how many slots are in use.

Nothing here depends on the size of the table, on the number of slots of a
bucket, or on how `alt` is computed.
-/

namespace DnsPro.CuckooTable

variable {ι κ F : Type} [DecidableEq ι] [DecidableEq κ]

/-- The contents of every slot of every bucket. -/
abbrev Table (ι κ F : Type) := ι → κ → F

/-- Store `f` in one slot. -/
def Table.set (t : Table ι κ F) (bucket : ι) (slot : κ) (f : F) : Table ι κ F :=
  fun bucket' slot' => if bucket' = bucket ∧ slot' = slot then f else t bucket' slot'

@[simp] theorem Table.set_same (t : Table ι κ F) (bucket : ι) (slot : κ) (f : F) :
    t.set bucket slot f bucket slot = f := by
  simp [Table.set]

theorem Table.set_other (t : Table ι κ F) {bucket bucket' : ι} {slot slot' : κ} (f : F)
    (h : ¬ (bucket' = bucket ∧ slot' = slot)) :
    t.set bucket slot f bucket' slot' = t bucket' slot' := by
  simp [Table.set, h]

/-- Writing back the previous contents undoes a write. -/
theorem Table.set_undo (t : Table ι κ F) (bucket : ι) (slot : κ) (f : F) :
    (t.set bucket slot f).set bucket slot (t bucket slot) = t := by
  funext bucket' slot'
  by_cases h : bucket' = bucket ∧ slot' = slot
  · obtain ⟨rfl, rfl⟩ := h
    simp
  · rw [Table.set_other _ _ h, Table.set_other _ _ h]

/-- `f` sits in some slot of `bucket`. -/
def Table.Has (t : Table ι κ F) (bucket : ι) (f : F) : Prop := ∃ slot, t bucket slot = f

/-- `f` sits in one of the two buckets it may use from `bucket`. -/
def Table.Holds (alt : ι → F → ι) (t : Table ι κ F) (bucket : ι) (f : F) : Prop :=
  t.Has bucket f ∨ t.Has (alt bucket f) f

/-- Every fingerprint that `P` owes is in the table or is the one in hand,
whose next bucket is one of its two buckets. -/
def Covers (alt : ι → F → ι) (P : ι → F → Prop) (t : Table ι κ F) (hand : F) (next : ι) : Prop :=
  ∀ bucket f, P bucket f →
    t.Holds alt bucket f ∨ f = hand ∧ (next = bucket ∨ next = alt bucket f)

section Kicks

variable {alt : ι → F → ι} (halt : ∀ bucket f, alt (alt bucket f) f = bucket)
  {P : ι → F → Prop} {t : Table ι κ F} {hand : F} {next : ι}

/-- A write can lose only what the slot held before. -/
theorem Has.of_set (bucket : ι) (slot : κ) {f : F} {bucket' : ι} (g : F)
    (h : t.Has bucket' f) :
    (t.set bucket slot g).Has bucket' f ∨ bucket' = bucket ∧ f = t bucket slot := by
  obtain ⟨slot', hslot⟩ := h
  by_cases hsame : bucket' = bucket ∧ slot' = slot
  · obtain ⟨rfl, rfl⟩ := hsame
    exact Or.inr ⟨rfl, hslot.symm⟩
  · exact Or.inl ⟨slot', by rw [Table.set_other _ _ hsame, hslot]⟩

theorem Holds.of_set (bucket : ι) (slot : κ) {f : F} {bucket' : ι} (g : F)
    (h : t.Holds alt bucket' f) :
    (t.set bucket slot g).Holds alt bucket' f ∨
      f = t bucket slot ∧ (bucket' = bucket ∨ alt bucket' f = bucket) := by
  rcases h with h | h
  · rcases Has.of_set bucket slot g h with h | ⟨hb, hf⟩
    · exact Or.inl (Or.inl h)
    · exact Or.inr ⟨hf, Or.inl hb⟩
  · rcases Has.of_set bucket slot g h with h | ⟨hb, hf⟩
    · exact Or.inl (Or.inr h)
    · exact Or.inr ⟨hf, Or.inr hb⟩

/-- The fingerprint in hand is held once it is written to its next bucket. -/
theorem holds_set_hand (t : Table ι κ F) {bucket : ι} {slot : κ}
    (h : next = bucket ∨ next = alt bucket hand) :
    (t.set next slot hand).Holds alt bucket hand := by
  rcases h with rfl | rfl
  · exact Or.inl ⟨slot, by simp⟩
  · exact Or.inr ⟨slot, by simp⟩

include halt in
/-- One kick: the fingerprint in hand takes the slot, and its previous
contents go into the hand with their alternate bucket next. -/
theorem Covers.kick (h : Covers alt P t hand next) (slot : κ) :
    Covers alt P (t.set next slot hand) (t next slot) (alt next (t next slot)) := by
  intro bucket f hP
  rcases h bucket f hP with hold | ⟨rfl, hnext⟩
  · rcases Holds.of_set next slot hand hold with hold | ⟨hf, hb⟩
    · exact Or.inl hold
    · refine Or.inr ⟨hf, ?_⟩
      subst hf
      rcases hb with hb | hb
      · exact Or.inr (by rw [hb])
      · exact Or.inl (by rw [← halt bucket (t next slot), hb])
  · exact Or.inl (holds_set_hand t hnext)

/-- The end of a chain: the fingerprint in hand takes an empty slot. -/
theorem Covers.place {empty : F} (h : Covers alt P t hand next) {slot : κ}
    (hempty : t next slot = empty) {bucket : ι} {f : F} (hP : P bucket f) (hne : f ≠ empty) :
    (t.set next slot hand).Holds alt bucket f := by
  rcases h bucket f hP with hold | ⟨rfl, hnext⟩
  · rcases Holds.of_set next slot hand hold with hold | ⟨hf, _⟩
    · exact hold
    · exact absurd (hf.trans hempty) hne
  · exact holds_set_hand t hnext

end Kicks

/-! ## What sits in a table -/

section Contents

variable {empty : F} {t : Table ι κ F}

/-- Every fingerprint that is stored satisfies `P` at its bucket. -/
def Within (empty : F) (P : ι → F → Prop) (t : Table ι κ F) : Prop :=
  ∀ bucket slot, t bucket slot ≠ empty → P bucket (t bucket slot)

theorem Within.set {P : ι → F → Prop} (h : Within empty P t) {bucket : ι} {f : F} (hf : P bucket f)
    (slot : κ) : Within empty P (t.set bucket slot f) := by
  intro bucket' slot' hstored
  by_cases hsame : bucket' = bucket ∧ slot' = slot
  · obtain ⟨rfl, rfl⟩ := hsame
    rwa [Table.set_same]
  · rw [Table.set_other _ _ hsame] at hstored ⊢
    exact h bucket' slot' hstored

omit [DecidableEq ι] [DecidableEq κ] in
theorem Within.mono {P Q : ι → F → Prop} (h : Within empty P t)
    (himp : ∀ bucket f, P bucket f → Q bucket f) : Within empty Q t :=
  fun bucket slot hstored => himp _ _ (h bucket slot hstored)

variable [Fintype κ] [DecidableEq F]

/-- The places of `buckets` that are in use. -/
def Table.inUse (t : Table ι κ F) (empty : F) (buckets : Finset ι) : Finset (ι × κ) :=
  (buckets ×ˢ Finset.univ).filter fun place => t place.1 place.2 ≠ empty

omit [DecidableEq ι] [DecidableEq κ] in
theorem Table.mem_inUse {buckets : Finset ι} {place : ι × κ} :
    place ∈ t.inUse empty buckets ↔ place.1 ∈ buckets ∧ t place.1 place.2 ≠ empty := by
  simp [Table.inUse]

/-- A write takes the place into use, whatever it held. -/
theorem Table.inUse_set {buckets : Finset ι} {bucket : ι} (slot : κ) {f : F}
    (hbucket : bucket ∈ buckets) (hf : f ≠ empty) :
    (t.set bucket slot f).inUse empty buckets = insert (bucket, slot) (t.inUse empty buckets) := by
  ext ⟨bucket', slot'⟩
  rw [Finset.mem_insert, Table.mem_inUse, Table.mem_inUse, Prod.mk.injEq]
  by_cases hsame : bucket' = bucket ∧ slot' = slot
  · obtain ⟨rfl, rfl⟩ := hsame
    simp [hbucket, hf]
  · dsimp only
    rw [Table.set_other _ _ hsame]
    simp [hsame]

theorem Table.card_set_free {buckets : Finset ι} {bucket : ι} {slot : κ} {f : F}
    (hbucket : bucket ∈ buckets) (hf : f ≠ empty) (hfree : t bucket slot = empty) :
    ((t.set bucket slot f).inUse empty buckets).card = (t.inUse empty buckets).card + 1 := by
  rw [Table.inUse_set slot hbucket hf, Finset.card_insert_of_notMem]
  rw [Table.mem_inUse]
  exact fun h => h.2 hfree

theorem Table.card_set_used {buckets : Finset ι} {bucket : ι} {slot : κ} {f : F}
    (hbucket : bucket ∈ buckets) (hf : f ≠ empty) (hused : t bucket slot ≠ empty) :
    ((t.set bucket slot f).inUse empty buckets).card = (t.inUse empty buckets).card := by
  rw [Table.inUse_set slot hbucket hf, Finset.insert_eq_of_mem]
  exact Table.mem_inUse.mpr ⟨hbucket, hused⟩

end Contents

end DnsPro.CuckooTable
