import Mathlib.Tactic

/-!
# Slots with an index

A store keeps its pairs in numbered slots, and an index from the keys to the
slots.  The two are written one after the other, so what they have to do with one
another is stated twice: `Sound` says that the index only leads to slots that hold
the key, `Complete` that it leads to every slot that holds one.

A store that evicts forgets pairs and never makes one up.  `find` is the map that
it stands for, and each operation says what it does to `find`.
-/

namespace DnsPro

variable {K V : Type}

/-- The index and the slots of a store. -/
structure SlotMap (K V : Type) where
  lookup : K → Option Nat
  slot : Nat → Option (K × V)

namespace SlotMap

variable {map : SlotMap K V} {key other : K} {index : Nat} {value : V}

/-- The index leads to a slot that holds the key. -/
def Sound (map : SlotMap K V) : Prop :=
  ∀ key index, map.lookup key = some index → ∃ value, map.slot index = some (key, value)

/-- The index leads to every slot that holds a key. -/
def Complete (map : SlotMap K V) : Prop :=
  ∀ key index value, map.slot index = some (key, value) → map.lookup key = some index

/-- The value that the store has for a key. -/
def find (map : SlotMap K V) (key : K) : Option V :=
  (map.lookup key).bind fun index => (map.slot index).map Prod.snd

theorem find_eq_of_lookup (hlookup : map.lookup key = some index)
    (hslot : map.slot index = some (key, value)) : map.find key = some value := by
  rw [find, hlookup, Option.bind_some, hslot]
  rfl

theorem find_of_lookup_none (hlookup : map.lookup key = none) : map.find key = none := by
  rw [find, hlookup]
  rfl

theorem Sound.find_eq_some (h : map.Sound) (hfind : map.find key = some value) :
    ∃ index, map.lookup key = some index ∧ map.slot index = some (key, value) := by
  obtain ⟨index, hlookup, hslot⟩ := Option.bind_eq_some_iff.mp hfind
  obtain ⟨stored, hstored⟩ := h key index hlookup
  rw [hstored] at hslot
  obtain rfl := Option.some.inj hslot
  exact ⟨index, hlookup, hstored⟩

/-- Two keys never share a slot. -/
theorem Sound.index_ne (h : map.Sound) (hne : other ≠ key) {index' : Nat}
    (hlookup : map.lookup key = some index) (hother : map.lookup other = some index') :
    index' ≠ index := by
  rintro rfl
  obtain ⟨value, hvalue⟩ := h key index' hlookup
  obtain ⟨value', hvalue'⟩ := h other index' hother
  rw [hvalue] at hvalue'
  exact hne (Prod.mk.inj (Option.some.inj hvalue')).1.symm

/-- There are no more keys than slots. -/
theorem Sound.length_keys_le (h : map.Sound) {keys : List K} (hnodup : keys.Nodup)
    (hkeys : ∀ key ∈ keys, (map.lookup key).isSome) {bound : Nat}
    (hbound : ∀ index pair, map.slot index = some pair → index < bound) : keys.length ≤ bound := by
  classical
  have hindex : ∀ key ∈ keys, map.lookup key = some ((map.lookup key).getD 0) := by
    intro key hkey
    obtain ⟨index, hlookup⟩ := Option.isSome_iff_exists.mp (hkeys key hkey)
    rw [hlookup]
    rfl
  have hcard : keys.toFinset.card ≤ (Finset.range bound).card := by
    apply Finset.card_le_card_of_injOn fun key => (map.lookup key).getD 0
    · intro key hkey
      obtain ⟨value, hvalue⟩ := h key _ (hindex key (by simpa using hkey))
      simpa using hbound _ _ hvalue
    · intro key hkey other hother hsame
      by_contra hne
      exact h.index_ne (Ne.symm hne) (hindex key (by simpa using hkey))
        (hindex other (by simpa using hother)) hsame.symm
  rwa [List.toFinset_card_of_nodup hnodup, Finset.card_range] at hcard

/-! ## Removing a pair -/

variable [DecidableEq K]

/-- The key leaves the index, and its slot is emptied. -/
def erase (map : SlotMap K V) (key : K) (index : Nat) : SlotMap K V where
  lookup := Function.update map.lookup key none
  slot := Function.update map.slot index none

theorem slot_of_erase {index' : Nat} {pair : K × V}
    (hslot : (map.erase key index).slot index' = some pair) : map.slot index' = some pair := by
  change Function.update map.slot index none index' = _ at hslot
  by_cases hindex : index' = index
  · subst hindex
    rw [Function.update_self] at hslot
    cases hslot
  · rwa [Function.update_of_ne hindex] at hslot

theorem Sound.erase (h : map.Sound) (hlookup : map.lookup key = some index) :
    (map.erase key index).Sound := by
  intro other index' hother
  change Function.update map.lookup key none other = _ at hother
  by_cases hkey : other = key
  · subst hkey
    rw [Function.update_self] at hother
    cases hother
  · rw [Function.update_of_ne hkey] at hother
    obtain ⟨value, hvalue⟩ := h other index' hother
    refine ⟨value, ?_⟩
    show Function.update map.slot index none index' = _
    rw [Function.update_of_ne (h.index_ne hkey hlookup hother), hvalue]

theorem Complete.erase (h : map.Complete) (hlookup : map.lookup key = some index) :
    (map.erase key index).Complete := by
  intro other index' value hslot
  change Function.update map.slot index none index' = _ at hslot
  by_cases hindex : index' = index
  · subst hindex
    rw [Function.update_self] at hslot
    cases hslot
  · rw [Function.update_of_ne hindex] at hslot
    have hother := h other index' value hslot
    show Function.update map.lookup key none other = _
    rw [Function.update_of_ne, hother]
    rintro rfl
    exact hindex (Option.some.inj (hother.symm.trans hlookup))

theorem Sound.find_erase (h : map.Sound) (hlookup : map.lookup key = some index) :
    (map.erase key index).find = Function.update map.find key none := by
  funext other
  by_cases hkey : other = key
  · subst hkey
    rw [Function.update_self]
    exact find_of_lookup_none (Function.update_self _ _ _)
  · rw [Function.update_of_ne hkey]
    show ((Function.update map.lookup key none other).bind fun index' =>
      (Function.update map.slot index none index').map Prod.snd) = _
    rw [Function.update_of_ne hkey, find]
    cases hother : map.lookup other with
    | none => rfl
    | some index' =>
      rw [Option.bind_some, Option.bind_some,
        Function.update_of_ne (h.index_ne hkey hlookup hother)]

/-! ## Writing a pair -/

/-- The pair in the slot of its key is replaced. -/
def assign (map : SlotMap K V) (key : K) (index : Nat) (value : V) : SlotMap K V :=
  { map with slot := Function.update map.slot index (some (key, value)) }

omit [DecidableEq K] in
/-- A slot that is written holds what it held, or what was written. -/
theorem slot_of_update {index' : Nat} {pair written : K × V}
    (hslot : Function.update map.slot index (some written) index' = some pair) :
    map.slot index' = some pair ∨ pair = written := by
  by_cases hindex : index' = index
  · subst hindex
    rw [Function.update_self] at hslot
    exact Or.inr (Option.some.inj hslot).symm
  · rw [Function.update_of_ne hindex] at hslot
    exact Or.inl hslot

theorem Sound.assign (h : map.Sound) (hlookup : map.lookup key = some index) (value : V) :
    (map.assign key index value).Sound := by
  intro other index' hother
  change map.lookup other = _ at hother
  show ∃ value', Function.update map.slot index (some (key, value)) index' = some (other, value')
  by_cases hkey : other = key
  · subst hkey
    obtain rfl := Option.some.inj (hlookup.symm.trans hother)
    exact ⟨value, Function.update_self _ _ _⟩
  · rw [Function.update_of_ne (h.index_ne hkey hlookup hother)]
    exact h other index' hother

omit [DecidableEq K] in
theorem Complete.assign (h : map.Complete) (hlookup : map.lookup key = some index) (value : V) :
    (map.assign key index value).Complete := by
  intro other index' value' hslot
  change Function.update map.slot index (some (key, value)) index' = _ at hslot
  show map.lookup other = _
  by_cases hindex : index' = index
  · subst hindex
    rw [Function.update_self] at hslot
    obtain ⟨rfl, -⟩ := Prod.mk.inj (Option.some.inj hslot)
    exact hlookup
  · rw [Function.update_of_ne hindex] at hslot
    exact h other index' value' hslot

theorem Sound.find_assign (h : map.Sound) (hlookup : map.lookup key = some index) (value : V) :
    (map.assign key index value).find = Function.update map.find key (some value) := by
  funext other
  by_cases hkey : other = key
  · subst hkey
    rw [Function.update_self]
    exact find_eq_of_lookup hlookup (Function.update_self _ _ _)
  · rw [Function.update_of_ne hkey]
    show ((map.lookup other).bind fun index' =>
      (Function.update map.slot index (some (key, value)) index').map Prod.snd) = _
    rw [find]
    cases hother : map.lookup other with
    | none => rfl
    | some index' =>
      rw [Option.bind_some, Option.bind_some,
        Function.update_of_ne (h.index_ne hkey hlookup hother)]

/-! ## Replacing a slot -/

/-- The key that a slot holds leaves the index. -/
def unlink (map : SlotMap K V) (index : Nat) : SlotMap K V :=
  match map.slot index with
  | none => map
  | some (occupant, _) => { map with lookup := Function.update map.lookup occupant none }

/-- What a slot holds makes way for a pair whose key is new. -/
def place (map : SlotMap K V) (key : K) (index : Nat) (value : V) : SlotMap K V where
  lookup := Function.update (map.unlink index).lookup key (some index)
  slot := Function.update map.slot index (some (key, value))

/-- The index of the others, which lead to other slots. -/
theorem Sound.lookup_unlink (h : map.Sound) {index' : Nat}
    (hlookup : (map.unlink index).lookup key = some index') :
    map.lookup key = some index' ∧ index' ≠ index := by
  unfold unlink at hlookup
  split at hlookup
  · rename_i hslot
    refine ⟨hlookup, ?_⟩
    rintro rfl
    obtain ⟨value, hvalue⟩ := h key index' hlookup
    rw [hslot] at hvalue
    cases hvalue
  · rename_i occupant value hslot
    change Function.update map.lookup occupant none key = _ at hlookup
    by_cases hkey : key = occupant
    · subst hkey
      rw [Function.update_self] at hlookup
      cases hlookup
    · rw [Function.update_of_ne hkey] at hlookup
      refine ⟨hlookup, ?_⟩
      rintro rfl
      obtain ⟨value', hvalue⟩ := h key index' hlookup
      rw [hslot] at hvalue
      exact hkey (Prod.mk.inj (Option.some.inj hvalue)).1.symm

/-- A slot that was unlinked may hold anything. -/
theorem Sound.replaceSlot (h : map.Sound) (index : Nat) (pair : Option (K × V)) :
    Sound ⟨(map.unlink index).lookup, Function.update map.slot index pair⟩ := by
  intro other index' hother
  obtain ⟨hlookup, hne⟩ := h.lookup_unlink hother
  obtain ⟨value, hvalue⟩ := h other index' hlookup
  refine ⟨value, ?_⟩
  show Function.update map.slot index pair index' = _
  rw [Function.update_of_ne hne, hvalue]

theorem Sound.place (h : map.Sound) (key : K) (index : Nat) (value : V) :
    (map.place key index value).Sound := by
  intro other index' hother
  change Function.update (map.unlink index).lookup key (some index) other = _ at hother
  show ∃ value', Function.update map.slot index (some (key, value)) index' = some (other, value')
  by_cases hkey : other = key
  · subst hkey
    rw [Function.update_self] at hother
    obtain rfl := Option.some.inj hother
    exact ⟨value, Function.update_self _ _ _⟩
  · rw [Function.update_of_ne hkey] at hother
    exact h.replaceSlot index (some (key, value)) other index' hother

theorem Complete.place (h : map.Complete) (hnew : map.lookup key = none) (value : V) :
    (map.place key index value).Complete := by
  intro other index' value' hslot
  change Function.update map.slot index (some (key, value)) index' = _ at hslot
  show Function.update (map.unlink index).lookup key (some index) other = _
  by_cases hindex : index' = index
  · subst hindex
    rw [Function.update_self] at hslot
    obtain ⟨rfl, -⟩ := Prod.mk.inj (Option.some.inj hslot)
    exact Function.update_self _ _ _
  · rw [Function.update_of_ne hindex] at hslot
    have hother := h other index' value' hslot
    have hkey : other ≠ key := by
      rintro rfl
      rw [hnew] at hother
      cases hother
    rw [Function.update_of_ne hkey]
    unfold unlink
    split
    · exact hother
    · rename_i occupant stored hstored
      show Function.update map.lookup occupant none other = _
      rw [Function.update_of_ne, hother]
      -- the occupant is in the slot, and nothing else is
      rintro rfl
      exact hindex (Option.some.inj (hother.symm.trans (h _ _ _ hstored)))

/-- What a slot held is forgotten when it is replaced, and nothing else. -/
theorem Sound.find_replaceSlot (h : map.Sound) (index : Nat) (pair : Option (K × V)) (other : K) :
    find ⟨(map.unlink index).lookup, Function.update map.slot index pair⟩ other = map.find other ∨
      find ⟨(map.unlink index).lookup, Function.update map.slot index pair⟩ other = none := by
  cases hother : (map.unlink index).lookup other with
  | none => exact Or.inr (find_of_lookup_none hother)
  | some index' =>
    obtain ⟨hlookup, hne⟩ := h.lookup_unlink hother
    refine Or.inl ?_
    show ((map.unlink index).lookup other).bind (fun index' =>
      (Function.update map.slot index pair index').map Prod.snd) = _
    rw [hother, Option.bind_some, Function.update_of_ne hne, find, hlookup, Option.bind_some]

/-- The new pair is found, and of the others at most one is forgotten. -/
theorem Sound.find_place (h : map.Sound) (key : K) (index : Nat) (value : V) :
    (map.place key index value).find key = some value ∧
      ∀ other ≠ key, (map.place key index value).find other = map.find other ∨
        (map.place key index value).find other = none := by
  refine ⟨find_eq_of_lookup (Function.update_self _ _ _) (Function.update_self _ _ _), ?_⟩
  intro other hkey
  have hfind : (map.place key index value).find other =
      find ⟨(map.unlink index).lookup, Function.update map.slot index (some (key, value))⟩ other := by
    show ((Function.update (map.unlink index).lookup key (some index) other).bind _) = _
    rw [Function.update_of_ne hkey]
    rfl
  rw [hfind]
  exact h.find_replaceSlot index (some (key, value)) other

/-- In a free slot nothing is forgotten. -/
theorem Sound.find_place_free (h : map.Sound) (hfree : map.slot index = none)
    (hother : other ≠ key) :
    (map.place key index value).find other = map.find other := by
  have hunlink : map.unlink index = map := by
    rw [unlink, hfree]
  show ((Function.update (map.unlink index).lookup key (some index) other).bind fun index' =>
    (Function.update map.slot index (some (key, value)) index').map Prod.snd) = _
  rw [Function.update_of_ne hother, hunlink, find]
  cases hlookup : map.lookup other with
  | none => rfl
  | some index' =>
    obtain ⟨stored, hstored⟩ := h other index' hlookup
    have hne : index' ≠ index := by
      rintro rfl
      rw [hfree] at hstored
      cases hstored
    rw [Option.bind_some, Option.bind_some, Function.update_of_ne hne]

end SlotMap

end DnsPro
