import Mathlib.Tactic

/-!
# Lists of entries with a number as key

A log in which every entry carries the number of the request it belongs to is a
list of pairs.  When the keys are distinct, looking a key up is membership, and
when they increase, reading the log in the order of the requests gives it back.
-/

namespace DnsPro.Keyed

variable {β : Type}

/-- With distinct keys, a lookup finds exactly the entry. -/
theorem lookup_eq_some_iff {entries : List (Nat × β)} (hnodup : (entries.map Prod.fst).Nodup)
    (key : Nat) (value : β) : entries.lookup key = some value ↔ (key, value) ∈ entries := by
  induction entries with
  | nil => simp
  | cons entry entries ih =>
    obtain ⟨first, content⟩ := entry
    rw [List.map_cons, List.nodup_cons] at hnodup
    rw [List.lookup_cons]
    by_cases hkey : key = first
    · subst hkey
      have hother : (key, value) ∉ entries := fun hmem =>
        hnodup.1 (List.mem_map.mpr ⟨(key, value), hmem, rfl⟩)
      simp [hother, eq_comm]
    · have hne : (key == first) = false := by simpa using hkey
      rw [hne, ih hnodup.2]
      simp [hkey]

/-- Reading the log in the order of the keys gives its contents in order. -/
theorem filterMap_lookup_range (bound : Nat) : ∀ {entries : List (Nat × β)},
    (entries.map Prod.fst).Pairwise (· < ·) → (∀ entry ∈ entries, entry.1 < bound) →
    (List.range bound).filterMap (fun key => entries.lookup key) = entries.map Prod.snd := by
  induction bound with
  | zero =>
    intro entries _ hbound
    have hnil : entries = [] := List.eq_nil_iff_forall_not_mem.mpr fun entry hentry =>
      absurd (hbound entry hentry) (by omega)
    simp [hnil]
  | succ bound ih =>
    intro entries hsorted hbound
    have hnodup : (entries.map Prod.fst).Nodup := hsorted.imp fun hlt => Nat.ne_of_lt hlt
    rw [List.range_succ, List.filterMap_append]
    rcases List.eq_nil_or_concat entries with hnil | ⟨before, ⟨last, content⟩, hlast⟩
    · simp [hnil]
    rw [List.concat_eq_append] at hlast
    subst hlast
    rw [List.map_append, List.pairwise_append] at hsorted
    have hbelow : ∀ entry ∈ before, entry.1 < last := fun entry hentry =>
      hsorted.2.2 entry.1 (List.mem_map_of_mem hentry) last (by simp)
    by_cases hmax : last = bound
    · -- the last entry is the one with the greatest key
      subst hmax
      have hsame : (List.range last).filterMap
          (fun key => (before ++ [(last, content)]).lookup key) =
          (List.range last).filterMap (fun key => before.lookup key) := by
        refine List.filterMap_congr fun key hkey => ?_
        have hne : (key == last) = false := by
          have := List.mem_range.mp hkey
          simp
          omega
        rw [List.lookup_append]
        simp [List.lookup_cons, hne]
      have hfound : (before ++ [(last, content)]).lookup last = some content :=
        (lookup_eq_some_iff hnodup last content).mpr (by simp)
      rw [hsame, ih hsorted.1 hbelow]
      simp [hfound]
    · have hsmaller : ∀ entry ∈ before ++ [(last, content)], entry.1 < bound := by
        intro entry hentry
        have hle : entry.1 ≤ last := by
          rcases List.mem_append.mp hentry with hentry | hentry
          · exact (hbelow entry hentry).le
          · rw [List.mem_singleton.mp hentry]
        have := hbound (last, content) (by simp)
        simp only at this
        omega
      have hnone : (before ++ [(last, content)]).lookup bound = none := by
        rw [List.lookup_eq_none_iff]
        intro entry hentry
        have := hsmaller entry hentry
        simp
        omega
      rw [ih (by rw [List.map_append]; exact List.pairwise_append.mpr hsorted) hsmaller]
      simp [hnone]

end DnsPro.Keyed
