import Mathlib.Data.List.Sort
import Mathlib.Tactic

/-!
# Algorithms that rearrange a vector

`std::swap` of two elements, `std::is_heap`, `std::push_heap`, `std::pop_heap`,
`std::shuffle` and a draw from a uniform distribution.  The heap algorithms
and the random ones are parameters: `HeapAlgorithms` and `Randomness` hold the
functions together with what the standard promises of them, and nothing else
is known of the order they leave behind.
-/

namespace DnsPro

variable {α : Type}

/-- Exchange the elements at two indices inside the vector. -/
def swapEntries (entries : List α) (left right : Nat) : List α :=
  match entries[left]?, entries[right]? with
  | some atLeft, some atRight => (entries.set left atRight).set right atLeft
  | _, _ => entries

theorem swapEntries_perm (entries : List α) (left right : Nat) :
    (swapEntries entries left right).Perm entries := by
  unfold swapEntries
  split
  · rename_i atLeft atRight hleft hright
    obtain ⟨hl, rfl⟩ := List.getElem?_eq_some_iff.mp hleft
    obtain ⟨hr, rfl⟩ := List.getElem?_eq_some_iff.mp hright
    exact List.set_set_perm hl hr
  · exact List.Perm.refl _

/-- `std::is_heap`: no element is ordered after its parent's place. -/
def isHeap (comp : α → α → Bool) (entries : List α) : Bool :=
  (List.range entries.length).all fun index =>
    match entries[(index - 1) / 2]?, entries[index]? with
    | some parent, some child => decide (index = 0) || !comp parent child
    | _, _ => true

/-- `std::push_heap` and `std::pop_heap` for one comparison. -/
structure HeapAlgorithms (comp : α → α → Bool) where
  pushHeap : List α → List α
  popHeap : List α → List α
  push_perm : ∀ entries, (pushHeap entries).Perm entries
  push_isHeap : ∀ entries new, isHeap comp entries → isHeap comp (pushHeap (entries ++ [new]))
  pop_perm : ∀ entries, (popHeap entries).Perm entries
  /-- The first element goes to the back and the others are a heap again. -/
  pop_isHeap : ∀ front rest, isHeap comp (front :: rest) →
    ∃ others, popHeap (front :: rest) = others ++ [front] ∧ isHeap comp others

/-- A shuffle, and the draws of an index, the argument being the number of
draws before. -/
structure Randomness (α : Type) where
  shuffle : List α → List α
  draw : Nat → Nat → Nat
  shuffle_perm : ∀ entries, (shuffle entries).Perm entries
  draw_lt : ∀ count size, 0 < size → draw count size < size

theorem isHeap_nil (comp : α → α → Bool) : isHeap comp [] = true := rfl

/-- A sorted list is a heap. -/
theorem isHeap_of_pairwise {comp : α → α → Bool} {entries : List α}
    (h : entries.Pairwise fun first second => comp first second = false) :
    isHeap comp entries = true := by
  unfold isHeap
  rw [List.all_eq_true]
  intro index hindex
  rw [List.mem_range] at hindex
  split
  · rename_i parent child hparent hchild
    rcases Nat.eq_zero_or_pos index with rfl | hpos
    · simp
    · obtain ⟨hp, rfl⟩ := List.getElem?_eq_some_iff.mp hparent
      obtain ⟨hc, rfl⟩ := List.getElem?_eq_some_iff.mp hchild
      rw [List.pairwise_iff_getElem.mp h _ _ hp hc (by omega)]
      simp
  · rfl

section Sorted

variable (comp : α → α → Bool)
  (htotal : ∀ first second, comp first second = false ∨ comp second first = false)
  (htrans : ∀ first second third, comp first second = false → comp second third = false →
    comp first third = false)

/-- Sorting is one way to keep a heap. -/
def HeapAlgorithms.ofSort : HeapAlgorithms comp :=
  let sort := List.insertionSort fun first second => comp first second = false
  have sorted : ∀ entries, isHeap comp (sort entries) = true := fun entries =>
    haveI : Std.Total fun first second => comp first second = false := ⟨htotal⟩
    haveI : IsTrans α fun first second => comp first second = false := ⟨htrans⟩
    isHeap_of_pairwise (List.pairwise_insertionSort _ _)
  { pushHeap := sort
    popHeap := fun entries =>
      match entries with
      | [] => []
      | front :: rest => sort rest ++ [front]
    push_perm := List.perm_insertionSort _
    push_isHeap := fun _ _ _ => sorted _
    pop_perm := by
      intro entries
      cases entries with
      | nil => exact List.Perm.refl _
      | cons front rest =>
        exact (List.perm_append_singleton _ _).trans ((List.perm_insertionSort _ _).cons front)
    pop_isHeap := fun _ rest _ => ⟨sort rest, rfl, sorted rest⟩ }

end Sorted

/-- Always the first index, and no shuffling. -/
def Randomness.constant : Randomness α where
  shuffle entries := entries
  draw _ _ := 0
  shuffle_perm _ := List.Perm.refl _
  draw_lt _ _ h := h

end DnsPro
