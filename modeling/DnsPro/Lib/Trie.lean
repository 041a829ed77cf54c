import Mathlib.Tactic

/-!
# Tries over arbitrary keys

A node has a flag and a map from keys to children.  The map is an association
list in which the first entry of a key counts.  `flagAt` reads the flag at the
end of a path, with `false` for a path that leaves the trie, and `mark` sets
it, creating the nodes on the way.
-/

namespace DnsPro.Trie

variable {α : Type} [DecidableEq α]

inductive Node (α : Type) where
  | node (flag : Bool) (children : List (α × Node α))

namespace Node

/-- A node without children whose flag is not set. -/
def empty : Node α := .node false []

def flag : Node α → Bool
  | .node flag _ => flag

def children : Node α → List (α × Node α)
  | .node _ children => children

/-- The child under `key`. -/
def child? (n : Node α) (key : α) : Option (Node α) := n.children.lookup key

/-- Replace the child under `key`, or add it. -/
def setChild (n : Node α) (key : α) (child : Node α) : Node α :=
  .node n.flag ((key, child) :: n.children.filter fun entry => entry.1 ≠ key)

/-- The flag at the end of `path`. -/
def flagAt : Node α → List α → Bool
  | n, [] => n.flag
  | n, key :: path =>
    match n.child? key with
    | none => false
    | some child => child.flagAt path

/-- Set the flag at the end of `path`. -/
def mark : Node α → List α → Node α
  | n, [] => .node true n.children
  | n, key :: path => n.setChild key (((n.child? key).getD empty).mark path)

@[simp] theorem flagAt_nil (n : Node α) : n.flagAt [] = n.flag := rfl

theorem flagAt_cons (n : Node α) (key : α) (path : List α) :
    n.flagAt (key :: path) = ((n.child? key).getD empty).flagAt path := by
  rw [flagAt]
  cases n.child? key with
  | none =>
    cases path with
    | nil => rfl
    | cons key' path => rfl
  | some child => rfl

@[simp] theorem flag_setChild (n : Node α) (key : α) (child : Node α) :
    (n.setChild key child).flag = n.flag := rfl

private theorem lookup_filter_ne (entries : List (α × Node α)) {key query : α} (h : query ≠ key) :
    (entries.filter fun entry => entry.1 ≠ key).lookup query = entries.lookup query := by
  induction entries with
  | nil => rfl
  | cons entry entries ih =>
    by_cases hkey : entry.1 = key
    · have hq : (query == entry.1) = false := by simpa [hkey] using h
      rw [List.filter_cons_of_neg (by simpa using hkey), ih]
      obtain ⟨k, v⟩ := entry
      rw [List.lookup_cons, hq]
    · rw [List.filter_cons_of_pos (by simpa using hkey)]
      obtain ⟨k, v⟩ := entry
      simp only [List.lookup_cons, ih]

theorem child?_setChild (n : Node α) (key query : α) (child : Node α) :
    (n.setChild key child).child? query =
      if query = key then some child else n.child? query := by
  simp only [child?, setChild, children, List.lookup_cons]
  split_ifs with h
  · simp [h]
  · have hq : (query == key) = false := by simpa using h
    rw [hq]
    exact lookup_filter_ne _ h

/-- Marking a path changes the flag of that path only. -/
theorem flagAt_mark (n : Node α) (path query : List α) :
    (n.mark path).flagAt query = (decide (query = path) || n.flagAt query) := by
  induction path generalizing n query with
  | nil =>
    cases query with
    | nil => simp [mark, flag]
    | cons key query => simp [mark, flagAt, child?, children]
  | cons key path ih =>
    cases query with
    | nil => simp [mark]
    | cons key' query =>
      rw [mark, flagAt_cons, flagAt_cons, child?_setChild]
      by_cases hkey : key' = key
      · subst hkey
        simp [ih]
      · simp [hkey]

@[simp] theorem flagAt_empty (path : List α) : (empty : Node α).flagAt path = false := by
  cases path with
  | nil => rfl
  | cons key path => rfl

end Node

end DnsPro.Trie
