import Mathlib.Tactic

/-!
# Owned objects

Objects that own each other through handles.  Objects are numbered in the order in
which they are made, and an object is made by its owner, so an owner is older than
what it owns.  `held` says which handles an object holds, `roots` are the handles
held from outside, and `gone` lists the objects that were destroyed.

An object that is destroyed takes what it owns with it: `tree` lists the objects
that go, an owner after what it owns.

`Owned` says that every object that was made has one owner or is gone, once.  It is
kept by making an object, by moving a handle to the outside and by destroying a tree
(`Owned.make`, `Owned.makeRoot`, `Owned.release`, `Owned.destroy`, `Owned.discard`), and
without roots nothing is left (`Owned.all_gone`).
-/

namespace DnsPro.Ownership

/-- What goes with `node`, for at most `depth` generations. -/
def tree (held : Nat → List Nat) : Nat → Nat → List Nat
  | 0, node => [node]
  | depth + 1, node => (held node).flatMap (tree held depth) ++ [node]

/-- The number of handles of `node` that the first `size` objects hold. -/
def handles (held : Nat → List Nat) (size node : Nat) : Nat :=
  ∑ owner ∈ Finset.range size, (held owner).count node

/-- Every object that was made has one owner or is gone. -/
structure Owned (held : Nat → List Nat) (roots gone : List Nat) (size : Nat) : Prop where
  once : ∀ node, roots.count node + handles held size node + gone.count node =
    if node < size then 1 else 0
  later : ∀ owner, ∀ node ∈ held owner, owner < node
  cleared : ∀ node ∈ gone, held node = []
  unmade : ∀ node, size ≤ node → held node = []

variable {held : Nat → List Nat} {roots gone : List Nat} {size node owner depth : Nat}

theorem owned_empty : Owned (fun _ => []) [] [] 0 where
  once node := by simp [handles]
  later owner node hnode := by simp at hnode
  cleared node hnode := by simp at hnode
  unmade _ _ := rfl

/-! ## Counting handles -/

theorem count_le_handles (howner : owner < size) :
    (held owner).count node ≤ handles held size node := by
  apply Finset.single_le_sum (f := fun owner => (held owner).count node)
  · intro other _
    exact Nat.zero_le _
  · exact Finset.mem_range.mpr howner

theorem handles_update (held : Nat → List Nat) (howner : owner < size) (handle : List Nat)
    (node : Nat) :
    handles (Function.update held owner handle) size node + (held owner).count node =
      handles held size node + handle.count node := by
  have hmem : owner ∈ Finset.range size := Finset.mem_range.mpr howner
  have hothers : ∑ other ∈ (Finset.range size).erase owner,
        (Function.update held owner handle other).count node =
      ∑ other ∈ (Finset.range size).erase owner, (held other).count node := by
    apply Finset.sum_congr rfl
    intro other hother
    rw [Function.update_of_ne (Finset.ne_of_mem_erase hother)]
  have hbefore := Finset.add_sum_erase _ (fun other => (held other).count node) hmem
  have hafter := Finset.add_sum_erase _
    (fun other => (Function.update held owner handle other).count node) hmem
  simp only [Function.update_self] at hafter
  unfold handles
  omega

/-- A node with a handle was made, and is not gone. -/
theorem Owned.made (h : Owned held roots gone size) (hnode : node ∈ held owner) :
    owner < size ∧ node < size ∧ node ∉ gone ∧ node ∉ roots := by
  have howner : owner < size := by
    by_contra hunmade
    rw [h.unmade owner (by omega)] at hnode
    simp at hnode
  have hhandle : 0 < handles held size node :=
    (List.count_pos_iff.mpr hnode).trans_le (count_le_handles howner)
  have honce := h.once node
  have hgone : gone.count node = 0 := by split at honce <;> omega
  have hroots : roots.count node = 0 := by split at honce <;> omega
  refine ⟨howner, ?_, List.count_eq_zero.mp hgone, List.count_eq_zero.mp hroots⟩
  by_contra hunmade
  rw [if_neg hunmade] at honce
  omega

/-- An object has one owner. -/
theorem Owned.holder_unique (h : Owned held roots gone size) {other : Nat}
    (hnode : node ∈ held owner) (hother : node ∈ held other) : owner = other := by
  by_contra hne
  have hsum := Finset.sum_le_sum_of_subset (f := fun owner => (held owner).count node)
    (s := {owner, other}) (t := Finset.range size) (by
      intro holder hholder
      rw [Finset.mem_insert, Finset.mem_singleton] at hholder
      rcases hholder with rfl | rfl
      · exact Finset.mem_range.mpr (h.made hnode).1
      · exact Finset.mem_range.mpr (h.made hother).1)
  rw [Finset.sum_pair hne] at hsum
  have hfirst := List.count_pos_iff.mpr hnode
  have hsecond := List.count_pos_iff.mpr hother
  have honce := h.once node
  unfold handles at honce
  split at honce <;> omega

theorem Owned.root_made (h : Owned held roots gone size) (hnode : node ∈ roots) :
    node < size ∧ node ∉ gone := by
  have hroot := List.count_pos_iff.mpr hnode
  have honce := h.once node
  refine ⟨?_, ?_⟩
  · by_contra hunmade
    rw [if_neg hunmade] at honce
    omega
  · apply List.count_eq_zero.mp
    split at honce <;> omega

theorem Owned.nodup (h : Owned held roots gone size) : gone.Nodup := by
  apply List.nodup_iff_count_le_one.mpr
  intro node
  have := h.once node
  split at this <;> omega

theorem Owned.gone_made (h : Owned held roots gone size) (hnode : node ∈ gone) : node < size := by
  have hgone := List.count_pos_iff.mpr hnode
  have honce := h.once node
  by_contra hunmade
  rw [if_neg hunmade] at honce
  omega

/-! ## Making objects and moving handles -/

/-- An object makes another one. -/
theorem Owned.make (h : Owned held roots gone size) (howner : owner < size)
    (halive : owner ∉ gone) :
    Owned (Function.update held owner (held owner ++ [size])) roots gone (size + 1) where
  once node := by
    have hupdate := handles_update held howner (held owner ++ [size]) node
    have hself : Function.update held owner (held owner ++ [size]) size = [] := by
      rw [Function.update_of_ne (by omega), h.unmade size (le_refl size)]
    have hlast : handles (Function.update held owner (held owner ++ [size])) (size + 1) node =
        handles (Function.update held owner (held owner ++ [size])) size node := by
      unfold handles
      rw [Finset.sum_range_succ, hself]
      simp
    have honce := h.once node
    rw [List.count_append, List.count_singleton] at hupdate
    rw [hlast]
    by_cases hnode : node = size
    · subst hnode
      simp only [beq_self_eq_true, if_true, lt_self_iff_false, if_false] at hupdate honce
      rw [if_pos (by omega)]
      omega
    · have hbeq : (size == node) = false := by simpa using fun heq => hnode heq.symm
      rw [hbeq] at hupdate
      have hiff : node < size + 1 ↔ node < size := by omega
      simp only [hiff]
      simp only [Bool.false_eq_true, if_false] at hupdate
      omega
  later other node hnode := by
    by_cases hother : other = owner
    · subst hother
      rw [Function.update_self, List.mem_append, List.mem_singleton] at hnode
      rcases hnode with hnode | rfl
      · exact h.later other node hnode
      · exact howner
    · rw [Function.update_of_ne hother] at hnode
      exact h.later other node hnode
  cleared node hnode := by
    have hne : node ≠ owner := fun heq => halive (heq ▸ hnode)
    rw [Function.update_of_ne hne]
    exact h.cleared node hnode
  unmade node hnode := by
    rw [Function.update_of_ne (by omega)]
    exact h.unmade node (by omega)

/-- An object is made from outside. -/
theorem Owned.makeRoot (h : Owned held roots gone size) :
    Owned held (size :: roots) gone (size + 1) where
  once node := by
    have honce := h.once node
    have hlast : handles held (size + 1) node = handles held size node := by
      unfold handles
      rw [Finset.sum_range_succ, h.unmade size (le_refl size)]
      simp
    rw [hlast, List.count_cons]
    by_cases hnode : node = size
    · subst hnode
      simp only [lt_self_iff_false, if_false] at honce
      simp only [beq_self_eq_true, if_true]
      rw [if_pos (by omega)]
      omega
    · have hbeq : (size == node) = false := by simpa using fun heq => hnode heq.symm
      have hiff : node < size + 1 ↔ node < size := by omega
      simp only [hbeq, hiff]
      simpa using honce
  later := h.later
  cleared := h.cleared
  unmade node hnode := h.unmade node (by omega)

/-- An owner gives a handle away, to the outside. -/
theorem Owned.release (h : Owned held roots gone size) (hnode : node ∈ held owner) :
    Owned (Function.update held owner ((held owner).erase node)) (node :: roots) gone size where
  once other := by
    have hupdate := handles_update held (h.made hnode).1 ((held owner).erase node) other
    have herase : ((held owner).erase node).count other = _ := List.count_erase
    have hpos : other = node → 0 < (held owner).count other := by
      rintro rfl
      exact List.count_pos_iff.mpr hnode
    have honce := h.once other
    rw [List.count_cons]
    by_cases hother : other = node
    · have := hpos hother
      subst hother
      simp only [beq_self_eq_true, if_true] at herase ⊢
      omega
    · have hbeq : (node == other) = false := by simpa using fun heq => hother heq.symm
      simp only [hbeq, Bool.false_eq_true, if_false] at herase ⊢
      omega
  later other child hchild := by
    by_cases hother : other = owner
    · subst hother
      rw [Function.update_self] at hchild
      exact h.later other child (List.mem_of_mem_erase hchild)
    · rw [Function.update_of_ne hother] at hchild
      exact h.later other child hchild
  cleared other hother := by
    have hne : other ≠ owner := by
      rintro rfl
      rw [h.cleared other hother] at hnode
      simp at hnode
    rw [Function.update_of_ne hne]
    exact h.cleared other hother
  unmade other hother := by
    have hne : other ≠ owner := by
      rintro rfl
      rw [h.unmade other hother] at hnode
      simp at hnode
    rw [Function.update_of_ne hne]
    exact h.unmade other hother

/-! ## Destroying a tree -/

/-- The tree of an object that owns nothing. -/
theorem tree_of_nil (hheld : held node = []) (depth : Nat) : tree held depth node = [node] := by
  cases depth <;> simp [tree, hheld]

theorem Owned.tree_made (h : Owned held roots gone size) {other : Nat} (hnode : node < size)
    (hother : other ∈ tree held depth node) : other < size := by
  induction depth generalizing node with
  | zero =>
    rw [tree, List.mem_singleton] at hother
    exact hother ▸ hnode
  | succ depth ih =>
    rw [tree, List.mem_append, List.mem_flatMap, List.mem_singleton] at hother
    rcases hother with ⟨child, hchild, hother⟩ | rfl
    · exact ih (h.made hchild).2.1 hother
    · exact hnode

/-- In a tree every object but the first is held by another one of the tree. -/
theorem Owned.count_tree (h : Owned held roots gone size) (hdepth : size ≤ depth + node)
    (other : Nat) :
    (tree held depth node).count other =
      (if other = node then 1 else 0) +
        ((tree held depth node).map fun owner => (held owner).count other).sum := by
  induction depth generalizing node with
  | zero =>
    rw [tree, List.count_singleton]
    simp [h.unmade node (by omega), eq_comm (a := node)]
  | succ depth ih =>
    have hchildren : ∀ children : List Nat, (∀ child ∈ children, node < child) →
        (children.flatMap (tree held depth)).count other = children.count other +
          ((children.flatMap (tree held depth)).map fun owner => (held owner).count other).sum := by
      intro children
      induction children with
      | nil => simp
      | cons child children ihc =>
        intro hlater
        have hyounger := hlater child List.mem_cons_self
        have hchild := @ih child (by omega)
        have hrest := ihc fun child hchild => hlater child (List.mem_cons_of_mem _ hchild)
        rw [List.flatMap_cons, List.count_append, List.map_append, List.sum_append, hchild, hrest,
          List.count_cons]
        simp only [beq_iff_eq, eq_comm (a := child)]
        omega
    have := hchildren (held node) (h.later node)
    rw [tree, List.count_append, List.map_append, List.sum_append, this, List.count_singleton]
    simp only [List.map_cons, List.map_nil, List.sum_cons, List.sum_nil, beq_iff_eq,
      eq_comm (a := node)]
    omega

/-- The objects of the tree of a root are different: a handle of an object of the tree
is a handle, and there is one of them. -/
theorem Owned.tree_nodup (h : Owned held roots gone size) (hroot : node ∈ roots)
    (hdepth : size ≤ depth + node) : (tree held depth node).Nodup := by
  apply List.nodup_iff_count_le_one.mpr
  intro other
  induction other using Nat.strong_induction_on with
  | _ other ih =>
    have hmade := (h.root_made hroot).1
    have hsum : ((tree held depth node).map fun owner => (held owner).count other).sum ≤
        handles held size other := by
      rw [Finset.sum_list_map_count]
      unfold handles
      calc ∑ owner ∈ (tree held depth node).toFinset,
            (tree held depth node).count owner • (held owner).count other
          ≤ ∑ owner ∈ (tree held depth node).toFinset, (held owner).count other := by
            apply Finset.sum_le_sum
            intro owner _
            by_cases hholds : other ∈ held owner
            · have := Nat.mul_le_mul_right ((held owner).count other)
                (ih owner (h.later owner other hholds))
              simpa using this
            · simp [List.count_eq_zero_of_not_mem hholds]
        _ ≤ ∑ owner ∈ Finset.range size, (held owner).count other := by
            apply Finset.sum_le_sum_of_subset
            intro owner howner
            exact Finset.mem_range.mpr (h.tree_made hmade (List.mem_toFinset.mp howner))
    have hself : (if other = node then 1 else 0) ≤ roots.count other := by
      split
      · rename_i heq
        exact heq ▸ List.count_pos_iff.mpr hroot
      · exact Nat.zero_le _
    have honce := h.once other
    rw [h.count_tree hdepth]
    split at honce <;> omega

/-- A root is destroyed, with all that it owns. -/
theorem Owned.destroy (h : Owned held roots gone size) (hroot : node ∈ roots)
    (hdepth : size ≤ depth + node) :
    Owned (fun other => if other ∈ tree held depth node then [] else held other)
      (roots.erase node) (gone ++ tree held depth node) size where
  once other := by
    have hnodup := h.tree_nodup hroot hdepth
    have hmade := (h.root_made hroot).1
    have hsum : ((tree held depth node).map fun owner => (held owner).count other).sum =
        ∑ owner ∈ (tree held depth node).toFinset, (held owner).count other :=
      (List.sum_toFinset _ hnodup).symm
    have hsubset : (tree held depth node).toFinset ⊆ Finset.range size := by
      intro owner howner
      exact Finset.mem_range.mpr (h.tree_made hmade (List.mem_toFinset.mp howner))
    have hsplit : handles (fun other => if other ∈ tree held depth node then [] else held other)
          size other + ∑ owner ∈ (tree held depth node).toFinset, (held owner).count other =
        handles held size other := by
      dsimp only [handles]
      have hbefore := Finset.sum_sdiff hsubset (f := fun owner => (held owner).count other)
      have hafter := Finset.sum_sdiff hsubset (f := fun owner =>
        (if owner ∈ tree held depth node then [] else held owner).count other)
      have hin : ∑ owner ∈ (tree held depth node).toFinset,
          (if owner ∈ tree held depth node then [] else held owner).count other = 0 := by
        apply Finset.sum_eq_zero
        intro owner howner
        rw [if_pos (List.mem_toFinset.mp howner)]
        rfl
      have hout : ∑ owner ∈ Finset.range size \ (tree held depth node).toFinset,
            (if owner ∈ tree held depth node then [] else held owner).count other =
          ∑ owner ∈ Finset.range size \ (tree held depth node).toFinset,
            (held owner).count other := by
        apply Finset.sum_congr rfl
        intro owner howner
        rw [if_neg fun hmem => (Finset.mem_sdiff.mp howner).2 (List.mem_toFinset.mpr hmem)]
      omega
    have hcount := h.count_tree hdepth other
    have herase : (roots.erase node).count other = _ := List.count_erase
    have hpos : other = node → 0 < roots.count other := by
      rintro rfl
      exact List.count_pos_iff.mpr hroot
    have honce := h.once other
    rw [List.count_append]
    simp only [beq_iff_eq, eq_comm (a := node)] at herase
    split_ifs at herase hcount with hother
    · have := hpos hother
      omega
    · omega
  later other child hchild := by
    split at hchild
    · simp at hchild
    · exact h.later other child hchild
  cleared other hother := by
    rcases List.mem_append.mp hother with hgone | htree
    · split
      · rfl
      · exact h.cleared other hgone
    · rw [if_pos htree]
  unmade other hother := by
    split
    · rfl
    · exact h.unmade other hother

/-- An owner gives up a handle, and the object with what it owns is destroyed. -/
theorem Owned.discard (h : Owned held roots gone size) (hnode : node ∈ held owner)
    (hdepth : size ≤ depth + node) {released : Nat → List Nat}
    (hreleased : released = Function.update held owner ((held owner).erase node)) :
    Owned (fun other => if other ∈ tree released depth node then [] else released other)
      roots (gone ++ tree released depth node) size := by
  subst hreleased
  have := (h.release hnode).destroy List.mem_cons_self hdepth
  rwa [List.erase_cons_head] at this

/-- Without roots every object is gone, once: an owner of the oldest one would be older. -/
theorem Owned.all_gone (h : Owned held [] gone size) : gone.Perm (List.range size) := by
  have hall : ∀ node, node < size → node ∈ gone := by
    intro node
    induction node using Nat.strong_induction_on with
    | _ node ih =>
      intro hnode
      have honce := h.once node
      have hhandles : handles held size node = 0 := by
        apply Finset.sum_eq_zero
        intro owner howner
        by_contra hholds
        have hmem : node ∈ held owner := List.count_pos_iff.mp (Nat.pos_of_ne_zero hholds)
        have hgone := ih owner (h.later owner node hmem) (Finset.mem_range.mp howner)
        rw [h.cleared owner hgone] at hmem
        simp at hmem
      rw [if_pos hnode, hhandles, List.count_nil] at honce
      exact List.count_pos_iff.mp (by omega)
  apply (List.perm_ext_iff_of_nodup h.nodup List.nodup_range).mpr
  intro node
  rw [List.mem_range]
  exact ⟨h.gone_made, hall node⟩

end DnsPro.Ownership
