import Mathlib.Tactic

/-!
# Lists threaded through their nodes

An intrusive list has no cells of its own: the links are fields of the nodes, here
functions from a node to the one after it and the one before it.
`SinglyLinked next head list` and `DoublyLinked prev next before head list` say
that the links spell out `list`.

An operation writes a few links and leaves the others alone, so the lemmas about
appending, pushing and removing speak of the links after the operation through
their values at the nodes.
-/

namespace DnsPro

variable {α : Type}

/-- From `head` on, the links lead through the nodes of the list. -/
def SinglyLinked (next : α → Option α) : Option α → List α → Prop
  | head, [] => head = none
  | head, node :: rest => head = some node ∧ SinglyLinked next (next node) rest

/-- The same with links in both directions; `before` is what the first node leads
back to. -/
def DoublyLinked (prev next : α → Option α) : Option α → Option α → List α → Prop
  | _, head, [] => head = none
  | before, head, node :: rest =>
    head = some node ∧ prev node = before ∧ DoublyLinked prev next (some node) (next node) rest

namespace SinglyLinked

variable {next next' : α → Option α} {head : Option α} {list : List α} {node : α}

theorem head_eq (h : SinglyLinked next head list) : head = list.head? := by
  cases list with
  | nil => exact h
  | cons first rest => exact h.1

/-- Only the links of the nodes matter. -/
theorem congr (h : SinglyLinked next head list) (heq : ∀ node ∈ list, next' node = next node) :
    SinglyLinked next' head list := by
  induction list generalizing head with
  | nil => exact h
  | cons first rest ih =>
    refine ⟨h.1, ?_⟩
    rw [heq first List.mem_cons_self]
    exact ih h.2 fun node hnode => heq node (List.mem_cons_of_mem first hnode)

/-- The first node is taken off. -/
theorem tail (h : SinglyLinked next head (node :: list)) : SinglyLinked next (next node) list :=
  h.2

/-- The last node leads to a new one, which ends the list. -/
theorem append (h : SinglyLinked next head list) (hnodup : list.Nodup)
    (hlast : ∀ last, list.getLast? = some last → next' last = some node)
    (hothers : ∀ other ∈ list, list.getLast? ≠ some other → next' other = next other)
    (hnode : next' node = none) :
    SinglyLinked next' (list ++ [node]).head? (list ++ [node]) := by
  induction list generalizing head with
  | nil => exact ⟨rfl, hnode⟩
  | cons first rest ih =>
    have hrest := (List.nodup_cons.mp hnodup).2
    refine ⟨rfl, ?_⟩
    cases rest with
    | nil =>
      rw [hlast first rfl]
      exact ⟨rfl, hnode⟩
    | cons second rest =>
      -- The first of two or more is not the last, so its link is kept.
      have hfirst : (first :: second :: rest).getLast? ≠ some first := by
        intro heq
        rw [List.getLast?_cons_cons] at heq
        exact (List.nodup_cons.mp hnodup).1 (List.mem_of_getLast? heq)
      rw [hothers first List.mem_cons_self hfirst, h.2.1]
      apply ih h.2 hrest
      · intro last heq
        exact hlast last (by rwa [List.getLast?_cons_cons])
      · intro other hother heq
        apply hothers other (List.mem_cons_of_mem first hother)
        rwa [List.getLast?_cons_cons]

/-- Two lists from the same head whose links agree outside of `gone` meet it both or
neither. -/
theorem meets {gone : α → Prop} {list' : List α} (h : SinglyLinked next head list)
    (h' : SinglyLinked next' head list') (hsame : ∀ node, ¬ gone node → next' node = next node)
    (hgone : ∃ node ∈ list, gone node) : ∃ node ∈ list', gone node := by
  induction list generalizing head list' with
  | nil =>
    obtain ⟨node, hnode, _⟩ := hgone
    exact absurd hnode List.not_mem_nil
  | cons first rest ih =>
    have hhead : head = some first := h.1
    cases list' with
    | nil =>
      have hnone : head = none := h'
      rw [hhead] at hnone
      cases hnone
    | cons first' rest' =>
      obtain rfl := Option.some.inj (hhead.symm.trans h'.1)
      by_cases hfirst : gone first
      · exact ⟨first, List.mem_cons_self, hfirst⟩
      · obtain ⟨node, hnode, hnodegone⟩ := hgone
        have hrest : ∃ node ∈ rest, gone node := by
          obtain rfl | hnode := List.mem_cons.mp hnode
          · exact absurd hnodegone hfirst
          · exact ⟨node, hnode, hnodegone⟩
        have htail := h'.2
        rw [hsame first hfirst] at htail
        obtain ⟨found, hfound, hfoundgone⟩ := ih h.2 htail hrest
        exact ⟨found, List.mem_cons_of_mem first hfound, hfoundgone⟩

end SinglyLinked

namespace DoublyLinked

variable {prev next prev' next' : α → Option α} {before head : Option α} {list front back : List α}
  {node : α}

theorem head_eq (h : DoublyLinked prev next before head list) : head = list.head? := by
  cases list with
  | nil => exact h
  | cons first rest => exact h.1

theorem congr (h : DoublyLinked prev next before head list)
    (hprev : ∀ node ∈ list, prev' node = prev node)
    (hnext : ∀ node ∈ list, next' node = next node) :
    DoublyLinked prev' next' before head list := by
  induction list generalizing before head with
  | nil => exact h
  | cons first rest ih =>
    refine ⟨h.1, (hprev first List.mem_cons_self).trans h.2.1, ?_⟩
    rw [hnext first List.mem_cons_self]
    exact ih h.2.2 (fun node hnode => hprev node (List.mem_cons_of_mem first hnode))
      fun node hnode => hnext node (List.mem_cons_of_mem first hnode)

/-- The first node may lead back to something else. -/
theorem rebase (h : DoublyLinked prev next before head list) (hnodup : list.Nodup)
    {before' : Option α} (hfirst : ∀ first, head = some first → prev' first = before')
    (hothers : ∀ other ∈ list, head ≠ some other → prev' other = prev other)
    (hnext : ∀ other ∈ list, next' other = next other) :
    DoublyLinked prev' next' before' head list := by
  cases list with
  | nil => exact h
  | cons first rest =>
    refine ⟨h.1, hfirst first h.1, ?_⟩
    rw [hnext first List.mem_cons_self]
    apply h.2.2.congr
    · intro other hother
      apply hothers other (List.mem_cons_of_mem first hother)
      intro heq
      obtain rfl := Option.some.inj (h.1.symm.trans heq)
      exact (List.nodup_cons.mp hnodup).1 hother
    · intro other hother
      exact hnext other (List.mem_cons_of_mem first hother)

/-- A node is pushed to the front. -/
theorem push (h : DoublyLinked prev next before head list) (hnodup : list.Nodup)
    {before' : Option α} (hprev : prev' node = before') (hnext : next' node = head)
    (hfirst : ∀ first, head = some first → prev' first = some node)
    (hothers : ∀ other ∈ list, head ≠ some other → prev' other = prev other)
    (hnexts : ∀ other ∈ list, next' other = next other) :
    DoublyLinked prev' next' before' (some node) (node :: list) := by
  refine ⟨rfl, hprev, ?_⟩
  rw [hnext]
  exact h.rebase hnodup hfirst hothers hnexts

/-- What a node leads back to. -/
theorem prev_eq (h : DoublyLinked prev next before head (front ++ node :: back)) :
    prev node = front.getLast?.or before := by
  induction front generalizing before head with
  | nil => exact h.2.1
  | cons first rest ih =>
    rw [ih h.2.2]
    cases rest with
    | nil => rfl
    | cons second rest =>
      rw [List.getLast?_cons_cons, List.getLast?_cons]
      rfl

/-- A node leads on to the one after it. -/
theorem next_eq (h : DoublyLinked prev next before head (front ++ node :: back)) :
    next node = back.head? := by
  induction front generalizing before head with
  | nil => exact h.2.2.head_eq
  | cons first rest ih => exact ih h.2.2

/-- A node is taken out: the one before it leads to the one after it, and back. -/
theorem remove [DecidableEq α]
    (h : DoublyLinked prev next before head (front ++ node :: back))
    (hnodup : (front ++ node :: back).Nodup)
    (hbefore : ∀ other, before = some other → other ∉ front ++ node :: back)
    (hnext : ∀ other ∈ front ++ back,
      next' other = if prev node = some other then next node else next other)
    (hprev : ∀ other ∈ front ++ back,
      prev' other = if next node = some other then prev node else prev other) :
    DoublyLinked prev' next' before (if front = [] then next node else head)
      (front ++ back) := by
  induction front generalizing before head with
  | nil =>
    have hback := (List.nodup_cons.mp hnodup).2
    rw [if_pos rfl]
    apply h.2.2.rebase hback
    · intro first hfirst
      have hmem : first ∈ back := by
        have := h.2.2.head_eq.symm.trans hfirst
        exact List.mem_of_head? this
      rw [hprev first hmem, if_pos hfirst]
      exact h.2.1
    · intro other hother hne
      rw [hprev other hother, if_neg hne]
    · intro other hother
      rw [hnext other hother, if_neg]
      rw [h.2.1]
      intro heq
      exact hbefore other heq (List.mem_cons_of_mem node hother)
  | cons first rest ih =>
    have hfirst := (List.nodup_cons.mp hnodup).1
    have hrest := (List.nodup_cons.mp hnodup).2
    rw [if_neg (List.cons_ne_nil first rest)]
    refine ⟨h.1, ?_, ?_⟩
    · rw [hprev first List.mem_cons_self, if_neg]
      · exact h.2.1
      · rw [next_eq h.2.2]
        intro heq
        have := List.mem_of_head? heq
        exact hfirst (List.mem_append_right rest (List.mem_cons_of_mem node this))
    · have hlinked := ih h.2.2 hrest
        (by intro other heq
            obtain rfl := Option.some.inj heq
            exact hfirst)
        (fun other hother => hnext other (List.mem_cons_of_mem first hother))
        (fun other hother => hprev other (List.mem_cons_of_mem first hother))
      have heq : next' first = if rest = [] then next node else next first := by
        rw [hnext first List.mem_cons_self, prev_eq h.2.2]
        cases rest with
        | nil => simp
        | cons second rest =>
          rw [if_neg (List.cons_ne_nil second rest), if_neg]
          intro hlast
          rw [List.getLast?_cons] at hlast
          have hlast' : (second :: rest).getLast? = some first := by
            rw [List.getLast?_cons]
            exact hlast
          exact hfirst (List.mem_append_left _ (List.mem_of_getLast? hlast'))
      rw [heq]
      exact hlinked

end DoublyLinked

end DnsPro
