import DnsPro.Lib.Trie
import DnsPro.Protocol.DomainName

/-!
# The label trie

`RadixTree.{h,cpp}`: a trie over the canonical labels of a name, from the last
label to the first.  The children of a node are an `unordered_map`; only its
lookup is observable, so the association list of `Trie.Node` stands for it.

`search` leaves at the first terminal node below the root.  The flag of the
root itself is read only for a name without labels.
-/

namespace DnsPro.Filter

open DnsPro.Protocol

/-- `RadixTree`. -/
structure RadixTree where
  root : Trie.Node Bytes

/-- The canonical labels in the order of both loops: last label first. -/
def reversePath (name : DomainName) : List Bytes :=
  (List.range name.labels.length).reverse.map name.canonicalLabel

/-- The loop of `search` from `current` on. -/
def searchLoop : Trie.Node Bytes → List Bytes → Bool
  | current, [] => current.flag
  | current, label :: rest =>
    match current.child? label with
    | none => false
    | some child => if child.flag then true else searchLoop child rest

namespace RadixTree

/-- `RadixTree()`. -/
def create : RadixTree := ⟨Trie.Node.empty⟩

/-- `insert`: whether the name is new, and the tree with its node terminal. -/
def insert (tree : RadixTree) (domain : DomainName) : Bool × RadixTree :=
  (!tree.root.flagAt (reversePath domain), ⟨tree.root.mark (reversePath domain)⟩)

/-- `search`. -/
def search (tree : RadixTree) (domain : DomainName) : Bool :=
  searchLoop tree.root (reversePath domain)

end RadixTree

/-- The path of a name is its case-folded labels, reversed. -/
theorem reversePath_eq (name : DomainName) :
    reversePath name = (foldedLabels name.labels).reverse := by
  have hlabels : (List.range name.labels.length).map name.canonicalLabel =
      foldedLabels name.labels := by
    apply List.ext_getElem
    · simp
    · intro index h1 h2
      have hlt : index < name.labels.length := by simpa using h1
      simp only [List.getElem_map, List.getElem_range, foldedLabels]
      exact DomainName.canonicalLabel_eq (List.getElem?_eq_getElem hlt)
  rw [reversePath, List.map_reverse, hlabels]

/-- A search succeeds when a terminal node lies on the path, below the root,
or when the path is empty and the root is terminal. -/
theorem searchLoop_iff (current : Trie.Node Bytes) (path : List Bytes) :
    searchLoop current path = true ↔
      (path = [] ∧ current.flag = true) ∨
        ∃ front, front ≠ [] ∧ front <+: path ∧ current.flagAt front = true := by
  induction path generalizing current with
  | nil =>
    simp only [searchLoop, true_and, List.prefix_nil]
    constructor
    · exact Or.inl
    · rintro (h | ⟨front, hne, rfl, _⟩)
      · exact h
      · exact absurd rfl hne
  | cons label rest ih =>
    rw [searchLoop]
    simp only [List.cons_ne_nil, false_and, false_or]
    cases hchild : current.child? label with
    | none =>
      constructor
      · intro h; exact absurd h (by simp)
      · rintro ⟨front, hne, hprefix, hflag⟩
        obtain ⟨key, front, rfl⟩ := List.exists_cons_of_ne_nil hne
        obtain ⟨rfl, _⟩ := List.cons_prefix_cons.mp hprefix
        simp [Trie.Node.flagAt, hchild] at hflag
    | some child =>
      simp only
      by_cases hflag : child.flag = true
      · rw [if_pos hflag]
        refine ⟨fun _ => ⟨[label], by simp, by simp, ?_⟩, fun _ => rfl⟩
        rw [Trie.Node.flagAt_cons, hchild]
        exact hflag
      · rw [if_neg hflag, ih child]
        constructor
        · rintro (⟨_, h⟩ | ⟨front, hne, hprefix, h⟩)
          · exact absurd h hflag
          · refine ⟨label :: front, by simp, List.cons_prefix_cons.mpr ⟨rfl, hprefix⟩, ?_⟩
            rw [Trie.Node.flagAt_cons, hchild]
            exact h
        · rintro ⟨front, hne, hprefix, h⟩
          obtain ⟨key, front, rfl⟩ := List.exists_cons_of_ne_nil hne
          obtain ⟨rfl, hrest⟩ := List.cons_prefix_cons.mp hprefix
          rw [Trie.Node.flagAt_cons, hchild] at h
          simp only [Option.getD_some] at h
          cases front with
          | nil => exact absurd h hflag
          | cons key' front => exact Or.inr ⟨_, by simp, hrest, h⟩

/-- The tree after a list of inserts. -/
def RadixTree.insertAll (tree : RadixTree) (domains : List DomainName) : RadixTree :=
  domains.foldl (fun tree domain => (tree.insert domain).2) tree

theorem flagAt_insertAll (tree : RadixTree) (domains : List DomainName) (path : List Bytes) :
    (tree.insertAll domains).root.flagAt path = true ↔
      tree.root.flagAt path = true ∨ ∃ domain ∈ domains, reversePath domain = path := by
  induction domains generalizing tree with
  | nil => simp [RadixTree.insertAll]
  | cons domain domains ih =>
    have := ih (tree.insert domain).2
    rw [RadixTree.insertAll] at this ⊢
    rw [List.foldl_cons, this]
    simp only [RadixTree.insert, Trie.Node.flagAt_mark, Bool.or_eq_true, decide_eq_true_eq,
      List.mem_cons, exists_eq_or_imp]
    constructor
    · rintro ((h | h) | h)
      · exact Or.inr (Or.inl h.symm)
      · exact Or.inl h
      · exact Or.inr (Or.inr h)
    · rintro (h | h | h)
      · exact Or.inl (Or.inr h)
      · exact Or.inl (Or.inl h.symm)
      · exact Or.inr h

theorem flagAt_created (domains : List DomainName) (path : List Bytes) :
    (RadixTree.create.insertAll domains).root.flagAt path = true ↔
      ∃ domain ∈ domains, reversePath domain = path := by
  rw [flagAt_insertAll]
  simp [RadixTree.create]

/-- Two names have one path when they are equal up to case. -/
theorem reversePath_inj {domain other : DomainName} :
    reversePath domain = reversePath other ↔
      foldedLabels domain.labels = foldedLabels other.labels := by
  rw [reversePath_eq, reversePath_eq, List.reverse_inj]

theorem reversePath_ne_nil {domain : DomainName} : reversePath domain ≠ [] ↔ domain.labels ≠ [] := by
  rw [reversePath_eq, ne_eq, List.reverse_eq_nil_iff, foldedLabels, List.map_eq_nil_iff]

theorem reversePath_prefix {domain query : DomainName} :
    reversePath domain <+: reversePath query ↔ query.isSubdomainOf domain = true := by
  rw [reversePath_eq, reversePath_eq, List.reverse_prefix, DomainName.isSubdomainOf_iff]

/-- What a search finds: a name with labels above the query, or the root when the
query is the root. -/
theorem search_created (domains : List DomainName) (query : DomainName) :
    (RadixTree.create.insertAll domains).search query = true ↔
      (query.labels = [] ∧ ∃ domain ∈ domains, domain.labels = []) ∨
        ∃ domain ∈ domains, domain.labels ≠ [] ∧ query.isSubdomainOf domain = true := by
  rw [RadixTree.search, searchLoop_iff]
  apply or_congr
  · apply and_congr
    · rw [← not_iff_not]
      exact reversePath_ne_nil
    · rw [← Trie.Node.flagAt_nil, flagAt_created]
      apply exists_congr
      intro domain
      apply and_congr_right
      intro _
      rw [← not_iff_not]
      exact reversePath_ne_nil
  · constructor
    · intro hfound
      obtain ⟨front, hne, hprefix, hflag⟩ := hfound
      obtain ⟨domain, hmem, rfl⟩ := (flagAt_created domains front).mp hflag
      exact ⟨domain, hmem, reversePath_ne_nil.mp hne, reversePath_prefix.mp hprefix⟩
    · intro hfound
      obtain ⟨domain, hmem, hne, hsub⟩ := hfound
      exact ⟨reversePath domain, reversePath_ne_nil.mpr hne, reversePath_prefix.mpr hsub,
        (flagAt_created domains _).mpr ⟨domain, hmem, rfl⟩⟩

/-- `insert` says whether the name is new, up to case. -/
theorem insert_created (domains : List DomainName) (domain : DomainName) :
    ((RadixTree.create.insertAll domains).insert domain).1 = true ↔
      ∀ other ∈ domains, foldedLabels other.labels ≠ foldedLabels domain.labels := by
  have hflag := flagAt_created domains (reversePath domain)
  rw [RadixTree.insert, Bool.not_eq_true', ← Bool.not_eq_true, hflag]
  constructor
  · intro hnew other hmem hsame
    exact hnew ⟨other, hmem, reversePath_inj.mpr hsame⟩
  · intro hnew hold
    obtain ⟨other, hmem, hsame⟩ := hold
    exact hnew other hmem (reversePath_inj.mp hsame)

/-- The root is above every name. -/
theorem isSubdomainOf_root {domain : DomainName} (hroot : domain.labels = []) (query : DomainName) :
    query.isSubdomainOf domain = true := by
  rw [DomainName.isSubdomainOf_iff, hroot]
  exact List.nil_suffix

/-- The trie is a set of names up to case in any order of inserts, and a search is
the suffix relation exactly when the root is no reason for the answer: `search` reads
the flag of the root of the trie for the root name only. -/
theorem label_trie_iff (domains : List DomainName) (query : DomainName) :
    (((RadixTree.create.insertAll domains).search query = true ↔
        ∃ domain ∈ domains, query.isSubdomainOf domain = true) ∧
      (∀ reordered : List DomainName, reordered.Perm domains →
        (RadixTree.create.insertAll reordered).search query =
          (RadixTree.create.insertAll domains).search query) ∧
      ∀ before domain after, domains = before ++ domain :: after →
        (((RadixTree.create.insertAll before).insert domain).1 = true ↔
          ∀ other ∈ before, foldedLabels other.labels ≠ foldedLabels domain.labels)) ↔
      ((∃ domain ∈ domains, domain.labels = []) → query.labels = [] ∨
        ∃ domain ∈ domains, domain.labels ≠ [] ∧ query.isSubdomainOf domain = true) := by
  constructor
  · intro hclaim hroot
    obtain ⟨root, hmem, hnil⟩ := hroot
    have hfound := hclaim.1.mpr ⟨root, hmem, isSubdomainOf_root hnil query⟩
    rcases (search_created domains query).mp hfound with hquery | hnamed
    · exact Or.inl hquery.1
    · exact Or.inr hnamed
  · intro hroot
    refine ⟨?_, ?_, ?_⟩
    · rw [search_created]
      constructor
      · intro hfound
        rcases hfound with ⟨_, domain, hmem, hnil⟩ | ⟨domain, hmem, _, hsub⟩
        · exact ⟨domain, hmem, isSubdomainOf_root hnil query⟩
        · exact ⟨domain, hmem, hsub⟩
      · intro habove
        obtain ⟨domain, hmem, hsub⟩ := habove
        by_cases hnil : domain.labels = []
        · rcases hroot ⟨domain, hmem, hnil⟩ with hquery | hnamed
          · exact Or.inl ⟨hquery, domain, hmem, hnil⟩
          · exact Or.inr hnamed
        · exact Or.inr ⟨domain, hmem, hnil, hsub⟩
    · intro reordered hperm
      rw [Bool.eq_iff_iff, search_created, search_created]
      simp only [hperm.mem_iff]
    · intro before domain after _
      exact insert_created before domain

/-- A name of one label. -/
def sampleDomain : DomainName :=
  DomainName.ofLabels [[0x63, 0x6f, 0x6d]] ⟨by decide, by decide, by decide⟩

/-- The root is inserted, and a name below it is not found. -/
theorem root_rule_finds_nothing :
    (RadixTree.create.insertAll [DomainName.default]).search sampleDomain = false ∧
      ∃ domain ∈ [DomainName.default], sampleDomain.isSubdomainOf domain = true := by
  constructor
  · rfl
  · exact ⟨DomainName.default, List.mem_cons_self, isSubdomainOf_root rfl sampleDomain⟩

/-- Over names with labels, the trie answers the suffix relation. -/
theorem search_insertAll {domains : List DomainName} (hlabels : ∀ d ∈ domains, d.labels ≠ [])
    (query : DomainName) :
    (RadixTree.create.insertAll domains).search query = true ↔
      ∃ domain ∈ domains, query.isSubdomainOf domain = true := by
  rw [search_created]
  constructor
  · intro hfound
    rcases hfound with ⟨_, domain, hmem, hnil⟩ | ⟨domain, hmem, _, hsub⟩
    · exact absurd hnil (hlabels domain hmem)
    · exact ⟨domain, hmem, hsub⟩
  · intro habove
    obtain ⟨domain, hmem, hsub⟩ := habove
    exact Or.inr ⟨domain, hmem, hlabels domain hmem, hsub⟩

end DnsPro.Filter
