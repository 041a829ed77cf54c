import DnsPro.Filter.CuckooFilter
import DnsPro.Filter.RadixTree

/-!
# The blocklist

`DomainBlocklist.{h,cpp}`.  `build` parses and deduplicates the rules, fills a
cuckoo prefilter of doubling size until every key fits, and then fills the
label trie.  `matches` asks the prefilter about every suffix of the query and
then the trie.

The stop token is polled at many places.  `StopPoint` names each of them, and
`stop` answers the poll made there, so `fun _ => false` is a token that never
fires.  A `std::length_error` of the prefilter's constructor leaves `build` as
an exception.
-/

namespace DnsPro.Filter

open DnsPro.Protocol

inductive BlocklistBuildErrorCode where
  | invalidDomain
  | rootRuleNotAllowed
  | wildcardNotSupported
  | capacityOverflow
  | cancelled
  deriving DecidableEq, Repr

structure BlocklistBuildError where
  code : BlocklistBuildErrorCode
  ruleIndex : Nat
  deriving DecidableEq, Repr

/-- How `build` ends without a blocklist. -/
inductive BuildFailure where
  | error (error : BlocklistBuildError)
  | lengthError
  deriving DecidableEq, Repr

/-- A place where `build` polls the stop token. -/
inductive StopPoint where
  | start
  | rule (index : Nat)
  | round (bucketCount : Nat)
  | prefilter (bucketCount index : Nat)
  | tree (bucketCount index : Nat)
  deriving DecidableEq, Repr

/-- `contains_unsupported_wildcard`. -/
def containsUnsupportedWildcard (name : DomainName) : Bool :=
  name.labels.any fun label => label.any fun byte => byte = 0x2a || byte = 0x3f

/-- `initial_bucket_count`. -/
def initialBucketCount (itemCount : Nat) : Nat :=
  if itemCount < 4 then 4 else itemCount / 3 + 1

/-- `DomainBlocklist`. -/
structure DomainBlocklist where
  prefilter : CuckooFilter
  tree : RadixTree
  ruleCount : Nat
  normalizedRuleBytes : Nat

/-- The first loop of `build`: parse and deduplicate the rules from `index` on. -/
def canonicalRules (stop : StopPoint → Bool) :
    List Bytes → Nat → List DomainName → List Bytes →
      Except BlocklistBuildError (List DomainName)
  | [], _, rules, _ => .ok rules
  | rule :: rest, index, rules, uniqueKeys =>
    if stop (.rule index) then .error ⟨.cancelled, index⟩
    else
      match fromText rule with
      | .error _ => .error ⟨.invalidDomain, index⟩
      | .ok name =>
        if name.isRoot then .error ⟨.rootRuleNotAllowed, index⟩
        else if containsUnsupportedWildcard name then .error ⟨.wildcardNotSupported, index⟩
        else if name.canonicalKey ∈ uniqueKeys then
          canonicalRules stop rest (index + 1) rules uniqueKeys
        else
          canonicalRules stop rest (index + 1) (rules ++ [name]) (name.canonicalKey :: uniqueKeys)

section Build

variable (hash : Bytes → UInt64) (stop : StopPoint → Bool)

/-- Fill the prefilter; `none` is a key that did not fit. -/
def fillPrefilter (bucketCount : Nat) :
    List DomainName → Nat → CuckooFilter → Except BlocklistBuildError (Option CuckooFilter)
  | [], _, filter => .ok (some filter)
  | name :: rest, index, filter =>
    if stop (.prefilter bucketCount index) then .error ⟨.cancelled, index⟩
    else
      match filter.insert hash name.canonicalKey with
      | (true, filter) => fillPrefilter bucketCount rest (index + 1) filter
      | (false, _) => .ok none

/-- Fill the tree. -/
def fillTree (bucketCount : Nat) :
    List DomainName → Nat → RadixTree → Except BlocklistBuildError RadixTree
  | [], _, tree => .ok tree
  | name :: rest, index, tree =>
    if stop (.tree bucketCount index) then .error ⟨.cancelled, index⟩
    else fillTree bucketCount rest (index + 1) (tree.insert name).2

/-- The body of the retry loop for one table size; `none` asks for the next. -/
def buildRound (maxSize : Nat) (rules : List DomainName) (bucketCount : Nat) :
    Except BuildFailure (Option DomainBlocklist) :=
  if stop (.round bucketCount) then .error (.error ⟨.cancelled, 0⟩)
  else
    match CuckooFilter.create maxSize bucketCount 500 with
    | none => .error .lengthError
    | some filter =>
      match fillPrefilter hash stop bucketCount rules 0 filter with
      | .error error => .error (.error error)
      | .ok none => .ok none
      | .ok (some filter) =>
        match fillTree stop bucketCount rules 0 RadixTree.create with
        | .error error => .error (.error error)
        | .ok tree =>
          .ok (some {
            prefilter := filter
            tree := tree
            ruleCount := rules.length
            normalizedRuleBytes := (rules.map fun rule => rule.canonicalKey.length).sum })

/-- The retry loop.  The bucket count at least doubles in each round and stays
in a `size_t`, so 64 rounds are enough: `buildLoop_fuel`. -/
def buildLoop (maxSize : Nat) (rules : List DomainName) :
    Nat → Nat → Except BuildFailure DomainBlocklist
  | 0, _ => .error (.error ⟨.capacityOverflow, 0⟩)
  | fuel + 1, bucketCount =>
    match buildRound hash stop maxSize rules bucketCount with
    | .error failure => .error failure
    | .ok (some blocklist) => .ok blocklist
    | .ok none =>
      if bucketCount > maxSizeT / 2 then .error (.error ⟨.capacityOverflow, 0⟩)
      else buildLoop maxSize rules fuel (bucketCount * 2)

/-- `DomainBlocklist::build`. -/
def DomainBlocklist.build (maxSize : Nat) (rules : List Bytes) :
    Except BuildFailure DomainBlocklist :=
  if stop .start then .error (.error ⟨.cancelled, 0⟩)
  else
    match canonicalRules stop rules 0 [] [] with
    | .error error => .error (.error error)
    | .ok names => buildLoop hash stop maxSize names 64 (initialBucketCount names.length)

end Build

/-- `DomainBlocklist::matches`. -/
def DomainBlocklist.matches (hash : Bytes → UInt64) (blocklist : DomainBlocklist)
    (query : DomainName) : Bool :=
  (List.range query.labelCount).any
      (fun firstLabel => blocklist.prefilter.contains hash (query.canonicalSuffixKey firstLabel)) &&
    blocklist.tree.search query

/-! ## The retry loop -/

/-- More fuel than the number of doublings left changes nothing, so the fuel of
`build` never runs out. -/
theorem buildLoop_fuel (hash : Bytes → UInt64) (stop : StopPoint → Bool) (maxSize : Nat)
    (rules : List DomainName) (extra : Nat) :
    ∀ (fuel bucketCount : Nat), 0 < fuel → maxSizeT < bucketCount * 2 ^ fuel →
      buildLoop hash stop maxSize rules (fuel + extra) bucketCount =
        buildLoop hash stop maxSize rules fuel bucketCount := by
  intro fuel
  induction fuel with
  | zero => intro _ h _; exact absurd h (Nat.lt_irrefl 0)
  | succ fuel ih =>
    intro bucketCount _ hbound
    have hstep : fuel + 1 + extra = fuel + extra + 1 := by omega
    rw [hstep, buildLoop, buildLoop]
    split
    · rfl
    · rfl
    · split
      · rfl
      · rename_i hsmall
        have hfuel : 0 < fuel := by
          rcases Nat.eq_zero_or_pos fuel with rfl | h
          · exact absurd hbound (by simp only [maxSizeT] at *; omega)
          · exact h
        apply ih _ hfuel
        rw [Nat.pow_succ] at hbound
        rw [Nat.mul_assoc, Nat.mul_comm 2]
        exact hbound

/-- A loop that returns a blocklist returned it from one of its rounds. -/
theorem buildLoop_ok {hash : Bytes → UInt64} {stop : StopPoint → Bool} {maxSize : Nat}
    {rules : List DomainName} {blocklist : DomainBlocklist} :
    ∀ {fuel bucketCount : Nat},
      buildLoop hash stop maxSize rules fuel bucketCount = .ok blocklist →
      ∃ count, buildRound hash stop maxSize rules count = .ok (some blocklist) := by
  intro fuel
  induction fuel with
  | zero => intro _ h; simp [buildLoop] at h
  | succ fuel ih =>
    intro bucketCount h
    rw [buildLoop] at h
    split at h
    · exact absurd h (by simp)
    · rename_i hround
      rw [Except.ok.injEq] at h
      exact ⟨bucketCount, h ▸ hround⟩
    · split at h
      · exact absurd h (by simp)
      · exact ih h

/-! ## The parsed rules -/

/-- What the rule loop returns, when the token does not fire: names with
labels, one for each key that a rule parses to. -/
theorem canonicalRules_spec {stop : StopPoint → Bool} :
    ∀ {rules : List Bytes} {index : Nat} {names result : List DomainName} {keys : List Bytes},
      (∀ name ∈ names, name.labels ≠ []) →
      (∀ key ∈ keys, ∃ name ∈ names, name.canonicalKey = key) →
      canonicalRules stop rules index names keys = .ok result →
      (∀ name ∈ result, name.labels ≠ []) ∧
        (∀ name ∈ names, name ∈ result) ∧
        (∀ rule ∈ rules, ∃ parsed, fromText rule = .ok parsed ∧ parsed.labels ≠ [] ∧
          ∃ name ∈ result, name.canonicalKey = parsed.canonicalKey) ∧
        (∀ name ∈ result, name ∈ names ∨ ∃ rule ∈ rules, fromText rule = .ok name) := by
  intro rules
  induction rules with
  | nil =>
    intro index names result keys hlabels _ h
    simp only [canonicalRules, Except.ok.injEq] at h
    subst h
    exact ⟨hlabels, fun _ h => h, by simp, fun _ h => Or.inl h⟩
  | cons rule rest ih =>
    intro index names result keys hlabels hkeys h
    rw [canonicalRules] at h
    split at h
    · exact absurd h (by simp)
    split at h
    · exact absurd h (by simp)
    rename_i name hparse
    split at h
    · exact absurd h (by simp)
    rename_i hroot
    have hname : name.labels ≠ [] := by simpa [DomainName.isRoot] using hroot
    split at h
    · exact absurd h (by simp)
    split at h
    · rename_i hseen
      obtain ⟨h1, h2, h3, h4⟩ := ih hlabels hkeys h
      obtain ⟨old, hold, hkey⟩ := hkeys _ hseen
      refine ⟨h1, h2, ?_, ?_⟩
      · simp only [List.mem_cons, forall_eq_or_imp]
        exact ⟨⟨name, hparse, hname, old, h2 _ hold, hkey⟩, h3⟩
      · intro x hx
        rcases h4 x hx with h | ⟨r, hr, hrule⟩
        · exact Or.inl h
        · exact Or.inr ⟨r, by simp [hr], hrule⟩
    · have hlabels' : ∀ x ∈ names ++ [name], x.labels ≠ [] := by
        intro x hx
        rcases List.mem_append.mp hx with hx | hx
        · exact hlabels x hx
        · exact List.mem_singleton.mp hx ▸ hname
      have hkeys' : ∀ key ∈ name.canonicalKey :: keys,
          ∃ x ∈ names ++ [name], x.canonicalKey = key := by
        intro key hkey
        rcases List.mem_cons.mp hkey with rfl | hkey
        · exact ⟨name, by simp, rfl⟩
        · obtain ⟨x, hx, hxk⟩ := hkeys key hkey
          exact ⟨x, by simp [hx], hxk⟩
      obtain ⟨h1, h2, h3, h4⟩ := ih hlabels' hkeys' h
      refine ⟨h1, fun x hx => h2 x (by simp [hx]), ?_, ?_⟩
      · simp only [List.mem_cons, forall_eq_or_imp]
        exact ⟨⟨name, hparse, hname, name, h2 _ (by simp), rfl⟩, h3⟩
      · intro x hx
        rcases h4 x hx with h | ⟨r, hr, hrule⟩
        · rcases List.mem_append.mp h with h | h
          · exact Or.inl h
          · exact Or.inr ⟨rule, by simp, List.mem_singleton.mp h ▸ hparse⟩
        · exact Or.inr ⟨r, by simp [hr], hrule⟩

/-! ## The filled structures -/

/-- A filled prefilter contains every key of the rules, and what it held. -/
theorem fillPrefilter_contains {hash : Bytes → UInt64} {stop : StopPoint → Bool}
    {bucketCount : Nat} :
    ∀ {rules : List DomainName} {index : Nat} {filter filled : CuckooFilter},
      fillPrefilter hash stop bucketCount rules index filter = .ok (some filled) →
      (∀ item, filter.contains hash item = true → filled.contains hash item = true) ∧
        ∀ rule ∈ rules, filled.contains hash rule.canonicalKey = true := by
  intro rules
  induction rules with
  | nil =>
    intro index filter filled h
    simp only [fillPrefilter, Except.ok.injEq, Option.some.injEq] at h
    subst h
    exact ⟨fun _ h => h, by simp⟩
  | cons rule rest ih =>
    intro index filter filled h
    rw [fillPrefilter] at h
    split at h
    · exact absurd h (by simp)
    split at h
    · rename_i next hinsert
      obtain ⟨hkeep, hrest⟩ := ih h
      refine ⟨fun item hitem => hkeep _ (CuckooFilter.contains_insert hinsert hitem), ?_⟩
      simp only [List.mem_cons, forall_eq_or_imp]
      exact ⟨hkeep _ (CuckooFilter.contains_of_insert hinsert), hrest⟩
    · exact absurd h (by simp)

theorem fillTree_eq {stop : StopPoint → Bool} {bucketCount : Nat} :
    ∀ {rules : List DomainName} {index : Nat} {tree filled : RadixTree},
      fillTree stop bucketCount rules index tree = .ok filled →
      filled = tree.insertAll rules := by
  intro rules
  induction rules with
  | nil =>
    intro index tree filled h
    simp only [fillTree, Except.ok.injEq] at h
    exact h.symm
  | cons rule rest ih =>
    intro index tree filled h
    rw [fillTree] at h
    split at h
    · exact absurd h (by simp)
    · exact ih h

/-- A round that returns a blocklist filled both structures with the rules. -/
theorem buildRound_ok {hash : Bytes → UInt64} {stop : StopPoint → Bool} {maxSize : Nat}
    {rules : List DomainName} {count : Nat} {blocklist : DomainBlocklist}
    (h : buildRound hash stop maxSize rules count = .ok (some blocklist)) :
    (∀ rule ∈ rules, blocklist.prefilter.contains hash rule.canonicalKey = true) ∧
      blocklist.tree = RadixTree.create.insertAll rules := by
  rw [buildRound] at h
  split at h
  · exact absurd h (by simp)
  split at h
  · exact absurd h (by simp)
  split at h
  · exact absurd h (by simp)
  · exact absurd h (by simp)
  rename_i hfill
  split at h
  · exact absurd h (by simp)
  rename_i htree
  simp only [Except.ok.injEq, Option.some.injEq] at h
  subst h
  exact ⟨(fillPrefilter_contains hfill).2, fillTree_eq htree⟩

/-! ## `matches` -/

/-- The prefilter has no false negative: a query below a rule has the rule's
key among its suffix keys. -/
theorem prefilter_of_subdomain {hash : Bytes → UInt64} {prefilter : CuckooFilter}
    {query rule : DomainName} (hrule : rule.labels ≠ [])
    (hcontains : prefilter.contains hash rule.canonicalKey = true)
    (hsub : query.isSubdomainOf rule = true) :
    (List.range query.labelCount).any
      (fun first => prefilter.contains hash (query.canonicalSuffixKey first)) = true := by
  have hsuffix := (DomainName.isSubdomainOf_iff query rule).mp hsub
  have hle := hsuffix.length_le
  have hpos := List.length_pos_iff.mpr hrule
  simp only [foldedLabels_length] at hle
  have hfirst : query.labels.length - rule.labels.length < query.labels.length := by omega
  rw [List.any_eq_true]
  refine ⟨query.labels.length - rule.labels.length, List.mem_range.mpr hfirst, ?_⟩
  have hkey : query.canonicalSuffixKey (query.labels.length - rule.labels.length) =
      rule.canonicalKey := by
    rw [DomainName.canonicalSuffixKey_eq hfirst, DomainName.canonicalKey_of_ne_nil hrule,
      canonicalKeyOf, canonicalKeyOf, foldedLabels_drop]
    have := List.suffix_iff_eq_drop.mp hsuffix
    simp only [foldedLabels_length] at this
    rw [← this]
  rw [hkey]
  exact hcontains

/-- Names with one key are below the same names. -/
theorem isSubdomainOf_congr {query rule other : DomainName} (hrule : rule.labels ≠ [])
    (hother : other.labels ≠ []) (hkey : rule.canonicalKey = other.canonicalKey) :
    query.isSubdomainOf rule = query.isSubdomainOf other := by
  rw [DomainName.canonicalKey_of_ne_nil hrule, DomainName.canonicalKey_of_ne_nil hother,
    canonicalKeyOf_inj rule.labels_ok other.labels_ok] at hkey
  rw [Bool.eq_iff_iff, DomainName.isSubdomainOf_iff, DomainName.isSubdomainOf_iff, hkey]

/-- A blocklist matches the names below its rules, whether or not the token fired later. -/
theorem matches_of_rule {hash : Bytes → UInt64} {stop : StopPoint → Bool} {maxSize : Nat}
    {rules : List Bytes} {blocklist : DomainBlocklist} {query name : DomainName} {rule : Bytes}
    (hbuild : DomainBlocklist.build hash stop maxSize rules = .ok blocklist) (hrule : rule ∈ rules)
    (hparse : fromText rule = .ok name) (hsub : query.isSubdomainOf name = true) :
    blocklist.matches hash query = true := by
  rw [DomainBlocklist.build] at hbuild
  split at hbuild
  · cases hbuild
  split at hbuild
  · cases hbuild
  rename_i names hnames
  obtain ⟨hlabels, -, hrules, -⟩ := canonicalRules_spec (by simp) (by simp) hnames
  obtain ⟨count, hround⟩ := buildLoop_ok hbuild
  obtain ⟨hprefilter, htree⟩ := buildRound_ok hround
  obtain ⟨parsed, hparsed, hroot, kept, hkept, hkey⟩ := hrules rule hrule
  obtain rfl := Except.ok.inj (hparse.symm.trans hparsed)
  have hbelow : query.isSubdomainOf kept = true :=
    (isSubdomainOf_congr (hlabels kept hkept) hroot hkey).trans hsub
  rw [DomainBlocklist.matches, Bool.and_eq_true, htree, search_insertAll hlabels]
  exact ⟨prefilter_of_subdomain (hlabels kept hkept) (hprefilter kept hkept) hbelow,
    kept, hkept, hbelow⟩

/-- A built blocklist matches exactly the names below one of its rules. -/
theorem matches_iff_subdomain_of_rule (hash : Bytes → UInt64) (maxSize : Nat)
    (rules : List Bytes) (blocklist : DomainBlocklist)
    (hbuild : DomainBlocklist.build hash (fun _ => false) maxSize rules = .ok blocklist)
    (query : DomainName) :
    blocklist.matches hash query = true ↔
      ∃ rule ∈ rules, ∃ name, fromText rule = .ok name ∧ query.isSubdomainOf name = true := by
  rw [DomainBlocklist.build, if_neg (by simp)] at hbuild
  split at hbuild
  · exact absurd hbuild (by simp)
  rename_i names hnames
  obtain ⟨hlabels, _, hrules, horigin⟩ :=
    canonicalRules_spec (by simp) (by simp) hnames
  obtain ⟨count, hround⟩ := buildLoop_ok hbuild
  obtain ⟨hprefilter, htree⟩ := buildRound_ok hround
  have hmatches : blocklist.matches hash query = true ↔
      ∃ name ∈ names, query.isSubdomainOf name = true := by
    rw [DomainBlocklist.matches, Bool.and_eq_true, htree, search_insertAll hlabels]
    constructor
    · exact fun h => h.2
    · rintro ⟨name, hname, hsub⟩
      exact ⟨prefilter_of_subdomain (hlabels name hname) (hprefilter name hname) hsub,
        name, hname, hsub⟩
  rw [hmatches]
  constructor
  · rintro ⟨name, hname, hsub⟩
    rcases horigin name hname with h | ⟨rule, hrule, hparse⟩
    · exact absurd h (by simp)
    · exact ⟨rule, hrule, name, hparse, hsub⟩
  · rintro ⟨rule, hrule, name, hparse, hsub⟩
    obtain ⟨parsed, hparsed, hparsedLabels, kept, hkept, hkey⟩ := hrules rule hrule
    rw [hparse, Except.ok.injEq] at hparsed
    subst hparsed
    refine ⟨kept, hkept, ?_⟩
    rw [isSubdomainOf_congr (hlabels kept hkept) hparsedLabels hkey]
    exact hsub

/-- The rule `ad` blocks the query `x.AD`. -/
theorem matches_rule_ad_query_x_ad :
    ∃ blocklist query,
      DomainBlocklist.build (fun item => UInt64.ofNat item.length * 0x9e3779b97f4a7c15)
          (fun _ => false) (2 ^ 58) [[0x61, 0x64]] = .ok blocklist ∧
        fromText [0x78, 0x2e, 0x41, 0x44] = .ok query ∧
        blocklist.matches (fun item => UInt64.ofNat item.length * 0x9e3779b97f4a7c15) query =
          true := by
  obtain ⟨blocklist, hbuild⟩ : ∃ blocklist,
      DomainBlocklist.build (fun item => UInt64.ofNat item.length * 0x9e3779b97f4a7c15)
        (fun _ => false) (2 ^ 58) [[0x61, 0x64]] = .ok blocklist := ⟨_, rfl⟩
  obtain ⟨query, hquery⟩ : ∃ query, fromText [0x78, 0x2e, 0x41, 0x44] = .ok query := ⟨_, rfl⟩
  obtain ⟨name, hname⟩ : ∃ name, fromText [0x61, 0x64] = .ok name := ⟨_, rfl⟩
  refine ⟨blocklist, query, hbuild, hquery, ?_⟩
  refine (matches_iff_subdomain_of_rule _ _ _ blocklist hbuild query).mpr
    ⟨_, List.mem_singleton.mpr rfl, name, hname, ?_⟩
  obtain rfl := (Except.ok.inj hquery).symm
  obtain rfl := (Except.ok.inj hname).symm
  decide

end DnsPro.Filter
