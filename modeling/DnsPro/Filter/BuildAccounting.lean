import DnsPro.Filter.DomainBlocklist
import Mathlib.Algebra.BigOperators.Group.Finset.Basic

/-!
# What a build reports

A rule is rejected for one reason, and the build fails with the reason and the
index of the first rule that is.  A blocklist that was built counts the distinct
names of its rules up to case, and the bytes of their wire forms.  Neither number
depends on the order of the rules, on how often a name is repeated, or on the
rounds of the prefilter.
-/

namespace DnsPro.Filter

open DnsPro.Protocol

/-- Why a rule is not allowed. -/
inductive Rejected (rule : Bytes) : BlocklistBuildErrorCode → Prop where
  | invalid {error : DomainNameError} (hparse : fromText rule = .error error) :
      Rejected rule .invalidDomain
  | root {name : DomainName} (hparse : fromText rule = .ok name) (hroot : name.labels = []) :
      Rejected rule .rootRuleNotAllowed
  | wildcard {name : DomainName} (hparse : fromText rule = .ok name) (hlabels : name.labels ≠ [])
      (hwildcard : ∃ label ∈ name.labels, 0x2a ∈ label ∨ 0x3f ∈ label) :
      Rejected rule .wildcardNotSupported

/-- The names that the rules parse to, up to case. -/
def distinctNames (rules : List Bytes) : Finset (List Bytes) :=
  (rules.filterMap fun rule =>
    (fromText rule).toOption.map fun name => foldedLabels name.labels).toFinset

theorem mem_distinctNames {rules : List Bytes} {labels : List Bytes} :
    labels ∈ distinctNames rules ↔
      ∃ rule ∈ rules, ∃ name, fromText rule = .ok name ∧ foldedLabels name.labels = labels := by
  rw [distinctNames, List.mem_toFinset, List.mem_filterMap]
  apply exists_congr
  intro rule
  apply and_congr_right
  intro _
  rw [Option.map_eq_some_iff]
  apply exists_congr
  intro name
  apply and_congr_left
  intro _
  cases fromText rule with
  | error error => simp [Except.toOption]
  | ok parsed => simp [Except.toOption]

theorem containsUnsupportedWildcard_iff {name : DomainName} :
    containsUnsupportedWildcard name = true ↔
      ∃ label ∈ name.labels, 0x2a ∈ label ∨ 0x3f ∈ label := by
  rw [containsUnsupportedWildcard, List.any_eq_true]
  apply exists_congr
  intro label
  apply and_congr_right
  intro _
  simp only [List.any_eq_true, Bool.or_eq_true, decide_eq_true_eq]
  constructor
  · intro hbyte
    obtain ⟨byte, hmem, rfl | rfl⟩ := hbyte
    · exact Or.inl hmem
    · exact Or.inr hmem
  · intro hbyte
    cases hbyte with
    | inl hmem => exact ⟨_, hmem, Or.inl rfl⟩
    | inr hmem => exact ⟨_, hmem, Or.inr rfl⟩

/-! ## The rule loop -/

section RuleLoop

variable {rules : List Bytes} {index : Nat} {names result : List DomainName} {keys : List Bytes}

/-- The loop stops at a rule that is rejected. -/
theorem canonicalRules_rejected {rule : Bytes} {code : BlocklistBuildErrorCode}
    (h : Rejected rule code) (rest : List Bytes) (index : Nat) (names : List DomainName)
    (keys : List Bytes) :
    canonicalRules (fun _ => false) (rule :: rest) index names keys = .error ⟨code, index⟩ := by
  rw [canonicalRules, if_neg (by simp)]
  cases h with
  | invalid hparse => rw [hparse]
  | root hparse hroot =>
    rw [hparse]
    simp [DomainName.isRoot, hroot]
  | wildcard hparse hlabels hwildcard =>
    rw [hparse]
    dsimp only
    rw [if_neg (by simpa [DomainName.isRoot] using hlabels),
      if_pos (containsUnsupportedWildcard_iff.mpr hwildcard)]

/-- The loop passes over a rule that is not. -/
theorem canonicalRules_accepted {rule : Bytes} (h : ∀ code, ¬ Rejected rule code)
    (rest : List Bytes) (index : Nat) (names : List DomainName) (keys : List Bytes) :
    ∃ names' keys', canonicalRules (fun _ => false) (rule :: rest) index names keys =
      canonicalRules (fun _ => false) rest (index + 1) names' keys' := by
  rw [canonicalRules, if_neg (by simp)]
  cases hparse : fromText rule with
  | error error => exact absurd (Rejected.invalid hparse) (h _)
  | ok name =>
    dsimp only
    have hlabels : name.labels ≠ [] := fun hroot => h _ (.root hparse hroot)
    have hplain : ¬ containsUnsupportedWildcard name = true := fun hwildcard =>
      h _ (.wildcard hparse hlabels (containsUnsupportedWildcard_iff.mp hwildcard))
    rw [if_neg (by simpa [DomainName.isRoot] using hlabels), if_neg hplain]
    split
    · exact ⟨_, _, rfl⟩
    · exact ⟨_, _, rfl⟩

/-- The first rule that is rejected decides. -/
theorem canonicalRules_first_rejected {front back : List Bytes} {rule : Bytes}
    {code : BlocklistBuildErrorCode} (hfront : ∀ other ∈ front, ∀ code, ¬ Rejected other code)
    (hrule : Rejected rule code) (index : Nat) (names : List DomainName) (keys : List Bytes) :
    canonicalRules (fun _ => false) (front ++ rule :: back) index names keys =
      .error ⟨code, index + front.length⟩ := by
  induction front generalizing index names keys with
  | nil => exact canonicalRules_rejected hrule back index names keys
  | cons other front ih =>
    obtain ⟨names', keys', hnext⟩ := canonicalRules_accepted
      (hfront other List.mem_cons_self) (front ++ rule :: back) index names keys
    rw [List.cons_append, hnext,
      ih (fun another hmem => hfront another (List.mem_cons_of_mem other hmem)),
      List.length_cons, Nat.add_right_comm, Nat.add_assoc]

/-- A rule loop that returns names passed over every rule. -/
theorem canonicalRules_all_accepted
    (h : canonicalRules (fun _ => false) rules index names keys = .ok result) :
    ∀ rule ∈ rules, ∀ code, ¬ Rejected rule code := by
  induction rules generalizing index names keys with
  | nil => simp
  | cons rule rest ih =>
    have haccepted : ∀ code, ¬ Rejected rule code := by
      intro code hrejected
      rw [canonicalRules_rejected hrejected] at h
      cases h
    obtain ⟨names', keys', hnext⟩ := canonicalRules_accepted haccepted rest index names keys
    rw [hnext] at h
    exact List.forall_mem_cons.mpr ⟨haccepted, ih h⟩

/-- No key is kept twice. -/
theorem canonicalRules_nodup (hnodup : (names.map DomainName.canonicalKey).Nodup)
    (hkeys : ∀ name ∈ names, name.canonicalKey ∈ keys)
    (h : canonicalRules (fun _ => false) rules index names keys = .ok result) :
    (result.map DomainName.canonicalKey).Nodup := by
  induction rules generalizing index names keys with
  | nil =>
    obtain rfl := Except.ok.inj h
    exact hnodup
  | cons rule rest ih =>
    rw [canonicalRules, if_neg (by simp)] at h
    split at h
    · cases h
    rename_i name _
    split at h
    · cases h
    split at h
    · cases h
    split at h
    · exact ih hnodup hkeys h
    · rename_i hnew
      apply ih _ _ h
      · rw [List.map_append, List.nodup_append]
        refine ⟨hnodup, List.nodup_singleton _, ?_⟩
        intro key hkey other hother hsame
        obtain ⟨kept, hkept, rfl⟩ := List.mem_map.mp hkey
        rw [List.map_singleton, List.mem_singleton] at hother
        exact hnew (hother ▸ hsame ▸ hkeys kept hkept)
      · intro kept hkept
        rcases List.mem_append.mp hkept with hold | hlast
        · exact List.mem_cons_of_mem _ (hkeys kept hold)
        · rw [List.mem_singleton.mp hlast]
          exact List.mem_cons_self

/-- What the rule loop keeps is one name for each distinct one. -/
theorem canonicalRules_distinct
    (h : canonicalRules (fun _ => false) rules 0 [] [] = .ok names) :
    (names.map fun name => foldedLabels name.labels).Nodup ∧
      (names.map fun name => foldedLabels name.labels).toFinset = distinctNames rules := by
  obtain ⟨hlabels, -, hrules, horigin⟩ := canonicalRules_spec (by simp) (by simp) h
  have hfolded : ∀ name ∈ names, ∀ other : DomainName, other.labels ≠ [] →
      (name.canonicalKey = other.canonicalKey ↔
        foldedLabels name.labels = foldedLabels other.labels) := by
    intro name hname other hother
    rw [DomainName.canonicalKey_of_ne_nil (hlabels name hname),
      DomainName.canonicalKey_of_ne_nil hother, canonicalKeyOf_inj name.labels_ok other.labels_ok]
  constructor
  · have hkeys := canonicalRules_nodup (by simp) (by simp) h
    rw [List.nodup_map_iff_inj_on (List.Nodup.of_map _ hkeys)]
    intro name hname other hother hsame
    exact List.inj_on_of_nodup_map hkeys hname hother
      ((hfolded name hname other (hlabels other hother)).mpr hsame)
  · ext labels
    rw [List.mem_toFinset, List.mem_map, mem_distinctNames]
    constructor
    · intro hkept
      obtain ⟨name, hname, rfl⟩ := hkept
      rcases horigin name hname with hnone | ⟨rule, hrule, hparse⟩
      · cases hnone
      · exact ⟨rule, hrule, name, hparse, rfl⟩
    · intro hparsed
      obtain ⟨rule, hrule, name, hparse, rfl⟩ := hparsed
      obtain ⟨parsed, hparsed, hlabel, kept, hkept, hkey⟩ := hrules rule hrule
      obtain rfl := Except.ok.inj (hparse.symm.trans hparsed)
      exact ⟨kept, hkept, (hfolded kept hkept name hlabel).mp hkey⟩

end RuleLoop

/-! ## The numbers of a blocklist -/

/-- A round counts the names that it was given. -/
theorem buildRound_counts {hash : Bytes → UInt64} {stop : StopPoint → Bool} {maxSize : Nat}
    {names : List DomainName} {count : Nat} {blocklist : DomainBlocklist}
    (h : buildRound hash stop maxSize names count = .ok (some blocklist)) :
    blocklist.ruleCount = names.length ∧
      blocklist.normalizedRuleBytes = (names.map fun name => name.canonicalKey.length).sum := by
  rw [buildRound] at h
  split at h
  · cases h
  split at h
  · cases h
  split at h
  · cases h
  · cases h
  split at h
  · cases h
  obtain rfl := Option.some.inj (Except.ok.inj h)
  exact ⟨rfl, rfl⟩

/-- The key of a name with labels is as long as its wire form. -/
theorem canonicalKey_length {name : DomainName} (h : name.labels ≠ []) :
    name.canonicalKey.length = wireSizeOf (foldedLabels name.labels) := by
  rw [DomainName.canonicalKey_of_ne_nil h, canonicalKeyOf, wireOf_length]

/-- What a build that returns counts. -/
theorem build_counts {hash : Bytes → UInt64} {maxSize : Nat} {rules : List Bytes}
    {blocklist : DomainBlocklist}
    (h : DomainBlocklist.build hash (fun _ => false) maxSize rules = .ok blocklist) :
    (∀ rule ∈ rules, ∀ code, ¬ Rejected rule code) ∧
      blocklist.ruleCount = (distinctNames rules).card ∧
      blocklist.normalizedRuleBytes = ∑ labels ∈ distinctNames rules, wireSizeOf labels := by
  rw [DomainBlocklist.build, if_neg (by simp)] at h
  split at h
  · cases h
  rename_i names hnames
  obtain ⟨count, hround⟩ := buildLoop_ok h
  obtain ⟨hcount, hbytes⟩ := buildRound_counts hround
  obtain ⟨hnodup, hdistinct⟩ := canonicalRules_distinct hnames
  have hlabels := (canonicalRules_spec (by simp) (by simp) hnames).1
  refine ⟨canonicalRules_all_accepted hnames, ?_, ?_⟩
  · rw [hcount, ← hdistinct, List.toFinset_card_of_nodup hnodup, List.length_map]
  · have hlengths : (names.map fun name => name.canonicalKey.length) =
        names.map fun name => wireSizeOf (foldedLabels name.labels) :=
      List.map_congr_left fun name hname => canonicalKey_length (hlabels name hname)
    rw [hbytes, ← hdistinct, List.sum_toFinset _ hnodup, List.map_map, hlengths]
    rfl

/-- With a token that never fires, the first rejected rule decides the error; a
blocklist that is built counts the distinct names and their wire bytes, whatever
the order and the multiplicity of the rules, the hash and the size of the tables. -/
theorem build_reports (hash : Bytes → UInt64) (maxSize : Nat) (rules : List Bytes) :
    (∀ front rule back code, rules = front ++ rule :: back →
      (∀ other ∈ front, ∀ code, ¬ Rejected other code) → Rejected rule code →
      DomainBlocklist.build hash (fun _ => false) maxSize rules =
        .error (.error ⟨code, front.length⟩)) ∧
    ∀ blocklist, DomainBlocklist.build hash (fun _ => false) maxSize rules = .ok blocklist →
      (∀ rule ∈ rules, ∀ code, ¬ Rejected rule code) ∧
      blocklist.ruleCount = (distinctNames rules).card ∧
      blocklist.normalizedRuleBytes = ∑ labels ∈ distinctNames rules, wireSizeOf labels ∧
      ∀ hash' maxSize' rules' blocklist', (∀ rule, rule ∈ rules' ↔ rule ∈ rules) →
        DomainBlocklist.build hash' (fun _ => false) maxSize' rules' = .ok blocklist' →
        blocklist'.ruleCount = blocklist.ruleCount ∧
          blocklist'.normalizedRuleBytes = blocklist.normalizedRuleBytes := by
  constructor
  · intro front rule back code hrules hfront hrule
    rw [DomainBlocklist.build, if_neg (by simp), hrules,
      canonicalRules_first_rejected hfront hrule 0 [] [], Nat.zero_add]
  · intro blocklist hbuild
    obtain ⟨haccepted, hcount, hbytes⟩ := build_counts hbuild
    refine ⟨haccepted, hcount, hbytes, ?_⟩
    intro hash' maxSize' rules' blocklist' hsame hbuild'
    obtain ⟨-, hcount', hbytes'⟩ := build_counts hbuild'
    have hnames : distinctNames rules' = distinctNames rules := by
      ext labels
      simp only [mem_distinctNames, hsame]
    rw [hcount', hbytes', hnames]
    exact ⟨hcount.symm, hbytes.symm⟩

end DnsPro.Filter
