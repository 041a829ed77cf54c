import DnsPro.Protocol.Grammar

/-!
# When two names are the same

A name carries its labels, their wire size and its canonical key, and `==` compares
the keys alone.  `from_labels` writes the key of the labels, and so do the text and
the wire parser, which end in `from_labels`.  The default constructor does not, and
`from_text` uses it for the root.
-/

namespace DnsPro.Protocol

/-- A way to obtain a name. -/
inductive NameSource where
  | default
  | text (bytes : Bytes)
  | labels (names : List Bytes)
  | wire (packet : Bytes) (start encodedEnd : Nat) (limits : ParseLimits)

namespace NameSource

/-- The name, unless the source is refused. -/
def name? : NameSource → Option DomainName
  | .default => some DomainName.default
  | .text bytes => (fromText bytes).toOption
  | .labels names => (fromLabels names).toOption
  | .wire packet start encodedEnd limits =>
    (decodeName packet start encodedEnd limits).toOption.map DecodedName.name

/-- The name is a `DomainName{}`. -/
def isDefault : NameSource → Bool
  | .default => true
  | .text bytes => decide (bytes.isEmpty ∨ bytes = [0x2e])
  | .labels _ => false
  | .wire .. => false

end NameSource

/-- The key is made of the labels in lower case, and is as long as the wire form. -/
structure Represented (name : DomainName) : Prop where
  key : name.canonicalKey =
    (name.labels.flatMap fun label => UInt8.ofNat label.length :: label.map asciiLower) ++ [0]
  size : name.canonicalKey.length = name.wireSize

/-- Three ways to say that two names are the same agree. -/
structure Identified (name name' : DomainName) : Prop where
  same_iff : name.sameName name' = true ↔ foldedLabels name.labels = foldedLabels name'.labels
  subdomain_iff : foldedLabels name.labels = foldedLabels name'.labels ↔
    name.isSubdomainOf name' = true ∧ name'.isSubdomainOf name = true

/-! ## Where a name comes from -/

theorem toOption_eq_some {ε α : Type} {result : Except ε α} {value : α} :
    result.toOption = some value ↔ result = .ok value := by
  cases result with
  | error => simp [Except.toOption]
  | ok => simp [Except.toOption]

/-- The scanner ends in `from_labels`. -/
theorem fromTextLoop_ok {text : Bytes} {labels : List Bytes} {label : Bytes} {name : DomainName}
    (h : fromTextLoop text labels label = .ok name) : ∃ labels, fromLabels labels = .ok name := by
  fun_induction fromTextLoop text labels label with
  | case1 | case4 | case8 | case9 => cases h
  | case2 | case3 | case5 => exact ⟨_, h⟩
  | _ => rename_i ih; exact ih h

theorem source_cases {source : NameSource} {name : DomainName} (h : source.name? = some name) :
    (source.isDefault = true ∧ name = DomainName.default) ∨
      (source.isDefault = false ∧ name.canonicalKey = canonicalKeyOf name.labels) := by
  have hlabels : ∀ labels, fromLabels labels = .ok name →
      name.canonicalKey = canonicalKeyOf name.labels := by
    intro labels hlabels
    obtain ⟨rfl, hkey⟩ := fromLabels_spec hlabels
    exact hkey
  cases source with
  | default => exact Or.inl ⟨rfl, (Option.some.inj h).symm⟩
  | text text =>
    have htext := toOption_eq_some.mp h
    unfold fromText at htext
    split at htext
    · rename_i hroot
      exact Or.inl ⟨decide_eq_true hroot, (Except.ok.inj htext).symm⟩
    · rename_i hroot
      obtain ⟨labels, hname⟩ := fromTextLoop_ok htext
      exact Or.inr ⟨decide_eq_false hroot, hlabels labels hname⟩
  | labels labels => exact Or.inr ⟨rfl, hlabels labels (toOption_eq_some.mp h)⟩
  | wire packet start encodedEnd limits =>
    obtain ⟨decoded, hdecoded, rfl⟩ := Option.map_eq_some_iff.mp h
    obtain ⟨labels, hok, -, hname⟩ := decodeName_iff.mp (toOption_eq_some.mp hdecoded)
    rw [hname]
    exact Or.inr ⟨rfl, rfl⟩

/-! ## What the key says -/

theorem represented_iff (name : DomainName) :
    Represented name ↔ name.canonicalKey = canonicalKeyOf name.labels := by
  have hkey : canonicalKeyOf name.labels =
      (name.labels.flatMap fun label => UInt8.ofNat label.length :: label.map asciiLower) ++ [0] := by
    simp [canonicalKeyOf, wireOf, wireLabels, foldedLabels, List.flatMap_map]
  constructor
  · intro h
    rw [hkey]
    exact h.key
  · intro h
    refine ⟨h.trans hkey, ?_⟩
    rw [h, canonicalKeyOf, wireOf_length, wireSizeOf_folded, name.wireSize_eq]

theorem not_represented_default : ¬ Represented DomainName.default := by
  rw [represented_iff]
  decide

/-- Two label lists are equal up to case when each is a suffix of the other. -/
theorem folded_eq_iff (name name' : DomainName) :
    foldedLabels name.labels = foldedLabels name'.labels ↔
      name.isSubdomainOf name' = true ∧ name'.isSubdomainOf name = true := by
  rw [DomainName.isSubdomainOf_iff, DomainName.isSubdomainOf_iff]
  constructor
  · intro h
    rw [h]
    exact ⟨List.suffix_refl _, List.suffix_refl _⟩
  · rintro ⟨hsuffix, hsuffix'⟩
    exact hsuffix'.eq_of_length (le_antisymm hsuffix'.length_le hsuffix.length_le)

theorem identified_of_represented {name name' : DomainName} (h : Represented name)
    (h' : Represented name') : Identified name name' := by
  rw [represented_iff] at h h'
  refine ⟨?_, folded_eq_iff name name'⟩
  rw [DomainName.sameName, decide_eq_true_eq, h, h']
  exact canonicalKeyOf_inj name.labels_ok name'.labels_ok

/-- For every two names, however they were obtained: their keys are the ones of their
labels, and `==`, equality up to case and mutual containment agree, exactly when
neither name is a `DomainName{}`. -/
theorem names_identified_iff {source source' : NameSource} {name name' : DomainName}
    (h : source.name? = some name) (h' : source'.name? = some name') :
    (Represented name ∧ Represented name' ∧ Identified name name') ↔
      source.isDefault = false ∧ source'.isDefault = false := by
  have hrepresented : ∀ {source : NameSource} {name : DomainName}, source.name? = some name →
      (Represented name ↔ source.isDefault = false) := by
    intro source name h
    rcases source_cases h with ⟨hdefault, rfl⟩ | ⟨hdefault, hkey⟩
    · rw [hdefault]
      exact iff_of_false not_represented_default (by decide)
    · rw [represented_iff]
      exact iff_of_true hkey hdefault
  rw [← hrepresented h, ← hrepresented h']
  constructor
  · exact fun ⟨hname, hname', _⟩ => ⟨hname, hname'⟩
  · exact fun ⟨hname, hname'⟩ => ⟨hname, hname', identified_of_represented hname hname'⟩

/-- `x` as a text, and `X` as a label. -/
theorem names_identified_x :
    ∃ name name', (NameSource.text [0x78]).name? = some name ∧
      (NameSource.labels [[0x58]]).name? = some name' ∧
      Represented name ∧ Represented name' ∧ Identified name name' := by
  obtain ⟨name, hname⟩ : ∃ name, (NameSource.text [0x78]).name? = some name := ⟨_, rfl⟩
  obtain ⟨name', hname'⟩ : ∃ name', (NameSource.labels [[0x58]]).name? = some name' := ⟨_, rfl⟩
  exact ⟨name, name', hname, hname', (names_identified_iff hname hname').mpr ⟨rfl, rfl⟩⟩

/-- The root that `from_text` returns for `.` is not the root that `from_labels`
returns, although each is a subdomain of the other. -/
theorem root_of_text_differs :
    ∃ name name', (NameSource.text [0x2e]).name? = some name ∧
      (NameSource.labels []).name? = some name' ∧
      name.canonicalKey = [1, 0] ∧ name'.canonicalKey = [0] ∧
        name.canonicalKey.length ≠ name.wireSize ∧
      foldedLabels name.labels = foldedLabels name'.labels ∧
      name.isSubdomainOf name' = true ∧ name'.isSubdomainOf name = true ∧
      name.sameName name' = false :=
  ⟨_, _, rfl, rfl, rfl, rfl, by decide, rfl, rfl, rfl, rfl⟩

end DnsPro.Protocol
