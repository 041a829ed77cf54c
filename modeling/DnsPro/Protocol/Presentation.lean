import DnsPro.Protocol.TextGrammar

/-!
# Names as text

`to_string` and `to_canonical_string`.  A dot and a backslash are escaped by a
backslash, and every byte that is not a visible ASCII character by its three decimal
digits.  What they write is a text of the grammar of `from_text` that stands for the
labels, so reading it back gives the labels, and two names are written alike exactly
when their labels are alike.
-/

namespace DnsPro.Protocol

/-- One byte of `label_to_presentation`. -/
def presentByte (byte : UInt8) : Bytes :=
  if byte = 0x2e ∨ byte = 0x5c then [0x5c, byte]
  else if 0x21 ≤ byte ∧ byte ≤ 0x7e then [byte]
  else [0x5c, 0x30 + byte / 100, 0x30 + byte / 10 % 10, 0x30 + byte % 10]

/-- `label_to_presentation`. -/
def labelToPresentation (label : Bytes) (canonical : Bool) : Bytes :=
  label.flatMap fun value => presentByte (if canonical then asciiLower value else value)

namespace DomainName

/-- `to_string`. -/
def toString (name : DomainName) : Bytes :=
  if name.isRoot then [0x2e]
  else List.intercalate [0x2e] (name.labels.map fun label => labelToPresentation label false)

/-- `to_canonical_string`. -/
def toCanonicalString (name : DomainName) : Bytes :=
  if name.isRoot then [0x2e]
  else List.intercalate [0x2e] (name.labels.map fun label => labelToPresentation label true)

end DomainName

/-- The text of a label list. -/
def presentLabels (labels : List Bytes) : Bytes :=
  if labels.isEmpty then [0x2e]
  else List.intercalate [0x2e] (labels.map fun label => labelToPresentation label false)

theorem toString_eq (name : DomainName) : name.toString = presentLabels name.labels := rfl

theorem labelToPresentation_canonical (label : Bytes) :
    labelToPresentation label true = labelToPresentation (label.map asciiLower) false := by
  rw [labelToPresentation, labelToPresentation, List.flatMap_map]
  rfl

/-- The canonical text is the text of the labels in lower case. -/
theorem toCanonicalString_eq (name : DomainName) :
    name.toCanonicalString = presentLabels (foldedLabels name.labels) := by
  have hempty : (foldedLabels name.labels).isEmpty = name.isRoot := by
    rw [foldedLabels, DomainName.isRoot, List.isEmpty_map]
  have hlabels : (foldedLabels name.labels).map (fun label => labelToPresentation label false) =
      name.labels.map fun label => labelToPresentation label true := by
    rw [foldedLabels, List.map_map]
    apply List.map_congr_left
    intro label _
    exact (labelToPresentation_canonical label).symm
  rw [DomainName.toCanonicalString, presentLabels, hempty, hlabels]

/-! ## One byte -/

/-- A decimal digit and its value. -/
theorem digit_spec {digit : UInt8} (h : digit.toNat ≤ 9) :
    isAsciiDigit (0x30 + digit) = true ∧ (0x30 + digit).toNat - 0x30 = digit.toNat := by
  have hvalue : (0x30 + digit).toNat = 48 + digit.toNat := by
    rw [UInt8.toNat_add]
    show (48 + digit.toNat) % 256 = _
    omega
  constructor
  · rw [isAsciiDigit, decide_eq_true_eq, UInt8.le_iff_toNat_le, UInt8.le_iff_toNat_le, hvalue]
    show 48 ≤ 48 + digit.toNat ∧ 48 + digit.toNat ≤ 57
    omega
  · rw [hvalue]
    omega

/-- The three digits of a byte. -/
theorem decimal_spec (byte : UInt8) :
    (isAsciiDigit (0x30 + byte / 100) && isAsciiDigit (0x30 + byte / 10 % 10) &&
        isAsciiDigit (0x30 + byte % 10)) = true ∧
      escapeValue (0x30 + byte / 100) (0x30 + byte / 10 % 10) (0x30 + byte % 10) = byte.toNat := by
  have hbyte := byte.toNat_lt
  have hhundreds : (byte / 100).toNat = byte.toNat / 100 := UInt8.toNat_div _ _
  have htens : (byte / 10 % 10).toNat = byte.toNat / 10 % 10 := by
    rw [UInt8.toNat_mod, UInt8.toNat_div]
    rfl
  have hones : (byte % 10).toNat = byte.toNat % 10 := UInt8.toNat_mod _ _
  obtain ⟨hdigit1, hvalue1⟩ := @digit_spec (byte / 100) (by omega)
  obtain ⟨hdigit2, hvalue2⟩ := @digit_spec (byte / 10 % 10) (by omega)
  obtain ⟨hdigit3, hvalue3⟩ := @digit_spec (byte % 10) (by omega)
  constructor
  · rw [hdigit1, hdigit2, hdigit3]
    rfl
  · rw [escapeValue, hvalue1, hvalue2, hvalue3]
    omega

/-- A byte that is written in front of the text of a label. -/
theorem presentByte_label (byte : UInt8) {text label : Bytes} (h : LabelText text label) :
    LabelText (presentByte byte ++ text) (byte :: label) := by
  rw [presentByte]
  split
  · rename_i hspecial
    refine .character ?_ h
    -- neither a dot nor a backslash is a digit
    rcases text with _ | ⟨b2, _ | ⟨b3, text⟩⟩
    · rfl
    · rfl
    · rcases hspecial with rfl | rfl
      · rfl
      · rfl
  · rename_i hplain
    rw [not_or] at hplain
    split
    · exact .plain hplain.1 hplain.2 h
    · obtain ⟨hdigits, hvalue⟩ := decimal_spec byte
      have hbyte : UInt8.ofNat (escapeValue (0x30 + byte / 100) (0x30 + byte / 10 % 10)
          (0x30 + byte % 10)) = byte := by
        rw [hvalue]
        exact UInt8.ofNat_toNat
      have hdecimal := LabelText.decimal hdigits
        (by rw [hvalue]; exact Nat.le_of_lt_succ byte.toNat_lt) h
      rw [hbyte] at hdecimal
      exact hdecimal

/-! ## Labels and names -/

theorem presentLabel_label (label : Bytes) : LabelText (labelToPresentation label false) label := by
  induction label with
  | nil => exact .empty
  | cons byte label ih =>
    rw [labelToPresentation, List.flatMap_cons]
    exact presentByte_label byte ih

theorem presentLabels_name {labels : List Bytes} (hne : labels ≠ [])
    (hnonempty : ∀ label ∈ labels, label ≠ []) : NameText (presentLabels labels) labels := by
  rw [presentLabels, if_neg (by simpa using hne)]
  induction labels with
  | nil => exact absurd rfl hne
  | cons label labels ih =>
    have hlabel := hnonempty label List.mem_cons_self
    have hrest : ∀ other ∈ labels, other ≠ [] := fun other hmem =>
      hnonempty other (List.mem_cons_of_mem label hmem)
    rw [List.map_cons]
    cases labels with
    | nil =>
      rw [List.map_nil, List.intercalate_singleton]
      exact .last (presentLabel_label label) hlabel
    | cons next labels =>
      rw [List.map_cons, List.intercalate_cons_cons, List.append_assoc, List.singleton_append]
      refine .more (presentLabel_label label) hlabel ?_
      exact ih (List.cons_ne_nil _ _) hrest

/-- The text of labels within the limits is read back as the labels. -/
theorem fromText_presentLabels {labels : List Bytes} (h : LabelsOk labels) :
    ∃ name, fromText (presentLabels labels) = .ok name ∧ name.labels = labels := by
  by_cases hne : labels = []
  · subst hne
    exact ⟨DomainName.default, rfl, rfl⟩
  · refine ⟨DomainName.ofLabels labels h, ?_, rfl⟩
    rw [(presentLabels_name hne h.nonempty).fromText, fromLabels_eq_ok h]

theorem presentLabels_inj {labels labels' : List Bytes} (h : LabelsOk labels)
    (h' : LabelsOk labels') :
    presentLabels labels = presentLabels labels' ↔ labels = labels' := by
  constructor
  · intro hsame
    obtain ⟨name, hname, rfl⟩ := fromText_presentLabels h
    obtain ⟨name', hname', rfl⟩ := fromText_presentLabels h'
    rw [hsame, hname'] at hname
    rw [Except.ok.inj hname]
  · intro hsame
    rw [hsame]

/-- Writing a name and reading it back gives its labels, and the canonical text gives
them in lower case; two names are written alike exactly when their labels are equal,
and alike in canonical form exactly when they are equal up to case. -/
theorem presentation_roundtrip :
    (∀ name : DomainName,
      (∃ parsed, fromText name.toString = .ok parsed ∧ parsed.labels = name.labels) ∧
      ∃ parsed, fromText name.toCanonicalString = .ok parsed ∧
        parsed.labels = foldedLabels name.labels) ∧
    ∀ name other : DomainName,
      (name.toCanonicalString = other.toCanonicalString ↔
        foldedLabels name.labels = foldedLabels other.labels) ∧
      (name.toString = other.toString ↔ name.labels = other.labels) := by
  constructor
  · intro name
    rw [toString_eq, toCanonicalString_eq]
    exact ⟨fromText_presentLabels name.labels_ok, fromText_presentLabels name.labels_ok.folded⟩
  · intro name other
    rw [toCanonicalString_eq, toCanonicalString_eq, toString_eq, toString_eq]
    exact ⟨presentLabels_inj name.labels_ok.folded other.labels_ok.folded,
      presentLabels_inj name.labels_ok other.labels_ok⟩

end DnsPro.Protocol
