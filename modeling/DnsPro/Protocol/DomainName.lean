import Mathlib.Data.List.GetD
import Mathlib.Tactic

/-!
# Domain names

`DomainName` of `protocol/DomainName.{h,cpp}`: a label list together with the
wire size and the canonical key that the constructors compute once.  The
constructor of the class is private, so a name comes from the default
constructor or from `from_labels`; the fields `labels_ok`, `wireSize_eq` and
`canonicalKey_eq` say what those two guarantee.

The default member initialiser of the key is `std::string{1, '\0'}`.  Braces
select the initialiser-list constructor, so the default key is the two bytes
`01 00` and not one zero byte.  `from_labels` of the empty list computes the
one-byte key.  `canonicalKey_eq` keeps both.

Everything else of the development reads a name through three views: the wire
form `wireOf`, the canonical key `canonicalKeyOf`, and the case-folded labels
`foldedLabels`.
-/

namespace DnsPro.Protocol

/-- A byte string: `std::string`, `std::vector<std::byte>` and spans of them. -/
abbrev Bytes := List UInt8

/-- `kMaxLabelSize`. -/
def maxLabelSize : Nat := 63

/-- `kMaxDomainWireSize`. -/
def maxDomainWireSize : Nat := 255

inductive DomainNameErrorCode where
  | emptyLabel
  | invalidEscape
  | labelTooLong
  | nameTooLong
  deriving DecidableEq, Repr

structure DomainNameError where
  code : DomainNameErrorCode
  labelIndex : Nat
  deriving DecidableEq, Repr

/-- `ascii_lower`. -/
def asciiLower (byte : UInt8) : UInt8 :=
  if 0x41 ≤ byte ∧ byte ≤ 0x5a then byte + 0x20 else byte

/-- `is_ascii_digit`. -/
def isAsciiDigit (byte : UInt8) : Bool :=
  decide (0x30 ≤ byte ∧ byte ≤ 0x39)

/-- `labels_equal_canonical`. -/
def labelsEqualCanonical (lhs rhs : Bytes) : Bool :=
  decide (lhs.map asciiLower = rhs.map asciiLower)

/-! ## The two encodings of a label list -/

/-- The length byte and the bytes of each label, without the final zero. -/
def wireLabels (labels : List Bytes) : Bytes :=
  labels.flatMap fun label => UInt8.ofNat label.length :: label

/-- The uncompressed wire form of a label list. -/
def wireOf (labels : List Bytes) : Bytes := wireLabels labels ++ [0]

/-- The wire size that `from_labels` accumulates. -/
def wireSizeOf (labels : List Bytes) : Nat :=
  1 + (labels.map fun label => label.length + 1).sum

/-- The labels up to ASCII case. -/
def foldedLabels (labels : List Bytes) : List Bytes :=
  labels.map fun label => label.map asciiLower

/-- The second loop of `from_labels`. -/
def canonicalKeyOf (labels : List Bytes) : Bytes := wireOf (foldedLabels labels)

/-- What the first loop of `from_labels` checks. -/
structure LabelsOk (labels : List Bytes) : Prop where
  nonempty : ∀ label ∈ labels, label ≠ []
  short : ∀ label ∈ labels, label.length ≤ maxLabelSize
  size : wireSizeOf labels ≤ maxDomainWireSize

/-- `DomainName`. -/
structure DomainName where
  labels : List Bytes
  wireSize : Nat
  canonicalKey : Bytes
  labels_ok : LabelsOk labels
  wireSize_eq : wireSize = wireSizeOf labels
  canonicalKey_eq : canonicalKey = canonicalKeyOf labels ∨ labels = [] ∧ canonicalKey = [1, 0]
  deriving DecidableEq

theorem labelsOk_nil : LabelsOk [] :=
  ⟨by simp, by simp, by decide⟩

/-- `DomainName()`. -/
def DomainName.default : DomainName where
  labels := []
  wireSize := 1
  canonicalKey := [1, 0]
  labels_ok := labelsOk_nil
  wireSize_eq := rfl
  canonicalKey_eq := Or.inr ⟨rfl, rfl⟩

instance : Inhabited DomainName := ⟨DomainName.default⟩

/-! ## `from_labels` -/

/-- The first loop of `from_labels`. -/
def checkLabels : List Bytes → Nat → Nat → Except DomainNameError Nat
  | [], _, wireSize => .ok wireSize
  | label :: rest, index, wireSize =>
    if label.isEmpty then .error ⟨.emptyLabel, index⟩
    else if label.length > maxLabelSize then .error ⟨.labelTooLong, index⟩
    else if wireSize > maxDomainWireSize - (label.length + 1) then .error ⟨.nameTooLong, index⟩
    else checkLabels rest (index + 1) (wireSize + (label.length + 1))

theorem checkLabels_ok {labels : List Bytes} {index wireSize size : Nat}
    (h : checkLabels labels index wireSize = .ok size) :
    (∀ label ∈ labels, label ≠ []) ∧ (∀ label ∈ labels, label.length ≤ maxLabelSize) ∧
      size = wireSize + (labels.map fun label => label.length + 1).sum ∧
      (wireSize ≤ maxDomainWireSize → size ≤ maxDomainWireSize) := by
  induction labels generalizing index wireSize with
  | nil =>
    simp only [checkLabels, Except.ok.injEq] at h
    subst h
    simp
  | cons label rest ih =>
    rw [checkLabels] at h
    split at h
    · exact absurd h (by simp)
    · rename_i hne
      split at h
      · exact absurd h (by simp)
      · rename_i hshort
        split at h
        · exact absurd h (by simp)
        · rename_i hfit
          obtain ⟨hnonempty, hlen, hsize, hbound⟩ := ih h
          simp only [maxLabelSize, maxDomainWireSize] at *
          refine ⟨?_, ?_, ?_, fun _ => hbound (by omega)⟩
          · simp only [List.mem_cons, forall_eq_or_imp]
            exact ⟨by simpa using hne, hnonempty⟩
          · simp only [List.mem_cons, forall_eq_or_imp]
            exact ⟨by omega, hlen⟩
          · simp only [List.map_cons, List.sum_cons]
            omega

/-- `DomainName::from_labels`. -/
def fromLabels (labels : List Bytes) : Except DomainNameError DomainName :=
  match h : checkLabels labels 0 1 with
  | .error error => .error error
  | .ok wireSize => .ok {
      labels := labels
      wireSize := wireSize
      canonicalKey := canonicalKeyOf labels
      labels_ok :=
        let ⟨hne, hshort, hsize, hbound⟩ := checkLabels_ok h
        ⟨hne, hshort, by rw [wireSizeOf, ← hsize]; exact hbound (by decide)⟩
      wireSize_eq := (checkLabels_ok h).2.2.1
      canonicalKey_eq := Or.inl rfl }

theorem checkLabels_of_ok {labels : List Bytes} (index : Nat) {wireSize : Nat}
    (hne : ∀ label ∈ labels, label ≠ []) (hshort : ∀ label ∈ labels, label.length ≤ maxLabelSize)
    (hsize : wireSize + (labels.map fun label => label.length + 1).sum ≤ maxDomainWireSize) :
    checkLabels labels index wireSize =
      .ok (wireSize + (labels.map fun label => label.length + 1).sum) := by
  induction labels generalizing index wireSize with
  | nil => simp [checkLabels]
  | cons label rest ih =>
    simp only [List.map_cons, List.sum_cons] at hsize
    have hl : label.isEmpty = false := by simpa using hne label (by simp)
    have hs : ¬ label.length > maxLabelSize := Nat.not_lt.mpr (hshort label (by simp))
    have hfit : ¬ wireSize > maxDomainWireSize - (label.length + 1) := by omega
    rw [checkLabels, hl, if_neg (by simp), if_neg hs, if_neg hfit,
      ih _ (fun x hx => hne x (by simp [hx])) (fun x hx => hshort x (by simp [hx])) (by omega)]
    simp only [List.map_cons, List.sum_cons, Except.ok.injEq]
    omega

/-- `from_labels` accepts exactly the lists that keep its limits, and returns
them unchanged. -/
theorem fromLabels_ok_iff {labels : List Bytes} :
    (∃ name, fromLabels labels = .ok name) ↔ LabelsOk labels := by
  constructor
  · rintro ⟨name, h⟩
    rw [fromLabels] at h
    split at h
    · exact absurd h (by simp)
    · rw [Except.ok.injEq] at h
      subst h
      rename_i hcheck
      obtain ⟨hne, hshort, hsize, hbound⟩ := checkLabels_ok hcheck
      exact ⟨hne, hshort, by rw [wireSizeOf, ← hsize]; exact hbound (by decide)⟩
  · intro h
    have hcheck := checkLabels_of_ok 0 h.nonempty h.short h.size
    rw [fromLabels]
    split
    · rename_i herr
      rw [hcheck] at herr
      exact absurd herr (by simp)
    · exact ⟨_, rfl⟩

theorem fromLabels_spec {labels : List Bytes} {name : DomainName}
    (h : fromLabels labels = .ok name) :
    name.labels = labels ∧ name.canonicalKey = canonicalKeyOf labels := by
  rw [fromLabels] at h
  split at h
  · exact absurd h (by simp)
  · rw [Except.ok.injEq] at h
    subst h
    exact ⟨rfl, rfl⟩

/-- The name that `from_labels` builds from labels within the limits. -/
def DomainName.ofLabels (labels : List Bytes) (h : LabelsOk labels) : DomainName where
  labels := labels
  wireSize := wireSizeOf labels
  canonicalKey := canonicalKeyOf labels
  labels_ok := h
  wireSize_eq := rfl
  canonicalKey_eq := Or.inl rfl

theorem DomainName.eq_ofLabels {name : DomainName}
    (h : name.canonicalKey = canonicalKeyOf name.labels) :
    name = DomainName.ofLabels name.labels name.labels_ok := by
  obtain ⟨labels, wireSize, canonicalKey, labels_ok, rfl, _⟩ := name
  simp only at h
  subst h
  rfl

theorem fromLabels_eq_ok {labels : List Bytes} (h : LabelsOk labels) :
    fromLabels labels = .ok (DomainName.ofLabels labels h) := by
  obtain ⟨name, hname⟩ := fromLabels_ok_iff.mpr h
  obtain ⟨rfl, hkey⟩ := fromLabels_spec hname
  rw [hname]
  exact congrArg Except.ok (DomainName.eq_ofLabels hkey)

/-! ## `from_text` -/

/-- The value of a three-digit escape. -/
def escapeValue (d1 d2 d3 : UInt8) : Nat :=
  (d1.toNat - 0x30) * 100 + (d2.toNat - 0x30) * 10 + (d3.toNat - 0x30)

/-- The scanner loop of `from_text`: the text from `index` on, the finished
labels and the label under construction. -/
def fromTextLoop : Bytes → List Bytes → Bytes → Except DomainNameError DomainName
  | [], labels, label =>
    if label.isEmpty then
      if labels.isEmpty then .error ⟨.emptyLabel, labels.length⟩ else fromLabels labels
    else fromLabels (labels ++ [label])
  | value :: rest, labels, label =>
    -- an unescaped dot ends the label; a final dot ends the name
    if value = 0x2e then
      if label.isEmpty then .error ⟨.emptyLabel, labels.length⟩
      else if rest.isEmpty then fromLabels (labels ++ [label])
      else fromTextLoop rest (labels ++ [label]) []
    else if value ≠ 0x5c then fromTextLoop rest labels (label ++ [value])
    else
      match rest with
      | [] => .error ⟨.invalidEscape, labels.length⟩
      | d1 :: d2 :: d3 :: tail =>
        if isAsciiDigit d1 && isAsciiDigit d2 && isAsciiDigit d3 then
          if escapeValue d1 d2 d3 > 255 then .error ⟨.invalidEscape, labels.length⟩
          else fromTextLoop tail labels (label ++ [UInt8.ofNat (escapeValue d1 d2 d3)])
        else fromTextLoop (d2 :: d3 :: tail) labels (label ++ [d1])
      | [d1, d2] => fromTextLoop [d2] labels (label ++ [d1])
      | [d1] => fromTextLoop [] labels (label ++ [d1])

/-- `DomainName::from_text`. -/
def fromText (text : Bytes) : Except DomainNameError DomainName :=
  if text.isEmpty ∨ text = [0x2e] then .ok DomainName.default
  else fromTextLoop text [] []

namespace DomainName

/-! ## Accessors -/

/-- `is_root`. -/
def isRoot (name : DomainName) : Bool := name.labels.isEmpty

/-- `label_count`. -/
def labelCount (name : DomainName) : Nat := name.labels.length

/-- The offset that `canonical_suffix_key` and `canonical_label` accumulate. -/
def labelOffset (name : DomainName) (index : Nat) : Nat :=
  ((name.labels.take index).map fun label => label.length + 1).sum

/-- `canonical_suffix_key`. -/
def canonicalSuffixKey (name : DomainName) (firstLabel : Nat) : Bytes :=
  if firstLabel ≥ name.labels.length then []
  else name.canonicalKey.drop (name.labelOffset firstLabel)

/-- `canonical_label`. -/
def canonicalLabel (name : DomainName) (index : Nat) : Bytes :=
  match name.labels[index]? with
  | none => []
  | some label => (name.canonicalKey.drop (name.labelOffset index + 1)).take label.length

/-- `operator==`, which compares the canonical keys. -/
def sameName (lhs rhs : DomainName) : Bool := decide (lhs.canonicalKey = rhs.canonicalKey)

/-- `is_subdomain_of`. -/
def isSubdomainOf (name parent : DomainName) : Bool :=
  if parent.labels.length > name.labels.length then false
  else
    (List.range parent.labels.length).all fun index =>
      labelsEqualCanonical
        (name.labels.getD (name.labels.length - parent.labels.length + index) [])
        (parent.labels.getD index [])

end DomainName

/-! ## The views of a label list -/

@[simp] theorem wireLabels_nil : wireLabels [] = [] := rfl

@[simp] theorem wireLabels_cons (label : Bytes) (rest : List Bytes) :
    wireLabels (label :: rest) = UInt8.ofNat label.length :: (label ++ wireLabels rest) := by
  simp [wireLabels]

theorem wireLabels_append (front back : List Bytes) :
    wireLabels (front ++ back) = wireLabels front ++ wireLabels back := by
  simp [wireLabels]

@[simp] theorem foldedLabels_length (labels : List Bytes) :
    (foldedLabels labels).length = labels.length := by
  simp [foldedLabels]

theorem foldedLabels_drop (labels : List Bytes) (index : Nat) :
    foldedLabels (labels.drop index) = (foldedLabels labels).drop index := by
  simp [foldedLabels]

theorem wireLabels_length (labels : List Bytes) :
    (wireLabels labels).length = (labels.map fun label => label.length + 1).sum := by
  induction labels with
  | nil => rfl
  | cons label rest ih =>
    simp only [wireLabels_cons, List.length_cons, List.length_append, ih, List.map_cons,
      List.sum_cons]
    omega

theorem wireOf_length (labels : List Bytes) : (wireOf labels).length = wireSizeOf labels := by
  rw [wireOf, List.length_append, wireLabels_length, wireSizeOf]
  simp only [List.length_cons, List.length_nil]
  omega

theorem wireSizeOf_folded (labels : List Bytes) :
    wireSizeOf (foldedLabels labels) = wireSizeOf labels := by
  simp [wireSizeOf, foldedLabels, Function.comp_def]

/-- Labels within the limits stay within them when their case is folded. -/
theorem LabelsOk.folded {labels : List Bytes} (h : LabelsOk labels) :
    LabelsOk (foldedLabels labels) := by
  refine ⟨?_, ?_, by rw [wireSizeOf_folded]; exact h.size⟩
  · intro label hlabel
    obtain ⟨source, hsource, rfl⟩ := List.mem_map.mp hlabel
    simpa using h.nonempty source hsource
  · intro label hlabel
    obtain ⟨source, hsource, rfl⟩ := List.mem_map.mp hlabel
    simpa using h.short source hsource

theorem LabelsOk.tail {label : Bytes} {rest : List Bytes} (h : LabelsOk (label :: rest)) :
    LabelsOk rest := by
  refine ⟨fun x hx => h.nonempty x (by simp [hx]), fun x hx => h.short x (by simp [hx]), ?_⟩
  have := h.size
  simp only [wireSizeOf, List.map_cons, List.sum_cons] at *
  omega

/-- The length byte of a label within the limits. -/
theorem labelLength_toNat {label : Bytes} (h : label.length ≤ maxLabelSize) :
    (UInt8.ofNat label.length).toNat = label.length := by
  rw [UInt8.toNat_ofNat']
  simp only [maxLabelSize] at h
  omega

theorem labelLength_ne_zero {label : Bytes} (hne : label ≠ [])
    (h : label.length ≤ maxLabelSize) : UInt8.ofNat label.length ≠ 0 := by
  intro hzero
  have := congrArg UInt8.toNat hzero
  rw [labelLength_toNat h] at this
  exact hne (List.eq_nil_of_length_eq_zero (by simpa using this))

/-- The wire form determines the labels, even with bytes after it. -/
theorem wireOf_append_inj {labels labels' : List Bytes} (tail tail' : Bytes)
    (h : LabelsOk labels) (h' : LabelsOk labels')
    (heq : wireOf labels ++ tail = wireOf labels' ++ tail') :
    labels = labels' ∧ tail = tail' := by
  induction labels generalizing labels' with
  | nil =>
    cases labels' with
    | nil => exact ⟨rfl, by simpa [wireOf] using heq⟩
    | cons label' rest' =>
      have hz : (0 : UInt8) = UInt8.ofNat label'.length := by
        simp only [wireOf, wireLabels_nil, wireLabels_cons, List.nil_append, List.cons_append,
          List.cons.injEq] at heq
        exact heq.1
      exact absurd hz.symm
        (labelLength_ne_zero (h'.nonempty _ (by simp)) (h'.short _ (by simp)))
  | cons label rest ih =>
    have hs := h.short label (by simp)
    cases labels' with
    | nil =>
      have hz : UInt8.ofNat label.length = 0 := by
        simp only [wireOf, wireLabels_nil, wireLabels_cons, List.nil_append, List.cons_append,
          List.cons.injEq] at heq
        exact heq.1
      exact absurd hz (labelLength_ne_zero (h.nonempty _ (by simp)) hs)
    | cons label' rest' =>
      have hs' := h'.short label' (by simp)
      simp only [wireOf, wireLabels_cons, List.cons_append, List.append_assoc,
        List.cons.injEq] at heq
      have hlen : label.length = label'.length := by
        rw [← labelLength_toNat hs, ← labelLength_toNat hs', heq.1]
      obtain ⟨hlabel, hrest⟩ := List.append_inj heq.2 hlen
      have hrec := ih h.tail h'.tail (by simpa [wireOf] using hrest)
      exact ⟨by rw [hlabel, hrec.1], hrec.2⟩

/-- Equal canonical keys are equal label lists up to case. -/
theorem canonicalKeyOf_inj {labels labels' : List Bytes} (h : LabelsOk labels)
    (h' : LabelsOk labels') :
    canonicalKeyOf labels = canonicalKeyOf labels' ↔
      foldedLabels labels = foldedLabels labels' := by
  constructor
  · intro heq
    exact (wireOf_append_inj [] [] h.folded h'.folded
      (by simpa [canonicalKeyOf] using heq)).1
  · intro heq
    rw [canonicalKeyOf, heq, canonicalKeyOf]

namespace DomainName

/-- Only the default name has another key than the one of its labels. -/
theorem canonicalKey_of_ne_nil {name : DomainName} (h : name.labels ≠ []) :
    name.canonicalKey = canonicalKeyOf name.labels := by
  rcases name.canonicalKey_eq with hkey | ⟨hnil, _⟩
  · exact hkey
  · exact absurd hnil h

private theorem take_wireLabels_length (name : DomainName) (index : Nat) :
    (wireLabels (foldedLabels (name.labels.take index))).length = name.labelOffset index := by
  rw [wireLabels_length, labelOffset]
  simp [foldedLabels, Function.comp_def]

private theorem canonicalKey_split {name : DomainName} {index : Nat}
    (h : index < name.labels.length) :
    name.canonicalKey =
      wireLabels (foldedLabels (name.labels.take index)) ++
        canonicalKeyOf (name.labels.drop index) := by
  have hne : name.labels ≠ [] := by
    intro hnil
    simp [hnil] at h
  rw [canonicalKey_of_ne_nil hne, canonicalKeyOf, canonicalKeyOf, wireOf, wireOf,
    ← List.append_assoc, ← wireLabels_append]
  congr 2
  rw [foldedLabels, foldedLabels, foldedLabels, ← List.map_append, List.take_append_drop]

/-- A suffix key is the canonical key of the remaining labels. -/
theorem canonicalSuffixKey_eq {name : DomainName} {index : Nat} (h : index < name.labels.length) :
    name.canonicalSuffixKey index = canonicalKeyOf (name.labels.drop index) := by
  rw [canonicalSuffixKey, if_neg (by omega), canonicalKey_split h,
    ← take_wireLabels_length name index, List.drop_left]

/-- A canonical label is the label in lower case. -/
theorem canonicalLabel_eq {name : DomainName} {index : Nat} {label : Bytes}
    (h : name.labels[index]? = some label) :
    name.canonicalLabel index = label.map asciiLower := by
  obtain ⟨hlt, hget⟩ := List.getElem?_eq_some_iff.mp h
  have hdrop : name.labels.drop index = label :: name.labels.drop (index + 1) := by
    rw [List.drop_eq_getElem_cons hlt, hget]
  rw [canonicalLabel, h]
  simp only
  rw [canonicalKey_split hlt, ← take_wireLabels_length name index, hdrop,
    List.drop_length_add_append]
  simp [canonicalKeyOf, wireOf, foldedLabels]

/-- `is_subdomain_of` is the suffix relation on the labels up to case. -/
theorem isSubdomainOf_iff (name parent : DomainName) :
    name.isSubdomainOf parent = true ↔
      foldedLabels parent.labels <:+ foldedLabels name.labels := by
  rw [isSubdomainOf]
  split
  · rename_i hlong
    constructor
    · intro h; exact absurd h (by simp)
    · intro h
      have := h.length_le
      simp only [foldedLabels_length] at this
      omega
  · rename_i hshort
    have hle : parent.labels.length ≤ name.labels.length := by omega
    rw [List.suffix_iff_eq_drop, foldedLabels_length, foldedLabels_length, ← foldedLabels_drop,
      List.all_eq_true]
    constructor
    · intro h
      apply List.ext_getElem
      · simp only [foldedLabels_length, List.length_drop]
        omega
      · intro index h1 h2
        rw [foldedLabels_length] at h1
        have := h index (List.mem_range.mpr h1)
        rw [labelsEqualCanonical, decide_eq_true_eq,
          List.getD_eq_getElem _ _ h1, List.getD_eq_getElem _ _ (by omega)] at this
        simpa [foldedLabels] using this.symm
    · intro h index hindex
      have hlt := List.mem_range.mp hindex
      have := congrArg (fun labels => labels[index]?) h
      simp only [foldedLabels, List.getElem?_map, List.getElem?_drop] at this
      rw [List.getElem?_eq_getElem hlt, List.getElem?_eq_getElem (by omega)] at this
      rw [labelsEqualCanonical, decide_eq_true_eq,
        List.getD_eq_getElem _ _ hlt, List.getD_eq_getElem _ _ (by omega)]
      simpa using this.symm

end DomainName

end DnsPro.Protocol
