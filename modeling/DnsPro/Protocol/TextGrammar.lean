import DnsPro.Protocol.Indexing

/-!
# The grammar of names in text

The texts that `from_text` accepts, stated without the scanner.  `LabelText` relates
the text of a label to the bytes of the label, and `NameText` the text of a name to
its labels.  A backslash that three digits follow is a decimal escape, and any other
backslash escapes the byte after it, so a character escape looks at the text behind
it.  A dot is no digit, and what an escape sees therefore ends with its label.

`fromTextLoop_label` and `NameText.scan` read the scanner along a derivation, and
`continues_of_scan` builds the derivation from a scanner that returns.
-/

namespace DnsPro.Protocol

open DnsPro.Loop

/-- Three digits stand in front. -/
def startsWithDigits : Bytes → Bool
  | d1 :: d2 :: d3 :: _ => isAsciiDigit d1 && isAsciiDigit d2 && isAsciiDigit d3
  | _ => false

/-- A text without an unescaped dot, and the bytes of the label that it stands for. -/
inductive LabelText : Bytes → Bytes → Prop where
  | empty : LabelText [] []
  | plain {byte : UInt8} {text label : Bytes} (hdot : byte ≠ 0x2e) (hbackslash : byte ≠ 0x5c)
      (hrest : LabelText text label) : LabelText (byte :: text) (byte :: label)
  | decimal {d1 d2 d3 : UInt8} {text label : Bytes}
      (hdigits : isAsciiDigit d1 && isAsciiDigit d2 && isAsciiDigit d3)
      (hvalue : escapeValue d1 d2 d3 ≤ 255) (hrest : LabelText text label) :
      LabelText (0x5c :: d1 :: d2 :: d3 :: text) (UInt8.ofNat (escapeValue d1 d2 d3) :: label)
  | character {byte : UInt8} {text label : Bytes}
    (hdigits : startsWithDigits (byte :: text) = false)
      (hrest : LabelText text label) : LabelText (0x5c :: byte :: text) (byte :: label)

/-- Labels that are not empty, with single dots between them and at most one after
the last. -/
inductive NameText : Bytes → List Bytes → Prop where
  | last {text label : Bytes} (hlabel : LabelText text label) (hne : label ≠ []) :
      NameText text [label]
  | final {text label : Bytes} (hlabel : LabelText text label) (hne : label ≠ []) :
      NameText (text ++ [0x2e]) [label]
  | more {text rest label : Bytes} {labels : List Bytes} (hlabel : LabelText text label)
      (hne : label ≠ []) (hrest : NameText rest labels) :
      NameText (text ++ 0x2e :: rest) (label :: labels)

variable {text rest label : Bytes} {labels : List Bytes} {name : DomainName}

/-! ## The look-ahead of an escape -/

/-- The text of a label ends where the text ends, or before a dot. -/
def EndsLabel (rest : Bytes) : Prop := rest = [] ∨ ∃ tail, rest = 0x2e :: tail

theorem startsWithDigits_of_front {front : Bytes} (h : startsWithDigits front = true)
    (back : Bytes) :
    startsWithDigits (front ++ back) = true := by
  unfold startsWithDigits at h
  split at h
  · exact h
  · cases h

/-- What comes after the label is no digit. -/
theorem startsWithDigits_append {front : Bytes} (hrest : EndsLabel rest) :
    startsWithDigits (front ++ rest) = startsWithDigits front := by
  have hdigit : isAsciiDigit 0x2e = false := by decide
  rcases hrest with rfl | ⟨tail, rfl⟩
  · rw [List.append_nil]
  · rcases front with _ | ⟨b1, _ | ⟨b2, _ | ⟨b3, front⟩⟩⟩
    · rcases tail with _ | ⟨b2, _ | ⟨b3, tail⟩⟩
      · rfl
      · rfl
      · simp [startsWithDigits, hdigit]
    · rcases tail with _ | ⟨b3, tail⟩
      · rfl
      · simp [startsWithDigits, hdigit]
    · simp [startsWithDigits, hdigit]
    · rfl

/-! ## The scanner on the elements of a label -/

theorem fromTextLoop_plain {byte : UInt8} (hdot : byte ≠ 0x2e) (hbackslash : byte ≠ 0x5c) :
    fromTextLoop (byte :: rest) labels label = fromTextLoop rest labels (label ++ [byte]) := by
  rw [fromTextLoop.eq_def]
  dsimp only
  rw [if_neg hdot, if_pos hbackslash]

theorem fromTextLoop_decimal {d1 d2 d3 : UInt8}
    (hdigits : isAsciiDigit d1 && isAsciiDigit d2 && isAsciiDigit d3)
    (hvalue : escapeValue d1 d2 d3 ≤ 255) :
    fromTextLoop (0x5c :: d1 :: d2 :: d3 :: rest) labels label =
      fromTextLoop rest labels (label ++ [UInt8.ofNat (escapeValue d1 d2 d3)]) := by
  rw [fromTextLoop.eq_def]
  dsimp only
  rw [if_neg (by decide), if_neg (by decide), if_pos hdigits, if_neg (Nat.not_lt.mpr hvalue)]

theorem fromTextLoop_character {byte : UInt8} (hdigits : startsWithDigits (byte :: rest) = false) :
    fromTextLoop (0x5c :: byte :: rest) labels label =
      fromTextLoop rest labels (label ++ [byte]) := by
  rw [fromTextLoop.eq_def]
  dsimp only
  rw [if_neg (by decide), if_neg (by decide)]
  rcases rest with _ | ⟨b2, _ | ⟨b3, rest⟩⟩
  · rfl
  · rfl
  · dsimp only
    rw [startsWithDigits] at hdigits
    rw [if_neg (by rw [hdigits]; exact Bool.false_ne_true)]

/-- An unescaped dot ends a label. -/
theorem fromTextLoop_dot (hne : label ≠ []) :
    fromTextLoop (0x2e :: rest) labels label =
      if rest = [] then fromLabels (labels ++ [label])
      else fromTextLoop rest (labels ++ [label]) [] := by
  rw [fromTextLoop.eq_def]
  dsimp only
  rw [if_pos rfl, if_neg (by simpa using hne)]
  simp only [List.isEmpty_iff]

/-- The scanner takes the text of a label as one. -/
theorem fromTextLoop_label {more : Bytes} (h : LabelText text more) (hrest : EndsLabel rest) :
    fromTextLoop (text ++ rest) labels label = fromTextLoop rest labels (label ++ more) := by
  induction h generalizing label with
  | empty => rw [List.nil_append, List.append_nil]
  | plain hdot hbackslash hlabel ih =>
    rw [List.cons_append, fromTextLoop_plain hdot hbackslash, ih, List.append_assoc]
    rfl
  | decimal hdigits hvalue hlabel ih =>
    rw [List.cons_append, List.cons_append, List.cons_append, List.cons_append,
      fromTextLoop_decimal hdigits hvalue, ih, List.append_assoc]
    rfl
  | character hdigits hlabel ih =>
    rw [List.cons_append, List.cons_append, fromTextLoop_character, ih, List.append_assoc]
    · rfl
    · rw [← List.cons_append, startsWithDigits_append hrest]
      exact hdigits

theorem LabelText.ne_nil (h : LabelText text label) (hne : label ≠ []) : text ≠ [] := by
  cases h with
  | empty => exact absurd rfl hne
  | plain => exact List.cons_ne_nil _ _
  | decimal => exact List.cons_ne_nil _ _
  | character => exact List.cons_ne_nil _ _

theorem NameText.ne_nil (h : NameText text labels) : text ≠ [] := by
  cases h with
  | last hlabel hne => exact hlabel.ne_nil hne
  | final hlabel hne => simp
  | more hlabel hne hrest => simp

/-- The scanner accepts what the grammar derives, up to the limits of the labels. -/
theorem NameText.scan {labels' : List Bytes} (h : NameText text labels') :
    fromTextLoop text labels [] = fromLabels (labels ++ labels') := by
  induction h generalizing labels with
  | @last text label hlabel hne =>
    have hscan := @fromTextLoop_label text [] [] labels label hlabel (Or.inl rfl)
    rw [List.append_nil] at hscan
    rw [hscan, fromTextLoop, List.nil_append, if_neg (by simpa using hne)]
  | @final text label hlabel hne =>
    rw [fromTextLoop_label hlabel (Or.inr ⟨[], rfl⟩), List.nil_append, fromTextLoop_dot hne,
      if_pos rfl]
  | @more text rest label labels' hlabel hne hrest ih =>
    rw [fromTextLoop_label hlabel (Or.inr ⟨rest, rfl⟩), List.nil_append, fromTextLoop_dot hne,
      if_neg hrest.ne_nil, ih, List.append_assoc]
    rfl

/-! ## From the scanner to the grammar -/

/-- The text goes on with a label that has begun. -/
inductive Continues : Bytes → Bytes → List Bytes → Prop where
  | last {text label more : Bytes} (hlabel : LabelText text more) (hne : label ++ more ≠ []) :
      Continues text label [label ++ more]
  | final {text label more : Bytes} (hlabel : LabelText text more) (hne : label ++ more ≠ []) :
      Continues (text ++ [0x2e]) label [label ++ more]
  | more {text rest label more : Bytes} {labels : List Bytes} (hlabel : LabelText text more)
      (hne : label ++ more ≠ []) (hrest : NameText rest labels) :
      Continues (text ++ 0x2e :: rest) label ((label ++ more) :: labels)

theorem Continues.nameText (h : Continues text [] labels) : NameText text labels := by
  cases h with
  | last hlabel hne => exact .last hlabel hne
  | final hlabel hne => exact .final hlabel hne
  | more hlabel hne hrest => exact .more hlabel hne hrest

/-- An element in front of the text of a label. -/
theorem Continues.prepend {front : Bytes} {byte : UInt8}
    (hfront : ∀ labelText more, labelText <+: text → LabelText labelText more →
      LabelText (front ++ labelText) (byte :: more))
    (h : Continues text (label ++ [byte]) labels) : Continues (front ++ text) label labels := by
  have hjoin : ∀ more : Bytes, label ++ [byte] ++ more = label ++ byte :: more := by simp
  cases h with
  | @last _ _ more hlabel hne =>
    rw [hjoin] at hne ⊢
    exact .last (hfront _ _ (List.prefix_refl _) hlabel) hne
  | @final _ _ more hlabel hne =>
    rw [hjoin] at hne ⊢
    rw [← List.append_assoc]
    exact .final (hfront _ _ (List.prefix_append _ _) hlabel) hne
  | @more _ _ _ more _ hlabel hne hrest =>
    rw [hjoin] at hne ⊢
    rw [← List.append_assoc]
    exact .more (hfront _ _ (List.prefix_append _ _) hlabel) hne hrest

theorem Continues.plain {byte : UInt8} (hdot : byte ≠ 0x2e) (hbackslash : byte ≠ 0x5c)
    (h : Continues text (label ++ [byte]) labels) : Continues (byte :: text) label labels := by
  apply @Continues.prepend _ _ _ [byte] byte _ h
  intro labelText more _ hlabel
  exact .plain hdot hbackslash hlabel

theorem Continues.decimal {d1 d2 d3 : UInt8}
    (hdigits : isAsciiDigit d1 && isAsciiDigit d2 && isAsciiDigit d3)
    (hvalue : escapeValue d1 d2 d3 ≤ 255)
    (h : Continues text (label ++ [UInt8.ofNat (escapeValue d1 d2 d3)]) labels) :
    Continues (0x5c :: d1 :: d2 :: d3 :: text) label labels := by
  apply @Continues.prepend _ _ _ [0x5c, d1, d2, d3] (UInt8.ofNat (escapeValue d1 d2 d3)) _ h
  intro labelText more _ hlabel
  exact .decimal hdigits hvalue hlabel

theorem Continues.character {byte : UInt8} (hdigits : startsWithDigits (byte :: text) = false)
    (h : Continues text (label ++ [byte]) labels) :
    Continues (0x5c :: byte :: text) label labels := by
  apply @Continues.prepend _ _ _ [0x5c, byte] byte _ h
  intro labelText more hprefix hlabel
  refine .character ?_ hlabel
  obtain ⟨back, rfl⟩ := hprefix
  rw [← Bool.not_eq_true] at hdigits ⊢
  intro hlook
  exact hdigits (startsWithDigits_of_front hlook back)

/-- A scanner that returns has read a text of the grammar.  It never stands at the
end of the text without a label. -/
theorem continues_of_scan (hstarted : text ≠ [] ∨ label ≠ [])
    (h : fromTextLoop text labels label = .ok name) :
    ∃ labels', Continues text label labels' ∧ fromLabels (labels ++ labels') = .ok name := by
  induction text, labels, label using fromTextLoop.induct with
  | case1 labels label hempty _ =>
    rcases hstarted with hne | hne
    · exact absurd rfl hne
    · exact absurd (List.isEmpty_iff.mp hempty) hne
  | case2 labels label hempty _ =>
    rcases hstarted with hne | hne
    · exact absurd rfl hne
    · exact absurd (List.isEmpty_iff.mp hempty) hne
  | case3 labels label hlabel =>
    rw [fromTextLoop, if_neg hlabel] at h
    refine ⟨_, @Continues.last [] label [] .empty (by simpa using hlabel), ?_⟩
    rwa [List.append_nil]
  | case4 rest labels label hempty =>
    rw [fromTextLoop.eq_def] at h
    dsimp only at h
    rw [if_pos rfl, if_pos hempty] at h
    cases h
  | case5 rest labels label hlabel hend =>
    obtain rfl := List.isEmpty_iff.mp hend
    have hne : label ≠ [] := by simpa using hlabel
    rw [fromTextLoop_dot hne, if_pos rfl] at h
    refine ⟨_, @Continues.final [] label [] .empty (by simpa using hne), ?_⟩
    rwa [List.append_nil]
  | case6 rest labels label hlabel hend ih =>
    have hne : label ≠ [] := by simpa using hlabel
    have hrest : rest ≠ [] := by simpa using hend
    rw [fromTextLoop_dot hne, if_neg hrest] at h
    obtain ⟨labels', hcontinues, hname⟩ := ih (Or.inl hrest) h
    refine ⟨_, @Continues.more [] rest label [] _ .empty (by simpa using hne) hcontinues.nameText, ?_⟩
    rwa [List.append_assoc, List.singleton_append, ← List.append_nil label] at hname
  | case7 byte rest labels label hdot hbackslash ih =>
    rw [fromTextLoop_plain hdot hbackslash] at h
    obtain ⟨labels', hcontinues, hname⟩ := ih (Or.inr (by simp)) h
    exact ⟨labels', hcontinues.plain hdot hbackslash, hname⟩
  | case8 byte labels label hdot hbackslash =>
    rw [fromTextLoop.eq_def] at h
    dsimp only at h
    rw [if_neg hdot, if_neg hbackslash] at h
    cases h
  | case9 byte labels label hdot hbackslash d1 d2 d3 tail hdigits hvalue =>
    rw [fromTextLoop.eq_def] at h
    dsimp only at h
    rw [if_neg hdot, if_neg hbackslash, if_pos hdigits, if_pos hvalue] at h
    cases h
  | case10 byte labels label hdot hbackslash d1 d2 d3 tail hdigits hvalue ih =>
    obtain rfl := of_not_not hbackslash
    rw [fromTextLoop_decimal hdigits (Nat.le_of_not_lt hvalue)] at h
    obtain ⟨labels', hcontinues, hname⟩ := ih (Or.inr (by simp)) h
    exact ⟨labels', hcontinues.decimal hdigits (Nat.le_of_not_lt hvalue), hname⟩
  | case11 byte labels label hdot hbackslash d1 d2 d3 tail hdigits ih =>
    obtain rfl := of_not_not hbackslash
    have hlook : startsWithDigits (d1 :: d2 :: d3 :: tail) = false := by
      rw [startsWithDigits]
      exact Bool.eq_false_of_not_eq_true hdigits
    rw [fromTextLoop_character hlook] at h
    obtain ⟨labels', hcontinues, hname⟩ := ih (Or.inr (by simp)) h
    exact ⟨labels', hcontinues.character hlook, hname⟩
  | case12 byte labels label hdot hbackslash d1 d2 ih =>
    obtain rfl := of_not_not hbackslash
    have hlook : startsWithDigits [d1, d2] = false := rfl
    rw [fromTextLoop_character hlook] at h
    obtain ⟨labels', hcontinues, hname⟩ := ih (Or.inr (by simp)) h
    exact ⟨labels', hcontinues.character hlook, hname⟩
  | case13 byte labels label hdot hbackslash d1 ih =>
    obtain rfl := of_not_not hbackslash
    have hlook : startsWithDigits [d1] = false := rfl
    rw [fromTextLoop_character hlook] at h
    obtain ⟨labels', hcontinues, hname⟩ := ih (Or.inr (by simp)) h
    exact ⟨labels', hcontinues.character hlook, hname⟩

/-! ## The grammar is not ambiguous -/

theorem EndsLabel.head_eq {byte : UInt8} (h : EndsLabel (byte :: rest)) : byte = 0x2e := by
  rcases h with hnil | ⟨tail, hdot⟩
  · cases hnil
  · exact (List.cons.inj hdot).1

/-- A text is read as a label in one way, and the label ends at one place. -/
theorem LabelText.unique {text' label' rest' : Bytes} (h : LabelText text label)
    (h' : LabelText text' label') (hrest : EndsLabel rest) (hrest' : EndsLabel rest')
    (heq : text ++ rest = text' ++ rest') : label = label' ∧ rest = rest' := by
  induction h generalizing text' label' with
  | empty =>
    cases h' with
    | empty => exact ⟨rfl, heq⟩
    | plain hdot hbackslash hlabel =>
      rw [List.nil_append] at heq
      subst heq
      exact absurd hrest.head_eq hdot
    | decimal hdigits hvalue hlabel =>
      rw [List.nil_append] at heq
      subst heq
      exact absurd hrest.head_eq (by decide)
    | character hdigits hlabel =>
      rw [List.nil_append] at heq
      subst heq
      exact absurd hrest.head_eq (by decide)
  | plain hdot hbackslash hlabel ih =>
    cases h' with
    | empty =>
      rw [List.nil_append] at heq
      subst heq
      exact absurd hrest'.head_eq hdot
    | plain hdot' hbackslash' hlabel' =>
      simp only [List.cons_append, List.cons.injEq] at heq
      obtain ⟨rfl, hrests⟩ := heq
      obtain ⟨rfl, hsame⟩ := ih hlabel' hrests
      exact ⟨rfl, hsame⟩
    | decimal hdigits hvalue hlabel' => exact absurd (List.cons.inj heq).1 hbackslash
    | character hdigits hlabel' => exact absurd (List.cons.inj heq).1 hbackslash
  | @decimal d1 d2 d3 text label hdigits hvalue hlabel ih =>
    cases h' with
    | empty =>
      rw [List.nil_append] at heq
      subst heq
      exact absurd hrest'.head_eq (by decide)
    | plain hdot hbackslash hlabel' => exact absurd (List.cons.inj heq).1.symm hbackslash
    | decimal hdigits' hvalue' hlabel' =>
      simp only [List.cons_append, List.cons.injEq, true_and] at heq
      obtain ⟨rfl, rfl, rfl, hrests⟩ := heq
      obtain ⟨rfl, hsame⟩ := ih hlabel' hrests
      exact ⟨rfl, hsame⟩
    | @character byte text' label' hdigits' hlabel' =>
      simp only [List.cons_append, List.cons.injEq, true_and] at heq
      have hlook : startsWithDigits ((byte :: text') ++ rest') = true := by
        rw [List.cons_append, ← heq.1, ← heq.2]
        exact hdigits
      rw [startsWithDigits_append hrest', hdigits'] at hlook
      cases hlook
  | @character byte text label hdigits hlabel ih =>
    cases h' with
    | empty =>
      rw [List.nil_append] at heq
      subst heq
      exact absurd hrest'.head_eq (by decide)
    | plain hdot hbackslash hlabel' => exact absurd (List.cons.inj heq).1.symm hbackslash
    | decimal hdigits' hvalue' hlabel' =>
      simp only [List.cons_append, List.cons.injEq, true_and] at heq
      have hlook : startsWithDigits ((byte :: text) ++ rest) = true := by
        rw [List.cons_append, heq.1, heq.2]
        exact hdigits'
      rw [startsWithDigits_append hrest, hdigits] at hlook
      cases hlook
    | character hdigits' hlabel' =>
      simp only [List.cons_append, List.cons.injEq, true_and] at heq
      obtain ⟨rfl, hrests⟩ := heq
      obtain ⟨rfl, hsame⟩ := ih hlabel' hrests
      exact ⟨rfl, hsame⟩

/-- What follows the first label of a name. -/
def NameRest (rest : Bytes) (labels : List Bytes) : Prop :=
  (rest = [] ∧ labels = []) ∨ (rest = [0x2e] ∧ labels = []) ∨
    ∃ tail, rest = 0x2e :: tail ∧ NameText tail labels

theorem NameRest.endsLabel (h : NameRest rest labels) : EndsLabel rest := by
  rcases h with ⟨hrest, -⟩ | ⟨hrest, -⟩ | ⟨tail, hrest, -⟩
  · exact Or.inl hrest
  · exact Or.inr ⟨[], hrest⟩
  · exact Or.inr ⟨tail, hrest⟩

theorem NameText.first (h : NameText text labels) :
    ∃ front label rest tail, text = front ++ rest ∧ labels = label :: tail ∧
      LabelText front label ∧ label ≠ [] ∧ NameRest rest tail := by
  cases h with
  | last hlabel hne =>
    exact ⟨_, _, [], [], (List.append_nil _).symm, rfl, hlabel, hne, Or.inl ⟨rfl, rfl⟩⟩
  | final hlabel hne => exact ⟨_, _, _, [], rfl, rfl, hlabel, hne, Or.inr (Or.inl ⟨rfl, rfl⟩)⟩
  | more hlabel hne hrest =>
    exact ⟨_, _, _, _, rfl, rfl, hlabel, hne, Or.inr (Or.inr ⟨_, rfl, hrest⟩)⟩

/-- A text is a name in one way. -/
theorem NameText.unique {labels' : List Bytes} (h : NameText text labels)
    (h' : NameText text labels') : labels = labels' := by
  induction labels generalizing text labels' with
  | nil =>
    obtain ⟨front, label, rest, tail, -, hlabels, -⟩ := h.first
    cases hlabels
  | cons first labels ih =>
    obtain ⟨front, label, rest, tail, rfl, hlabels, hlabel, -, hrest⟩ := h.first
    obtain ⟨rfl, rfl⟩ := List.cons.inj hlabels
    obtain ⟨front', label', rest', tail', heq, rfl, hlabel', -, hrest'⟩ := h'.first
    obtain ⟨rfl, rfl⟩ := hlabel.unique hlabel' hrest.endsLabel hrest'.endsLabel heq
    congr 1
    rcases hrest with ⟨rfl, rfl⟩ | ⟨rfl, rfl⟩ | ⟨more, rfl, hmore⟩
    · rcases hrest' with ⟨-, rfl⟩ | ⟨hdot, -⟩ | ⟨more', hdot, -⟩
      · rfl
      · cases hdot
      · cases hdot
    · rcases hrest' with ⟨hnil, -⟩ | ⟨-, rfl⟩ | ⟨more', hdot, hmore'⟩
      · cases hnil
      · rfl
      · exact absurd (List.cons.inj hdot).2.symm hmore'.ne_nil
    · rcases hrest' with ⟨hnil, -⟩ | ⟨hdot, -⟩ | ⟨more', hdot, hmore'⟩
      · cases hnil
      · exact absurd (List.cons.inj hdot).2 hmore.ne_nil
      · rw [← (List.cons.inj hdot).2] at hmore'
        exact ih hmore hmore'

theorem NameText.nonempty (h : NameText text labels) : ∀ label ∈ labels, label ≠ [] := by
  induction h with
  | last hlabel hne => simpa using hne
  | final hlabel hne => simpa using hne
  | more hlabel hne hrest ih => exact List.forall_mem_cons.mpr ⟨hne, ih⟩

/-! ## `from_text` and its grammar -/

/-- A text of the grammar is a name when its labels keep the limits. -/
theorem NameText.fromText (h : NameText text labels) : fromText text = fromLabels labels := by
  have hdot : text ≠ [0x2e] := by
    rintro rfl
    obtain ⟨front, label, rest, tail, heq, -, hlabel, hne, -⟩ := h.first
    have hfront := hlabel.ne_nil hne
    rcases front with _ | ⟨byte, front⟩
    · exact hfront rfl
    · have hbyte := (List.cons.inj heq).1
      cases hlabel with
      | plain hplain => exact hplain hbyte.symm
      | decimal => exact absurd hbyte (by decide)
      | character => exact absurd hbyte (by decide)
  rw [Protocol.fromText, if_neg, h.scan, List.nil_append]
  rw [List.isEmpty_iff, not_or]
  exact ⟨h.ne_nil, hdot⟩

/-- What `from_text` returned for. -/
theorem fromText_cases (h : fromText text = .ok name) :
    ((text = [] ∨ text = [0x2e]) ∧ name.labels = []) ∨ NameText text name.labels := by
  rw [fromText] at h
  split at h
  · rename_i hroot
    obtain rfl := Except.ok.inj h
    rw [List.isEmpty_iff] at hroot
    exact Or.inl ⟨hroot, rfl⟩
  · rename_i hroot
    rw [List.isEmpty_iff, not_or] at hroot
    obtain ⟨labels, hcontinues, hname⟩ := continues_of_scan (Or.inl hroot.1) h
    rw [List.nil_append] at hname
    obtain ⟨rfl, -⟩ := fromLabels_spec hname
    exact Or.inr hcontinues.nameText

/-! ## Every access is inside the text -/

namespace Indexed

/-- The variables of the loop of `from_text`. -/
structure ScanState where
  index : Nat
  labels : List Bytes
  label : Bytes

/-- The code after the loop of `from_text`. -/
def finishText (labels : List Bytes) (label : Bytes) : Except DomainNameError DomainName :=
  if label.isEmpty then
    if labels.isEmpty then .error ⟨.emptyLabel, labels.length⟩ else fromLabels labels
  else fromLabels (labels ++ [label])

/-- An escape whose backslash stands at `index`. -/
def scanEscape (text : Bytes) (state : ScanState) :
    Option (Iteration ScanState (Except DomainNameError DomainName)) :=
  if state.index + 1 ≥ text.length then
    some (.done (.error ⟨.invalidEscape, state.labels.length⟩))
  else do
    let d1 ← text[state.index + 1]?
    if text.length - (state.index + 1) ≥ 3 then
      let d2 ← text[state.index + 2]?
      let d3 ← text[state.index + 3]?
      if isAsciiDigit d1 && isAsciiDigit d2 && isAsciiDigit d3 then
        if escapeValue d1 d2 d3 > 255 then
          return .done (.error ⟨.invalidEscape, state.labels.length⟩)
        else
          return .again ⟨state.index + 4, state.labels,
            state.label ++ [UInt8.ofNat (escapeValue d1 d2 d3)]⟩
      else return .again ⟨state.index + 2, state.labels, state.label ++ [d1]⟩
    else return .again ⟨state.index + 2, state.labels, state.label ++ [d1]⟩

/-- The body of the loop of `from_text`. -/
def scanBody (text : Bytes) (state : ScanState) :
    Option (Iteration ScanState (Except DomainNameError DomainName)) :=
  if state.index < text.length then do
    let value ← text[state.index]?
    if value = 0x2e then
      if state.label.isEmpty then
        return .done (.error ⟨.emptyLabel, state.labels.length⟩)
      else if state.index + 1 = text.length then
        return .done (fromLabels (state.labels ++ [state.label]))
      else return .again ⟨state.index + 1, state.labels ++ [state.label], []⟩
    else if value ≠ 0x5c then
      return .again ⟨state.index + 1, state.labels, state.label ++ [value]⟩
    else scanEscape text state
  else some (.done (finishText state.labels state.label))

/-- What the loop has left to read. -/
def ScanState.result (text : Bytes) (state : ScanState) : Except DomainNameError DomainName :=
  fromTextLoop (text.drop state.index) state.labels state.label

/-- What one pass does: the accesses are in range, and the result of the rest is the
result of the scanner. -/
structure ScanPass (text : Bytes) (state : ScanState)
    (pass : Option (Iteration ScanState (Except DomainNameError DomainName))) : Prop where
  inRange : pass.isSome
  again : ∀ next, pass = some (.again next) →
    state.index < next.index ∧ state.index < text.length ∧ next.result text = state.result text
  done : ∀ result, pass = some (.done result) → result = state.result text

theorem ScanPass.of_again {text : Bytes} {state next : ScanState}
    (hindex : state.index < next.index)
    (hinside : state.index < text.length) (hresult : next.result text = state.result text) :
    ScanPass text state (some (.again next)) where
  inRange := rfl
  again _ h := by
    obtain rfl := Iteration.again.inj (Option.some.inj h)
    exact ⟨hindex, hinside, hresult⟩
  done _ h := by
    cases h

theorem ScanPass.of_done {text : Bytes} {state : ScanState}
    {result : Except DomainNameError DomainName} (hresult : result = state.result text) :
    ScanPass text state (some (.done result)) where
  inRange := rfl
  again _ h := by
    cases h
  done _ h := by
    obtain rfl := Iteration.done.inj (Option.some.inj h)
    exact hresult

theorem scanEscape_pass {text rest : Bytes} {state : ScanState}
    (hdrop : text.drop state.index = 0x5c :: rest) :
    ScanPass text state (scanEscape text state) := by
  have hlength := congrArg List.length hdrop
  rw [List.length_drop, List.length_cons] at hlength
  have hread : ∀ offset, text[state.index + 1 + offset]? = rest[offset]? := by
    intro offset
    rw [Nat.add_assoc, Nat.add_comm 1, ← List.getElem?_drop, hdrop, List.getElem?_cons_succ]
  have hskip : ∀ count, text.drop (state.index + 1 + count) = rest.drop count := by
    intro count
    rw [Nat.add_assoc, Nat.add_comm 1, ← List.drop_drop, hdrop, List.drop_succ_cons]
  unfold scanEscape
  rcases rest with _ | ⟨d1, rest⟩
  · rw [List.length_nil] at hlength
    rw [if_pos (by omega)]
    refine .of_done ?_
    rw [ScanState.result, hdrop]
    rfl
  rw [List.length_cons] at hlength
  have h1 : text[state.index + 1]? = some d1 := hread 0
  rw [if_neg (by omega), h1]
  dsimp only [bind, Option.bind, pure]
  by_cases hthree : text.length - (state.index + 1) ≥ 3
  · rw [if_pos hthree]
    rcases rest with _ | ⟨d2, _ | ⟨d3, rest⟩⟩
    · rw [List.length_nil] at hlength
      omega
    · rw [List.length_singleton] at hlength
      omega
    have h2 : text[state.index + 2]? = some d2 := hread 1
    have h3 : text[state.index + 3]? = some d3 := hread 2
    rw [h2, h3]
    dsimp only
    split
    · rename_i hdigits
      split
      · rename_i hvalue
        refine .of_done ?_
        rw [ScanState.result, hdrop, fromTextLoop.eq_def]
        dsimp only
        rw [if_neg (by decide), if_neg (by decide), if_pos hdigits, if_pos hvalue]
      · rename_i hvalue
        refine .of_again (by dsimp only; omega) (by omega) ?_
        have hnext : text.drop (state.index + 4) = rest := hskip 3
        rw [ScanState.result, ScanState.result, hdrop, hnext,
          fromTextLoop_decimal hdigits (Nat.le_of_not_lt hvalue)]
    · rename_i hdigits
      refine .of_again (by dsimp only; omega) (by omega) ?_
      have hnext : text.drop (state.index + 2) = d2 :: d3 :: rest := hskip 1
      rw [ScanState.result, ScanState.result, hdrop, hnext, fromTextLoop_character]
      rw [startsWithDigits]
      exact Bool.eq_false_of_not_eq_true hdigits
  · rw [if_neg hthree]
    refine .of_again (by dsimp only; omega) (by omega) ?_
    have hnext : text.drop (state.index + 2) = rest := hskip 1
    rw [ScanState.result, ScanState.result, hdrop, hnext, fromTextLoop_character]
    rcases rest with _ | ⟨d2, _ | ⟨d3, rest⟩⟩
    · rfl
    · rfl
    · simp only [List.length_cons] at hlength
      omega

theorem scanBody_pass (text : Bytes) (state : ScanState) :
    ScanPass text state (scanBody text state) := by
  unfold scanBody
  by_cases hindex : state.index < text.length
  · rw [if_pos hindex]
    have hdrop : text.drop state.index = text[state.index] :: text.drop (state.index + 1) :=
      List.drop_eq_getElem_cons hindex
    rw [List.getElem?_eq_getElem hindex]
    dsimp only [bind, Option.bind, pure]
    split
    · rename_i hdot
      rw [hdot] at hdrop
      split
      · rename_i hempty
        refine .of_done ?_
        rw [ScanState.result, hdrop, fromTextLoop.eq_def]
        dsimp only
        rw [if_pos rfl, if_pos hempty]
      · rename_i hlabel
        have hne : state.label ≠ [] := by simpa using hlabel
        split
        · rename_i hend
          refine .of_done ?_
          rw [ScanState.result, hdrop, fromTextLoop_dot hne,
            if_pos (List.drop_eq_nil_of_le (by omega))]
        · rename_i hend
          refine .of_again (Nat.lt_succ_self _) hindex ?_
          have hmore : text.drop (state.index + 1) ≠ [] := by
            intro hnil
            have := List.drop_eq_nil_iff.mp hnil
            omega
          rw [ScanState.result, ScanState.result, hdrop, fromTextLoop_dot hne, if_neg hmore]
    · rename_i hdot
      split
      · rename_i hbackslash
        refine .of_again (Nat.lt_succ_self _) hindex ?_
        rw [ScanState.result, ScanState.result, hdrop, fromTextLoop_plain hdot hbackslash]
      · rename_i hbackslash
        rw [of_not_not hbackslash] at hdrop
        exact scanEscape_pass hdrop
  · rw [if_neg hindex]
    refine .of_done ?_
    rw [ScanState.result, List.drop_eq_nil_of_le (Nat.le_of_not_lt hindex), fromTextLoop, finishText]

/-- Another pass is nearer to the end of the text. -/
theorem scanBody_decreasing {text : Bytes} {state next : ScanState}
    (h : guarded (scanBody text) state = .again next) :
    text.length - next.index < text.length - state.index := by
  unfold guarded at h
  split at h
  · cases h
  · rename_i hbody
    obtain rfl := Iteration.again.inj h
    obtain ⟨hindex, hinside, -⟩ := (scanBody_pass text state).again _ hbody
    omega
  · cases h

/-- The loop of `from_text`. -/
def scanLoop (text : Bytes) :
    Terminating ScanState (Option (Except DomainNameError DomainName)) where
  body := guarded (scanBody text)
  measure state := text.length - state.index
  decreasing := scanBody_decreasing

/-- `DomainName::from_text`, with its accesses. -/
def fromText (text : Bytes) : Option (Except DomainNameError DomainName) :=
  if text.isEmpty ∨ text = [0x2e] then some (.ok DomainName.default)
  else exec (scanLoop text) ⟨0, [], []⟩

/-- No byte outside the text is read. -/
theorem fromText_eq (text : Bytes) : fromText text = some (Protocol.fromText text) := by
  have hloop : ∀ state, exec (scanLoop text) state = some (state.result text) := by
    intro state
    refine exec_induction (scanLoop text) (fun state result => result = some (state.result text))
      ?_ ?_ state
    · intro state next hbody hnext
      change guarded (scanBody text) state = _ at hbody
      unfold guarded at hbody
      split at hbody
      · cases hbody
      · rename_i hpass
        obtain rfl := Iteration.again.inj hbody
        rw [hnext, ((scanBody_pass text state).again _ hpass).2.2]
      · cases hbody
    · intro state result hbody
      change guarded (scanBody text) state = _ at hbody
      unfold guarded at hbody
      split at hbody
      · rename_i hpass
        have hrange := (scanBody_pass text state).inRange
        rw [hpass] at hrange
        cases hrange
      · cases hbody
      · rename_i hpass
        obtain rfl := Iteration.done.inj hbody
        rw [(scanBody_pass text state).done _ hpass]
  rw [fromText, Protocol.fromText]
  split
  · rfl
  · exact hloop ⟨0, [], []⟩

end Indexed

/-- `from_text` accepts exactly its grammar.  For every text: no access is out of
range; it is accepted exactly when it is empty, a single dot, or a text of the
grammar whose labels keep the limits; the labels are the ones it stands for, which
are determined by the text. -/
theorem fromText_accepts_grammar (text : Bytes) :
    Indexed.fromText text = some (fromText text) ∧
    ((∃ name, fromText text = .ok name) ↔
      text = [] ∨ text = [0x2e] ∨ ∃ labels, NameText text labels ∧
        (∀ label ∈ labels, label.length ≤ maxLabelSize) ∧
        wireSizeOf labels ≤ maxDomainWireSize) ∧
    (∀ name, fromText text = .ok name →
      ((text = [] ∨ text = [0x2e]) ∧ name.labels = []) ∨ NameText text name.labels) ∧
    ∀ labels labels', NameText text labels → NameText text labels' → labels = labels' := by
  refine ⟨Indexed.fromText_eq text, ?_, fun name => fromText_cases, fun _ _ => NameText.unique⟩
  constructor
  · intro haccepted
    obtain ⟨name, hname⟩ := haccepted
    rcases fromText_cases hname with ⟨hempty | hdot, -⟩ | hgrammar
    · exact Or.inl hempty
    · exact Or.inr (Or.inl hdot)
    · exact Or.inr (Or.inr ⟨name.labels, hgrammar, name.labels_ok.short, name.labels_ok.size⟩)
  · intro hform
    rcases hform with hempty | hdot | ⟨labels, hgrammar, hshort, hsize⟩
    · exact ⟨DomainName.default, by rw [fromText, if_pos (Or.inl (List.isEmpty_iff.mpr hempty))]⟩
    · exact ⟨DomainName.default, by rw [fromText, if_pos (Or.inr hdot)]⟩
    · rw [hgrammar.fromText]
      exact fromLabels_ok_iff.mpr ⟨hgrammar.nonempty, hshort, hsize⟩

end DnsPro.Protocol
