import DnsPro.Protocol.Indexing
import DnsPro.Protocol.Validation
import DnsPro.Protocol.Words

/-!
# The grammar of a message

The language that `parse_message` accepts, stated without the parser.  A name
is a relation between a position of the packet and the labels it expands to, with
the compression pointers that the expansion follows; a question, a record and a
message are built from it.  `decodeName_iff`, `parseQuestion_iff`,
`parseResourceRecord_iff` and `parseMessage_iff` say that each parser accepts
exactly what the grammar derives, and returns it.
-/

namespace DnsPro.Protocol

open DnsPro.Loop DnsPro.Result

/-! ## Names -/

/-- A compression pointer: where it stands, and where it points to. -/
structure Jump where
  source : Nat
  target : Nat

/-- At `position` stands a name that expands to `labels` through `jumps`, and its
encoding there ends before `next`. -/
inductive NameAt (packet : Bytes) : Nat → List Bytes → List Jump → Nat → Prop where
  | root {position : Nat} {rest : Bytes} (hdrop : packet.drop position = 0 :: rest) :
      NameAt packet position [] [] (position + 1)
  | label {position next : Nat} {label rest : Bytes} {labels : List Bytes} {jumps : List Jump}
      (hne : label ≠ []) (hshort : label.length ≤ maxLabelSize)
      (hdrop : packet.drop position = UInt8.ofNat label.length :: (label ++ rest))
      (hrest : NameAt packet (position + 1 + label.length) labels jumps next) :
      NameAt packet position (label :: labels) jumps next
  | pointer {position next : Nat} {high low : UInt8} {rest : Bytes} {labels : List Bytes}
      {jumps : List Jump} (hhigh : high &&& 0xc0 = 0xc0)
      (hdrop : packet.drop position = high :: low :: rest)
      (htarget : NameAt packet (pointerTarget high low) labels jumps next) :
      NameAt packet position labels (⟨position, pointerTarget high low⟩ :: jumps) (position + 2)

/-- A jump within the limits. -/
def Jump.Allowed (limits : ParseLimits) (jump : Jump) : Prop :=
  dnsHeaderSize ≤ jump.target ∧
    (limits.requireBackwardPointers = true → jump.target < jump.source)

/-- A name within the limits, whose encoding starts at `start` and ends at `next`,
not after `encodedEnd`. -/
structure NameIn (packet : Bytes) (limits : ParseLimits) (start encodedEnd : Nat)
    (labels : List Bytes) (next : Nat) : Prop where
  encoded : ∃ jumps, NameAt packet start labels jumps next ∧
    jumps.length ≤ limits.maximumCompressionPointers ∧ ∀ jump ∈ jumps, jump.Allowed limits
  size : wireSizeOf labels ≤ maxDomainWireSize
  ends : next ≤ encodedEnd

variable {packet : Bytes} {limits : ParseLimits} {start encodedEnd position next : Nat}
  {labels : List Bytes} {jumps : List Jump}

theorem NameAt.lt (h : NameAt packet position labels jumps next) : position < next := by
  induction h with
  | root hdrop => omega
  | label hne hshort hdrop hrest ih => omega
  | pointer hhigh hdrop htarget ih => omega

theorem lt_length_of_drop {byte : UInt8} {rest : Bytes} (h : packet.drop position = byte :: rest) :
    position < packet.length := by
  by_contra hle
  rw [List.drop_eq_nil_of_le (by omega)] at h
  cases h

theorem NameAt.lt_length (h : NameAt packet position labels jumps next) :
    position < packet.length := by
  cases h with
  | root hdrop => exact lt_length_of_drop hdrop
  | label hne hshort hdrop hrest => exact lt_length_of_drop hdrop
  | pointer hhigh hdrop htarget => exact lt_length_of_drop hdrop

theorem NameAt.nonempty (h : NameAt packet position labels jumps next) :
    ∀ label ∈ labels, label ≠ [] := by
  induction h with
  | root hdrop => simp
  | label hne hshort hdrop hrest ih => exact List.forall_mem_cons.mpr ⟨hne, ih⟩
  | pointer hhigh hdrop htarget ih => exact ih

theorem NameAt.short (h : NameAt packet position labels jumps next) :
    ∀ label ∈ labels, label.length ≤ maxLabelSize := by
  induction h with
  | root hdrop => simp
  | label hne hshort hdrop hrest ih => exact List.forall_mem_cons.mpr ⟨hshort, ih⟩
  | pointer hhigh hdrop htarget ih => exact ih

theorem NameIn.labelsOk (h : NameIn packet limits start encodedEnd labels next) :
    LabelsOk labels := by
  obtain ⟨jumps, hname, -, -⟩ := h.encoded
  exact ⟨hname.nonempty, hname.short, h.size⟩

/-- A length byte of a label is none of the special values. -/
theorem labelLength_plain {label : Bytes} (hne : label ≠ []) (h : label.length ≤ maxLabelSize) :
    UInt8.ofNat label.length ≠ 0 ∧ UInt8.ofNat label.length &&& 0xc0 = 0 := by
  refine ⟨labelLength_ne_zero hne h, ?_⟩
  simp only [maxLabelSize] at h
  generalize label.length = n at h
  interval_cases n <;> rfl

/-- The bytes at a position determine the name there. -/
theorem NameAt.unique {labels' : List Bytes} {jumps' : List Jump} {next' : Nat}
    (h : NameAt packet position labels jumps next)
    (h' : NameAt packet position labels' jumps' next') :
    labels = labels' ∧ jumps = jumps' ∧ next = next' := by
  induction h generalizing labels' jumps' next' with
  | root hdrop =>
    cases h' with
    | root hdrop' => exact ⟨rfl, rfl, rfl⟩
    | label hne hshort hdrop' hrest =>
      rw [hdrop] at hdrop'
      exact absurd (List.cons.inj hdrop').1.symm (labelLength_plain hne hshort).1
    | pointer hhigh hdrop' htarget =>
      rw [hdrop] at hdrop'
      rw [← (List.cons.inj hdrop').1] at hhigh
      exact absurd hhigh (by decide)
  | label hne hshort hdrop hrest ih =>
    cases h' with
    | root hdrop' =>
      rw [hdrop] at hdrop'
      exact absurd (List.cons.inj hdrop').1 (labelLength_plain hne hshort).1
    | label hne' hshort' hdrop' hrest' =>
      rw [hdrop] at hdrop'
      obtain ⟨hlength, hbytes⟩ := List.cons.inj hdrop'
      have hsame := congrArg UInt8.toNat hlength
      rw [labelLength_toNat hshort, labelLength_toNat hshort'] at hsame
      obtain ⟨rfl, -⟩ := List.append_inj hbytes hsame
      obtain ⟨rfl, rfl, rfl⟩ := ih hrest'
      exact ⟨rfl, rfl, rfl⟩
    | pointer hhigh hdrop' htarget =>
      rw [hdrop] at hdrop'
      rw [← (List.cons.inj hdrop').1, (labelLength_plain hne hshort).2] at hhigh
      exact absurd hhigh (by decide)
  | pointer hhigh hdrop htarget ih =>
    cases h' with
    | root hdrop' =>
      rw [hdrop] at hdrop'
      rw [(List.cons.inj hdrop').1] at hhigh
      exact absurd hhigh (by decide)
    | label hne hshort hdrop' hrest =>
      rw [hdrop] at hdrop'
      rw [(List.cons.inj hdrop').1, (labelLength_plain hne hshort).2] at hhigh
      exact absurd hhigh (by decide)
    | pointer hhigh' hdrop' htarget' =>
      rw [hdrop] at hdrop'
      obtain ⟨rfl, hbytes⟩ := List.cons.inj hdrop'
      obtain ⟨rfl, -⟩ := List.cons.inj hbytes
      obtain ⟨rfl, rfl, -⟩ := ih htarget'
      exact ⟨rfl, rfl, rfl⟩

/-- What a jump leads to is a name whose jumps are the ones after it. -/
theorem NameAt.after_jump (h : NameAt packet position labels jumps next) {front back : List Jump}
    {jump : Jump} (hjumps : jumps = front ++ jump :: back) :
    ∃ labels' next', NameAt packet jump.target labels' back next' := by
  induction h generalizing front with
  | root hdrop => simp at hjumps
  | label hne hshort hdrop hrest ih => exact ih hjumps
  | pointer hhigh hdrop htarget ih =>
    cases front with
    | nil =>
      obtain ⟨rfl, rfl⟩ := List.cons.inj hjumps
      exact ⟨_, _, htarget⟩
    | cons first front => exact ih (List.cons.inj hjumps).2

/-- An expansion that ends follows no pointer twice. -/
theorem NameAt.targets_nodup (h : NameAt packet position labels jumps next) :
    (jumps.map Jump.target).Nodup := by
  induction h with
  | root hdrop => exact List.nodup_nil
  | label hne hshort hdrop hrest ih => exact ih
  | pointer hhigh hdrop htarget ih =>
    refine List.nodup_cons.mpr ⟨?_, ih⟩
    intro hmem
    obtain ⟨jump, hjump, hsame⟩ := List.mem_map.mp hmem
    obtain ⟨front, back, hsplit⟩ := List.append_of_mem hjump
    obtain ⟨labels', next', hagain⟩ := htarget.after_jump hsplit
    rw [hsame] at hagain
    -- the same name would have fewer jumps than itself
    have hlength := congrArg List.length (hsplit.symm.trans (htarget.unique hagain).2.1)
    simp only [List.length_append, List.length_cons] at hlength
    omega

/-- The bytes of the labels, each with its length. -/
theorem wireSizeOf_cons (label : Bytes) (labels : List Bytes) :
    wireSizeOf (label :: labels) = label.length + 1 + wireSizeOf labels := by
  simp only [wireSizeOf, List.map_cons, List.sum_cons]
  omega

/-- The wire form of the labels is a name without pointers. -/
theorem nameAt_of_drop {rest : Bytes} (hnonempty : ∀ label ∈ labels, label ≠ [])
    (hshort : ∀ label ∈ labels, label.length ≤ maxLabelSize)
    (hdrop : packet.drop position = wireOf labels ++ rest) :
    NameAt packet position labels [] (position + wireSizeOf labels) := by
  induction labels generalizing position with
  | nil => exact .root hdrop
  | cons label labels ih =>
    obtain ⟨hne, hnonempty⟩ := List.forall_mem_cons.mp hnonempty
    obtain ⟨hlabel, hshort⟩ := List.forall_mem_cons.mp hshort
    have hfirst : packet.drop position =
        UInt8.ofNat label.length :: (label ++ (wireOf labels ++ rest)) := by
      rw [hdrop]
      simp [wireOf]
    have hnext : packet.drop (position + 1 + label.length) = wireOf labels ++ rest := by
      have := drop_chunk (UInt8.ofNat label.length :: label) hfirst
      rwa [List.length_cons, Nat.add_comm label.length, ← Nat.add_assoc] at this
    rw [wireSizeOf_cons, Nat.add_comm label.length, ← Nat.add_assoc, ← Nat.add_assoc]
    exact .label hne hlabel hfirst (ih hnonempty hshort hnext)

/-- A name without pointers is the wire form of its labels. -/
theorem NameAt.chunkAt (h : NameAt packet position labels [] next) :
    ChunkAt packet position (wireOf labels) next := by
  generalize hjumps : ([] : List Jump) = jumps at h
  induction h with
  | root hdrop => exact chunkAt_of_drop hdrop
  | label hne hshort hdrop hrest ih =>
    rename_i position next label rest labels jumps
    have hfirst : ChunkAt packet position (UInt8.ofNat label.length :: label)
        (position + (label.length + 1)) := chunkAt_of_drop hdrop
    have hrest := ih hjumps
    rw [Nat.add_assoc, Nat.add_comm 1] at hrest
    have hboth := hfirst.append hrest
    rwa [show (UInt8.ofNat label.length :: label) ++ wireOf labels = wireOf (label :: labels) by
      simp [wireOf]] at hboth
  | pointer hhigh hdrop htarget ih => cases hjumps

/-! ## The loop of `decode_name` -/

variable {state nextState : DecodeState} {rest : Bytes}

/-- The position is still inside the bytes that the name may occupy. -/
def DecodeState.Inside (state : DecodeState) (encodedEnd offset : Nat) : Prop :=
  state.followedPointer = true ∨ offset ≤ encodedEnd

theorem not_outside (h : state.Inside encodedEnd (position + 1)) :
    ¬ (!state.followedPointer && decide (position ≥ encodedEnd)) = true := by
  rcases h with hfollowed | hle
  · simp [hfollowed]
  · simp only [Bool.and_eq_true, decide_eq_true_eq, not_and]
    intro _
    omega

theorem inside_of_not_outside
    (h : ¬ (!state.followedPointer && decide (position ≥ encodedEnd)) = true) :
    state.Inside encodedEnd (position + 1) := by
  cases hfollowed : state.followedPointer with
  | true => exact Or.inl hfollowed
  | false =>
    simp only [hfollowed, Bool.not_false, Bool.true_and, decide_eq_true_eq] at h
    exact Or.inr (by omega)

/-- The name ends at a zero byte. -/
theorem decodeBody_root (hdrop : packet.drop state.position = 0 :: rest)
    (hinside : state.Inside encodedEnd (state.position + 1)) :
    decodeBody packet start encodedEnd limits state =
      .done (finishName start state.labels
        (if state.followedPointer then state.nextOffset else state.position + 1)) := by
  rw [decodeBody, hdrop]
  dsimp only
  rw [if_neg (not_outside hinside), if_pos rfl]

/-- The state after a label. -/
def DecodeState.pushLabel (state : DecodeState) (label : Bytes) : DecodeState :=
  { state with
    labels := state.labels ++ [label]
    expandedWireSize := state.expandedWireSize + (label.length + 1)
    position := state.position + 1 + label.length
    nextOffset :=
      if state.followedPointer then state.nextOffset else state.position + 1 + label.length }

theorem decodeBody_label {label : Bytes} (hne : label ≠ []) (hshort : label.length ≤ maxLabelSize)
    (hdrop : packet.drop state.position = UInt8.ofNat label.length :: (label ++ rest))
    (hinside : state.Inside encodedEnd (state.position + 1 + label.length))
    (hsize : state.expandedWireSize + (label.length + 1) ≤ maxDomainWireSize) :
    decodeBody packet start encodedEnd limits state = .again (state.pushLabel label) := by
  obtain ⟨hzero, hmask⟩ := labelLength_plain hne hshort
  have hnat := labelLength_toNat hshort
  have hfirst : state.Inside encodedEnd (state.position + 1) := hinside.imp id (by omega)
  have hfits : ¬ (label.length > (label ++ rest).length ∨
      (!state.followedPointer) = true ∧
        (state.position + 1 > encodedEnd ∨ label.length > encodedEnd - (state.position + 1))) := by
    rintro (h | ⟨hfollowed, h⟩)
    · simp at h
    · rcases hinside with hfollowed' | hle
      · simp [hfollowed'] at hfollowed
      · omega
  rw [decodeBody, hdrop]
  dsimp only
  rw [if_neg (not_outside hfirst), if_neg hzero, hmask, if_neg (by decide), if_neg (by simp),
    if_neg (by omega), readLabel, hnat, if_neg hfits, if_neg (by omega), List.take_left]
  rfl

theorem decodeBody_pointer (start : Nat) {high low : UInt8} (hhigh : high &&& 0xc0 = 0xc0)
    (hdrop : packet.drop state.position = high :: low :: rest)
    (hinside : state.Inside encodedEnd (state.position + 2))
    (hlength : pointerTarget high low < packet.length)
    (hallowed : Jump.Allowed limits ⟨state.position, pointerTarget high low⟩)
    (hvisited : pointerTarget high low ∉ state.visitedPointers)
    (hlimit : state.visitedPointers.length < limits.maximumCompressionPointers) :
    ∃ nextState, decodeBody packet start encodedEnd limits state = .again nextState := by
  obtain ⟨hheader, hbackward⟩ := hallowed
  dsimp only at hheader hbackward
  have hfirst : state.Inside encodedEnd (state.position + 1) := hinside.imp id (by omega)
  have hzero : ¬ high = 0 := by
    rintro rfl
    exact absurd hhigh (by decide)
  have hnot : ¬ (limits.requireBackwardPointers &&
      decide (pointerTarget high low ≥ state.position)) = true := by
    simp only [Bool.and_eq_true, decide_eq_true_eq, not_and]
    intro hrequired
    have := hbackward hrequired
    omega
  rw [decodeBody, hdrop]
  dsimp only
  rw [if_neg (not_outside hfirst), if_neg hzero, if_pos hhigh]
  unfold followPointer
  dsimp only
  rw [if_neg (not_outside hinside), if_neg (by omega), if_neg (by omega), if_neg hnot,
    dif_neg hvisited, if_neg (by omega)]
  exact ⟨_, rfl⟩

/-- What another iteration has read: a label, or a pointer. -/
theorem decodeBody_again (h : decodeBody packet start encodedEnd limits state = .again nextState) :
    (∃ label rest, label ≠ [] ∧ label.length ≤ maxLabelSize ∧
      packet.drop state.position = UInt8.ofNat label.length :: (label ++ rest) ∧
      state.Inside encodedEnd (state.position + 1 + label.length) ∧
      nextState = state.pushLabel label) ∨
    ∃ high low rest, high &&& 0xc0 = 0xc0 ∧ packet.drop state.position = high :: low :: rest ∧
      state.Inside encodedEnd (state.position + 2) ∧
      Jump.Allowed limits ⟨state.position, pointerTarget high low⟩ ∧
      state.visitedPointers.length < limits.maximumCompressionPointers ∧
      nextState.labels = state.labels ∧
      nextState.visitedPointers = pointerTarget high low :: state.visitedPointers ∧
      nextState.position = pointerTarget high low ∧
      nextState.nextOffset =
        (if state.followedPointer then state.nextOffset else state.position + 2) ∧
      nextState.expandedWireSize = state.expandedWireSize ∧ nextState.followedPointer = true := by
  unfold decodeBody at h
  split at h
  · cases h
  rename_i length rest hdrop
  split at h
  · cases h
  split at h
  · cases h
  rename_i hzero
  split at h
  · rename_i hhigh
    obtain ⟨second, tail, rfl, hinside, -, hheader, hbackward, -, hlimit, hlabels, hvisited,
      hposition, hoffset, hsize, hfollowed⟩ := followPointer_again h
    exact Or.inr ⟨length, second, tail, hhigh, hdrop, hinside.imp id (by omega),
      ⟨hheader, hbackward⟩, hlimit, hlabels, hvisited, hposition, hoffset, hsize, hfollowed⟩
  split at h
  · cases h
  split at h
  · cases h
  rename_i hshort
  unfold readLabel at h
  split at h
  · cases h
  rename_i hfits
  split at h
  · cases h
  rw [not_or, not_and] at hfits
  obtain ⟨hpresent, hencoded⟩ := hfits
  have htake : (rest.take length.toNat).length = length.toNat := by
    rw [List.length_take]
    omega
  have hpositive : length.toNat ≠ 0 := fun h => hzero (UInt8.toNat_inj.mp h)
  refine Or.inl ⟨rest.take length.toNat, rest.drop length.toNat, ?_, ?_, ?_, ?_, ?_⟩
  · rw [← List.length_pos_iff, htake]
    omega
  · rw [htake]
    omega
  · rw [htake, UInt8.ofNat_toNat, List.take_append_drop, hdrop]
  · rw [htake]
    cases hfollowed : state.followedPointer with
    | true => exact Or.inl hfollowed
    | false =>
      have := hencoded (by simp [hfollowed])
      exact Or.inr (by omega)
  · rw [← Iteration.again.inj h, DecodeState.pushLabel, htake]

/-- What the iteration that leaves with a name has read. -/
theorem decodeBody_done {decoded : DecodedName}
    (h : decodeBody packet start encodedEnd limits state = .done (.ok decoded)) :
    (∃ rest, packet.drop state.position = 0 :: rest) ∧
      state.Inside encodedEnd (state.position + 1) ∧
      ∃ hok : LabelsOk state.labels, decoded = ⟨DomainName.ofLabels state.labels hok,
        if state.followedPointer then state.nextOffset else state.position + 1⟩ := by
  unfold decodeBody at h
  split at h
  · cases h
  rename_i length rest hdrop
  split at h
  · cases h
  rename_i houtside
  split at h
  · rename_i hzero
    subst hzero
    refine ⟨⟨rest, hdrop⟩, inside_of_not_outside houtside, ?_⟩
    have hfinish := Iteration.done.inj h
    unfold finishName at hfinish
    split at hfinish
    · rename_i name hname
      have hok := fromLabels_ok_iff.mp ⟨name, hname⟩
      rw [fromLabels_eq_ok hok] at hname
      exact ⟨hok, by rw [← Except.ok.inj hfinish, ← Except.ok.inj hname]⟩
    · split at hfinish <;> cases hfinish
  split at h
  · unfold followPointer at h
    split at h
    · cases h
    · split_ifs at h
      all_goals cases h
  split at h
  · cases h
  split at h
  · cases h
  · unfold readLabel at h
    split_ifs at h
    all_goals cases h

theorem finishName_ok (hok : LabelsOk labels) :
    finishName start labels next = .ok ⟨DomainName.ofLabels labels hok, next⟩ := by
  rw [finishName, fromLabels_eq_ok hok]

/-- A name within the limits takes the loop to its labels.  The state may be in
the middle of a longer name, of which it has read some labels and pointers. -/
theorem NameAt.exec (h : NameAt packet position labels jumps next) (start : Nat)
    (state : DecodeState) (hposition : state.position = position)
    (hsize : state.expandedWireSize + wireSizeOf labels ≤ maxDomainWireSize + 1)
    (hinside : state.Inside encodedEnd next)
    (hvisited : ∀ jump ∈ jumps, jump.target ∉ state.visitedPointers)
    (hlimit : state.visitedPointers.length + jumps.length ≤ limits.maximumCompressionPointers)
    (hallowed : ∀ jump ∈ jumps, jump.Allowed limits) :
    exec (decodeLoop packet start encodedEnd limits) state =
      finishName start (state.labels ++ labels)
        (if state.followedPointer then state.nextOffset else next) := by
  induction h generalizing state with
  | root hdrop =>
    subst hposition
    rw [List.append_nil]
    exact exec_done (decodeBody_root hdrop hinside)
  | label hne hshort hdrop hrest ih =>
    subst hposition
    rename_i next label rest labels jumps
    rw [wireSizeOf_cons] at hsize
    have hpositive : 1 ≤ wireSizeOf labels := by
      simp only [wireSizeOf]
      omega
    have hwithin : state.Inside encodedEnd (state.position + 1 + label.length) :=
      hinside.imp id (by have := hrest.lt; omega)
    rw [exec_again (decodeBody_label hne hshort hdrop hwithin (by omega)),
      ih (state.pushLabel label) rfl (by simp only [DecodeState.pushLabel]; omega) hinside hvisited
        hlimit hallowed]
    simp only [DecodeState.pushLabel, List.append_assoc, List.singleton_append]
    congr 1
    split
    · rfl
    · rfl
  | pointer hhigh hdrop htarget ih =>
    subst hposition
    rename_i next high low rest labels jumps
    rw [List.length_cons] at hlimit
    have htargets := (NameAt.pointer hhigh hdrop htarget).targets_nodup
    rw [List.map_cons, List.nodup_cons] at htargets
    obtain ⟨nextState, hbody⟩ := decodeBody_pointer start hhigh hdrop hinside htarget.lt_length
      (hallowed _ List.mem_cons_self) (hvisited _ List.mem_cons_self) (by omega)
    rcases decodeBody_again hbody with ⟨label, rest', hne, hshort, hdrop', -⟩ |
      ⟨high', low', rest', -, hdrop', -, -, -, hlabels, hpointers, hmoved, hoffset, hexpanded,
        hfollowed⟩
    · rw [hdrop] at hdrop'
      rw [(List.cons.inj hdrop').1, (labelLength_plain hne hshort).2] at hhigh
      exact absurd hhigh (by decide)
    · rw [hdrop] at hdrop'
      obtain ⟨rfl, hbytes⟩ := List.cons.inj hdrop'
      obtain ⟨rfl, -⟩ := List.cons.inj hbytes
      rw [exec_again hbody, ih nextState hmoved (by rw [hexpanded]; exact hsize) (Or.inl hfollowed)
        ?_ (by rw [hpointers, List.length_cons]; omega)
        (fun jump hjump => hallowed jump (List.mem_cons_of_mem _ hjump)), hlabels, hfollowed, hoffset]
      · rfl
      · intro jump hjump hmem
        rw [hpointers] at hmem
        rcases List.mem_cons.mp hmem with hsame | hold
        · have hlater : jump.target ∈ jumps.map Jump.target := List.mem_map_of_mem hjump
          rw [hsame] at hlater
          exact htargets.1 hlater
        · exact hvisited jump (List.mem_cons_of_mem _ hjump) hold

/-- A name that the loop returns stands at the position of the state. -/
theorem nameAt_of_exec (state : DecodeState) :
    ∀ decoded, exec (decodeLoop packet start encodedEnd limits) state = .ok decoded →
      ∃ labels jumps next, ∃ hok : LabelsOk (state.labels ++ labels),
        NameAt packet state.position labels jumps next ∧
        decoded = ⟨DomainName.ofLabels (state.labels ++ labels) hok,
          if state.followedPointer then state.nextOffset else next⟩ ∧
        state.Inside encodedEnd next ∧
        (jumps ≠ [] →
          state.visitedPointers.length + jumps.length ≤ limits.maximumCompressionPointers) ∧
        ∀ jump ∈ jumps, jump.Allowed limits := by
  refine exec_induction (decodeLoop packet start encodedEnd limits)
    (fun state result => ∀ decoded, result = .ok decoded →
      ∃ labels jumps next, ∃ hok : LabelsOk (state.labels ++ labels),
        NameAt packet state.position labels jumps next ∧
        decoded = ⟨DomainName.ofLabels (state.labels ++ labels) hok,
          if state.followedPointer then state.nextOffset else next⟩ ∧
        state.Inside encodedEnd next ∧
        (jumps ≠ [] →
          state.visitedPointers.length + jumps.length ≤ limits.maximumCompressionPointers) ∧
        ∀ jump ∈ jumps, jump.Allowed limits) ?_ ?_ state
  · intro state nextState hbody ih decoded hdecoded
    obtain ⟨labels, jumps, next, hok, hname, rfl, hinside, hlimit, hallowed⟩ := ih decoded hdecoded
    rcases decodeBody_again hbody with ⟨label, rest, hne, hshort, hdrop, -, rfl⟩ |
      ⟨high, low, rest, hhigh, hdrop, hinside', hjump, hroom, hlabels, hpointers, hmoved, hoffset, -,
        hfollowed⟩
    · simp only [DecodeState.pushLabel, List.append_assoc, List.singleton_append] at hok ⊢
      refine ⟨label :: labels, jumps, next, hok, .label hne hshort hdrop hname, ?_, hinside, hlimit,
        hallowed⟩
      congr 1
      split
      · rfl
      · rfl
    · rw [hmoved] at hname
      simp only [hlabels, hfollowed, if_true, hoffset] at hok ⊢
      refine ⟨labels, _, state.position + 2, hok, .pointer hhigh hdrop hname, rfl, hinside', ?_,
        List.forall_mem_cons.mpr ⟨hjump, hallowed⟩⟩
      intro _
      rw [List.length_cons]
      cases jumps with
      | nil =>
        simp only [List.length_nil]
        omega
      | cons jump jumps =>
        have := hlimit (by simp)
        rw [hpointers, List.length_cons] at this
        omega
  · rintro state _ hbody decoded rfl
    obtain ⟨⟨rest, hdrop⟩, hinside, hok, rfl⟩ := decodeBody_done hbody
    refine ⟨[], [], state.position + 1, by rwa [List.append_nil], .root hdrop, ?_, hinside,
      fun h => absurd rfl h, by simp⟩
    simp only [List.append_nil]

/-- `decode_name` accepts the names of the grammar, and returns their labels. -/
theorem decodeName_iff {decoded : DecodedName} :
    decodeName packet start encodedEnd limits = .ok decoded ↔
      ∃ labels, ∃ hok : LabelsOk labels,
        NameIn packet limits start encodedEnd labels decoded.nextOffset ∧
        decoded.name = DomainName.ofLabels labels hok := by
  constructor
  · intro h
    obtain ⟨labels, jumps, next, hok, hname, rfl, hinside, hlimit, hallowed⟩ :=
      nameAt_of_exec (DecodeState.start start) decoded h
    refine ⟨labels, hok, ⟨⟨jumps, hname, ?_, hallowed⟩, hok.size, ?_⟩, rfl⟩
    · cases jumps with
      | nil => exact Nat.zero_le _
      | cons jump jumps =>
        have := hlimit (by simp)
        simpa [DecodeState.start] using this
    · simpa [DecodeState.Inside, DecodeState.start] using hinside
  · rintro ⟨labels, hok, ⟨⟨jumps, hname, hlimit, hallowed⟩, hsize, hends⟩, hdecoded⟩
    have hexec := hname.exec start (DecodeState.start start) rfl
      (by simp only [DecodeState.start]; omega) (Or.inr hends) (by simp [DecodeState.start])
        (by simpa [DecodeState.start] using hlimit) hallowed
    rw [decodeName, hexec]
    refine (finishName_ok hok).trans ?_
    rw [← hdecoded]
    rfl

/-! ## Questions and records -/

/-- A question stands at `offset` and ends at `next`. -/
def QuestionAt (packet : Bytes) (limits : ParseLimits) (offset : Nat) (question : Question)
    (next : Nat) : Prop :=
  ∃ labels afterName, ∃ hok : LabelsOk labels,
    NameIn packet limits offset packet.length labels afterName ∧
    question.name = DomainName.ofLabels labels hok ∧
    ChunkAt packet afterName (bytes16 question.type ++ bytes16 question.questionClass) next

theorem parseQuestion_iff {offset : Nat} {question : Question} :
    parseQuestion packet limits offset = .ok (question, next) ↔
      QuestionAt packet limits offset question next := by
  constructor
  · intro h
    rw [parseQuestion] at h
    obtain ⟨decoded, hdecoded, h⟩ := bind_eq_ok.mp h
    obtain ⟨⟨type, afterType⟩, htype, h⟩ := bind_eq_ok.mp h
    obtain ⟨⟨questionClass, afterClass⟩, hclass, h⟩ := bind_eq_ok.mp h
    obtain ⟨rfl, rfl⟩ := Prod.mk.inj (Except.ok.inj h)
    obtain ⟨labels, hok, hname, hlabels⟩ := decodeName_iff.mp hdecoded
    exact ⟨labels, decoded.nextOffset, hok, hname, hlabels,
      (readU16_iff.mp htype).append (readU16_iff.mp hclass)⟩
  · rintro ⟨labels, afterName, hok, hname, hlabels, hwords⟩
    obtain ⟨afterType, htype, hclass⟩ := hwords.split
    have hdecoded : decodeName packet offset packet.length limits =
        .ok ⟨question.name, afterName⟩ := decodeName_iff.mpr ⟨labels, hok, hname, hlabels⟩
    rw [parseQuestion, hdecoded]
    simp only [ok_bind, readU16_iff.mpr htype, readU16_iff.mpr hclass, pure_eq_ok]

/-- A character-string: the number of its bytes, and the bytes. -/
def characterString (text : Bytes) : Bytes := UInt8.ofNat text.length :: text

/-- The texts have lengths that fit in one byte. -/
def TextsOk (texts : List Bytes) : Prop := ∀ text ∈ texts, text.length ≤ 255

/-- The form that the type of a record requires of its data.  The data is
`rdata`, between `rdataOffset` and `rdataEnd`; a name in it may point outside. -/
def RdataForm (packet : Bytes) (limits : ParseLimits) (rdataOffset rdataEnd : Nat) (rdata : Bytes) :
    Option RecordType → Prop
  | some .a => rdata.length = 4
  | some .aaaa => rdata.length = 16
  | some .ns | some .cname | some .ptr =>
    ∃ labels, NameIn packet limits rdataOffset rdataEnd labels rdataEnd
  | some .mx => ∃ labels, NameIn packet limits (rdataOffset + 2) rdataEnd labels rdataEnd
  | some .soa => ∃ primary mailbox middle last,
    NameIn packet limits rdataOffset rdataEnd primary middle ∧
    NameIn packet limits middle rdataEnd mailbox last ∧ last + 20 = rdataEnd
  | some .minfo => ∃ responsible error middle,
    NameIn packet limits rdataOffset rdataEnd responsible middle ∧
    NameIn packet limits middle rdataEnd error rdataEnd
  | some .hinfo => ∃ cpu os, TextsOk [cpu, os] ∧ rdata = characterString cpu ++ characterString os
  | some .txt => ∃ texts, texts ≠ [] ∧ TextsOk texts ∧ rdata = texts.flatMap characterString
  | some .opt | none => True

/-- A record stands at `offset` and ends at `next`. -/
def RecordAt (packet : Bytes) (limits : ParseLimits) (offset : Nat) (record : ResourceRecord)
    (next : Nat) : Prop :=
  ∃ labels afterName rdataLength, ∃ hok : LabelsOk labels,
    NameIn packet limits offset packet.length labels afterName ∧
    record.name = DomainName.ofLabels labels hok ∧
    ChunkAt packet afterName (bytes16 record.type ++ (bytes16 record.recordClass ++
      (bytes32 record.ttl ++ bytes16 rdataLength))) record.rdataOffset ∧
    ChunkAt packet record.rdataOffset record.rdata next ∧
    record.rdata.length = rdataLength.toNat ∧
    RdataForm packet limits record.rdataOffset next record.rdata (RecordType.ofCode? record.type)

theorem characterStringsBody_again {state nextState : Bytes × Nat}
    (h : characterStringsBody state = .again nextState) :
    ∃ text, text.length ≤ 255 ∧ state.1 = characterString text ++ nextState.1 ∧
      nextState.2 = state.2 + 1 := by
  unfold characterStringsBody at h
  split at h
  · cases h
  rename_i size rest hstate
  split at h
  · cases h
  rename_i hpresent
  obtain rfl := Iteration.again.inj h
  have htake : (rest.take size.toNat).length = size.toNat := by
    rw [List.length_take]
    omega
  refine ⟨rest.take size.toNat, ?_, ?_, rfl⟩
  · rw [htake]
    have := size.toNat_lt
    omega
  · rw [characterString, htake, UInt8.ofNat_toNat, List.cons_append, List.take_append_drop, hstate]

theorem characterStringsBody_text {text rest : Bytes} (htext : text.length ≤ 255) (count : Nat) :
    characterStringsBody (characterString text ++ rest, count) = .again (rest, count + 1) := by
  have hnat : (UInt8.ofNat text.length).toNat = text.length := by
    rw [UInt8.toNat_ofNat']
    omega
  rw [characterStringsBody, characterString, List.cons_append]
  dsimp only
  rw [hnat, if_neg (by simp), List.drop_left]

/-- The loop counts the character-strings that fill the data. -/
theorem characterStrings_iff {rdata : Bytes} {count : Nat} :
    characterStrings rdata = some count ↔
      ∃ texts, texts.length = count ∧ TextsOk texts ∧ rdata = texts.flatMap characterString := by
  constructor
  · intro h
    obtain ⟨texts, hcount, htexts, hbytes⟩ := exec_induction characterStringsLoop
      (fun state result => ∀ count, result = some count → ∃ texts : List Bytes,
        count = state.2 + texts.length ∧ TextsOk texts ∧ state.1 = texts.flatMap characterString)
      (by
        intro state nextState hbody ih count hresult
        obtain ⟨texts, hcount, htexts, hbytes⟩ := ih count hresult
        obtain ⟨text, htext, hstate, hnext⟩ := characterStringsBody_again hbody
        refine ⟨text :: texts, ?_, List.forall_mem_cons.mpr ⟨htext, htexts⟩, ?_⟩
        · rw [hcount, hnext, List.length_cons]
          omega
        · rw [hstate, hbytes, List.flatMap_cons])
      (by
        rintro state _ hbody count rfl
        change characterStringsBody state = _ at hbody
        unfold characterStringsBody at hbody
        split at hbody
        · rename_i hstate
          refine ⟨[], ?_, by simp [TextsOk], hstate⟩
          have := Option.some.inj (Iteration.done.inj hbody)
          simp [this]
        · split at hbody <;> cases hbody)
      (rdata, 0) count h
    exact ⟨texts, by simpa using hcount.symm, htexts, hbytes⟩
  · rintro ⟨texts, rfl, htexts, rfl⟩
    suffices hloop : ∀ count, exec characterStringsLoop (texts.flatMap characterString, count) =
        some (count + texts.length) by
      simpa [characterStrings] using hloop 0
    induction texts with
    | nil =>
      intro count
      exact exec_done rfl
    | cons text texts ih =>
      intro count
      obtain ⟨htext, htexts⟩ := List.forall_mem_cons.mp htexts
      rw [List.flatMap_cons, exec_again (characterStringsBody_text htext count), ih htexts,
        List.length_cons]
      congr 1
      omega

theorem validateSingleName_iff {requiredEnd : Nat} :
    validateSingleName packet limits start requiredEnd = .ok () ↔
      ∃ labels, NameIn packet limits start requiredEnd labels requiredEnd := by
  constructor
  · intro h
    rw [validateSingleName] at h
    obtain ⟨decoded, hdecoded, h⟩ := bind_eq_ok.mp h
    obtain ⟨labels, -, hname, -⟩ := decodeName_iff.mp hdecoded
    split at h
    · cases h
    · rename_i hends
      rw [not_not] at hends
      exact ⟨labels, hends ▸ hname⟩
  · rintro ⟨labels, hname⟩
    have hdecoded : decodeName packet start requiredEnd limits =
        .ok ⟨DomainName.ofLabels labels hname.labelsOk, requiredEnd⟩ :=
      decodeName_iff.mpr ⟨labels, hname.labelsOk, hname, rfl⟩
    rw [validateSingleName, hdecoded, ok_bind, if_neg (by simp)]
    rfl

/-- The `switch` on the type accepts the data of the form that the type requires. -/
theorem validateRdata_iff {type : UInt16} {rdataOffset rdataEnd : Nat} {rdata : Bytes}
    (hend : rdataEnd = rdataOffset + rdata.length) :
    validateRdata packet limits type rdataOffset rdataEnd rdata = .ok () ↔
      RdataForm packet limits rdataOffset rdataEnd rdata (RecordType.ofCode? type) := by
  unfold validateRdata
  cases RecordType.ofCode? type with
  | none => exact ⟨fun _ => trivial, fun _ => rfl⟩
  | some type =>
    cases type with
    | a =>
      dsimp only [RdataForm]
      split <;> simp_all
    | aaaa =>
      dsimp only [RdataForm]
      split <;> simp_all
    | ns => exact validateSingleName_iff
    | cname => exact validateSingleName_iff
    | ptr => exact validateSingleName_iff
    | mx =>
      dsimp only [RdataForm]
      split
      · -- a name has at least one byte
        rename_i hshort
        simp only [reduceCtorEq, false_iff, not_exists]
        intro labels hname
        obtain ⟨jumps, hname, -⟩ := hname.encoded
        have := hname.lt
        omega
      · exact validateSingleName_iff
    | soa =>
      dsimp only [RdataForm]
      constructor
      · intro h
        obtain ⟨primary, hprimary, h⟩ := bind_eq_ok.mp h
        obtain ⟨mailbox, hmailbox, h⟩ := bind_eq_ok.mp h
        obtain ⟨primaryLabels, -, hprimary, -⟩ := decodeName_iff.mp hprimary
        obtain ⟨mailboxLabels, -, hmailbox, -⟩ := decodeName_iff.mp hmailbox
        split at h
        · cases h
        · exact ⟨primaryLabels, mailboxLabels, primary.nextOffset, mailbox.nextOffset, hprimary,
            hmailbox, by omega⟩
      · rintro ⟨primaryLabels, mailboxLabels, middle, last, hprimary, hmailbox, hlast⟩
        have hfirst : decodeName packet rdataOffset rdataEnd limits =
            .ok ⟨DomainName.ofLabels primaryLabels hprimary.labelsOk, middle⟩ :=
          decodeName_iff.mpr ⟨primaryLabels, hprimary.labelsOk, hprimary, rfl⟩
        have hsecond : decodeName packet middle rdataEnd limits =
            .ok ⟨DomainName.ofLabels mailboxLabels hmailbox.labelsOk, last⟩ :=
          decodeName_iff.mpr ⟨mailboxLabels, hmailbox.labelsOk, hmailbox, rfl⟩
        simp only [hfirst, ok_bind, hsecond]
        rw [if_neg (by omega)]
        rfl
    | minfo =>
      dsimp only [RdataForm]
      constructor
      · intro h
        obtain ⟨responsible, hresponsible, h⟩ := bind_eq_ok.mp h
        obtain ⟨responsibleLabels, -, hresponsible, -⟩ := decodeName_iff.mp hresponsible
        obtain ⟨errorLabels, herror⟩ := validateSingleName_iff.mp h
        exact ⟨responsibleLabels, errorLabels, responsible.nextOffset, hresponsible, herror⟩
      · rintro ⟨responsibleLabels, errorLabels, middle, hresponsible, herror⟩
        have hfirst : decodeName packet rdataOffset rdataEnd limits =
            .ok ⟨DomainName.ofLabels responsibleLabels hresponsible.labelsOk, middle⟩ :=
          decodeName_iff.mpr ⟨responsibleLabels, hresponsible.labelsOk, hresponsible, rfl⟩
        rw [hfirst, ok_bind]
        exact validateSingleName_iff.mpr ⟨errorLabels, herror⟩
    | hinfo =>
      dsimp only [RdataForm]
      have htwo : characterStrings rdata = some 2 ↔
          ∃ cpu os, TextsOk [cpu, os] ∧ rdata = characterString cpu ++ characterString os := by
        rw [characterStrings_iff]
        constructor
        · rintro ⟨texts, hcount, htexts, rfl⟩
          obtain ⟨cpu, os, rfl⟩ := List.length_eq_two.mp hcount
          exact ⟨cpu, os, htexts, by simp⟩
        · rintro ⟨cpu, os, htexts, rfl⟩
          exact ⟨[cpu, os], rfl, htexts, by simp⟩
      rw [← htwo]
      split <;> simp_all
    | txt =>
      dsimp only [RdataForm]
      constructor
      · intro h
        split at h
        · rename_i count hcount
          obtain ⟨texts, hlength, htexts, hrdata⟩ := characterStrings_iff.mp hcount
          exact ⟨texts, by rw [← List.length_pos_iff]; omega, htexts, hrdata⟩
        · cases h
      · rintro ⟨texts, hne, htexts, hrdata⟩
        obtain ⟨count, hcount⟩ := Nat.exists_eq_succ_of_ne_zero (List.length_pos_iff.mpr hne).ne'
        rw [characterStrings_iff.mpr ⟨texts, hcount, htexts, hrdata⟩]
    | opt => exact ⟨fun _ => trivial, fun _ => rfl⟩

theorem parseResourceRecord_iff {offset : Nat} {record : ResourceRecord} :
    parseResourceRecord packet limits offset = .ok (record, next) ↔
      RecordAt packet limits offset record next := by
  constructor
  · intro h
    rw [parseResourceRecord] at h
    obtain ⟨decoded, hdecoded, h⟩ := bind_eq_ok.mp h
    obtain ⟨⟨type, afterType⟩, htype, h⟩ := bind_eq_ok.mp h
    obtain ⟨⟨recordClass, afterClass⟩, hclass, h⟩ := bind_eq_ok.mp h
    obtain ⟨⟨ttl, afterTtl⟩, httl, h⟩ := bind_eq_ok.mp h
    obtain ⟨⟨rdataLength, rdataOffset⟩, hlength, h⟩ := bind_eq_ok.mp h
    obtain ⟨⟨rdata, rdataEnd⟩, hrdata, h⟩ := bind_eq_ok.mp h
    obtain ⟨⟨⟩, hform, h⟩ := bind_eq_ok.mp h
    obtain ⟨rfl, rfl⟩ := Prod.mk.inj (Except.ok.inj h)
    obtain ⟨labels, hok, hname, hlabels⟩ := decodeName_iff.mp hdecoded
    obtain ⟨hbytes, hcount⟩ := readBytes_iff.mp hrdata
    refine ⟨labels, decoded.nextOffset, rdataLength, hok, hname, hlabels, ?_, hbytes, hcount,
      (validateRdata_iff hbytes.2).mp hform⟩
    exact (readU16_iff.mp htype).append ((readU16_iff.mp hclass).append
      ((readU32_iff.mp httl).append (readU16_iff.mp hlength)))
  · rintro ⟨labels, afterName, rdataLength, hok, hname, hlabels, hwords, hbytes, hcount, hform⟩
    obtain ⟨afterType, htype, hwords⟩ := hwords.split
    obtain ⟨afterClass, hclass, hwords⟩ := hwords.split
    obtain ⟨afterTtl, httl, hlength⟩ := hwords.split
    have hdecoded : decodeName packet offset packet.length limits =
        .ok ⟨record.name, afterName⟩ := decodeName_iff.mpr ⟨labels, hok, hname, hlabels⟩
    rw [parseResourceRecord, hdecoded]
    simp only [ok_bind, readU16_iff.mpr htype, readU16_iff.mpr hclass, readU32_iff.mpr httl,
      readU16_iff.mpr hlength, readBytes_iff.mpr ⟨hbytes, hcount⟩,
      (validateRdata_iff hbytes.2).mpr hform, pure_eq_ok]

/-! ## Sections and messages -/

/-- Items that follow one another from `offset` to `next`. -/
inductive Sequence {Item : Type} (At : Nat → Item → Nat → Prop) : Nat → List Item → Nat → Prop where
  | nil {offset : Nat} : Sequence At offset [] offset
  | cons {offset middle next : Nat} {item : Item} {items : List Item}
    (hitem : At offset item middle)
      (hitems : Sequence At middle items next) : Sequence At offset (item :: items) next

theorem Sequence.at_of_mem {Item : Type} {At : Nat → Item → Nat → Prop} {offset : Nat}
    {items : List Item} (h : Sequence At offset items next) :
    ∀ item ∈ items, ∃ first last, At first item last := by
  induction h with
  | nil => simp
  | cons hitem hitems ih => exact List.forall_mem_cons.mpr ⟨⟨_, _, hitem⟩, ih⟩

theorem parseSection_iff {Item : Type} {parser : Nat → Except ParseError (Item × Nat)}
    {At : Nat → Item → Nat → Prop}
    (h : ∀ offset item next, parser offset = .ok (item, next) ↔ At offset item next) (count : Nat)
    {offset : Nat} {items : List Item} :
    parseSection parser count offset = .ok (items, next) ↔
      Sequence At offset items next ∧ items.length = count := by
  induction count generalizing offset items with
  | zero =>
    constructor
    · intro hparse
      obtain ⟨rfl, rfl⟩ := Prod.mk.inj (Except.ok.inj hparse)
      exact ⟨.nil, rfl⟩
    · rintro ⟨hitems, hcount⟩
      obtain rfl := List.length_eq_zero_iff.mp hcount
      cases hitems
      rfl
  | succ count ih =>
    constructor
    · intro hparse
      rw [parseSection] at hparse
      obtain ⟨⟨item, middle⟩, hitem, hparse⟩ := bind_eq_ok.mp hparse
      obtain ⟨⟨rest, last⟩, hrest, hparse⟩ := bind_eq_ok.mp hparse
      obtain ⟨rfl, rfl⟩ := Prod.mk.inj (Except.ok.inj hparse)
      obtain ⟨hitems, hcount⟩ := ih.mp hrest
      exact ⟨.cons ((h _ _ _).mp hitem) hitems, by rw [List.length_cons, hcount]⟩
    · rintro ⟨hitems, hcount⟩
      cases hitems with
      | nil => cases hcount
      | cons hitem hitems =>
        have hrest := ih.mpr ⟨hitems, Nat.succ.inj hcount⟩
        rw [parseSection, (h _ _ _).mpr hitem]
        simp only [ok_bind, hrest, pure_eq_ok]

theorem parseQuestions_iff {count offset : Nat} {questions : List Question} :
    parseSection (parseQuestion packet limits) count offset = .ok (questions, next) ↔
      Sequence (QuestionAt packet limits) offset questions next ∧ questions.length = count :=
  parseSection_iff (fun _ _ _ => parseQuestion_iff) count

theorem parseRecords_iff {count offset : Nat} {records : List ResourceRecord} :
    parseSection (parseResourceRecord packet limits) count offset = .ok (records, next) ↔
      Sequence (RecordAt packet limits) offset records next ∧ records.length = count :=
  parseSection_iff (fun _ _ _ => parseResourceRecord_iff) count

/-- The twelve bytes of a header. -/
def HeaderWords.wire (words : HeaderWords) : Bytes :=
  bytes16 words.id ++ (bytes16 words.flags ++ (bytes16 words.questionCount ++
    (bytes16 words.answerCount ++ (bytes16 words.authorityCount ++ bytes16 words.additionalCount))))

theorem readHeader_iff {words : HeaderWords} :
    readHeader packet = .ok words ↔ ChunkAt packet 0 words.wire dnsHeaderSize := by
  constructor
  · intro h
    rw [readHeader] at h
    obtain ⟨⟨id, afterId⟩, hid, h⟩ := bind_eq_ok.mp h
    obtain ⟨⟨flags, afterFlags⟩, hflags, h⟩ := bind_eq_ok.mp h
    obtain ⟨⟨questionCount, afterQuestions⟩, hquestions, h⟩ := bind_eq_ok.mp h
    obtain ⟨⟨answerCount, afterAnswers⟩, hanswers, h⟩ := bind_eq_ok.mp h
    obtain ⟨⟨authorityCount, afterAuthorities⟩, hauthorities, h⟩ := bind_eq_ok.mp h
    obtain ⟨⟨additionalCount, afterAdditionals⟩, hadditionals, h⟩ := bind_eq_ok.mp h
    obtain rfl := Except.ok.inj h
    have hwire := (readU16_iff.mp hid).append ((readU16_iff.mp hflags).append
      ((readU16_iff.mp hquestions).append ((readU16_iff.mp hanswers).append
        ((readU16_iff.mp hauthorities).append (readU16_iff.mp hadditionals)))))
    obtain rfl : afterAdditionals = dnsHeaderSize := hwire.2
    exact hwire
  · intro h
    obtain ⟨afterId, hid, h⟩ := ChunkAt.split h
    obtain ⟨afterFlags, hflags, h⟩ := h.split
    obtain ⟨afterQuestions, hquestions, h⟩ := h.split
    obtain ⟨afterAnswers, hanswers, h⟩ := h.split
    obtain ⟨afterAuthorities, hauthorities, hadditionals⟩ := h.split
    rw [readHeader]
    simp only [readU16_iff.mpr hid, ok_bind, readU16_iff.mpr hflags, readU16_iff.mpr hquestions,
      readU16_iff.mpr hanswers, readU16_iff.mpr hauthorities, readU16_iff.mpr hadditionals,
      pure_eq_ok]

/-- The counts of the header within the limits. -/
structure CountsIn (words : HeaderWords) (limits : ParseLimits) : Prop where
  questions : words.questionCount.toNat ≤ limits.maximumQuestions
  answers : words.answerCount.toNat ≤ limits.maximumRecordsPerSection
  authorities : words.authorityCount.toNat ≤ limits.maximumRecordsPerSection
  additionals : words.additionalCount.toNat ≤ limits.maximumRecordsPerSection
  total : words.answerCount.toNat + words.authorityCount.toNat + words.additionalCount.toNat ≤
    limits.maximumTotalRecords

theorem checkCounts_iff {words : HeaderWords} :
    checkCounts words limits = .ok () ↔ CountsIn words limits := by
  unfold checkCounts
  constructor
  · intro h
    split_ifs at h with hquestions hrecords htotal
    exact ⟨by omega, by omega, by omega, by omega, by omega⟩
  · intro h
    have := h.questions
    have := h.answers
    have := h.authorities
    have := h.additionals
    have := h.total
    rw [if_neg (by omega), if_neg (by omega), if_neg (by omega)]

/-- A message: a header, and as many questions and records as it says, one after
the other. -/
structure MessageIn (packet : Bytes) (limits : ParseLimits) (message : Message) : Prop where
  size : packet.length ≤ limits.maximumPacketSize
  image : message.wireImage = packet
  sections : ∃ words questionsEnd answersEnd authoritiesEnd recordsEnd,
    ChunkAt packet 0 words.wire dnsHeaderSize ∧
    message.header = decodeFlags words.id words.flags ∧ CountsIn words limits ∧
    message.questions.length = words.questionCount.toNat ∧
    message.answers.length = words.answerCount.toNat ∧
    message.authorities.length = words.authorityCount.toNat ∧
    message.additionals.length = words.additionalCount.toNat ∧
    Sequence (QuestionAt packet limits) dnsHeaderSize message.questions questionsEnd ∧
    Sequence (RecordAt packet limits) questionsEnd message.answers answersEnd ∧
    Sequence (RecordAt packet limits) answersEnd message.authorities authoritiesEnd ∧
    Sequence (RecordAt packet limits) authoritiesEnd message.additionals recordsEnd ∧
    (limits.rejectTrailingData = true → recordsEnd = packet.length)

theorem parseMessage_iff {message : Message} :
    parseMessage packet limits = .ok message ↔ MessageIn packet limits message := by
  constructor
  · intro h
    have hparsed := parsed_of_parseMessage h
    obtain ⟨words, questionsEnd, answersEnd, authoritiesEnd, recordsEnd, hwords, hheader, hcounts,
      hquestion, hanswer, hauthority, hadditional, htrailing⟩ := hparsed.steps
    obtain ⟨hquestion, hquestionCount⟩ := parseQuestions_iff.mp hquestion
    obtain ⟨hanswer, hanswerCount⟩ := parseRecords_iff.mp hanswer
    obtain ⟨hauthority, hauthorityCount⟩ := parseRecords_iff.mp hauthority
    obtain ⟨hadditional, hadditionalCount⟩ := parseRecords_iff.mp hadditional
    refine ⟨hparsed.size_le, hparsed.wireImage_eq, words, questionsEnd, answersEnd, authoritiesEnd,
      recordsEnd, readHeader_iff.mp hwords, hheader, checkCounts_iff.mp hcounts, hquestionCount,
      hanswerCount, hauthorityCount, hadditionalCount, hquestion, hanswer, hauthority, hadditional, ?_⟩
    intro hreject
    by_contra hne
    exact htrailing ⟨hreject, hne⟩
  · intro h
    obtain ⟨words, questionsEnd, answersEnd, authoritiesEnd, recordsEnd, hwords, hheader, hcounts,
      hquestionCount, hanswerCount, hauthorityCount, hadditionalCount, hquestion, hanswer, hauthority,
      hadditional, htrailing⟩ := h.sections
    refine Parsed.parseMessage ⟨h.size, h.image, words, questionsEnd, answersEnd, authoritiesEnd,
      recordsEnd, readHeader_iff.mpr hwords, hheader, checkCounts_iff.mpr hcounts,
      parseQuestions_iff.mpr ⟨hquestion, hquestionCount⟩,
        parseRecords_iff.mpr ⟨hanswer, hanswerCount⟩,
      parseRecords_iff.mpr ⟨hauthority, hauthorityCount⟩,
      parseRecords_iff.mpr ⟨hadditional, hadditionalCount⟩, ?_⟩
    rintro ⟨hreject, hne⟩
    exact hne (htrailing hreject)

/-! ## The language of the parser -/

/-- The data of a record is what its length word says. -/
theorem RecordAt.rdata_eq {offset : Nat} {record : ResourceRecord}
    (h : RecordAt packet limits offset record next) :
    ∃ rdataLength : UInt16,
      ChunkAt packet (record.rdataOffset - 2) (bytes16 rdataLength) record.rdataOffset ∧
      record.rdataOffset + rdataLength.toNat ≤ packet.length ∧
      record.rdata = (packet.drop record.rdataOffset).take rdataLength.toNat := by
  obtain ⟨labels, afterName, rdataLength, hok, hname, -, hwords, hbytes, hcount, -⟩ := h
  have hoffset := hwords.le_length hname.ends
  have hend := hbytes.le_length hoffset
  obtain ⟨afterType, -, hwords⟩ := hwords.split
  obtain ⟨afterClass, -, hwords⟩ := hwords.split
  obtain ⟨afterTtl, -, hlength⟩ := hwords.split
  refine ⟨rdataLength, ?_, ?_, hcount ▸ hbytes.take_eq⟩
  · have hstart : record.rdataOffset - 2 = afterTtl := by
      rw [hlength.2, bytes16_length]
      omega
    rw [hstart]
    exact hlength
  · rw [← hcount, ← hbytes.2]
    exact hend

/-- The parser accepts exactly its grammar.  For every packet and all limits: no
access is out of range; the result is a message exactly when the grammar derives
it; then the sections are as long as the header says, and the data of each record
is the part of the packet that its offset and its length word say. -/
theorem parseMessage_accepts_grammar (packet : Bytes) (limits : ParseLimits) :
    Indexed.parseMessage packet limits = Indexed.inRange (parseMessage packet limits) ∧
    (∀ message, parseMessage packet limits = .ok message ↔ MessageIn packet limits message) ∧
    ∀ message, parseMessage packet limits = .ok message →
      (∃ words : HeaderWords, ChunkAt packet 0 words.wire dnsHeaderSize ∧
        message.questions.length = words.questionCount.toNat ∧
        message.answers.length = words.answerCount.toNat ∧
        message.authorities.length = words.authorityCount.toNat ∧
        message.additionals.length = words.additionalCount.toNat) ∧
      ∀ record ∈ message.answers ++ (message.authorities ++ message.additionals),
        ∃ rdataLength : UInt16,
          ChunkAt packet (record.rdataOffset - 2) (bytes16 rdataLength) record.rdataOffset ∧
          record.rdataOffset + rdataLength.toNat ≤ packet.length ∧
          record.rdata = (packet.drop record.rdataOffset).take rdataLength.toNat := by
  refine ⟨Indexed.parseMessage_eq packet limits, fun message => parseMessage_iff, ?_⟩
  intro message hmessage
  obtain ⟨words, questionsEnd, answersEnd, authoritiesEnd, recordsEnd, hwords, -, -, hquestionCount,
    hanswerCount, hauthorityCount, hadditionalCount, -, hanswers, hauthorities, hadditionals, -⟩ :=
    (parseMessage_iff.mp hmessage).sections
  refine ⟨⟨words, hwords, hquestionCount, hanswerCount, hauthorityCount, hadditionalCount⟩, ?_⟩
  intro record hrecord
  obtain ⟨first, last, hat⟩ : ∃ first last, RecordAt packet limits first record last := by
    rcases List.mem_append.mp hrecord with h | h
    · exact hanswers.at_of_mem record h
    · rcases List.mem_append.mp h with h | h
      · exact hauthorities.at_of_mem record h
      · exact hadditionals.at_of_mem record h
  exact hat.rdata_eq

end DnsPro.Protocol
