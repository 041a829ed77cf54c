import DnsPro.Protocol.Grammar
import Mathlib.Logic.Relation

/-!
# The loop of `decode_name`

With forward pointers allowed and no limit on their number, the position of the loop
goes up and down.  Each pass takes a pointer that was not taken before, of which there
are finitely many, or a label, of which a name has room for finitely many, so the loop
ends.  A pointer that was taken before leads back to where the loop has been, and then
the name has no end: `Follows` is one step of the expansion, and an expansion that
ends gets shorter with each step, so it comes to no position twice.
-/

namespace DnsPro.Protocol

open DnsPro.Loop

/-- One step of the expansion of a name: past a label, or along a pointer. -/
inductive Follows (packet : Bytes) : Nat → Nat → Prop where
  | label {position : Nat} {label rest : Bytes} (hne : label ≠ [])
      (hshort : label.length ≤ maxLabelSize)
      (hdrop : packet.drop position = UInt8.ofNat label.length :: (label ++ rest)) :
      Follows packet position (position + 1 + label.length)
  | pointer {position : Nat} {high low : UInt8} {rest : Bytes} (hhigh : high &&& 0xc0 = 0xc0)
      (hdrop : packet.drop position = high :: low :: rest) :
      Follows packet position (pointerTarget high low)

variable {packet : Bytes} {limits : ParseLimits} {start encodedEnd position next target : Nat}
  {labels : List Bytes} {jumps : List Jump} {state nextState : DecodeState}

/-! ## Expansions that end -/

/-- A step of the expansion leaves a shorter expansion. -/
theorem NameAt.after_step (h : NameAt packet position labels jumps next)
    (hstep : Follows packet position target) :
    ∃ labels' jumps' next', NameAt packet target labels' jumps' next' ∧
      labels'.length + jumps'.length < labels.length + jumps.length := by
  cases hstep with
  | label hne hshort hdrop =>
    cases h with
    | root hdrop' =>
      rw [hdrop'] at hdrop
      exact absurd (List.cons.inj hdrop).1.symm (labelLength_plain hne hshort).1
    | label hne' hshort' hdrop' hrest =>
      rw [hdrop] at hdrop'
      obtain ⟨hlength, -⟩ := List.cons.inj hdrop'
      have hsame := congrArg UInt8.toNat hlength
      rw [labelLength_toNat hshort, labelLength_toNat hshort'] at hsame
      rw [hsame]
      exact ⟨_, _, _, hrest, by simp only [List.length_cons]; omega⟩
    | pointer hhigh hdrop' htarget =>
      rw [hdrop] at hdrop'
      rw [← (List.cons.inj hdrop').1, (labelLength_plain hne hshort).2] at hhigh
      exact absurd hhigh (by decide)
  | pointer hhigh hdrop =>
    cases h with
    | root hdrop' =>
      rw [hdrop'] at hdrop
      rw [← (List.cons.inj hdrop).1] at hhigh
      exact absurd hhigh (by decide)
    | label hne hshort hdrop' hrest =>
      rw [hdrop] at hdrop'
      rw [(List.cons.inj hdrop').1, (labelLength_plain hne hshort).2] at hhigh
      exact absurd hhigh (by decide)
    | pointer hhigh' hdrop' htarget =>
      rw [hdrop] at hdrop'
      obtain ⟨rfl, hbytes⟩ := List.cons.inj hdrop'
      obtain ⟨rfl, -⟩ := List.cons.inj hbytes
      exact ⟨_, _, _, htarget, by simp only [List.length_cons]; omega⟩

theorem NameAt.after_steps (h : NameAt packet position labels jumps next)
    (hsteps : Relation.TransGen (Follows packet) position target) :
    ∃ labels' jumps' next', NameAt packet target labels' jumps' next' ∧
      labels'.length + jumps'.length < labels.length + jumps.length := by
  induction hsteps with
  | single hstep => exact h.after_step hstep
  | tail hsteps hstep ih =>
    obtain ⟨labels', jumps', next', hname, hshorter⟩ := ih
    obtain ⟨labels'', jumps'', next'', hname', hshorter'⟩ := hname.after_step hstep
    exact ⟨labels'', jumps'', next'', hname', Nat.lt_trans hshorter' hshorter⟩

/-- The expansion comes back to a position that it was at. -/
def Loops (packet : Bytes) (start : Nat) : Prop :=
  ∃ position, Relation.ReflTransGen (Follows packet) start position ∧
    Relation.TransGen (Follows packet) position position

/-- An expansion that ends comes to no position twice. -/
theorem NameAt.not_loops (h : NameAt packet start labels jumps next) : ¬ Loops packet start := by
  intro hloops
  obtain ⟨position, hreached, hcycle⟩ := hloops
  obtain ⟨labels', jumps', next', hname⟩ :
      ∃ labels' jumps' next', NameAt packet position labels' jumps' next' := by
    rcases Relation.reflTransGen_iff_eq_or_transGen.mp hreached with rfl | hsteps
    · exact ⟨labels, jumps, next, h⟩
    · obtain ⟨labels', jumps', next', hname, -⟩ := h.after_steps hsteps
      exact ⟨labels', jumps', next', hname⟩
  obtain ⟨labels'', jumps'', next'', hagain, hshorter⟩ := hname.after_steps hcycle
  obtain ⟨rfl, rfl, -⟩ := hname.unique hagain
  exact absurd hshorter (Nat.lt_irrefl _)

/-! ## Where the encoding ends -/

/-- A name without pointers ends one byte after its zero byte, and a name with
pointers two bytes after the first one. -/
theorem NameAt.next_eq (h : NameAt packet position labels jumps next) :
    (jumps = [] → next = position + wireSizeOf labels ∧ packet[next - 1]? = some 0) ∧
      ∀ jump rest, jumps = jump :: rest → next = jump.source + 2 ∧
        ∃ high, packet[jump.source]? = some high ∧ high &&& 0xc0 = 0xc0 := by
  induction h with
  | @root position rest hdrop =>
    constructor
    · intro _
      refine ⟨rfl, ?_⟩
      have hbyte : (packet.drop position)[0]? = some 0 := by
        rw [hdrop]
        rfl
      rwa [List.getElem?_drop, Nat.add_zero] at hbyte
    · intro jump rest hjumps
      cases hjumps
  | @label position next label rest labels jumps hne hshort hdrop hrest ih =>
    refine ⟨?_, ih.2⟩
    intro hjumps
    obtain ⟨hnext, hzero⟩ := ih.1 hjumps
    refine ⟨?_, hzero⟩
    rw [hnext, wireSizeOf_cons]
    omega
  | @pointer position next high low rest labels jumps hhigh hdrop htarget ih =>
    constructor
    · intro hjumps
      cases hjumps
    · intro jump rest hjumps
      obtain ⟨rfl, -⟩ := List.cons.inj hjumps
      refine ⟨rfl, high, ?_, hhigh⟩
      have hbyte : (packet.drop position)[0]? = some high := by
        rw [hdrop]
        rfl
      rwa [List.getElem?_drop, Nat.add_zero] at hbyte

/-! ## The states of the loop -/

/-- One pass that does not leave. -/
def Pass (packet : Bytes) (start encodedEnd : Nat) (limits : ParseLimits)
    (state nextState : DecodeState) : Prop :=
  decodeBody packet start encodedEnd limits state = .again nextState

theorem follows_of_again (h : Pass packet start encodedEnd limits state nextState) :
    Follows packet state.position nextState.position ∧
      (nextState.visitedPointers = state.visitedPointers ∨
        nextState.visitedPointers = nextState.position :: state.visitedPointers) := by
  rcases decodeBody_again h with ⟨label, rest, hne, hshort, hdrop, -, rfl⟩ |
    ⟨high, low, rest, hhigh, hdrop, -, -, -, -, hvisited, hposition, -⟩
  · exact ⟨.label hne hshort hdrop, Or.inl rfl⟩
  · rw [hvisited, hposition]
    exact ⟨.pointer hhigh hdrop, Or.inr rfl⟩

/-- What the loop has seen lies on the way from the start to where it is. -/
structure OnTheWay (packet : Bytes) (start : Nat) (state : DecodeState) : Prop where
  position : Relation.ReflTransGen (Follows packet) start state.position
  visited : ∀ pointer ∈ state.visitedPointers,
    Relation.ReflTransGen (Follows packet) start pointer ∧
      Relation.ReflTransGen (Follows packet) pointer state.position

theorem OnTheWay.again (h : OnTheWay packet start state)
    (hpass : Pass packet start encodedEnd limits state nextState) :
    OnTheWay packet start nextState := by
  obtain ⟨hfollows, hvisited⟩ := follows_of_again hpass
  have hposition := h.position.tail hfollows
  have hold : ∀ pointer ∈ state.visitedPointers,
      Relation.ReflTransGen (Follows packet) start pointer ∧
        Relation.ReflTransGen (Follows packet) pointer nextState.position := by
    intro pointer hpointer
    obtain ⟨hreached, hback⟩ := h.visited pointer hpointer
    exact ⟨hreached, hback.tail hfollows⟩
  refine ⟨hposition, ?_⟩
  intro pointer hpointer
  rcases hvisited with hsame | hnew
  · exact hold pointer (hsame ▸ hpointer)
  · rw [hnew] at hpointer
    rcases List.mem_cons.mp hpointer with rfl | hmem
    · exact ⟨hposition, .refl⟩
    · exact hold pointer hmem

/-- The pass that reports a loop stands at a pointer that was taken before. -/
theorem decodeBody_loop {offset : Nat}
    (h : decodeBody packet start encodedEnd limits state =
      .done (.error ⟨.compressionPointerLoop, offset⟩)) :
    ∃ high low rest, high &&& 0xc0 = 0xc0 ∧ packet.drop state.position = high :: low :: rest ∧
      pointerTarget high low ∈ state.visitedPointers := by
  unfold decodeBody at h
  split at h
  · cases h
  rename_i length rest hdrop
  split at h
  · cases h
  split at h
  · have hfinish := Iteration.done.inj h
    unfold finishName at hfinish
    split at hfinish
    · cases hfinish
    · split at hfinish <;> cases hfinish
  split at h
  · rename_i hhigh
    unfold followPointer at h
    split at h
    · cases h
    rename_i low tail
    split_ifs at h with hend hbounds hheader hbackward hvisited
    all_goals try cases h
    exact ⟨length, low, tail, hhigh, hdrop, hvisited⟩
  split at h
  · cases h
  split at h
  · cases h
  · unfold readLabel at h
    split_ifs at h
    all_goals cases h

/-- A loop that is reported is one. -/
theorem loops_of_decodeName {offset : Nat}
    (h : decodeName packet start encodedEnd limits = .error ⟨.compressionPointerLoop, offset⟩) :
    Loops packet start := by
  refine exec_rule (decodeLoop packet start encodedEnd limits) (OnTheWay packet start)
    (fun result => result = .error ⟨.compressionPointerLoop, offset⟩ → Loops packet start) ?_ ?_
    (DecodeState.start start) ⟨.refl, by simp [DecodeState.start]⟩ h
  · intro state nextState hway hbody
    exact hway.again hbody
  · intro state result hway hbody hresult
    subst hresult
    obtain ⟨high, low, rest, hhigh, hdrop, hvisited⟩ := decodeBody_loop hbody
    obtain ⟨hreached, hback⟩ := hway.visited _ hvisited
    exact ⟨_, hreached, Relation.TransGen.tail' hback (.pointer hhigh hdrop)⟩

/-- The labels that the loop has collected are within the limits of `from_labels`. -/
structure Collected (state : DecodeState) : Prop where
  ok : LabelsOk state.labels
  size : state.expandedWireSize = wireSizeOf state.labels

theorem Collected.again (h : Collected state)
    (hpass : Pass packet start encodedEnd limits state nextState) : Collected nextState := by
  have hfits := decodeBody_again hpass
  rcases hfits with ⟨label, rest, hne, hshort, hdrop, hinside, rfl⟩ |
    ⟨high, low, rest, -, -, -, -, -, hlabels, -, -, -, hsize, -⟩
  · have hroom : state.expandedWireSize + (label.length + 1) ≤ maxDomainWireSize := by
      by_contra hlarge
      -- the check before the label is pushed would have left the loop
      have hbody := hpass
      unfold Pass decodeBody at hbody
      obtain ⟨hzero, hmask⟩ := labelLength_plain hne hshort
      have hnat := labelLength_toNat hshort
      have hfirst : state.Inside encodedEnd (state.position + 1) := hinside.imp id (by omega)
      rw [hdrop] at hbody
      dsimp only at hbody
      rw [if_neg (not_outside hfirst), if_neg hzero, hmask, if_neg (by decide), if_neg (by simp), hnat,
        if_neg (Nat.not_lt.mpr hshort), readLabel, hnat] at hbody
      split at hbody
      · cases hbody
      · simp only [maxLabelSize] at hshort
        simp only [maxDomainWireSize] at hlarge
        rw [if_pos (by simp only [maxDomainWireSize]; omega)] at hbody
        cases hbody
    have hwire : wireSizeOf (state.labels ++ [label]) = wireSizeOf state.labels +
      (label.length + 1) := by
      simp only [wireSizeOf, List.map_append, List.sum_append, List.map_cons, List.map_nil,
        List.sum_cons, List.sum_nil]
      omega
    rw [h.size] at hroom
    refine ⟨⟨?_, ?_, ?_⟩, ?_⟩
    · intro other hother
      rcases List.mem_append.mp hother with hold | hnew
      · exact h.ok.nonempty other hold
      · rw [List.mem_singleton.mp hnew]
        exact hne
    · intro other hother
      rcases List.mem_append.mp hother with hold | hnew
      · exact h.ok.short other hold
      · rw [List.mem_singleton.mp hnew]
        exact hshort
    · show wireSizeOf (state.labels ++ [label]) ≤ maxDomainWireSize
      rw [hwire]
      exact hroom
    · show state.expandedWireSize + (label.length + 1) = wireSizeOf (state.labels ++ [label])
      rw [hwire, h.size]
  · refine ⟨?_, ?_⟩
    · rw [hlabels]
      exact h.ok
    · rw [hsize, hlabels]
      exact h.size

theorem collected_start (start : Nat) : Collected (DecodeState.start start) :=
  ⟨labelsOk_nil, rfl⟩

/-- For every packet, every start and all limits: the loop of `decode_name` leaves after
at most one pass for each pointer and each byte of a name.  When it reports a loop, the
expansion comes back to a position it was at, and there is no finite one.  When it
returns a name, the labels are the expansion, and the encoding ends where the grammar
says, after the start and inside the bytes allowed.  Whatever it has collected when it
leaves, `from_labels` accepts. -/
theorem decodeName_sound (packet : Bytes) (start encodedEnd : Nat) (limits : ParseLimits) :
    iterate (decodeBody packet start encodedEnd limits) (pointerSpace + maxDomainWireSize)
        (DecodeState.start start) = some (decodeName packet start encodedEnd limits) ∧
    (∀ offset, decodeName packet start encodedEnd limits =
        .error ⟨.compressionPointerLoop, offset⟩ →
      Loops packet start ∧ ¬ ∃ labels jumps next, NameAt packet start labels jumps next) ∧
    (∀ decoded, decodeName packet start encodedEnd limits = .ok decoded →
      start < decoded.nextOffset ∧ decoded.nextOffset ≤ encodedEnd ∧
      ∃ jumps, NameAt packet start decoded.name.labels jumps decoded.nextOffset ∧
        (jumps = [] → decoded.nextOffset = start + wireSizeOf decoded.name.labels ∧
          packet[decoded.nextOffset - 1]? = some 0) ∧
        ∀ jump rest, jumps = jump :: rest → decoded.nextOffset = jump.source + 2 ∧
          ∃ high, packet[jump.source]? = some high ∧ high &&& 0xc0 = 0xc0) ∧
    ∀ state, Relation.ReflTransGen (Pass packet start encodedEnd limits)
        (DecodeState.start start) state →
      ∃ name, fromLabels state.labels = .ok name := by
  refine ⟨?_, ?_, ?_, ?_⟩
  · have hmeasure : (decodeLoop packet start encodedEnd limits).measure (DecodeState.start start) <
        pointerSpace + maxDomainWireSize := by
      show (pointerSpace - 0) + (maxDomainWireSize - 1) < _
      simp only [pointerSpace, maxDomainWireSize]
      omega
    have hleaves := iterate_isSome (decodeLoop packet start encodedEnd limits) _ _ hmeasure
    exact (iterate_eq_some_iff hleaves).mpr rfl
  · intro offset hreported
    have hloops := loops_of_decodeName hreported
    refine ⟨hloops, ?_⟩
    intro hfinite
    obtain ⟨labels, jumps, next, hname⟩ := hfinite
    exact hname.not_loops hloops
  · intro decoded hdecoded
    obtain ⟨labels, hok, hname, hlabels⟩ := decodeName_iff.mp hdecoded
    obtain ⟨jumps, hat, -, -⟩ := hname.encoded
    have hsame : decoded.name.labels = labels := by
      rw [hlabels]
      rfl
    rw [hsame]
    exact ⟨hat.lt, hname.ends, jumps, hat, hat.next_eq⟩
  · intro state hreached
    have hcollected : Collected state := by
      induction hreached with
      | refl => exact collected_start start
      | tail _ hpass ih => exact ih.again hpass
    exact fromLabels_ok_iff.mpr hcollected.ok

end DnsPro.Protocol
