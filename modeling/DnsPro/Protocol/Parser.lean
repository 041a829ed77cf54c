import DnsPro.Lib.Loop
import DnsPro.Lib.Result
import DnsPro.Protocol.Message

/-!
# The wire parser

`protocol/DnsParser.cpp` and the `WireReader` of `protocol/Wire.h`.  A packet
is a byte list.  A position reads the packet as `packet.drop position`: an
empty rest is a position at or past the end, so each access is inside the
packet, and a bound check of the source is a pattern of the rest.

`decode_name` is the loop of the parser that is not a plain recursion on the
packet, because a compression pointer moves the position.  `DecodeState` keeps
with the visited pointers the two facts that bound their number, and
`decodeName` is `Loop.exec` of the loop body.
-/

namespace DnsPro.Protocol

open DnsPro.Loop

/-! ## `WireReader` -/

/-- Two bytes in network order. -/
def be16 (high low : UInt8) : UInt16 :=
  high.toUInt16 <<< 8 ||| low.toUInt16

/-- Four bytes in network order. -/
def be32 (b0 b1 b2 b3 : UInt8) : UInt32 :=
  b0.toUInt32 <<< 24 ||| b1.toUInt32 <<< 16 ||| b2.toUInt32 <<< 8 ||| b3.toUInt32

/-- `read_u16`.  Every caller turns a failure into `UnexpectedEnd` at the
offset of the read. -/
def readU16 (packet : Bytes) (offset : Nat) : Except ParseError (UInt16 × Nat) :=
  match packet.drop offset with
  | high :: low :: _ => .ok (be16 high low, offset + 2)
  | _ => .error ⟨.unexpectedEnd, offset⟩

/-- `read_u32`. -/
def readU32 (packet : Bytes) (offset : Nat) : Except ParseError (UInt32 × Nat) :=
  match packet.drop offset with
  | b0 :: b1 :: b2 :: b3 :: _ => .ok (be32 b0 b1 b2 b3, offset + 4)
  | _ => .error ⟨.unexpectedEnd, offset⟩

/-- `read_bytes`. -/
def readBytes (packet : Bytes) (offset count : Nat) : Except ParseError (Bytes × Nat) :=
  if (packet.drop offset).length < count then .error ⟨.unexpectedEnd, offset⟩
  else .ok ((packet.drop offset).take count, offset + count)

/-! ## `decode_name` -/

/-- `DecodedName`. -/
structure DecodedName where
  name : DomainName
  nextOffset : Nat

/-- Compression pointers have fourteen bits. -/
def pointerSpace : Nat := 16384

/-- The variables of the loop.  No pointer is visited twice, and every visited
pointer has fourteen bits. -/
structure DecodeState where
  labels : List Bytes
  visitedPointers : List Nat
  position : Nat
  nextOffset : Nat
  expandedWireSize : Nat
  followedPointer : Bool
  visited_nodup : visitedPointers.Nodup
  visited_lt : ∀ pointer ∈ visitedPointers, pointer < pointerSpace

/-- The target of a pointer whose first byte is `length`. -/
def pointerTarget (length second : UInt8) : Nat :=
  (length &&& 0x3f).toNat * 256 + second.toNat

theorem pointerTarget_lt (length second : UInt8) : pointerTarget length second < pointerSpace := by
  have hlow : (length &&& 0x3f).toNat ≤ 63 := by
    rw [UInt8.toNat_and]
    exact Nat.and_le_right
  have := second.toNat_lt
  simp only [pointerTarget, pointerSpace]
  omega

/-- The code after the loop: `from_labels` of the collected labels. -/
def finishName (start : Nat) (labels : List Bytes) (nextOffset : Nat) :
    Except ParseError DecodedName :=
  match fromLabels labels with
  | .ok name => .ok ⟨name, nextOffset⟩
  | .error error =>
    match error.code with
    | .emptyLabel => .error ⟨.emptyLabel, start⟩
    | .invalidEscape => .error ⟨.invalidLabelType, start⟩
    | .labelTooLong => .error ⟨.labelTooLong, start⟩
    | .nameTooLong => .error ⟨.nameTooLong, start⟩

/-- A pointer that is not yet visited keeps the visited ones distinct. -/
theorem DecodeState.nodup_follow (state : DecodeState) (length second : UInt8)
    (h : pointerTarget length second ∉ state.visitedPointers) :
    (pointerTarget length second :: state.visitedPointers).Nodup :=
  List.nodup_cons.mpr ⟨h, state.visited_nodup⟩

theorem DecodeState.lt_follow (state : DecodeState) (length second : UInt8) :
    ∀ pointer ∈ pointerTarget length second :: state.visitedPointers, pointer < pointerSpace := by
  intro pointer h
  cases h with
  | head => exact pointerTarget_lt length second
  | tail _ h => exact state.visited_lt pointer h

/-- The branch for a length byte with both upper bits set; `rest` is the
packet after that byte. -/
def followPointer (packet : Bytes) (encodedEnd : Nat) (limits : ParseLimits)
    (state : DecodeState) (length : UInt8) (rest : Bytes) :
    Iteration DecodeState (Except ParseError DecodedName) :=
  match rest with
  | [] => .done (.error ⟨.truncatedCompressionPointer, state.position⟩)
  | second :: _ =>
    if !state.followedPointer && decide (state.position + 1 ≥ encodedEnd) then
      .done (.error ⟨.truncatedCompressionPointer, state.position⟩)
    else if pointerTarget length second ≥ packet.length then
      .done (.error ⟨.compressionPointerOutOfBounds, state.position⟩)
    else if pointerTarget length second < dnsHeaderSize then
      .done (.error ⟨.compressionPointerIntoHeader, state.position⟩)
    else if limits.requireBackwardPointers && decide (pointerTarget length second ≥ state.position)
      then .done (.error ⟨.forwardCompressionPointer, state.position⟩)
    else if hvisited : pointerTarget length second ∈ state.visitedPointers then
      .done (.error ⟨.compressionPointerLoop, state.position⟩)
    else if state.visitedPointers.length ≥ limits.maximumCompressionPointers then
      .done (.error ⟨.tooManyCompressionPointers, state.position⟩)
    else
      .again { state with
        visitedPointers := pointerTarget length second :: state.visitedPointers
        nextOffset := if state.followedPointer then state.nextOffset else state.position + 2
        followedPointer := true
        position := pointerTarget length second
        visited_nodup := state.nodup_follow length second hvisited
        visited_lt := state.lt_follow length second }

/-- The branch for a plain label of `length` bytes. -/
def readLabel (encodedEnd : Nat) (state : DecodeState) (length : UInt8) (rest : Bytes) :
    Iteration DecodeState (Except ParseError DecodedName) :=
  if length.toNat > rest.length ∨
      (!state.followedPointer ∧
        (state.position + 1 > encodedEnd ∨ length.toNat > encodedEnd - (state.position + 1))) then
    .done (.error ⟨.unexpectedEnd, state.position⟩)
  else if state.expandedWireSize > maxDomainWireSize - (length.toNat + 1) then
    .done (.error ⟨.nameTooLong, state.position⟩)
  else
    .again { state with
      labels := state.labels ++ [rest.take length.toNat]
      expandedWireSize := state.expandedWireSize + (length.toNat + 1)
      position := state.position + 1 + length.toNat
      nextOffset :=
        if state.followedPointer then state.nextOffset else state.position + 1 + length.toNat }

/-- The body of the loop. -/
def decodeBody (packet : Bytes) (start encodedEnd : Nat) (limits : ParseLimits)
    (state : DecodeState) : Iteration DecodeState (Except ParseError DecodedName) :=
  match packet.drop state.position with
  | [] => .done (.error ⟨.unexpectedEnd, state.position⟩)
  | length :: rest =>
    if !state.followedPointer && decide (state.position ≥ encodedEnd) then
      .done (.error ⟨.unexpectedEnd, state.position⟩)
    else if length = 0 then
      .done (finishName start state.labels
        (if state.followedPointer then state.nextOffset else state.position + 1))
    else if length &&& 0xc0 = 0xc0 then followPointer packet encodedEnd limits state length rest
    else if length &&& 0xc0 ≠ 0 then .done (.error ⟨.invalidLabelType, state.position⟩)
    else if length.toNat > maxLabelSize then .done (.error ⟨.labelTooLong, state.position⟩)
    else readLabel encodedEnd state length rest

/-- Pointers not yet visited, plus what is left of the expanded name. -/
def DecodeState.measure (state : DecodeState) : Nat :=
  (pointerSpace - state.visitedPointers.length) + (maxDomainWireSize - state.expandedWireSize)

/-- A state never has more visited pointers than there are pointers. -/
theorem DecodeState.visited_length_le (state : DecodeState) :
    state.visitedPointers.length ≤ pointerSpace := by
  have hsub : state.visitedPointers ⊆ List.range pointerSpace := fun pointer h =>
    List.mem_range.mpr (state.visited_lt pointer h)
  simpa using (List.subperm_of_subset state.visited_nodup hsub).length_le

/-- What a pointer that is followed does to the variables, and the checks it
passed. -/
theorem followPointer_again {packet : Bytes} {encodedEnd : Nat} {limits : ParseLimits}
    {state next : DecodeState} {length : UInt8} {rest : Bytes}
    (h : followPointer packet encodedEnd limits state length rest = .again next) :
    ∃ second tail, rest = second :: tail ∧
      (state.followedPointer = true ∨ state.position + 1 < encodedEnd) ∧
      pointerTarget length second < packet.length ∧
      dnsHeaderSize ≤ pointerTarget length second ∧
      (limits.requireBackwardPointers = true →
        pointerTarget length second < state.position) ∧
      pointerTarget length second ∉ state.visitedPointers ∧
      state.visitedPointers.length < limits.maximumCompressionPointers ∧
      next.labels = state.labels ∧
      next.visitedPointers = pointerTarget length second :: state.visitedPointers ∧
      next.position = pointerTarget length second ∧
      next.nextOffset =
        (if state.followedPointer then state.nextOffset else state.position + 2) ∧
      next.expandedWireSize = state.expandedWireSize ∧ next.followedPointer = true := by
  unfold followPointer at h
  split at h
  · exact absurd h (by simp)
  rename_i second tail
  split at h
  · exact absurd h (by simp)
  rename_i hend
  split at h
  · exact absurd h (by simp)
  rename_i hbounds
  split at h
  · exact absurd h (by simp)
  rename_i hheader
  split at h
  · exact absurd h (by simp)
  rename_i hbackward
  split at h
  · exact absurd h (by simp)
  rename_i hvisited
  split at h
  · exact absurd h (by simp)
  rename_i hlimit
  rw [Iteration.again.injEq] at h
  subst h
  refine ⟨second, tail, rfl, ?_, by omega, by omega, ?_, hvisited, by omega,
    rfl, rfl, rfl, rfl, rfl, rfl⟩
  · cases hf : state.followedPointer with
    | true => exact Or.inl rfl
    | false =>
      simp only [hf, Bool.not_false, Bool.true_and, decide_eq_true_eq] at hend
      exact Or.inr (by omega)
  · intro hrequire
    simp only [hrequire, Bool.true_and, decide_eq_true_eq] at hbackward
    omega

theorem followPointer_measure {packet : Bytes} {encodedEnd : Nat} {limits : ParseLimits}
    {state next : DecodeState} {length : UInt8} {rest : Bytes}
    (h : followPointer packet encodedEnd limits state length rest = .again next) :
    next.measure < state.measure := by
  have hbound := next.visited_length_le
  obtain ⟨second, tail, -, -, -, -, -, -, -, -, hvisited, -, -, hsize, -⟩ := followPointer_again h
  rw [DecodeState.measure, DecodeState.measure, hvisited, hsize]
  rw [hvisited] at hbound
  simp only [List.length_cons] at hbound ⊢
  omega

theorem readLabel_measure {encodedEnd : Nat} {state next : DecodeState} {length : UInt8}
    {rest : Bytes} (hne : length ≠ 0)
    (h : readLabel encodedEnd state length rest = .again next) :
    next.measure < state.measure := by
  have hpos : length.toNat ≠ 0 := fun hzero => hne (UInt8.toNat_inj.mp hzero)
  rw [readLabel] at h
  split at h
  · exact absurd h (by simp)
  split at h
  · exact absurd h (by simp)
  rename_i hfit
  rw [Iteration.again.injEq] at h
  subst h
  simp only [DecodeState.measure, maxDomainWireSize] at *
  omega

theorem decodeBody_measure {packet : Bytes} {start encodedEnd : Nat} {limits : ParseLimits}
    {state next : DecodeState} (h : decodeBody packet start encodedEnd limits state = .again next) :
    next.measure < state.measure := by
  rw [decodeBody] at h
  split at h
  · exact absurd h (by simp)
  split at h
  · exact absurd h (by simp)
  split at h
  · exact absurd h (by simp)
  rename_i hne
  split at h
  · exact followPointer_measure h
  split at h
  · exact absurd h (by simp)
  split at h
  · exact absurd h (by simp)
  exact readLabel_measure hne h

/-- The loop of `decode_name`. -/
def decodeLoop (packet : Bytes) (start encodedEnd : Nat) (limits : ParseLimits) :
    Terminating DecodeState (Except ParseError DecodedName) where
  body := decodeBody packet start encodedEnd limits
  measure := DecodeState.measure
  decreasing := decodeBody_measure

/-- The variables at the start of the loop. -/
def DecodeState.start (start : Nat) : DecodeState where
  labels := []
  visitedPointers := []
  position := start
  nextOffset := start
  expandedWireSize := 1
  followedPointer := false
  visited_nodup := List.nodup_nil
  visited_lt := by simp

/-- `decode_name`. -/
def decodeName (packet : Bytes) (start encodedEnd : Nat) (limits : ParseLimits) :
    Except ParseError DecodedName :=
  exec (decodeLoop packet start encodedEnd limits) (DecodeState.start start)

/-! ## Questions and records -/

/-- `parse_question`: the question and the offset after it. -/
def parseQuestion (packet : Bytes) (limits : ParseLimits) (offset : Nat) :
    Except ParseError (Question × Nat) := do
  let decoded ← decodeName packet offset packet.length limits
  let (type, offset) ← readU16 packet decoded.nextOffset
  let (questionClass, offset) ← readU16 packet offset
  return (⟨decoded.name, type, questionClass⟩, offset)

/-- `validate_single_name`. -/
def validateSingleName (packet : Bytes) (limits : ParseLimits) (nameOffset requiredEnd : Nat) :
    Except ParseError Unit := do
  let decoded ← decodeName packet nameOffset requiredEnd limits
  if decoded.nextOffset ≠ requiredEnd then throw ⟨.invalidRdata, decoded.nextOffset⟩

/-- The loop of `validate_character_strings` and `validate_text_strings`: the
bytes from the cursor to the end, and the strings so far. -/
def characterStringsBody (state : Bytes × Nat) : Iteration (Bytes × Nat) (Option Nat) :=
  match state.1 with
  | [] => .done (some state.2)
  | size :: rest =>
    if size.toNat > rest.length then .done none
    else .again (rest.drop size.toNat, state.2 + 1)

def characterStringsLoop : Terminating (Bytes × Nat) (Option Nat) where
  body := characterStringsBody
  measure := fun state => state.1.length
  decreasing := by
    rintro ⟨bytes, count⟩ next h
    rw [characterStringsBody] at h
    split at h
    · exact absurd h (by simp)
    · rename_i hbytes
      split at h
      · exact absurd h (by simp)
      · rw [Iteration.again.injEq] at h
        subst h
        simp only at hbytes
        simp only [hbytes, List.length_drop, List.length_cons]
        omega

/-- The number of character-strings that fill `rdata`, if some do. -/
def characterStrings (rdata : Bytes) : Option Nat :=
  exec characterStringsLoop (rdata, 0)

/-- The `switch` of `parse_resource_record` on the type of the record. -/
def validateRdata (packet : Bytes) (limits : ParseLimits) (type : UInt16)
    (rdataOffset rdataEnd : Nat) (rdata : Bytes) : Except ParseError Unit :=
  let invalid : Except ParseError Unit := .error ⟨.invalidRdata, rdataOffset⟩
  match RecordType.ofCode? type with
  | some .a => if rdata.length ≠ 4 then invalid else .ok ()
  | some .aaaa => if rdata.length ≠ 16 then invalid else .ok ()
  | some .ns | some .cname | some .ptr => validateSingleName packet limits rdataOffset rdataEnd
  | some .mx =>
    if rdata.length < 3 then invalid
    else validateSingleName packet limits (rdataOffset + 2) rdataEnd
  | some .soa => do
    let primary ← decodeName packet rdataOffset rdataEnd limits
    let mailbox ← decodeName packet primary.nextOffset rdataEnd limits
    if mailbox.nextOffset > rdataEnd ∨ rdataEnd - mailbox.nextOffset ≠ 20 then
      throw ⟨.invalidRdata, mailbox.nextOffset⟩
  | some .minfo => do
    let responsible ← decodeName packet rdataOffset rdataEnd limits
    validateSingleName packet limits responsible.nextOffset rdataEnd
  | some .hinfo => if characterStrings rdata = some 2 then .ok () else invalid
  | some .txt =>
    match characterStrings rdata with
    | some (_ + 1) => .ok ()
    | _ => invalid
  -- OPT and every other type stay opaque
  | some .opt | none => .ok ()

/-- `parse_resource_record`: the record and the offset after it. -/
def parseResourceRecord (packet : Bytes) (limits : ParseLimits) (offset : Nat) :
    Except ParseError (ResourceRecord × Nat) := do
  let decoded ← decodeName packet offset packet.length limits
  let (type, offset) ← readU16 packet decoded.nextOffset
  let (recordClass, offset) ← readU16 packet offset
  let (ttl, offset) ← readU32 packet offset
  let (rdataLength, rdataOffset) ← readU16 packet offset
  let (rdata, rdataEnd) ← readBytes packet rdataOffset rdataLength.toNat
  validateRdata packet limits type rdataOffset rdataEnd rdata
  return (⟨decoded.name, type, recordClass, ttl, rdataOffset, rdata⟩, rdataEnd)

/-- `parse_section`: `count` items from `offset` on. -/
def parseSection {Item : Type} (parser : Nat → Except ParseError (Item × Nat)) :
    Nat → Nat → Except ParseError (List Item × Nat)
  | 0, offset => .ok ([], offset)
  | count + 1, offset => do
    let (item, offset) ← parser offset
    let (items, offset) ← parseSection parser count offset
    return (item :: items, offset)

theorem parseSection_zero {Item : Type} (parser : Nat → Except ParseError (Item × Nat))
    (offset : Nat) : parseSection parser 0 offset = .ok ([], offset) := rfl

/-! ## `parse_message` -/

/-- The header fields that `parse_message` takes out of the flag word. -/
def decodeFlags (id flags : UInt16) : Header where
  id := id
  isResponse := flags &&& 0x8000 ≠ 0
  opcode := ((flags >>> 11) &&& 0x0f).toUInt8
  authoritativeAnswer := flags &&& 0x0400 ≠ 0
  truncated := flags &&& 0x0200 ≠ 0
  recursionDesired := flags &&& 0x0100 ≠ 0
  recursionAvailable := flags &&& 0x0080 ≠ 0
  reservedZ := flags &&& 0x0040 ≠ 0
  authenticatedData := flags &&& 0x0020 ≠ 0
  checkingDisabled := flags &&& 0x0010 ≠ 0
  responseCode := (flags &&& 0x000f).toUInt8

/-- The six words of the header. -/
structure HeaderWords where
  id : UInt16
  flags : UInt16
  questionCount : UInt16
  answerCount : UInt16
  authorityCount : UInt16
  additionalCount : UInt16
  deriving DecidableEq

/-- The six reads at the start of `parse_message`. -/
def readHeader (packet : Bytes) : Except ParseError HeaderWords := do
  let (id, offset) ← readU16 packet 0
  let (flags, offset) ← readU16 packet offset
  let (questionCount, offset) ← readU16 packet offset
  let (answerCount, offset) ← readU16 packet offset
  let (authorityCount, offset) ← readU16 packet offset
  let (additionalCount, _) ← readU16 packet offset
  return ⟨id, flags, questionCount, answerCount, authorityCount, additionalCount⟩

/-- The count checks of `parse_message`. -/
def checkCounts (words : HeaderWords) (limits : ParseLimits) : Except ParseError Unit :=
  if words.questionCount.toNat > limits.maximumQuestions then .error ⟨.tooManyQuestions, 4⟩
  else if words.answerCount.toNat > limits.maximumRecordsPerSection ∨
      words.authorityCount.toNat > limits.maximumRecordsPerSection ∨
      words.additionalCount.toNat > limits.maximumRecordsPerSection then
    .error ⟨.tooManyRecords, 6⟩
  else if words.answerCount.toNat + words.authorityCount.toNat + words.additionalCount.toNat >
      limits.maximumTotalRecords then
    .error ⟨.tooManyRecords, 6⟩
  else .ok ()

/-- `parse_message`. -/
def parseMessage (packet : Bytes) (limits : ParseLimits) : Except ParseError Message := do
  if packet.length > limits.maximumPacketSize then
    throw ⟨.packetTooLarge, limits.maximumPacketSize⟩
  let words ← readHeader packet
  checkCounts words limits
  let (questions, offset) ←
    parseSection (parseQuestion packet limits) words.questionCount.toNat dnsHeaderSize
  let (answers, offset) ←
    parseSection (parseResourceRecord packet limits) words.answerCount.toNat offset
  let (authorities, offset) ←
    parseSection (parseResourceRecord packet limits) words.authorityCount.toNat offset
  let (additionals, offset) ←
    parseSection (parseResourceRecord packet limits) words.additionalCount.toNat offset
  if limits.rejectTrailingData ∧ offset ≠ packet.length then throw ⟨.trailingData, offset⟩
  return {
    header := decodeFlags words.id words.flags
    questions := questions
    answers := answers
    authorities := authorities
    additionals := additionals
    wireImage := packet }

end DnsPro.Protocol
