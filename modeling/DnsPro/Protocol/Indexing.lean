import DnsPro.Protocol.Parser

/-!
# Every access is inside the packet

The parser once more, closer to the source: each bound check stands where the
source has it, and each `packet[index]` is an access of its own, which fails when
the index is out of range.  `parseMessage_eq` says that none does: the checks
come first, and the result is the one of the parser.
-/

namespace DnsPro.Protocol.Indexed

open DnsPro.Loop

/-- A computation on the packet; `none` is an access out of range. -/
abbrev Access : Type → Type := ExceptT ParseError Option

/-- A computation without an access out of range. -/
def inRange {α : Type} (result : Except ParseError α) : Access α := ExceptT.mk (some result)

/-- `packet[index]`. -/
def byteAt (packet : Bytes) (index : Nat) : Access UInt8 := ExceptT.lift packet[index]?

/-- The `count` bytes from `first` on. -/
def slice? (packet : Bytes) (first count : Nat) : Option Bytes :=
  if first + count ≤ packet.length then some ((packet.drop first).take count) else none

/-! ## `WireReader` -/

/-- `remaining`. -/
def remaining (packet : Bytes) (offset : Nat) : Nat :=
  if offset ≤ packet.length then packet.length - offset else 0

/-- `read_u16`. -/
def readU16 (packet : Bytes) (offset : Nat) : Access (UInt16 × Nat) :=
  if remaining packet offset < 2 then throw ⟨.unexpectedEnd, offset⟩
  else do
    let high ← byteAt packet offset
    let low ← byteAt packet (offset + 1)
    return (be16 high low, offset + 2)

/-- `read_u32`. -/
def readU32 (packet : Bytes) (offset : Nat) : Access (UInt32 × Nat) :=
  if remaining packet offset < 4 then throw ⟨.unexpectedEnd, offset⟩
  else do
    let b0 ← byteAt packet offset
    let b1 ← byteAt packet (offset + 1)
    let b2 ← byteAt packet (offset + 2)
    let b3 ← byteAt packet (offset + 3)
    return (be32 b0 b1 b2 b3, offset + 4)

/-- `read_bytes`. -/
def readBytes (packet : Bytes) (offset count : Nat) : Access (Bytes × Nat) :=
  if remaining packet offset < count then throw ⟨.unexpectedEnd, offset⟩
  else do
    let bytes ← ExceptT.lift (slice? packet offset count)
    return (bytes, offset + count)

theorem remaining_eq (packet : Bytes) (offset : Nat) :
    remaining packet offset = (packet.drop offset).length := by
  rw [remaining, List.length_drop]
  split
  · rfl
  · omega

theorem byteAt_of_drop {packet : Bytes} {offset : Nat} (index : Nat) {byte : UInt8}
    (h : (packet.drop offset)[index]? = some byte) :
    byteAt packet (offset + index) = inRange (.ok byte) := by
  rw [List.getElem?_drop] at h
  rw [byteAt, h]
  rfl

theorem readU16_eq (packet : Bytes) (offset : Nat) :
    readU16 packet offset = inRange (Protocol.readU16 packet offset) := by
  rw [readU16, Protocol.readU16, remaining_eq]
  match hdrop : packet.drop offset with
  | [] => rfl
  | [byte] => rfl
  | high :: low :: rest =>
    have hhigh : byteAt packet offset = inRange (.ok high) := byteAt_of_drop 0 (by rw [hdrop]; rfl)
    have hlow : byteAt packet (offset + 1) = inRange (.ok low) :=
      byteAt_of_drop 1 (by rw [hdrop]; rfl)
    rw [if_neg (by simp), hhigh, hlow]
    rfl

theorem readU32_eq (packet : Bytes) (offset : Nat) :
    readU32 packet offset = inRange (Protocol.readU32 packet offset) := by
  rw [readU32, Protocol.readU32, remaining_eq]
  match hdrop : packet.drop offset with
  | [] => rfl
  | [_] => rfl
  | [_, _] => rfl
  | [_, _, _] => rfl
  | b0 :: b1 :: b2 :: b3 :: rest =>
    have h0 : byteAt packet offset = inRange (.ok b0) := byteAt_of_drop 0 (by rw [hdrop]; rfl)
    have h1 : byteAt packet (offset + 1) = inRange (.ok b1) := byteAt_of_drop 1 (by rw [hdrop]; rfl)
    have h2 : byteAt packet (offset + 2) = inRange (.ok b2) := byteAt_of_drop 2 (by rw [hdrop]; rfl)
    have h3 : byteAt packet (offset + 3) = inRange (.ok b3) := byteAt_of_drop 3 (by rw [hdrop]; rfl)
    rw [if_neg (by simp), h0, h1, h2, h3]
    rfl

theorem readBytes_eq (packet : Bytes) (offset count : Nat) (hoffset : offset ≤ packet.length) :
    readBytes packet offset count = inRange (Protocol.readBytes packet offset count) := by
  rw [readBytes, Protocol.readBytes, remaining_eq]
  split
  · rfl
  · rename_i hpresent
    rw [List.length_drop] at hpresent
    rw [slice?, if_pos (by omega)]
    rfl

/-! ## `decode_name` -/

/-- A loop body with accesses: an access out of range leaves the loop. -/
def guarded {σ ρ : Type} (body : σ → Option (Iteration σ ρ)) (state : σ) : Iteration σ (Option ρ) :=
  match body state with
  | none => .done none
  | some (.again next) => .again next
  | some (.done result) => .done (some result)

/-- The branch for a length byte with both upper bits set. -/
def followPointer (packet : Bytes) (encodedEnd : Nat) (limits : ParseLimits) (state : DecodeState)
    (length : UInt8) : Option (Iteration DecodeState (Except ParseError DecodedName)) :=
  if state.position + 1 ≥ packet.length ∨
      (!state.followedPointer ∧ state.position + 1 ≥ encodedEnd) then
    some (.done (.error ⟨.truncatedCompressionPointer, state.position⟩))
  else do
    let second ← packet[state.position + 1]?
    let pointer := pointerTarget length second
    if pointer ≥ packet.length then
      return .done (.error ⟨.compressionPointerOutOfBounds, state.position⟩)
    else if pointer < dnsHeaderSize then
      return .done (.error ⟨.compressionPointerIntoHeader, state.position⟩)
    else if limits.requireBackwardPointers ∧ pointer ≥ state.position then
      return .done (.error ⟨.forwardCompressionPointer, state.position⟩)
    else if hvisited : pointer ∈ state.visitedPointers then
      return .done (.error ⟨.compressionPointerLoop, state.position⟩)
    else if state.visitedPointers.length ≥ limits.maximumCompressionPointers then
      return .done (.error ⟨.tooManyCompressionPointers, state.position⟩)
    else
      return .again { state with
        visitedPointers := pointer :: state.visitedPointers
        nextOffset := if state.followedPointer then state.nextOffset else state.position + 2
        followedPointer := true
        position := pointer
        visited_nodup := state.nodup_follow length second hvisited
        visited_lt := state.lt_follow length second }

/-- The branch for a plain label. -/
def readLabel (packet : Bytes) (encodedEnd : Nat) (state : DecodeState) (length : UInt8) :
    Option (Iteration DecodeState (Except ParseError DecodedName)) :=
  let labelBegin := state.position + 1
  if labelBegin > packet.length ∨ length.toNat > packet.length - labelBegin ∨
      (!state.followedPointer ∧
        (labelBegin > encodedEnd ∨ length.toNat > encodedEnd - labelBegin)) then
    some (.done (.error ⟨.unexpectedEnd, state.position⟩))
  else if state.expandedWireSize > maxDomainWireSize - (length.toNat + 1) then
    some (.done (.error ⟨.nameTooLong, state.position⟩))
  else do
    let label ← slice? packet labelBegin length.toNat
    return .again { state with
      labels := state.labels ++ [label]
      expandedWireSize := state.expandedWireSize + (length.toNat + 1)
      position := labelBegin + length.toNat
      nextOffset := if state.followedPointer then state.nextOffset else labelBegin + length.toNat }

/-- The body of the loop. -/
def decodeBody (packet : Bytes) (start encodedEnd : Nat) (limits : ParseLimits)
    (state : DecodeState) : Option (Iteration DecodeState (Except ParseError DecodedName)) :=
  if state.position ≥ packet.length then
    some (.done (.error ⟨.unexpectedEnd, state.position⟩))
  else if !state.followedPointer ∧ state.position ≥ encodedEnd then
    some (.done (.error ⟨.unexpectedEnd, state.position⟩))
  else do
    let length ← packet[state.position]?
    if length = 0 then
      return .done (finishName start state.labels
        (if state.followedPointer then state.nextOffset else state.position + 1))
    else if length &&& 0xc0 = 0xc0 then followPointer packet encodedEnd limits state length
    else if length &&& 0xc0 ≠ 0 then return .done (.error ⟨.invalidLabelType, state.position⟩)
    else if length.toNat > maxLabelSize then
      return .done (.error ⟨.labelTooLong, state.position⟩)
    else readLabel packet encodedEnd state length

section

variable {packet rest : Bytes} {encodedEnd : Nat} {limits : ParseLimits} {state : DecodeState}
  {length : UInt8}

theorem length_of_drop_cons (h : packet.drop state.position = length :: rest) :
    packet.length = state.position + 1 + rest.length := by
  have hlength := congrArg List.length h
  rw [List.length_drop, List.length_cons] at hlength
  omega

theorem followPointer_eq (h : packet.drop state.position = length :: rest) :
    followPointer packet encodedEnd limits state length =
      some (Protocol.followPointer packet encodedEnd limits state length rest) := by
  have hlength := length_of_drop_cons h
  unfold followPointer Protocol.followPointer
  cases rest with
  | nil =>
    rw [List.length_nil] at hlength
    rw [if_pos (Or.inl (by omega))]
  | cons second tail =>
    rw [List.length_cons] at hlength
    have hsecond : packet[state.position + 1]? = some second := by
      rw [← List.getElem?_drop, h]
      rfl
    by_cases houtside : (!state.followedPointer && decide (state.position + 1 ≥ encodedEnd)) = true
    · rw [if_pos (Or.inr (by simpa using houtside))]
      dsimp only
      rw [if_pos houtside]
    · have hpresent : ¬ (state.position + 1 ≥ packet.length ∨
          (!state.followedPointer) = true ∧ state.position + 1 ≥ encodedEnd) := by
        rintro (h | h)
        · omega
        · exact houtside (by simpa using h)
      rw [if_neg hpresent, hsecond]
      dsimp only
      rw [if_neg houtside]
      simp only [Bool.and_eq_true, decide_eq_true_eq]
      simp only [Option.bind_eq_bind, Option.bind_some, Option.pure_def]
      split_ifs
      all_goals rfl

theorem readLabel_eq (h : packet.drop state.position = length :: rest) :
    readLabel packet encodedEnd state length =
      some (Protocol.readLabel encodedEnd state length rest) := by
  have hlength := length_of_drop_cons h
  have hrest : packet.drop (state.position + 1) = rest := by
    rw [← List.drop_drop, h]
    rfl
  have hchecks : (state.position + 1 > packet.length ∨
      length.toNat > packet.length - (state.position + 1) ∨
      (!state.followedPointer ∧ (state.position + 1 > encodedEnd ∨
        length.toNat > encodedEnd - (state.position + 1)))) ↔
      (length.toNat > rest.length ∨ (!state.followedPointer ∧ (state.position + 1 > encodedEnd ∨
        length.toNat > encodedEnd - (state.position + 1)))) := by
    rw [← or_assoc]
    exact or_congr_left (by omega)
  unfold readLabel Protocol.readLabel
  dsimp only
  simp only [hchecks]
  split
  · rfl
  rename_i hbounds
  split
  · rfl
  · rw [slice?, if_pos (by omega), hrest]
    rfl

theorem decodeBody_eq (start : Nat) :
    decodeBody packet start encodedEnd limits state =
      some (Protocol.decodeBody packet start encodedEnd limits state) := by
  unfold decodeBody Protocol.decodeBody
  cases hdrop : packet.drop state.position with
  | nil => rw [if_pos (List.drop_eq_nil_iff.mp hdrop)]
  | cons length rest =>
    have hlength := length_of_drop_cons hdrop
    have hbyte : packet[state.position]? = some length := by
      rw [← Nat.add_zero state.position, ← List.getElem?_drop, hdrop]
      rfl
    rw [if_neg (by omega), hbyte]
    dsimp only
    simp only [Bool.and_eq_true, decide_eq_true_eq, Option.bind_eq_bind, Option.bind_some,
      Option.pure_def, followPointer_eq hdrop, readLabel_eq hdrop]
    split_ifs
    all_goals rfl

theorem guarded_eq {σ ρ : Type} {body : σ → Iteration σ ρ} {body' : σ → Option (Iteration σ ρ)}
    {state : σ} (h : body' state = some (body state)) :
    guarded body' state = match body state with
      | .again next => .again next
      | .done result => .done (some result) := by
  rw [guarded, h]
  cases body state with
  | again next => rfl
  | done result => rfl

end

/-- The loop of `decode_name`. -/
def decodeLoop (packet : Bytes) (start encodedEnd : Nat) (limits : ParseLimits) :
    Terminating DecodeState (Option (Except ParseError DecodedName)) where
  body := guarded (decodeBody packet start encodedEnd limits)
  measure := DecodeState.measure
  decreasing := by
    intro state next h
    rw [guarded_eq (decodeBody_eq start)] at h
    split at h
    · rename_i hbody
      obtain rfl := Iteration.again.inj h
      exact decodeBody_measure hbody
    · cases h

/-- `decode_name`. -/
def decodeName (packet : Bytes) (start encodedEnd : Nat) (limits : ParseLimits) :
    Access DecodedName :=
  ExceptT.mk (exec (decodeLoop packet start encodedEnd limits) (DecodeState.start start))

/-- A loop whose accesses are all in range. -/
theorem exec_guarded {σ ρ : Type} {loop : Terminating σ ρ} {loop' : Terminating σ (Option ρ)}
    (hbody : ∀ state, loop'.body state = match loop.body state with
      | .again next => .again next
      | .done result => .done (some result)) (state : σ) :
    exec loop' state = some (exec loop state) := by
  refine exec_rel loop' loop (fun state state' => state = state')
    (fun result' result => result' = some result) ?_ state state rfl
  rintro state _ rfl
  rw [hbody]
  cases loop.body state with
  | again next => rfl
  | done result => rfl

theorem decodeName_eq (packet : Bytes) (start encodedEnd : Nat) (limits : ParseLimits) :
    decodeName packet start encodedEnd limits =
      inRange (Protocol.decodeName packet start encodedEnd limits) := by
  rw [decodeName, Protocol.decodeName, inRange]
  exact exec_guarded (fun state => guarded_eq (decodeBody_eq start)) _

/-! ## Questions and records -/

/-- `parse_question`. -/
def parseQuestion (packet : Bytes) (limits : ParseLimits) (offset : Nat) :
    Access (Question × Nat) := do
  let decoded ← decodeName packet offset packet.length limits
  let (type, offset) ← readU16 packet decoded.nextOffset
  let (questionClass, offset) ← readU16 packet offset
  return (⟨decoded.name, type, questionClass⟩, offset)

/-- `validate_single_name`. -/
def validateSingleName (packet : Bytes) (limits : ParseLimits) (nameOffset requiredEnd : Nat) :
    Access Unit := do
  let decoded ← decodeName packet nameOffset requiredEnd limits
  if decoded.nextOffset ≠ requiredEnd then throw ⟨.invalidRdata, decoded.nextOffset⟩

/-- The loop of `validate_character_strings` and `validate_text_strings`, from
`cursor` on. -/
def characterStringsBody (packet : Bytes) (rdataEnd : Nat) (state : Nat × Nat) :
    Option (Iteration (Nat × Nat) (Option Nat)) :=
  let (cursor, count) := state
  if cursor < rdataEnd then do
    let size ← packet[cursor]?
    if size.toNat > rdataEnd - (cursor + 1) then return .done none
    else return .again (cursor + 1 + size.toNat, count + 1)
  else some (.done (if cursor = rdataEnd then some count else none))

def characterStringsLoop (packet : Bytes) (rdataEnd : Nat) :
    Terminating (Nat × Nat) (Option (Option Nat)) where
  body := guarded (characterStringsBody packet rdataEnd)
  measure := fun state => rdataEnd - state.1
  decreasing := by
    rintro ⟨cursor, count⟩ next h
    rw [guarded, characterStringsBody] at h
    split_ifs at h with hcursor
    cases hbyte : packet[cursor]? with
    | none =>
      rw [hbyte] at h
      cases h
    | some size =>
      rw [hbyte] at h
      simp only [Option.bind_eq_bind, Option.bind_some, Option.pure_def] at h
      split_ifs at h
      obtain rfl := Iteration.again.inj h
      omega

/-- The number of character-strings between the two offsets, if they fill them. -/
def characterStrings (packet : Bytes) (rdataOffset rdataEnd : Nat) : Access (Option Nat) :=
  ExceptT.lift (exec (characterStringsLoop packet rdataEnd) (rdataOffset, 0))

/-- The `switch` of `parse_resource_record`. -/
def validateRdata (packet : Bytes) (limits : ParseLimits) (type : UInt16)
    (rdataOffset rdataEnd rdataLength : Nat) : Access Unit :=
  let invalid : Access Unit := throw ⟨.invalidRdata, rdataOffset⟩
  match RecordType.ofCode? type with
  | some .a => if rdataLength ≠ 4 then invalid else pure ()
  | some .aaaa => if rdataLength ≠ 16 then invalid else pure ()
  | some .ns | some .cname | some .ptr => validateSingleName packet limits rdataOffset rdataEnd
  | some .mx =>
    if rdataLength < 3 then invalid
    else validateSingleName packet limits (rdataOffset + 2) rdataEnd
  | some .soa => do
    let primary ← decodeName packet rdataOffset rdataEnd limits
    let mailbox ← decodeName packet primary.nextOffset rdataEnd limits
    if mailbox.nextOffset > rdataEnd ∨ rdataEnd - mailbox.nextOffset ≠ 20 then
      throw ⟨.invalidRdata, mailbox.nextOffset⟩
  | some .minfo => do
    let responsible ← decodeName packet rdataOffset rdataEnd limits
    validateSingleName packet limits responsible.nextOffset rdataEnd
  | some .hinfo => do
    let count ← characterStrings packet rdataOffset rdataEnd
    if count = some 2 then pure () else invalid
  | some .txt => do
    let count ← characterStrings packet rdataOffset rdataEnd
    match count with
    | some (_ + 1) => pure ()
    | _ => invalid
  | some .opt | none => pure ()

/-- `parse_resource_record`. -/
def parseResourceRecord (packet : Bytes) (limits : ParseLimits) (offset : Nat) :
    Access (ResourceRecord × Nat) := do
  let decoded ← decodeName packet offset packet.length limits
  let (type, offset) ← readU16 packet decoded.nextOffset
  let (recordClass, offset) ← readU16 packet offset
  let (ttl, offset) ← readU32 packet offset
  let (rdataLength, rdataOffset) ← readU16 packet offset
  let (rdata, rdataEnd) ← readBytes packet rdataOffset rdataLength.toNat
  validateRdata packet limits type rdataOffset rdataEnd rdataLength.toNat
  return (⟨decoded.name, type, recordClass, ttl, rdataOffset, rdata⟩, rdataEnd)

/-- `parse_section`. -/
def parseSection {Item : Type} (parser : Nat → Access (Item × Nat)) :
    Nat → Nat → Access (List Item × Nat)
  | 0, offset => pure ([], offset)
  | count + 1, offset => do
    let (item, offset) ← parser offset
    let (items, offset) ← parseSection parser count offset
    return (item :: items, offset)

/-- The six reads at the start of `parse_message`. -/
def readHeader (packet : Bytes) : Access HeaderWords := do
  let (id, offset) ← readU16 packet 0
  let (flags, offset) ← readU16 packet offset
  let (questionCount, offset) ← readU16 packet offset
  let (answerCount, offset) ← readU16 packet offset
  let (authorityCount, offset) ← readU16 packet offset
  let (additionalCount, _) ← readU16 packet offset
  return ⟨id, flags, questionCount, answerCount, authorityCount, additionalCount⟩

/-- `parse_message`. -/
def parseMessage (packet : Bytes) (limits : ParseLimits) : Access Message := do
  if packet.length > limits.maximumPacketSize then
    throw ⟨.packetTooLarge, limits.maximumPacketSize⟩
  let words ← readHeader packet
  inRange (checkCounts words limits)
  let (questions, offset) ←
    parseSection (parseQuestion packet limits) words.questionCount.toNat dnsHeaderSize
  let (answers, offset) ←
    parseSection (parseResourceRecord packet limits) words.answerCount.toNat offset
  let (authorities, offset) ←
    parseSection (parseResourceRecord packet limits) words.authorityCount.toNat offset
  let (additionals, offset) ←
    parseSection (parseResourceRecord packet limits) words.additionalCount.toNat offset
  if limits.rejectTrailingData ∧ offset ≠ packet.length then throw ⟨.trailingData, offset⟩
  return {
    header := decodeFlags words.id words.flags
    questions := questions
    answers := answers
    authorities := authorities
    additionals := additionals
    wireImage := packet }

/-! ## All accesses are in range -/

variable {packet : Bytes} {limits : ParseLimits}

/-- What comes after a computation in range need only be in range on its result. -/
theorem inRange_bind {α β : Type} {x : Except ParseError α} {f : α → Except ParseError β}
    {f' : α → Access β} (h : ∀ a, x = .ok a → f' a = inRange (f a)) :
    (inRange x >>= f') = inRange (x >>= f) := by
  cases x with
  | error error => rfl
  | ok a => exact h a rfl

theorem parseQuestion_eq (offset : Nat) :
    parseQuestion packet limits offset = inRange (Protocol.parseQuestion packet limits offset) := by
  unfold parseQuestion Protocol.parseQuestion
  rw [decodeName_eq]
  refine inRange_bind fun decoded _ => ?_
  rw [readU16_eq]
  refine inRange_bind fun ⟨type, afterType⟩ _ => ?_
  dsimp only
  rw [readU16_eq]
  exact inRange_bind fun _ _ => rfl

theorem validateSingleName_eq (nameOffset requiredEnd : Nat) :
    validateSingleName packet limits nameOffset requiredEnd =
      inRange (Protocol.validateSingleName packet limits nameOffset requiredEnd) := by
  unfold validateSingleName Protocol.validateSingleName
  rw [decodeName_eq]
  refine inRange_bind fun decoded _ => ?_
  split
  · rfl
  · rfl

theorem characterStrings_eq {rdataOffset rdataEnd : Nat} (hstart : rdataOffset ≤ rdataEnd)
    (hend : rdataEnd ≤ packet.length) :
    characterStrings packet rdataOffset rdataEnd =
      inRange (.ok (Protocol.characterStrings
        ((packet.drop rdataOffset).take (rdataEnd - rdataOffset)))) := by
  suffices hexec : exec (characterStringsLoop packet rdataEnd) (rdataOffset, 0) =
      some (Protocol.characterStrings
        ((packet.drop rdataOffset).take (rdataEnd - rdataOffset))) by
    rw [characterStrings, hexec]
    rfl
  -- the cursor of one loop stands where the bytes of the other begin
  refine exec_rel (characterStringsLoop packet rdataEnd) Protocol.characterStringsLoop
    (fun state state' => state.1 ≤ rdataEnd ∧ state.2 = state'.2 ∧
      state'.1 = (packet.drop state.1).take (rdataEnd - state.1))
    (fun result' result => result' = some result) ?_ _ _ ⟨hstart, rfl, rfl⟩
  rintro ⟨cursor, count⟩ ⟨bytes, count'⟩ ⟨hcursor, rfl, rfl⟩
  have hindexed : (characterStringsLoop packet rdataEnd).body (cursor, count) =
    guarded (characterStringsBody packet rdataEnd) (cursor, count) := rfl
  have hplain : Protocol.characterStringsLoop.body
      ((packet.drop cursor).take (rdataEnd - cursor), count) =
    Protocol.characterStringsBody ((packet.drop cursor).take (rdataEnd - cursor), count) := rfl
  dsimp only at hcursor ⊢
  rw [hindexed, hplain]
  by_cases hat : cursor = rdataEnd
  · subst hat
    simp [guarded, characterStringsBody, Protocol.characterStringsBody]
  · obtain ⟨size, hsize⟩ : ∃ size, packet[cursor]? = some size :=
      ⟨_, List.getElem?_eq_getElem (by omega)⟩
    have hdrop : packet.drop cursor = size :: packet.drop (cursor + 1) := by
      obtain ⟨hlt, rfl⟩ := List.getElem?_eq_some_iff.mp hsize
      exact List.drop_eq_getElem_cons hlt
    have hbytes : (packet.drop cursor).take (rdataEnd - cursor) =
        size :: (packet.drop (cursor + 1)).take (rdataEnd - (cursor + 1)) := by
      rw [hdrop, show rdataEnd - cursor = rdataEnd - (cursor + 1) + 1 by omega, List.take_succ_cons]
    have hlength : ((packet.drop (cursor + 1)).take (rdataEnd - (cursor + 1))).length =
        rdataEnd - (cursor + 1) := by
      rw [List.length_take, List.length_drop]
      omega
    rw [hbytes]
    simp only [guarded, characterStringsBody, Protocol.characterStringsBody, hlength, hsize,
      if_pos (show cursor < rdataEnd by omega), Option.bind_eq_bind, Option.bind_some,
      Option.pure_def]
    by_cases htoo : size.toNat > rdataEnd - (cursor + 1)
    · simp only [if_pos htoo]
    · simp only [if_neg htoo]
      refine ⟨by omega, trivial, ?_⟩
      rw [List.drop_take, List.drop_drop]
      congr 1
      omega

theorem validateRdata_eq (limits : ParseLimits) (type : UInt16) {rdataOffset rdataEnd : Nat}
    {rdata : Bytes} (hrdata : rdata = (packet.drop rdataOffset).take (rdataEnd - rdataOffset))
    (hstart : rdataOffset ≤ rdataEnd) (hend : rdataEnd ≤ packet.length) :
    validateRdata packet limits type rdataOffset rdataEnd (rdataEnd - rdataOffset) =
      inRange (Protocol.validateRdata packet limits type rdataOffset rdataEnd rdata) := by
  have hlength : rdata.length = rdataEnd - rdataOffset := by
    rw [hrdata, List.length_take, List.length_drop]
    omega
  unfold validateRdata Protocol.validateRdata
  rw [characterStrings_eq hstart hend, ← hrdata, hlength]
  cases RecordType.ofCode? type with
  | none => rfl
  | some type =>
    cases type with
    | a | aaaa =>
      dsimp only
      split
      · rfl
      · rfl
    | ns | cname | ptr => exact validateSingleName_eq _ _
    | mx =>
      dsimp only
      split
      · rfl
      · exact validateSingleName_eq _ _
    | soa =>
      dsimp only
      rw [decodeName_eq]
      refine inRange_bind fun primary _ => ?_
      rw [decodeName_eq]
      refine inRange_bind fun mailbox _ => ?_
      split
      · rfl
      · rfl
    | minfo =>
      dsimp only
      rw [decodeName_eq]
      exact inRange_bind fun responsible _ => validateSingleName_eq _ _
    | hinfo =>
      dsimp only
      show (if _ then _ else _) = _
      split
      · rfl
      · rfl
    | txt =>
      dsimp only
      cases Protocol.characterStrings rdata with
      | none => rfl
      | some count => cases count <;> rfl
    | opt => rfl

theorem next_le_of_readU16 {offset next : Nat} {value : UInt16}
    (h : Protocol.readU16 packet offset = .ok (value, next)) : next ≤ packet.length := by
  rw [Protocol.readU16] at h
  split at h
  · rename_i high low rest hdrop
    obtain ⟨-, rfl⟩ := Prod.mk.inj (Except.ok.inj h)
    have hlength := congrArg List.length hdrop
    rw [List.length_drop, List.length_cons, List.length_cons] at hlength
    omega
  · cases h

theorem parseResourceRecord_eq (offset : Nat) :
    parseResourceRecord packet limits offset =
      inRange (Protocol.parseResourceRecord packet limits offset) := by
  unfold parseResourceRecord Protocol.parseResourceRecord
  rw [decodeName_eq]
  refine inRange_bind fun decoded _ => ?_
  rw [readU16_eq]
  refine inRange_bind fun ⟨type, afterType⟩ _ => ?_
  dsimp only
  rw [readU16_eq]
  refine inRange_bind fun ⟨recordClass, afterClass⟩ _ => ?_
  dsimp only
  rw [readU32_eq]
  refine inRange_bind fun ⟨ttl, afterTtl⟩ _ => ?_
  dsimp only
  rw [readU16_eq]
  refine inRange_bind fun ⟨rdataLength, rdataOffset⟩ hlength => ?_
  dsimp only
  have hoffset := next_le_of_readU16 hlength
  rw [readBytes_eq packet rdataOffset rdataLength.toNat hoffset]
  refine inRange_bind fun ⟨rdata, rdataEnd⟩ hrdata => ?_
  dsimp only
  rw [Protocol.readBytes] at hrdata
  split at hrdata
  · cases hrdata
  rename_i hpresent
  rw [List.length_drop] at hpresent
  obtain ⟨rfl, rfl⟩ := Prod.mk.inj (Except.ok.inj hrdata)
  have hcount : rdataOffset + rdataLength.toNat - rdataOffset = rdataLength.toNat := by omega
  have hvalid := validateRdata_eq limits type
    (rfl : (packet.drop rdataOffset).take (rdataOffset + rdataLength.toNat - rdataOffset) = _)
    (by omega) (by omega)
  rw [hcount] at hvalid
  rw [hvalid]
  exact inRange_bind fun _ _ => rfl

theorem parseSection_eq {Item : Type} {parser : Nat → Except ParseError (Item × Nat)}
    {parser' : Nat → Access (Item × Nat)} (h : ∀ offset, parser' offset = inRange (parser offset))
    (count offset : Nat) :
    parseSection parser' count offset = inRange (Protocol.parseSection parser count offset) := by
  induction count generalizing offset with
  | zero => rfl
  | succ count ih =>
    rw [parseSection, Protocol.parseSection, h]
    refine inRange_bind fun ⟨item, next⟩ _ => ?_
    dsimp only
    rw [ih]
    exact inRange_bind fun _ _ => rfl

theorem readHeader_eq : readHeader packet = inRange (Protocol.readHeader packet) := by
  unfold readHeader Protocol.readHeader
  rw [readU16_eq]
  refine inRange_bind fun ⟨id, offset⟩ _ => ?_
  dsimp only
  rw [readU16_eq]
  refine inRange_bind fun ⟨flags, offset⟩ _ => ?_
  dsimp only
  rw [readU16_eq]
  refine inRange_bind fun ⟨questionCount, offset⟩ _ => ?_
  dsimp only
  rw [readU16_eq]
  refine inRange_bind fun ⟨answerCount, offset⟩ _ => ?_
  dsimp only
  rw [readU16_eq]
  refine inRange_bind fun ⟨authorityCount, offset⟩ _ => ?_
  dsimp only
  rw [readU16_eq]
  exact inRange_bind fun _ _ => rfl

/-- Every access of `parse_message` is inside the packet. -/
theorem parseMessage_eq (packet : Bytes) (limits : ParseLimits) :
    parseMessage packet limits = inRange (Protocol.parseMessage packet limits) := by
  unfold parseMessage Protocol.parseMessage
  by_cases hsize : packet.length > limits.maximumPacketSize
  · rw [if_pos hsize, if_pos hsize]
    rfl
  rw [if_neg hsize, if_neg hsize, readHeader_eq]
  dsimp only
  refine inRange_bind fun words _ => ?_
  refine inRange_bind fun _ _ => ?_
  rw [parseSection_eq parseQuestion_eq]
  refine inRange_bind fun ⟨questions, questionsEnd⟩ _ => ?_
  dsimp only
  rw [parseSection_eq parseResourceRecord_eq]
  refine inRange_bind fun ⟨answers, answersEnd⟩ _ => ?_
  dsimp only
  rw [parseSection_eq parseResourceRecord_eq]
  refine inRange_bind fun ⟨authorities, authoritiesEnd⟩ _ => ?_
  dsimp only
  rw [parseSection_eq parseResourceRecord_eq]
  refine inRange_bind fun ⟨additionals, recordsEnd⟩ _ => ?_
  dsimp only
  split
  · rfl
  · rfl

end DnsPro.Protocol.Indexed
