import DnsPro.Protocol.Grammar

/-!
# Rewriting the transaction id

The channel forwards the bytes of a response with the first two replaced.  The
parser reads the questions and the records from the thirteenth byte on, and no
compression pointer may lead into the header, so two packets that differ in
their headers only are parsed alike behind them (`SameBody`, `Agree`).
-/

namespace DnsPro.Protocol

open DnsPro.Loop DnsPro.Result

/-- The bytes with another id in front. -/
def withTransactionId (packet : Bytes) (id : UInt16) : Bytes := bytes16 id ++ packet.drop 2

/-- A packet that has an id can get another. -/
theorem rewriteTransactionId_eq {packet : Bytes} {id : UInt16} (h : transactionId packet = some id)
    (newId : UInt16) :
    rewriteTransactionId packet newId = .ok (withTransactionId packet newId) := by
  unfold transactionId at h
  split at h
  · rfl
  · cases h

theorem transactionId_withTransactionId (packet : Bytes) (id : UInt16) :
    transactionId (withTransactionId packet id) = some id := by
  show some (be16 (id >>> 8).toUInt8 id.toUInt8) = some id
  rw [be16_bytes]

theorem drop_withTransactionId (packet : Bytes) (id : UInt16) :
    (withTransactionId packet id).drop 2 = packet.drop 2 := rfl

/-! ## Behind the header -/

/-- The packets differ at most in the bytes of their headers. -/
structure SameBody (packet other : Bytes) : Prop where
  length_eq : packet.length = other.length
  drop_eq : packet.drop dnsHeaderSize = other.drop dnsHeaderSize

variable {packet other : Bytes} {limits : ParseLimits} {offset : Nat}

theorem SameBody.drop (h : SameBody packet other) (hoffset : dnsHeaderSize ≤ offset) :
    packet.drop offset = other.drop offset := by
  obtain ⟨extra, rfl⟩ := Nat.exists_eq_add_of_le hoffset
  rw [← List.drop_drop, ← List.drop_drop, h.drop_eq]

/-- Two parsers do the same behind the header, and stay there. -/
structure Agree {Item : Type} (parser parser' : Nat → Except ParseError (Item × Nat)) : Prop where
  eq : ∀ offset, dnsHeaderSize ≤ offset → parser offset = parser' offset
  next : ∀ offset item next, dnsHeaderSize ≤ offset → parser offset = .ok (item, next) →
    dnsHeaderSize ≤ next

theorem readU16_agree (h : SameBody packet other) : Agree (readU16 packet) (readU16 other) := by
  constructor
  · intro offset hoffset
    rw [readU16, readU16, h.drop hoffset]
  · intro offset item next hoffset hread
    unfold readU16 at hread
    split at hread
    · obtain ⟨-, rfl⟩ := Prod.mk.inj (Except.ok.inj hread)
      omega
    · cases hread

theorem readU32_agree (h : SameBody packet other) : Agree (readU32 packet) (readU32 other) := by
  constructor
  · intro offset hoffset
    rw [readU32, readU32, h.drop hoffset]
  · intro offset item next hoffset hread
    unfold readU32 at hread
    split at hread
    · obtain ⟨-, rfl⟩ := Prod.mk.inj (Except.ok.inj hread)
      omega
    · cases hread

theorem readBytes_agree (h : SameBody packet other) (count : Nat) :
    Agree (readBytes packet · count) (readBytes other · count) := by
  constructor
  · intro offset hoffset
    show readBytes packet offset count = readBytes other offset count
    rw [readBytes, readBytes, h.drop hoffset]
  · intro offset item next hoffset hread
    change readBytes packet offset count = _ at hread
    unfold readBytes at hread
    split at hread
    · cases hread
    · obtain ⟨-, rfl⟩ := Prod.mk.inj (Except.ok.inj hread)
      omega

theorem Agree.section {Item : Type} {parser parser' : Nat → Except ParseError (Item × Nat)}
    (h : Agree parser parser') (count : Nat) :
    Agree (parseSection parser count) (parseSection parser' count) := by
  induction count with
  | zero =>
    constructor
    · intro offset _
      rfl
    · intro offset items next hoffset hparse
      obtain ⟨-, rfl⟩ := Prod.mk.inj (Except.ok.inj hparse)
      exact hoffset
  | succ count ih =>
    constructor
    · intro offset hoffset
      rw [parseSection, parseSection, ← h.eq offset hoffset]
      refine bind_congr_ok ?_
      rintro ⟨item, next⟩ hitem
      dsimp only
      rw [ih.eq next (h.next offset item next hoffset hitem)]
    · intro offset items next hoffset hparse
      rw [parseSection] at hparse
      obtain ⟨⟨item, middle⟩, hitem, hparse⟩ := bind_eq_ok.mp hparse
      obtain ⟨⟨rest, last⟩, hrest, hparse⟩ := bind_eq_ok.mp hparse
      obtain ⟨-, rfl⟩ := Prod.mk.inj (Except.ok.inj hparse)
      exact ih.next middle rest last (h.next offset item middle hoffset hitem) hrest

/-! ## Names -/

theorem decodeBody_congr (h : SameBody packet other) (start encodedEnd : Nat) (limits : ParseLimits)
    {state : DecodeState} (hposition : dnsHeaderSize ≤ state.position) :
    decodeBody packet start encodedEnd limits state =
      decodeBody other start encodedEnd limits state := by
  unfold decodeBody followPointer
  rw [h.drop hposition, h.length_eq]

/-- The loop of `decode_name` stays behind the header. -/
theorem decodeBody_behind_header {start encodedEnd : Nat} {state next : DecodeState}
    (hposition : dnsHeaderSize ≤ state.position)
    (hbody : decodeBody packet start encodedEnd limits state = .again next) :
    dnsHeaderSize ≤ next.position := by
  rcases decodeBody_again hbody with ⟨label, rest, -, -, -, -, rfl⟩ |
    ⟨high, low, rest, -, -, -, hallowed, -, -, -, hmoved, -⟩
  · show dnsHeaderSize ≤ state.position + 1 + label.length
    omega
  · rw [hmoved]
    exact hallowed.1

theorem decodeName_agree (h : SameBody packet other) {start : Nat} (encodedEnd : Nat)
    (limits : ParseLimits) (hstart : dnsHeaderSize ≤ start) :
    decodeName packet start encodedEnd limits = decodeName other start encodedEnd limits ∧
      ∀ decoded, decodeName packet start encodedEnd limits = .ok decoded →
        dnsHeaderSize ≤ decoded.nextOffset := by
  constructor
  · -- both loops go through the same states, all of them behind the header
    refine exec_rel (decodeLoop packet start encodedEnd limits)
      (decodeLoop other start encodedEnd limits)
      (fun state state' => state = state' ∧ dnsHeaderSize ≤ state.position)
      (fun result result' => result = result') ?_ (DecodeState.start start)
        (DecodeState.start start)
      ⟨rfl, hstart⟩
    rintro state _ ⟨rfl, hposition⟩
    have hsame : (decodeLoop other start encodedEnd limits).body state =
        (decodeLoop packet start encodedEnd limits).body state :=
      (decodeBody_congr h start encodedEnd limits hposition).symm
    rw [hsame]
    cases hbody : (decodeLoop packet start encodedEnd limits).body state with
    | again next => exact ⟨rfl, decodeBody_behind_header hposition hbody⟩
    | done result => rfl
  · intro decoded hdecoded
    obtain ⟨labels, -, hname, -⟩ := decodeName_iff.mp hdecoded
    obtain ⟨jumps, hname, -⟩ := hname.encoded
    have := hname.lt
    omega

/-! ## Questions and records -/

theorem parseQuestion_agree (h : SameBody packet other) (limits : ParseLimits) :
    Agree (parseQuestion packet limits) (parseQuestion other limits) := by
  have hwords := readU16_agree h
  constructor
  · intro offset hoffset
    obtain ⟨heq, hname⟩ := decodeName_agree h packet.length limits hoffset
    rw [parseQuestion, parseQuestion, ← h.length_eq, ← heq]
    refine bind_congr_ok fun decoded hdecoded => ?_
    rw [← hwords.eq _ (hname decoded hdecoded)]
    refine bind_congr_ok ?_
    rintro ⟨type, afterType⟩ htype
    dsimp only
    rw [← hwords.eq _ (hwords.next _ _ _ (hname decoded hdecoded) htype)]
  · intro offset question next hoffset hparse
    obtain ⟨-, hname⟩ := decodeName_agree h packet.length limits hoffset
    rw [parseQuestion] at hparse
    obtain ⟨decoded, hdecoded, hparse⟩ := bind_eq_ok.mp hparse
    obtain ⟨⟨type, afterType⟩, htype, hparse⟩ := bind_eq_ok.mp hparse
    obtain ⟨⟨questionClass, afterClass⟩, hclass, hparse⟩ := bind_eq_ok.mp hparse
    obtain ⟨-, rfl⟩ := Prod.mk.inj (Except.ok.inj hparse)
    have htype := hwords.next _ _ _ (hname decoded hdecoded) htype
    exact hwords.next _ _ _ htype hclass

theorem validateSingleName_congr (h : SameBody packet other) (limits : ParseLimits)
    (requiredEnd : Nat) (hoffset : dnsHeaderSize ≤ offset) :
    validateSingleName packet limits offset requiredEnd =
      validateSingleName other limits offset requiredEnd := by
  rw [validateSingleName, validateSingleName, (decodeName_agree h requiredEnd limits hoffset).1]

theorem validateRdata_congr (h : SameBody packet other) (limits : ParseLimits) (type : UInt16)
    (rdataEnd : Nat) (rdata : Bytes) (hoffset : dnsHeaderSize ≤ offset) :
    validateRdata packet limits type offset rdataEnd rdata =
      validateRdata other limits type offset rdataEnd rdata := by
  obtain ⟨heq, hname⟩ := decodeName_agree h rdataEnd limits hoffset
  unfold validateRdata
  dsimp only
  rw [validateSingleName_congr h limits rdataEnd hoffset,
    validateSingleName_congr h limits rdataEnd (Nat.le_add_right_of_le hoffset), ← heq]
  -- the two types with a second name behind the first
  have hsecond : ∀ decoded, decodeName packet offset rdataEnd limits = .ok decoded →
      decodeName packet decoded.nextOffset rdataEnd limits =
        decodeName other decoded.nextOffset rdataEnd limits :=
    fun decoded hdecoded => (decodeName_agree h rdataEnd limits (hname decoded hdecoded)).1
  split
  all_goals try rfl
  · refine bind_congr_ok fun decoded hdecoded => ?_
    rw [hsecond decoded hdecoded]
  · refine bind_congr_ok fun decoded hdecoded => ?_
    rw [validateSingleName_congr h limits rdataEnd (hname decoded hdecoded)]

theorem parseResourceRecord_agree (h : SameBody packet other) (limits : ParseLimits) :
    Agree (parseResourceRecord packet limits) (parseResourceRecord other limits) := by
  have hwords := readU16_agree h
  have hlong := readU32_agree h
  constructor
  · intro offset hoffset
    obtain ⟨heq, hname⟩ := decodeName_agree h packet.length limits hoffset
    rw [parseResourceRecord, parseResourceRecord, ← h.length_eq, ← heq]
    refine bind_congr_ok fun decoded hdecoded => ?_
    have hdecoded := hname decoded hdecoded
    rw [← hwords.eq _ hdecoded]
    refine bind_congr_ok ?_
    rintro ⟨type, afterType⟩ htype
    have htype := hwords.next _ _ _ hdecoded htype
    dsimp only
    rw [← hwords.eq _ htype]
    refine bind_congr_ok ?_
    rintro ⟨recordClass, afterClass⟩ hclass
    have hclass := hwords.next _ _ _ htype hclass
    dsimp only
    rw [← hlong.eq _ hclass]
    refine bind_congr_ok ?_
    rintro ⟨ttl, afterTtl⟩ httl
    have httl := hlong.next _ _ _ hclass httl
    dsimp only
    rw [← hwords.eq _ httl]
    refine bind_congr_ok ?_
    rintro ⟨rdataLength, rdataOffset⟩ hlength
    have hlength := hwords.next _ _ _ httl hlength
    dsimp only
    rw [← (readBytes_agree h rdataLength.toNat).eq _ hlength]
    refine bind_congr_ok ?_
    rintro ⟨rdata, rdataEnd⟩ hrdata
    dsimp only
    rw [validateRdata_congr h limits type rdataEnd rdata hlength]
  · intro offset record next hoffset hparse
    obtain ⟨-, hname⟩ := decodeName_agree h packet.length limits hoffset
    rw [parseResourceRecord] at hparse
    obtain ⟨decoded, hdecoded, hparse⟩ := bind_eq_ok.mp hparse
    obtain ⟨⟨type, afterType⟩, htype, hparse⟩ := bind_eq_ok.mp hparse
    obtain ⟨⟨recordClass, afterClass⟩, hclass, hparse⟩ := bind_eq_ok.mp hparse
    obtain ⟨⟨ttl, afterTtl⟩, httl, hparse⟩ := bind_eq_ok.mp hparse
    obtain ⟨⟨rdataLength, rdataOffset⟩, hlength, hparse⟩ := bind_eq_ok.mp hparse
    obtain ⟨⟨rdata, rdataEnd⟩, hrdata, hparse⟩ := bind_eq_ok.mp hparse
    obtain ⟨-, -, hparse⟩ := bind_eq_ok.mp hparse
    obtain ⟨-, rfl⟩ := Prod.mk.inj (Except.ok.inj hparse)
    have htype := hwords.next _ _ _ (hname decoded hdecoded) htype
    have hclass := hwords.next _ _ _ htype hclass
    have httl := hlong.next _ _ _ hclass httl
    have hlength := hwords.next _ _ _ httl hlength
    exact (readBytes_agree h rdataLength.toNat).next _ _ _ hlength hrdata

/-! ## Messages -/

theorem sameBody_withTransactionId (hlength : 2 ≤ packet.length) (id : UInt16) :
    SameBody packet (withTransactionId packet id) := by
  constructor
  · rw [withTransactionId, List.length_append, List.length_drop, bytes16_length]
    omega
  · rw [withTransactionId, dnsHeaderSize, show (12 : Nat) = 2 + 10 from rfl, ← List.drop_drop,
      ← List.drop_drop]
    rfl

theorem readU16_next {packet : Bytes} {offset next : Nat} {value : UInt16}
    (h : readU16 packet offset = .ok (value, next)) : next = offset + 2 := by
  unfold readU16 at h
  split at h
  · exact (Prod.mk.inj (Except.ok.inj h)).2.symm
  · cases h

/-- The header words after the first are those of the packet. -/
theorem readHeader_withTransactionId (hlength : 2 ≤ packet.length) (id : UInt16) :
    readHeader (withTransactionId packet id) =
      (readHeader packet).map fun words => { words with id := id } := by
  have hword : ∀ offset, 2 ≤ offset →
      readU16 (withTransactionId packet id) offset = readU16 packet offset := by
    intro offset hoffset
    obtain ⟨extra, rfl⟩ := Nat.exists_eq_add_of_le hoffset
    rw [readU16, readU16, ← List.drop_drop, ← List.drop_drop, drop_withTransactionId]
  have hfirst : readU16 (withTransactionId packet id) 0 = .ok (id, 2) :=
    readU16_chunk rfl
  obtain ⟨old, hold⟩ : ∃ old, readU16 packet 0 = .ok (old, 2) := by
    rcases packet with _ | ⟨high, _ | ⟨low, rest⟩⟩
    · simp at hlength
    · simp at hlength
    · exact ⟨be16 high low, rfl⟩
  rw [readHeader, readHeader, hfirst, hold, ok_bind, ok_bind]
  dsimp only
  rw [hword 2 (by omega), map_bind]
  refine bind_congr_ok ?_
  rintro ⟨flags, afterFlags⟩ hflags
  obtain rfl := readU16_next hflags
  dsimp only
  rw [hword _ (by omega), map_bind]
  refine bind_congr_ok ?_
  rintro ⟨questionCount, afterQuestions⟩ hquestions
  obtain rfl := readU16_next hquestions
  dsimp only
  rw [hword _ (by omega), map_bind]
  refine bind_congr_ok ?_
  rintro ⟨answerCount, afterAnswers⟩ hanswers
  obtain rfl := readU16_next hanswers
  dsimp only
  rw [hword _ (by omega), map_bind]
  refine bind_congr_ok ?_
  rintro ⟨authorityCount, afterAuthorities⟩ hauthorities
  obtain rfl := readU16_next hauthorities
  dsimp only
  rw [hword _ (by omega), map_bind]
  rfl

/-- Rewriting the id changes the id of the message and nothing else. -/
theorem parseMessage_withTransactionId (hlength : 2 ≤ packet.length) (id : UInt16)
    (limits : ParseLimits) :
    parseMessage (withTransactionId packet id) limits =
      (parseMessage packet limits).map fun message => { message with
        header := { message.header with id := id }
        wireImage := withTransactionId packet id } := by
  have hbody := sameBody_withTransactionId hlength id
  have hquestion := parseQuestion_agree hbody limits
  have hrecord := parseResourceRecord_agree hbody limits
  rw [parseMessage, parseMessage, ← hbody.length_eq]
  by_cases hsize : packet.length > limits.maximumPacketSize
  · rw [if_pos hsize, if_pos hsize]
    rfl
  rw [if_neg hsize, if_neg hsize]
  dsimp only
  rw [readHeader_withTransactionId hlength id]
  cases hwords : readHeader packet with
  | error error => rfl
  | ok words =>
    rw [Except.map, ok_bind, ok_bind, map_bind]
    refine bind_congr_ok fun _ _ => ?_
    dsimp only
    rw [← (hquestion.section _).eq _ (Nat.le_refl _), map_bind]
    refine bind_congr_ok ?_
    rintro ⟨questions, questionsEnd⟩ hquestions
    have hquestions := (hquestion.section _).next _ _ _ (Nat.le_refl _) hquestions
    dsimp only
    rw [← (hrecord.section _).eq _ hquestions, map_bind]
    refine bind_congr_ok ?_
    rintro ⟨answers, answersEnd⟩ hanswers
    have hanswers := (hrecord.section _).next _ _ _ hquestions hanswers
    dsimp only
    rw [← (hrecord.section _).eq _ hanswers, map_bind]
    refine bind_congr_ok ?_
    rintro ⟨authorities, authoritiesEnd⟩ hauthorities
    have hauthorities := (hrecord.section _).next _ _ _ hanswers hauthorities
    dsimp only
    rw [← (hrecord.section _).eq _ hauthorities, map_bind]
    refine bind_congr_ok ?_
    rintro ⟨additionals, recordsEnd⟩ _
    dsimp only
    split
    · rfl
    · rfl

/-! ## Limits and names -/

/-- The limit on the packet size is only read by its check. -/
theorem parseMessage_of_size (limits : ParseLimits) {size : Nat} {message : Message}
    (h : parseMessage packet { limits with maximumPacketSize := size } = .ok message)
    (hsize : packet.length ≤ limits.maximumPacketSize) : parseMessage packet limits = .ok message := by
  have hfits := (parsed_of_parseMessage h).size_le
  rw [parseMessage, if_neg (by omega)] at h ⊢
  exact h

/-- The key of a parsed question is the key of its labels. -/
theorem parseMessage_key {message : Message} (h : parseMessage packet limits = .ok message) :
    ∀ question ∈ message.questions,
      question.name.canonicalKey = canonicalKeyOf question.name.labels := by
  obtain ⟨words, questionsEnd, answersEnd, authoritiesEnd, recordsEnd, -, -, -, -, -, -, -,
    hquestions, -⟩ := (parseMessage_iff.mp h).sections
  intro question hquestion
  obtain ⟨first, last, labels, afterName, hok, -, hname, -⟩ :=
    hquestions.at_of_mem question hquestion
  rw [hname]
  rfl

/-! ## The id of a packet -/

/-- Rewriting the transaction id never changes the meaning of a message: the
rewritten packet is parsed like the packet, with the same error when there is one,
and else with the same message but for the id and the image. -/
theorem rewriteTransactionId_parse {packet : Bytes} (hlength : 2 ≤ packet.length) (id : UInt16)
    (limits : ParseLimits) :
    ∃ rewritten, rewriteTransactionId packet id = .ok rewritten ∧
      rewritten.length = packet.length ∧ rewritten.drop 2 = packet.drop 2 ∧
      (∀ message, parseMessage packet limits = .ok message →
        parseMessage rewritten limits = .ok { message with
          header := { message.header with id := id }
          wireImage := rewritten }) ∧
      (∀ error, parseMessage packet limits = .error error →
        parseMessage rewritten limits = .error error) ∧
      ((∃ message, parseMessage rewritten limits = .ok message) ↔
        ∃ message, parseMessage packet limits = .ok message) := by
  have hparse := parseMessage_withTransactionId hlength id limits
  refine ⟨withTransactionId packet id, ?_, (sameBody_withTransactionId hlength id).length_eq.symm,
    drop_withTransactionId packet id, ?_, ?_, ?_⟩
  · match packet, hlength with
    | _ :: _ :: _, _ => rfl
  · intro message hmessage
    rw [hparse, hmessage]
    rfl
  · intro error herror
    rw [hparse, herror]
    rfl
  · rw [hparse]
    cases parseMessage packet limits with
    | error error => simp [Except.map]
    | ok message => simp [Except.map]

/-- A response with a compressed name, whose id becomes 258. -/
theorem rewritten_compressed_response :
    ∃ rewritten message, rewriteTransactionId
        [0, 7, 0x80, 0, 0, 1, 0, 1, 0, 0, 0, 0, 1, 0x78, 0, 0, 1, 0, 1,
          0xc0, 12, 0, 1, 0, 1, 0, 0, 0, 60, 0, 4, 10, 0, 0, 1] 0x0102 = .ok rewritten ∧
      parseMessage rewritten {} = .ok message ∧ message.header.id = 0x0102 ∧
      message.answers.map ResourceRecord.rdata = [[10, 0, 0, 1]] := by
  obtain ⟨message, hmessage, hrdata⟩ : ∃ message,
      parseMessage [0, 7, 0x80, 0, 0, 1, 0, 1, 0, 0, 0, 0, 1, 0x78, 0, 0, 1, 0, 1,
        0xc0, 12, 0, 1, 0, 1, 0, 0, 0, 60, 0, 4, 10, 0, 0, 1] {} = .ok message ∧
      message.answers.map ResourceRecord.rdata = [[10, 0, 0, 1]] := ⟨_, rfl, rfl⟩
  obtain ⟨rewritten, hrewritten, -, -, hok, -⟩ := rewriteTransactionId_parse
    (by decide : 2 ≤ [0, 7, 0x80, 0, 0, 1, 0, 1, 0, 0, 0, 0, 1, 0x78, 0, 0, 1, 0, 1,
      0xc0, 12, 0, 1, 0, 1, 0, 0, 0, 60, 0, 4, 10, 0, 0, (1 : UInt8)].length) 0x0102 {}
  exact ⟨rewritten, _, hrewritten, hok message hmessage, rfl, hrdata⟩

end DnsPro.Protocol
