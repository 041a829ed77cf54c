import DnsPro.Protocol.Grammar

/-!
# Appended bytes

What the grammar derives from a packet, it derives from the packet with more bytes
after it: a name, a question, a record and a sequence of them end where they
did, since a pointer leads to a place inside the packet and the data of a record
has its length before it.  `parseMessage_append` says what `parse_message` does
with the longer packet, and `accepted_prefix_free` that no accepted message
is the beginning of another.
-/

namespace DnsPro.Protocol

open DnsPro.Result

variable {packet chunk : Bytes} {limits : ParseLimits} {start encodedEnd position offset next : Nat}
  {labels : List Bytes} {jumps : List Jump}

/-- The same limits with another answer to trailing bytes. -/
def ParseLimits.rejecting (limits : ParseLimits) (reject : Bool) : ParseLimits :=
  { limits with rejectTrailingData := reject }

theorem ParseLimits.rejecting_self {reject : Bool} (h : limits.rejectTrailingData = reject) :
    limits.rejecting reject = limits := by
  subst h
  rfl

/-! ## Names, questions and records -/

theorem drop_cons_grow {byte : UInt8} {rest : Bytes} (extra : Bytes)
    (h : packet.drop position = byte :: rest) :
    (packet ++ extra).drop position = byte :: (rest ++ extra) := by
  have hlt := lt_length_of_drop h
  rw [List.drop_append_of_le_length (by omega), h, List.cons_append]

theorem NameAt.grow (extra : Bytes) (h : NameAt packet position labels jumps next) :
    NameAt (packet ++ extra) position labels jumps next := by
  induction h with
  | root hdrop => exact .root (drop_cons_grow extra hdrop)
  | label hne hshort hdrop hrest ih =>
    have hread := drop_cons_grow extra hdrop
    rw [List.append_assoc] at hread
    exact .label hne hshort hread ih
  | pointer hhigh hdrop htarget ih => exact .pointer hhigh (drop_cons_grow extra hdrop) ih

/-- A name stays a name in a longer packet, also with more room for it. -/
theorem NameIn.grow {encodedEnd' : Nat} (extra : Bytes) (reject : Bool)
    (h : NameIn packet limits start encodedEnd labels next) (hend : encodedEnd ≤ encodedEnd') :
    NameIn (packet ++ extra) (limits.rejecting reject) start encodedEnd' labels next := by
  obtain ⟨jumps, hname, hcount, hallowed⟩ := h.encoded
  exact ⟨⟨jumps, hname.grow extra, hcount, hallowed⟩, h.size, h.ends.trans hend⟩

theorem ChunkAt.grow (extra : Bytes) (h : ChunkAt packet offset chunk next)
    (hoffset : offset ≤ packet.length) : ChunkAt (packet ++ extra) offset chunk next := by
  have hnext := h.le_length hoffset
  refine ⟨?_, h.2⟩
  rw [List.drop_append_of_le_length hoffset, List.drop_append_of_le_length hnext, h.1,
    List.append_assoc]

theorem QuestionAt.grow {question : Question} (extra : Bytes) (reject : Bool)
    (h : QuestionAt packet limits offset question next) :
    QuestionAt (packet ++ extra) (limits.rejecting reject) offset question next := by
  obtain ⟨labels, afterName, hok, hname, hlabels, hwords⟩ := h
  have hroom : packet.length ≤ (packet ++ extra).length := by simp
  exact ⟨labels, afterName, hok, hname.grow extra reject hroom, hlabels,
    hwords.grow extra hname.ends⟩

/-- The names in the data of a record stay inside the data. -/
theorem RdataForm.grow {rdataOffset rdataEnd : Nat} {rdata : Bytes} (extra : Bytes) (reject : Bool)
    {type : Option RecordType} (h : RdataForm packet limits rdataOffset rdataEnd rdata type) :
    RdataForm (packet ++ extra) (limits.rejecting reject) rdataOffset rdataEnd rdata type := by
  cases type with
  | none => trivial
  | some type =>
    cases type with
    | a | aaaa | hinfo | txt | opt => exact h
    | ns | cname | ptr | mx =>
      obtain ⟨labels, hname⟩ := h
      exact ⟨labels, hname.grow extra reject le_rfl⟩
    | soa =>
      obtain ⟨primary, mailbox, middle, last, hprimary, hmailbox, hlast⟩ := h
      exact ⟨primary, mailbox, middle, last, hprimary.grow extra reject le_rfl,
        hmailbox.grow extra reject le_rfl, hlast⟩
    | minfo =>
      obtain ⟨responsible, error, middle, hresponsible, herror⟩ := h
      exact ⟨responsible, error, middle, hresponsible.grow extra reject le_rfl,
        herror.grow extra reject le_rfl⟩

theorem RecordAt.grow {record : ResourceRecord} (extra : Bytes) (reject : Bool)
    (h : RecordAt packet limits offset record next) :
    RecordAt (packet ++ extra) (limits.rejecting reject) offset record next := by
  obtain ⟨labels, afterName, rdataLength, hok, hname, hlabels, hwords, hbytes, hcount, hform⟩ := h
  have hroom : packet.length ≤ (packet ++ extra).length := by simp
  have hdata := hwords.le_length hname.ends
  exact ⟨labels, afterName, rdataLength, hok, hname.grow extra reject hroom, hlabels,
    hwords.grow extra hname.ends, hbytes.grow extra hdata, hcount, hform.grow extra reject⟩

theorem Sequence.mono {Item : Type} {At At' : Nat → Item → Nat → Prop} {items : List Item}
    (h : Sequence At offset items next)
    (hitems : ∀ offset item next, At offset item next → At' offset item next) :
    Sequence At' offset items next := by
  induction h with
  | nil => exact .nil
  | cons hitem hrest ih => exact .cons (hitems _ _ _ hitem) ih

/-! ## Messages -/

/-- An accepted message with bytes after it: they are the only thing that may be
wrong. -/
theorem parseMessage_append {message : Message} (extra : Bytes) (reject : Bool)
    (hreject : limits.rejectTrailingData = true) (h : parseMessage packet limits = .ok message)
    (hsize : (packet ++ extra).length ≤ limits.maximumPacketSize) :
    parseMessage (packet ++ extra) (limits.rejecting reject) =
      if reject = true ∧ extra ≠ [] then .error ⟨.trailingData, packet.length⟩
      else .ok { message with wireImage := packet ++ extra } := by
  obtain ⟨words, questionsEnd, answersEnd, authoritiesEnd, recordsEnd, hwords, hheader, hcounts,
    hquestionCount, hanswerCount, hauthorityCount, hadditionalCount, hquestions, hanswers,
    hauthorities, hadditionals, htrailing⟩ := (parseMessage_iff.mp h).sections
  obtain rfl := htrailing hreject
  have hsize' : (packet ++ extra).length ≤ (limits.rejecting reject).maximumPacketSize := hsize
  have hcounts' : CountsIn words (limits.rejecting reject) :=
    ⟨hcounts.questions, hcounts.answers, hcounts.authorities, hcounts.additionals, hcounts.total⟩
  have hquestion := hquestions.mono fun _ _ _ h => h.grow extra reject
  have hanswer := hanswers.mono fun _ _ _ h => h.grow extra reject
  have hauthority := hauthorities.mono fun _ _ _ h => h.grow extra reject
  have hadditional := hadditionals.mono fun _ _ _ h => h.grow extra reject
  rw [parseMessage_of_sections hsize' (readHeader_iff.mpr (hwords.grow extra (Nat.zero_le _)))
    (checkCounts_iff.mpr hcounts') (parseQuestions_iff.mpr ⟨hquestion, hquestionCount⟩)
    (parseRecords_iff.mpr ⟨hanswer, hanswerCount⟩)
    (parseRecords_iff.mpr ⟨hauthority, hauthorityCount⟩)
    (parseRecords_iff.mpr ⟨hadditional, hadditionalCount⟩)]
  have hends : packet.length ≠ (packet ++ extra).length ↔ extra ≠ [] := by
    rw [List.length_append, ← List.length_pos_iff]
    omega
  simp only [ParseLimits.rejecting, hends, hheader]

/-- Accepted messages are prefix-free.  For every packet that `parse_message` accepts
with limits that reject trailing bytes, as the default ones do: it rejects every
proper prefix of the packet; with bytes after the packet it fails with `TrailingData`
at its end; and where trailing bytes are not rejected, it succeeds with the
header, the questions and the records of the packet. -/
theorem accepted_prefix_free (limits : ParseLimits) (hreject : limits.rejectTrailingData = true)
    (packet : Bytes) (message : Message) (h : parseMessage packet limits = .ok message) :
    (∀ front back, packet = front ++ back → back ≠ [] →
      ∃ error, parseMessage front limits = .error error) ∧
    ∀ extra, (packet ++ extra).length ≤ limits.maximumPacketSize →
      (extra ≠ [] →
        parseMessage (packet ++ extra) limits = .error ⟨.trailingData, packet.length⟩) ∧
      parseMessage (packet ++ extra) { limits with rejectTrailingData := false } =
        .ok { message with wireImage := packet ++ extra } := by
  constructor
  · rintro front back rfl hback
    cases hfront : parseMessage front limits with
    | error error => exact ⟨error, rfl⟩
    | ok accepted =>
      -- the packet would be an accepted message with bytes after it
      have hlonger := parseMessage_append back true hreject hfront (parseMessage_iff.mp h).size
      rw [if_pos ⟨rfl, hback⟩, ParseLimits.rejecting_self hreject, h] at hlonger
      cases hlonger
  · intro extra hsize
    constructor
    · intro hextra
      have hstrict := parseMessage_append extra true hreject h hsize
      rwa [if_pos ⟨rfl, hextra⟩, ParseLimits.rejecting_self hreject] at hstrict
    · have hlenient := parseMessage_append extra false hreject h hsize
      rwa [if_neg (by simp)] at hlenient

/-- A question and an address record, whose name is a pointer to the question. -/
def answeredPacket : Bytes := [
  0, 7, 0x80, 0, 0, 1, 0, 1, 0, 0, 0, 0,
  1, 0x61, 0, 0, 1, 0, 1,
  0xc0, 12, 0, 1, 0, 1, 0, 0, 0, 60, 0, 4, 10, 0, 0, 1]

theorem accepted_prefix_free_answered : ∃ message, parseMessage answeredPacket {} = .ok message ∧
    message.answers.map (fun record => record.name.labels) = [[[0x61]]] ∧
    (∀ length < 35, ∃ error, parseMessage (answeredPacket.take length) {} = .error error) ∧
    parseMessage (answeredPacket ++ [7]) {} = .error ⟨.trailingData, 35⟩ ∧
    parseMessage (answeredPacket ++ [7]) { rejectTrailingData := false } =
      .ok { message with wireImage := answeredPacket ++ [7] } := by
  obtain ⟨message, haccepted, hanswers⟩ : ∃ message, parseMessage answeredPacket {} = .ok message ∧
      message.answers.map (fun record => record.name.labels) = [[[0x61]]] := ⟨_, rfl, rfl⟩
  obtain ⟨hshorter, hlonger⟩ := accepted_prefix_free {} rfl _ _ haccepted
  obtain ⟨hstrict, hlenient⟩ := hlonger [7] (by decide)
  refine ⟨message, haccepted, hanswers, ?_, hstrict (by decide), hlenient⟩
  intro length hlength
  refine hshorter _ (answeredPacket.drop length) (List.take_append_drop length _).symm ?_
  rw [ne_eq, List.drop_eq_nil_iff]
  exact Nat.not_le_of_lt hlength

end DnsPro.Protocol
