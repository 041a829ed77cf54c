import DnsPro.Server.Datagram

/-!
# Responses from the cache

An entry is checked against the request that stores it, and served to another
one.  The check says something about the key alone: the names of equal keys have
equal sizes, so what fits into the response to one query fits into the response to
every query that finds it.
-/

namespace DnsPro.Server

open DnsPro.Cache DnsPro.Protocol DnsPro.Result

/-- The RDATA of an address in a record of the type. -/
def RdataOf (type : UInt16) (address : IPAddress) (rdata : Bytes) : Prop :=
  (type = RecordType.a.code ∧ address.isV4 = true ∧ rdata = address.bytes.toList.take 4) ∨
    (type = RecordType.aaaa.code ∧ address.isV6 = true ∧ rdata = address.bytes.toList)

/-- The family of the addresses is the one of the type. -/
def OfFamily (type : UInt16) (addresses : List IPAddress) : Prop :=
  (type = RecordType.a.code ∧ ∀ address ∈ addresses, address.isV4 = true) ∨
    (type = RecordType.aaaa.code ∧ ∀ address ∈ addresses, address.isV6 = true)

/-- The entry can be served to every query that finds it. -/
structure Servable (key : CacheKey) (addresses : List IPAddress) : Prop where
  questionClass : key.qclass = classIn
  nonempty : addresses ≠ []
  family : OfFamily key.qtype addresses
  fits : 12 + key.qname.length + 4 +
    addresses.length * (12 + if key.qtype = RecordType.a.code then 4 else 16) ≤ 512

/-! ## The addresses -/

theorem addressAnswers_eq_ok {type : UInt16} {addresses : List IPAddress} {answers : List Bytes}
    (h : addressAnswers type addresses = .ok answers) :
    List.Forall₂ (RdataOf type) addresses answers := by
  induction addresses generalizing answers with
  | nil =>
    obtain rfl := Except.ok.inj h
    exact .nil
  | cons address addresses ih =>
    rw [addressAnswers] at h
    split at h
    · rename_i hv4
      obtain ⟨rest, hrest, hanswers⟩ := bind_eq_ok.mp h
      obtain rfl := Except.ok.inj hanswers
      exact .cons (Or.inl ⟨hv4.1, hv4.2, rfl⟩) (ih hrest)
    · split at h
      · rename_i hv6
        obtain ⟨rest, hrest, hanswers⟩ := bind_eq_ok.mp h
        obtain rfl := Except.ok.inj hanswers
        exact .cons (Or.inr ⟨hv6.1, hv6.2, rfl⟩) (ih hrest)
      · cases h

theorem aaaa_ne_a : RecordType.aaaa.code ≠ RecordType.a.code := by decide

theorem addressAnswers_of_family {type : UInt16} {addresses : List IPAddress}
    (h : OfFamily type addresses) : ∃ answers, addressAnswers type addresses = .ok answers := by
  induction addresses with
  | nil => exact ⟨[], rfl⟩
  | cons address addresses ih =>
    rw [addressAnswers]
    rcases h with ⟨rfl, hv4⟩ | ⟨rfl, hv6⟩
    · obtain ⟨rest, hrest⟩ := ih (Or.inl ⟨rfl, fun other hother => hv4 other (by simp [hother])⟩)
      rw [if_pos ⟨rfl, hv4 address (by simp)⟩, hrest]
      exact ⟨_, rfl⟩
    · obtain ⟨rest, hrest⟩ := ih (Or.inr ⟨rfl, fun other hother => hv6 other (by simp [hother])⟩)
      rw [if_neg (by simp [aaaa_ne_a]), if_pos ⟨rfl, hv6 address (by simp)⟩, hrest]
      exact ⟨_, rfl⟩

theorem RdataOf.length_eq {type : UInt16} {address : IPAddress} {rdata : Bytes}
    (h : RdataOf type address rdata) : addressSize? type = some rdata.length := by
  rcases h with ⟨rfl, -, rfl⟩ | ⟨rfl, -, rfl⟩
  · simp [addressSize?]
  · rw [addressSize?, if_neg aaaa_ne_a, if_pos rfl]
    simp

/-- The family of addresses whose RDATA is that of the type. -/
theorem ofFamily_of_rdata {type : UInt16}
    (htype : type = RecordType.a.code ∨ type = RecordType.aaaa.code) {addresses : List IPAddress}
    {answers : List Bytes} (h : List.Forall₂ (RdataOf type) addresses answers) :
    OfFamily type addresses := by
  have hall : ∀ address ∈ addresses, ∃ rdata, RdataOf type address rdata := by
    have hboth : List.Forall₂ (fun address rdata => (∃ rdata, RdataOf type address rdata) ∧
        RdataOf type address rdata) addresses answers :=
      h.imp fun _ rdata hrdata => ⟨⟨rdata, hrdata⟩, hrdata⟩
    exact ((List.forall₂_and_left _ _).mp hboth).1
  rcases htype with rfl | rfl
  · refine Or.inl ⟨rfl, fun address haddress => ?_⟩
    obtain ⟨rdata, ⟨-, hv4, -⟩ | ⟨hother, -⟩⟩ := hall address haddress
    · exact hv4
    · exact absurd hother (Ne.symm aaaa_ne_a)
  · refine Or.inr ⟨rfl, fun address haddress => ?_⟩
    obtain ⟨rdata, ⟨hother, -⟩ | ⟨-, hv6, -⟩⟩ := hall address haddress
    · exact absurd hother aaaa_ne_a
    · exact hv6

/-- The RDATA of the record that an address was read from. -/
theorem rdataOf_addressOf {answer : ResourceRecord} {address : IPAddress}
    (h : addressOf answer = some address) : RdataOf answer.type address answer.rdata := by
  unfold addressOf at h
  split at h
  · rename_i ha
    obtain rfl := Option.some.inj h
    refine Or.inl ⟨ha.1, rfl, ?_⟩
    show answer.rdata = (answer.rdata.toArray ++ Array.replicate 12 0).toList.take 4
    rw [Array.toList_append, List.take_append_of_le_length (by rw [ha.2]),
      List.take_of_length_le (by rw [ha.2])]
  · split at h
    · rename_i haaaa
      obtain rfl := Option.some.inj h
      exact Or.inr ⟨haaaa.1, rfl, rfl⟩
    · cases h

/-! ## The response -/

variable {request : Message} {question : Question}

/-- The key under which a query looks. -/
def keyOf (question : Question) : CacheKey :=
  CacheKey.ofName question.name question.type question.questionClass

/-- The key is as long as the name on the wire. -/
theorem qname_length_of_accepted (h : Accepted request question) :
    (keyOf question).qname.length = question.name.wireSize := by
  show question.name.canonicalKey.length = _
  rw [h.key, canonicalKeyOf, wireOf_length, wireSizeOf_folded, question.name.wireSize_eq]

theorem keySize_eq {type : UInt16} {size : Nat} (h : addressSize? type = some size) :
    (if type = RecordType.a.code then 4 else 16) = size := by
  rcases addressSize_cases h with ⟨rfl, rfl⟩ | ⟨rfl, rfl⟩
  · rfl
  · exact if_neg aaaa_ne_a

/-- What can be written for the request that stores an entry can be served. -/
theorem servable_of_write (h : Accepted request question) {hit : CacheHit} {response : Bytes}
    (hwrite : makeCacheHitResponse request hit downstreamResponseBudget = .ok response) :
    Servable (keyOf question) hit.addresses := by
  rw [makeCacheHitResponse, h.questions] at hwrite
  obtain ⟨answers, hanswers, hwrite⟩ := bind_eq_ok.mp hwrite
  have hrdata := addressAnswers_eq_ok hanswers
  obtain ⟨hne, size, hsize, -, hfits⟩ := h.addresses_fit hwrite
  refine ⟨h.questionClass, ?_, ofFamily_of_rdata h.type hrdata, ?_⟩
  · intro hempty
    rw [hempty] at hrdata
    cases hrdata
    exact hne rfl
  · rw [qname_length_of_accepted h, hrdata.length_eq]
    show 12 + question.name.wireSize + 4 +
      answers.length * (12 + if question.type = RecordType.a.code then 4 else 16) ≤ 512
    rw [keySize_eq hsize]
    exact hfits

/-- An entry that can be served is served to every query that finds it: the
response is parsed back to the question of the query and to the addresses, in
order. -/
theorem serve (h : Accepted request question) {addresses : List IPAddress}
    (hservable : Servable (keyOf question) addresses) (ttl : UInt32) :
    ∃ response message,
      makeCacheHitResponse request ⟨addresses, ttl⟩ downstreamResponseBudget = .ok response ∧
      response ≠ [] ∧ RespondsTo request response message ∧
      message.header = responseHeader request.header .noError true ∧
      message.questions = [question] ∧ message.authorities = [] ∧ message.additionals = [] ∧
      ∃ answers, List.Forall₂ (RdataOf question.type) addresses answers ∧
        List.Forall₂ (AddressRecord question ttl) answers message.answers := by
  obtain ⟨answers, hanswers⟩ := addressAnswers_of_family hservable.family
  change addressAnswers question.type addresses = _ at hanswers
  have hrdata := addressAnswers_eq_ok hanswers
  obtain ⟨size, hsize, -⟩ := addressSize_of_accepted h
  have hsizes : ∀ answer ∈ answers, answer.length = size := by
    intro answer hanswer
    have hboth : List.Forall₂ (fun rdata address => addressSize? question.type = some rdata.length ∧
        RdataOf question.type address rdata) answers addresses :=
      hrdata.flip.imp fun _ _ hof => ⟨RdataOf.length_eq hof, hof⟩
    have hlength := ((List.forall₂_and_left _ _).mp hboth).1 answer hanswer
    exact Option.some.inj (hlength.symm.trans hsize)
  have hne : answers ≠ [] := by
    rintro rfl
    cases hrdata
    exact hservable.nonempty rfl
  have hfits := hservable.fits
  rw [qname_length_of_accepted h, hrdata.length_eq] at hfits
  change 12 + question.name.wireSize + 4 +
    answers.length * (12 + if question.type = RecordType.a.code then 4 else 16) ≤ 512 at hfits
  rw [keySize_eq hsize] at hfits
  obtain ⟨response, message, hwrite, hbytes, hresponds, hheader, hquestions, hrecords, hauthorities,
    hadditionals⟩ := h.writeAddresses hne hsize hsizes hfits ttl true
  refine ⟨response, message, ?_, hbytes, hresponds, hheader, hquestions, hauthorities, hadditionals,
    answers, hrdata, hrecords⟩
  rw [makeCacheHitResponse, h.questions]
  dsimp only
  rw [hanswers, ok_bind, hwrite]

end DnsPro.Server
