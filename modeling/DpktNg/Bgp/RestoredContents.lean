/-
The contents of path attributes by type, and lists of attributes, that
dpkt/bgp.py parses and writes as the same bytes.
-/

import DpktNg.Bgp.RestoredAttributes

namespace DpktNg.Bgp

open Library

/-- The data is parsed as a value that is written as the same bytes. -/
def ValueRestored (parse : Bytes → Except PyError AttributeValue)
    (data : Bytes) : Prop :=
  ∃ value, parse data = .ok value ∧ value.size = data.length ∧
    value.bytes = .ok data

theorem headerOnly_restored {className : String} {hdrLen : Nat}
    {build : Bytes → Bytes → AttributeValue} {header : Bytes}
    (length : header.length = hdrLen)
    (size : (build header []).size = hdrLen)
    (written : (build header []).bytes = .ok header) :
    ValueRestored (headerOnly className hdrLen build) header := by
  have split : takeHeader hdrLen (header ++ []) = .ok (header, []) :=
    takeHeader_append hdrLen length
  rw [List.append_nil] at split
  refine ⟨build header [], ?_, size.trans length.symm, written⟩
  unfold headerOnly
  rw [packetInit_eq_ok, split, ok_bind]

theorem encodeWord_length (word : UInt32) : (encodeWord word).length = 4 :=
  beBytes_length 4 _

theorem beNat_word (word : UInt32) : beNat (encodeWord word) = word.toNat :=
  beNat_beBytes word.toNat_lt

theorem packBe_word (word : UInt32) :
    packBe 4 word.toNat = .ok (encodeWord word) :=
  if_pos word.toNat_lt

theorem packHdr_word (word : UInt32) :
    packHdr [(4, word.toNat)] = .ok (encodeWord word) := by
  rw [packHdr_ok]
  · rw [List.flatMap_singleton]
    rfl
  · intro field member
    rw [List.mem_singleton.mp member]
    exact word.toNat_lt

theorem unpackBe_word (word : UInt32) (rest : Bytes) :
    unpackBe 4 ((encodeWord word ++ rest).take 4) = .ok word.toNat := by
  unfold unpackBe
  rw [List.take_left' (encodeWord_length word),
    if_pos (encodeWord_length word), beNat_word]

theorem headerWord_restored {className : String}
    {build : Bytes → Bytes → AttributeValue} {word : UInt32}
    (size : (build (encodeWord word) []).size = 4)
    (written : (build (encodeWord word) []).bytes = (do
      .ok ((← packHdr [(4, beNat (encodeWord word))]) ++ []))) :
    ValueRestored (headerOnly className 4 build) (encodeWord word) := by
  apply headerOnly_restored (encodeWord_length word) size
  rw [written, beNat_word, packHdr_word, ok_bind, List.append_nil]

theorem aggregator_restored (asn : UInt16) (address : UInt32) :
    ValueRestored aggregator (beBytes 2 asn.toNat ++ encodeWord address) := by
  have width : (beBytes 2 asn.toNat).length = 2 := beBytes_length 2 _
  have front : cut (beBytes 2 asn.toNat ++ encodeWord address) 0 2 =
      beBytes 2 asn.toNat := List.take_left' width
  have back : cut (beBytes 2 asn.toNat ++ encodeWord address) 2 6 =
      encodeWord address := by
    unfold cut
    rw [List.drop_left' width]
    exact List.take_of_length_le (Nat.le_of_eq (encodeWord_length address))
  have asnRead : beNat (beBytes 2 asn.toNat) = asn.toNat :=
    beNat_beBytes asn.toNat_lt
  have length : (beBytes 2 asn.toNat ++ encodeWord address).length = 6 := by
    rw [List.length_append, width, encodeWord_length]
  unfold aggregator
  apply headerOnly_restored length rfl
  rw [front, back, asnRead, beNat_word, AttributeValue.bytes, packHdr_ok]
  · rw [List.flatMap_cons, List.flatMap_singleton, ok_bind, List.append_nil]
    rfl
  · intro field member
    rcases List.mem_pair.mp member with here | here
    · rw [here]
      exact asn.toNat_lt
    · rw [here]
      exact address.toNat_lt

theorem Community.size_pos (community : Community) : 0 < community.size :=
  Nat.succ_pos 3

theorem community_restored (word : UInt32) :
    Restored community Community.size Community.bytes (encodeWord word) := by
  by_cases reserved : word.toNat ≤ 0x0000ffff ∨ 0xffff0000 ≤ word.toNat
  · refine ⟨.reserved word.toNat, ⟨?_, (encodeWord_length word).symm⟩, ?_⟩
    · intro rest
      unfold community
      rw [unpackBe_word, ok_bind, if_pos reserved]
    · exact packHdr_word word
  · have high : ((encodeWord word).take 2).length = 2 := by
      rw [List.length_take, encodeWord_length]
      rfl
    have low : ((encodeWord word).drop 2).length = 2 := by
      rw [List.length_drop, encodeWord_length]
    refine ⟨.community (beNat ((encodeWord word).take 2))
      (beNat ((encodeWord word).drop 2)),
      ⟨?_, (encodeWord_length word).symm⟩, ?_⟩
    · intro rest
      have front : cut (encodeWord word ++ rest) 0 2 =
          (encodeWord word).take 2 :=
        List.take_append_of_le_length
          (by rw [encodeWord_length]; exact Nat.le_of_ble_eq_true rfl)
      have back : cut (encodeWord word ++ rest) 2 4 =
          (encodeWord word).drop 2 := by
        unfold cut
        rw [List.drop_append_of_le_length
          (by rw [encodeWord_length]; exact Nat.le_of_ble_eq_true rfl)]
        exact List.take_left' low
      unfold community
      rw [unpackBe_word, ok_bind, if_neg reserved, front, back]
    · have fitsHigh := beNat_lt ((encodeWord word).take 2)
      have fitsLow := beNat_lt ((encodeWord word).drop 2)
      have againHigh := beBytes_beNat ((encodeWord word).take 2)
      have againLow := beBytes_beNat ((encodeWord word).drop 2)
      rw [high] at fitsHigh againHigh
      rw [low] at fitsLow againLow
      rw [Community.bytes, packHdr_ok]
      · rw [List.flatMap_cons, List.flatMap_singleton, againHigh, againLow,
          List.take_append_drop]
      · intro field member
        rcases List.mem_pair.mp member with here | here
        · rw [here]
          exact fitsHigh
        · rw [here]
          exact fitsLow

theorem clusterId_restored (word : UInt32) :
    Restored clusterId (fun _id => 4) (packBe 4) (encodeWord word) := by
  refine ⟨word.toNat, ⟨?_, (encodeWord_length word).symm⟩, packBe_word word⟩
  intro rest
  exact unpackBe_word word rest

theorem words_restored {α : Type} {parse : Bytes → Except PyError α}
    {size : α → Nat} (positive : ∀ item, 0 < size item)
    {bytes : α → Except PyError Bytes}
    (each : ∀ word, Restored parse size bytes (encodeWord word))
    (list : List UInt32) :
    ∃ items, parseAll parse size positive (list.flatMap encodeWord) =
        .ok items ∧
      (items.map size).sum = (list.flatMap encodeWord).length ∧
      joinBytes bytes items = .ok (list.flatMap encodeWord) := by
  have all : ∀ chunk ∈ list.map encodeWord, Restored parse size bytes chunk := by
    intro chunk member
    obtain ⟨word, _present, same⟩ := List.mem_map.mp member
    rw [← same]
    exact each word
  obtain ⟨items, parses, joined⟩ := Restored.items all
  rw [List.flatMap_def]
  exact ⟨items, parseAll_flatten parses, Parses.sizes parses, joined⟩

/-- Next hops of whole addresses, and EVPN routes with complete data. -/
def Content.Readable : Content → Prop
  | .mpReach reach => reach.WholeHops ∧ reach.routes.Complete
  | .mpUnreach _ routes => routes.Complete
  | _ => True

theorem attributeValue_other {type : Nat} (notKnown : type ∉ knownTypes)
    (data : Bytes) : attributeValue type data = .ok (.other data) := by
  unfold attributeValue
  split <;> first | rfl | exact absurd (by decide) notKnown

theorem fourOctets (items : List Nat) :
    (items.map fun _id => 4).sum = 4 * items.length := by
  rw [List.map_const', List.sum_replicate, smul_eq_mul, Nat.mul_comm]

theorem content_restored {content : Content} (readable : content.Readable) :
    ValueRestored (attributeValue content.type.toNat) content.encode := by
  cases content with
  | origin code =>
      change ValueRestored origin [code]
      unfold origin
      refine headerOnly_restored List.length_singleton rfl ?_
      rw [AttributeValue.bytes, beNat_singleton, packHdr_byte, ok_bind,
        List.append_nil]
  | asPath segments => exact asPath_restored segments
  | nextHop address =>
      change ValueRestored nextHop (encodeWord address)
      exact headerWord_restored rfl rfl
  | multiExitDisc value =>
      change ValueRestored multiExitDisc (encodeWord value)
      exact headerWord_restored rfl rfl
  | localPref value =>
      change ValueRestored localPref (encodeWord value)
      exact headerWord_restored rfl rfl
  | atomicAggregate => exact ⟨.atomicAggregate, rfl, rfl, rfl⟩
  | aggregator asn address => exact aggregator_restored asn address
  | communities list =>
      obtain ⟨items, parsed, size, joined⟩ :=
        words_restored Community.size_pos community_restored list
      refine ⟨.communities items, ?_, size, joined⟩
      change communities (list.flatMap encodeWord) = _
      unfold communities
      rw [packetInit_eq_ok, parsed, ok_bind]
  | originatorId value =>
      change ValueRestored originatorId (encodeWord value)
      exact headerWord_restored rfl rfl
  | clusterList list =>
      obtain ⟨items, parsed, size, joined⟩ :=
        words_restored (fun _id => Nat.succ_pos 3) clusterId_restored list
      rw [fourOctets] at size
      refine ⟨.clusterList items, ?_, size, joined⟩
      change clusterList (list.flatMap encodeWord) = _
      unfold clusterList
      rw [packetInit_eq_ok, parsed, ok_bind]
  | mpReach reach =>
      obtain ⟨parsed, read, size, written⟩ :=
        Reach.restored readable.1 readable.2
      refine ⟨.mpReachNlri parsed, ?_, size, written⟩
      change (mpReachNLRI reach.encode >>= fun reach =>
        pure (AttributeValue.mpReachNlri reach)) = _
      rw [read, ok_bind]
      rfl
  | mpUnreach safi routes =>
      obtain ⟨withdrawn, walked, size, written⟩ := Routes.items readable
      have read := (mpUnreach_parsed_iff safi routes).mpr
        ⟨withdrawn, walked, rfl⟩
      refine ⟨.mpUnreachNlri
        { afi := routes.afi, safi := safi.toNat, withdrawn }, ?_, ?_, ?_⟩
      · change (mpUnreachNLRI (familyHeader routes safi ++ routes.encode) >>=
          fun unreach => pure (AttributeValue.mpUnreachNlri unreach)) = _
        rw [read, ok_bind]
        rfl
      · rw [AttributeValue.size, size, Content.encode, List.length_append,
          familyHeader_length]
      · rw [AttributeValue.bytes, MPUnreachNLRI.bytes, familyHeader_packs,
          ok_bind, written, ok_bind]
        rfl
  | other type notKnown data =>
      exact ⟨.other data, attributeValue_other notKnown data, rfl, rfl⟩

theorem content_readable {content : Content} {value : AttributeValue}
    {encoded more after : Bytes}
    (read : attributeValue content.type.toNat content.encode = .ok value)
    (written : value.bytes = .ok encoded)
    (same : encoded ++ more = content.encode ++ after) : content.Readable := by
  cases content with
  | mpReach reach =>
      obtain ⟨parsed, readReach, done⟩ := bind_eq_ok.mp read
      cases done
      exact Reach.whole_of_written readReach written same
  | mpUnreach safi routes =>
      obtain ⟨parsed, readUnreach, _done⟩ := bind_eq_ok.mp read
      obtain ⟨withdrawn, walked, _fields⟩ :=
        (mpUnreach_parsed_iff safi routes).mp readUnreach
      exact Routes.complete_of_parsed walked
  | _ => trivial

namespace WireAttribute

variable (attr : WireAttribute)

def parsed (value : AttributeValue) : Attribute where
  flags := attr.flags.toNat
  type := attr.content.type.toNat
  len := attr.content.encode.length
  value := value

def front : Bytes :=
  attr.flags :: attr.content.type ::
    beBytes (lengthWidth attr.flags.toNat) attr.content.encode.length

theorem encode_eq : attr.encode = attr.front ++ attr.content.encode := rfl

theorem parsed_iff (rest : Bytes) {found : Attribute} :
    pathAttribute (attr.encode ++ rest) = .ok found ↔
      ∃ value, attributeValue attr.content.type.toNat attr.content.encode =
        .ok value ∧ found = attr.parsed value := by
  have split : attr.encode ++ rest = [attr.flags, attr.content.type] ++
      (beBytes (lengthWidth attr.flags.toNat) attr.content.encode.length ++
        (attr.content.encode ++ rest)) := by
    unfold encode
    rw [List.cons_append, List.cons_append, List.append_assoc]
    rfl
  have flagsRead : beNat (cut [attr.flags, attr.content.type] 0 1) =
      attr.flags.toNat := beNat_singleton _
  have typeRead : beNat (cut [attr.flags, attr.content.type] 1 2) =
      attr.content.type.toNat := beNat_singleton _
  have width := beBytes_length (lengthWidth attr.flags.toNat)
    attr.content.encode.length
  have lenRead : unpackBe (lengthWidth attr.flags.toNat)
      (beBytes (lengthWidth attr.flags.toNat) attr.content.encode.length) =
        .ok attr.content.encode.length := by
    unfold unpackBe
    rw [if_pos width, beNat_beBytes attr.fits]
  have valueRead :
      cut (beBytes (lengthWidth attr.flags.toNat) attr.content.encode.length ++
        (attr.content.encode ++ rest)) (lengthWidth attr.flags.toNat)
        (lengthWidth attr.flags.toNat + attr.content.encode.length) =
          attr.content.encode := by
    unfold cut
    rw [List.drop_left' width, Nat.add_sub_cancel_left, List.take_left]
  unfold pathAttribute
  rw [packetInit_eq_ok, split, takeHeader_append 2 rfl, ok_bind]
  dsimp only
  rw [flagsRead, typeRead, List.take_left' width, lenRead, ok_bind, valueRead,
    bind_eq_ok]
  constructor
  · rintro ⟨value, read, same⟩
    rw [Except.ok.injEq] at same
    exact ⟨value, read, same.symm⟩
  · rintro ⟨value, read, same⟩
    rw [same]
    exact ⟨value, read, rfl⟩

theorem bytes_parsed {value : AttributeValue} {encoded : Bytes} :
    (attr.parsed value).bytes = .ok encoded ↔
      ∃ data, value.bytes = .ok data ∧ encoded = attr.front ++ data := by
  have length : packBe (lengthWidth attr.flags.toNat)
      attr.content.encode.length =
        .ok (beBytes (lengthWidth attr.flags.toNat)
          attr.content.encode.length) := if_pos attr.fits
  unfold Attribute.bytes parsed
  dsimp only
  rw [length, ok_bind, packHdr_two, ok_bind, bind_eq_ok]
  constructor
  · rintro ⟨data, written, same⟩
    rw [Except.ok.injEq] at same
    exact ⟨data, written, same.symm⟩
  · rintro ⟨data, written, same⟩
    rw [same]
    exact ⟨data, written, rfl⟩

variable {attr}

theorem restored (readable : attr.content.Readable) :
    Restored pathAttribute Attribute.size Attribute.bytes attr.encode := by
  obtain ⟨value, read, size, written⟩ := content_restored readable
  refine ⟨attr.parsed value, ⟨?_, ?_⟩, ?_⟩
  · intro rest
    exact (attr.parsed_iff rest).mpr ⟨value, read, rfl⟩
  · unfold Attribute.size parsed
    dsimp only
    rw [size, encode_eq, front, List.length_append, List.length_cons,
      List.length_cons, beBytes_length]
    omega
  · exact attr.bytes_parsed.mpr ⟨attr.content.encode, written, rfl⟩

theorem readable {rest encoded more after : Bytes} {found : Attribute}
    (read : pathAttribute (attr.encode ++ rest) = .ok found)
    (written : found.bytes = .ok encoded)
    (same : encoded ++ more = attr.encode ++ after) :
    attr.content.Readable := by
  obtain ⟨value, valueRead, fields⟩ := (attr.parsed_iff rest).mp read
  rw [fields] at written
  obtain ⟨data, valueWritten, front⟩ := attr.bytes_parsed.mp written
  rw [front, encode_eq, List.append_assoc, List.append_assoc,
    List.append_cancel_left_eq] at same
  exact content_readable valueRead valueWritten same

end WireAttribute

def AllReadable (attributes : List WireAttribute) : Prop :=
  ∀ attr ∈ attributes, attr.content.Readable

theorem encodeAttributes_cons (attr : WireAttribute)
    (rest : List WireAttribute) :
    encodeAttributes (attr :: rest) = attr.encode ++ encodeAttributes rest := by
  unfold encodeAttributes
  rw [List.flatMap_cons]

theorem attributes_restored {attributes : List WireAttribute}
    (readable : AllReadable attributes) (rest : Bytes) :
    ∃ items, parseCounted pathAttribute Attribute.size Attribute.size_pos
        (encodeAttributes attributes).length
        (encodeAttributes attributes ++ rest) = .ok (items, rest) ∧
      (items.map Attribute.size).sum = (encodeAttributes attributes).length ∧
      joinBytes Attribute.bytes items = .ok (encodeAttributes attributes) := by
  have all : ∀ chunk ∈ attributes.map WireAttribute.encode,
      Restored pathAttribute Attribute.size Attribute.bytes chunk := by
    intro chunk member
    obtain ⟨attr, present, same⟩ := List.mem_map.mp member
    rw [← same]
    exact WireAttribute.restored (readable attr present)
  obtain ⟨items, parses, joined⟩ := Restored.items all
  unfold encodeAttributes
  rw [List.flatMap_def]
  exact ⟨items, parseCounted_flatten parses rest, Parses.sizes parses, joined⟩

theorem attributes_readable {attributes : List WireAttribute}
    {items : List Attribute} {rest behind joined more after : Bytes}
    (parsed : parseCounted pathAttribute Attribute.size Attribute.size_pos
      (encodeAttributes attributes).length
      (encodeAttributes attributes ++ rest) = .ok (items, behind))
    (written : joinBytes Attribute.bytes items = .ok joined)
    (same : joined ++ more = encodeAttributes attributes ++ after) :
    AllReadable attributes := by
  induction attributes generalizing items joined behind with
  | nil =>
      intro attr impossible
      cases impossible
  | cons attr others ih =>
      have positive : 0 < attr.encode.length := Nat.succ_pos _
      rw [encodeAttributes_cons, List.append_assoc, parseCounted,
        if_pos (by rw [List.length_append]; omega)] at parsed
      obtain ⟨found, read, walk⟩ := bind_eq_ok.mp parsed
      obtain ⟨⟨found', behind'⟩, walked, done⟩ := bind_eq_ok.mp walk
      rw [Except.ok.injEq, Prod.mk.injEq] at done
      rw [← done.1, joinBytes] at written
      obtain ⟨encoded, first, join⟩ := bind_eq_ok.mp written
      obtain ⟨encoded', joinedRest, done'⟩ := bind_eq_ok.mp join
      rw [Except.ok.injEq] at done'
      rw [encodeAttributes_cons, ← done', List.append_assoc,
        List.append_assoc] at same
      have readable : attr.content.Readable :=
        WireAttribute.readable read first same
      obtain ⟨item, parses, bytes⟩ := WireAttribute.restored readable
      rw [parses.parsed, Except.ok.injEq] at read
      rw [← read, parses.drop, parses.size_eq, List.length_append,
        Nat.cast_add, add_sub_cancel_left] at walked
      rw [← read, bytes, Except.ok.injEq] at first
      rw [← first, List.append_cancel_left_eq] at same
      rw [AllReadable, List.forall_mem_cons]
      exact ⟨readable, ih walked joinedRest same⟩

end DpktNg.Bgp
