/-
Writing a parsed message again.

A version 1 message is written as its header, its optional fields and its data.
In a user-plane message the data begins behind the optional fields; in a control
message it still includes them, so they are written twice.

The optional octets of a version 1 message are all there as soon as one of the
flags is set; dpkt/gtp.py reads those whose own flag is set.
-/

import DpktNg.Gtp.Message

namespace DpktNg.Gtp

open Library

theorem GTPIE.packBe_length {v2 : Bool} {buf : Bytes} {length : Nat}
    (read : unpackLength v2 buf = .ok length) :
    packBe (lengthWidth v2) length = .ok (cut buf 1 (hdrLen v2)) := by
  cases v2 with
  | true => exact packBe_of_unpackBe read
  | false => exact packBe_of_byteAt read

/-- An element is written as the bytes it was parsed from, also when its value
ends before its length does. -/
theorem GTPIE.bytes_parse {v2 : Bool} {data : Bytes} {ie : GTPIE}
    (parsed : GTPIE.parse v2 data = .ok ie) :
    ie.bytes = .ok (data.take (ie.step v2)) := by
  unfold parse at parsed
  obtain ⟨type, first, parsed⟩ := bind_eq_ok.mp parsed
  obtain ⟨length, second, parsed⟩ := bind_eq_ok.mp parsed
  obtain ⟨fields, _read, same⟩ := bind_eq_ok.mp parsed
  rw [Except.ok.injEq] at same
  have packed : packFields [(1, type), (lengthWidth v2, length)] =
      .ok (cut data 0 1 ++ (cut data 1 (hdrLen v2) ++ [])) := by
    rw [packFields, packBe_of_byteAt first, ok_bind, packFields,
      packBe_length second, ok_bind, packFields, ok_bind, ok_bind]
  have hdr : 1 ≤ hdrLen v2 := Nat.le_add_right 1 _
  rw [List.append_nil, cut_append_cut data (Nat.zero_le 1) hdr] at packed
  have stop : hdrLen v2 ≤ hdrLen v2 + length := Nat.le_add_right _ _
  have front : cut data 0 (hdrLen v2 + length) =
      data.take (hdrLen v2 + length) := rfl
  rw [← same]
  unfold bytes step
  dsimp only
  rw [packed, ok_bind, cut_append_cut data (Nat.zero_le _) stop, front,
    Nat.add_comm]

theorem packOptional_of_takeOptional {flags flag width off : Nat}
    {read : Except PyError Nat} {data : Bytes} {value : Option Nat}
    (taken : takeOptional flags flag read = .ok value)
    (packs : ∀ {found}, read = .ok found →
      packBe width found = .ok (cut data off (off + width))) :
    packOptional flags flag width value =
      .ok (cut data off (off + optionalSize flags flag width)) := by
  unfold takeOptional at taken
  unfold packOptional optionalSize
  split at taken
  · rename_i there
    obtain ⟨found, success, same⟩ := bind_eq_ok.mp taken
    rw [Except.ok.injEq] at same
    rw [if_pos there, if_pos there, ← same]
    exact packs success
  · rename_i absent
    have nothing : cut data off (off + 0) = [] := by
      unfold cut
      rw [Nat.add_zero, Nat.sub_self, List.take_zero]
    rw [if_neg absent, if_neg absent, nothing]

theorem packOptional_length {flags flag width : Nat} {value : Option Nat}
    {field : Bytes} (packed : packOptional flags flag width value = .ok field) :
    field.length = optionalSize flags flag width := by
  unfold packOptional at packed
  unfold optionalSize
  split at packed
  · rename_i there
    rw [if_pos there, (packBe_eq_ok packed).2, beBytes_length]
  · rename_i absent
    rw [Except.ok.injEq] at packed
    rw [if_neg absent, ← packed, List.length_nil]

/-- The flags of some optional field are set. -/
def HasOptions (flags : Nat) : Prop :=
  flags &&& flagS ≠ 0 ∨ flags &&& flagPN ≠ 0 ∨ flags &&& flagE ≠ 0

instance : DecidablePred HasOptions := fun flags =>
  inferInstanceAs (Decidable
    (flags &&& flagS ≠ 0 ∨ flags &&& flagPN ≠ 0 ∨ flags &&& flagE ≠ 0))

theorem optionalSize_eq_zero {flags flag size : Nat} (positive : 0 < size) :
    optionalSize flags flag size = 0 ↔ ¬flags &&& flag ≠ 0 := by
  unfold optionalSize
  split
  · rename_i there
    exact iff_of_false (Nat.ne_of_gt positive) (not_not_intro there)
  · rename_i absent
    exact iff_of_true rfl absent

theorem optLen_eq_zero {flags : Nat} :
    GTPv1.optLen flags = 0 ↔ ¬HasOptions flags := by
  unfold GTPv1.optLen HasOptions
  rw [Nat.add_eq_zero_iff, Nat.add_eq_zero_iff,
    optionalSize_eq_zero Nat.two_pos, optionalSize_eq_zero Nat.one_pos,
    optionalSize_eq_zero Nat.one_pos, not_or, not_or, and_assoc]

/-! ### Version 1 -/

theorem GTPv1Header.exact : GTPv1Header.format.Exact := fun _values => rfl

theorem GTPv1.packed_options {flags : Nat} {data : Bytes}
    {seq npdu nextExt : Option Nat}
    (takenSeq : takeOptional flags flagS (unpackBe 2 (cut data 0 2)) = .ok seq)
    (takenNpdu : takeOptional flags flagPN
      (byteAt data (optionalSize flags flagS 2)) = .ok npdu)
    (takenExt : takeOptional flags flagE
      (byteAt data (optionalSize flags flagS 2 +
        optionalSize flags flagPN 1)) = .ok nextExt) :
    ∃ first second third,
      packOptional flags flagS 2 seq = .ok first ∧
        packOptional flags flagPN 1 npdu = .ok second ∧
          packOptional flags flagE 1 nextExt = .ok third ∧
            first ++ second ++ third = data.take (optLen flags) ∧
              optLen flags ≤ data.length := by
  have seqRead {found : Nat} (read : unpackBe 2 (cut data 0 2) = .ok found) :
      packBe 2 found = .ok (cut data 0 (0 + 2)) := packBe_of_unpackBe read
  have packSeq := packOptional_of_takeOptional takenSeq seqRead
  have packNpdu := packOptional_of_takeOptional takenNpdu packBe_of_byteAt
  have packExt := packOptional_of_takeOptional takenExt packBe_of_byteAt
  have joined : cut data 0 (0 + optionalSize flags flagS 2) ++
      cut data (optionalSize flags flagS 2)
        (optionalSize flags flagS 2 + optionalSize flags flagPN 1) ++
      cut data (optionalSize flags flagS 2 + optionalSize flags flagPN 1)
        (optLen flags) = data.take (optLen flags) := by
    rw [Nat.zero_add, cut_append_cut data (Nat.zero_le _)
      (Nat.le_add_right _ _)]
    exact cut_append_cut data (Nat.zero_le _) (Nat.le_add_right _ _)
  refine ⟨_, _, _, packSeq, packNpdu, packExt, joined, ?_⟩
  have sizes := congrArg List.length joined
  rw [List.length_append, List.length_append, packOptional_length packSeq,
    packOptional_length packNpdu, List.length_take] at sizes
  have last := packOptional_length packExt
  unfold optLen at sizes ⊢
  omega

/-- Where the data of a message begins, behind its header. -/
def GTPv1.dataStart (flags : Nat) : Nat :=
  if isControl flags then 0 else optLen flags

theorem GTPv1.bytes_parse {buf : Bytes} {packet : GTPv1}
    (parsed : parse buf = .ok packet) :
    packet.header.flagsMsg = beNat (buf.take 1) ∧
      8 + optLen packet.header.flagsMsg ≤ buf.length ∧
      packet.data = (buf.drop 8).drop (dataStart packet.header.flagsMsg) ∧
      packet.bytes =
        .ok (buf.take 8 ++
          (buf.drop 8).take (optLen packet.header.flagsMsg) ++
            packet.data) := by
  have unpacked : unpack buf = .ok packet := packetInit_eq_ok.mp parsed
  unfold unpack at unpacked
  obtain ⟨⟨header, data⟩, hdr, unpacked⟩ := bind_eq_ok.mp unpacked
  obtain ⟨seq, takenSeq, unpacked⟩ := bind_eq_ok.mp unpacked
  obtain ⟨npdu, takenNpdu, unpacked⟩ := bind_eq_ok.mp unpacked
  obtain ⟨nextExt, takenExt, unpacked⟩ := bind_eq_ok.mp unpacked
  obtain ⟨packed, enough, rest⟩ :=
    StructFormat.repacked GTPv1Header.exact hdr
  obtain ⟨_enough, values, _rest⟩ := StructFormat.unpackHdr_eq_ok.mp hdr
  have flags : header.flagsMsg = beNat (buf.take 1) := by
    rw [values]
    change beNat ((buf.take 8).take 1) = _
    rw [List.take_take]
    rfl
  obtain ⟨first, second, third, packSeq, packNpdu, packExt, options, fit⟩ :=
    packed_options takenSeq takenNpdu takenExt
  have written (kept : Bytes) (ies : Option (List GTPIE)) :
      GTPv1.bytes { header, seq, npdu, nextExt, ies, data := kept } =
        .ok (buf.take 8 ++ data.take (optLen header.flagsMsg) ++ kept) := by
    unfold bytes
    dsimp only
    rw [packed, ok_bind, packSeq, ok_bind, packNpdu, ok_bind, packExt, ok_bind,
      options]
    rfl
  have start : data = buf.drop 8 := rest
  have within : 8 + optLen header.flagsMsg ≤ buf.length := by
    have hdrSize : GTPv1Header.format.size = 8 := rfl
    rw [hdrSize] at enough
    rw [start, List.length_drop] at fit
    omega
  rw [start] at written
  unfold dataStart
  split at unpacked
  · rename_i control
    obtain ⟨ies, _parsed, same⟩ := bind_eq_ok.mp unpacked
    rw [Except.ok.injEq] at same
    rw [← same]
    dsimp only
    rw [if_pos control]
    exact ⟨flags, within, start, written _ _⟩
  · rename_i user
    rw [Except.ok.injEq] at unpacked
    rw [← unpacked]
    dsimp only
    rw [if_neg user, start]
    exact ⟨flags, within, rfl, written _ _⟩

/-- Whether the data of a message begins where its optional fields end. -/
theorem GTPv1.dataStart_eq_optLen {flags : Nat} :
    dataStart flags = optLen flags ↔
      ¬(isControl flags ∧ HasOptions flags) := by
  unfold dataStart
  split
  · rename_i control
    rw [eq_comm, optLen_eq_zero, not_and]
    exact ⟨fun nothing _control => nothing, fun nothing => nothing control⟩
  · rename_i user
    exact iff_of_true rfl fun both => user both.1

theorem GTPv1.dataStart_le (flags : Nat) : dataStart flags ≤ optLen flags := by
  unfold dataStart
  split
  · exact Nat.zero_le _
  · exact le_rfl

/-- A message is written again as it was unless it is a control message with
optional fields. -/
theorem GTPv1.rewritten_iff {buf : Bytes} {packet : GTPv1}
    (parsed : parse buf = .ok packet) :
    (packet.bytes = .ok buf ∧ packet.size = buf.length) ↔
      ¬(isControl (beNat (buf.take 1)) ∧ HasOptions (beNat (buf.take 1))) := by
  obtain ⟨flags, within, data, written⟩ := bytes_parse parsed
  have start := dataStart_le packet.header.flagsMsg
  have hdrSize : GTPv1Header.format.size = 8 := rfl
  rw [← flags, ← dataStart_eq_optLen, written]
  unfold size
  rw [data, hdrSize, List.length_drop, List.length_drop, Except.ok.injEq]
  constructor
  · rintro ⟨_same, sized⟩
    omega
  · intro same
    rw [same, List.append_assoc, List.take_append_drop, List.take_append_drop]
    exact ⟨rfl, by omega⟩

theorem GTPv2Header.exact : GTPv2Header.format.Exact := fun _values => rfl

theorem GTPv2.rewritten {buf : Bytes} {packet : GTPv2}
    (parsed : parse buf = .ok packet) :
    packet.bytes = .ok buf ∧ packet.size = .ok buf.length := by
  have unpacked : unpack buf = .ok packet := packetInit_eq_ok.mp parsed
  unfold unpack at unpacked
  obtain ⟨⟨header, data⟩, hdr, unpacked⟩ := bind_eq_ok.mp unpacked
  obtain ⟨ies, elements, same⟩ := bind_eq_ok.mp unpacked
  obtain ⟨packed, enough, rest⟩ :=
    StructFormat.repacked GTPv2Header.exact hdr
  rw [Except.ok.injEq] at same
  rw [← same]
  have joined : joinBytes GTPIE.bytes ies = .ok data :=
    joinBytes_parseAll GTPIE.bytes_parse elements
  unfold bytes size
  dsimp only
  rw [joined, ok_bind, ok_bind, packed, ok_bind, rest, List.take_append_drop,
    List.length_drop]
  exact ⟨rfl, congrArg Except.ok (by omega)⟩

/-! ### `GTP` -/

/-- The first byte is that of a version 1 control message with optional
fields. -/
def ControlWithOptions (first : Nat) : Prop :=
  GTP.version first = 1 ∧ GTPv1.isControl first ∧ HasOptions first

instance : DecidablePred ControlWithOptions := fun first =>
  inferInstanceAs (Decidable
    (GTP.version first = 1 ∧ GTPv1.isControl first ∧ HasOptions first))

/-- A packet is written again as it was, and has its length, exactly when it is
not such a message. -/
theorem gtp_rewritten_iff {buf : Bytes} {gtp : GTP}
    (parsed : GTP.parse buf = .ok gtp) :
    (gtp.bytes = .ok buf ∧ gtp.size = .ok buf.length) ↔
      ¬ControlWithOptions (beNat (buf.take 1)) := by
  unfold GTP.parse at parsed
  split at parsed
  · cases parsed
  · rename_i first rest
    have start : beNat ((first :: rest).take 1) = first.toNat :=
      beNat_singleton first
    rw [start]
    unfold ControlWithOptions
    split at parsed
    · rename_i version
      obtain ⟨packet, found, same⟩ := bind_eq_ok.mp parsed
      rw [Except.ok.injEq] at same
      rw [← same]
      refine iff_of_true (GTPv2.rewritten found) ?_
      rintro ⟨other, _control, _options⟩
      rw [version] at other
      exact absurd other (by decide)
    · split at parsed
      · rename_i version
        obtain ⟨packet, found, same⟩ := bind_eq_ok.mp parsed
        rw [Except.ok.injEq] at same
        rw [← same, and_iff_right version, ← start,
          ← GTPv1.rewritten_iff found]
        change (_ ∧ Except.ok packet.size = .ok _) ↔ _
        rw [Except.ok.injEq]
        rfl
      · cases parsed

/-- A user-plane message with a sequence number and two bytes of data. -/
theorem gtp_rewritten_iff_user :
    ∃ gtp, GTP.parse [0x22, 255, 0, 4, 0, 0, 0, 1, 0x12, 0x34, 7, 8] =
        .ok gtp ∧
      ((gtp.bytes = .ok [0x22, 255, 0, 4, 0, 0, 0, 1, 0x12, 0x34, 7, 8] ∧
          gtp.size = .ok 12) ↔ ¬ControlWithOptions 0x22) := by
  have parsed : GTP.parse [0x22, 255, 0, 4, 0, 0, 0, 1, 0x12, 0x34, 7, 8] =
      .ok (.v1
        { header := { flagsMsg := 0x22, type := 255, length := 4, teid := 1 }
          seq := some 0x1234, npdu := none, nextExt := none, ies := none
          data := [7, 8] }) := by
    decide +kernel
  exact ⟨_, parsed, gtp_rewritten_iff parsed⟩

/-- An echo request with a sequence number: its four bytes of optional fields
and elements are kept as data. -/
def echoRequest : Bytes := [0x32, 1, 0, 4, 0, 0, 0, 0, 0x12, 0x34, 0, 0]

/-- The sequence number is written twice. -/
theorem echoRequest_rewritten :
    ¬∀ (buf : Bytes) (gtp : GTP), GTP.parse buf = .ok gtp →
      (∀ ie ∈ gtp.ies, ie.value.length = ie.length) →
        gtp.bytes = .ok buf ∧ gtp.size = .ok buf.length := by
  intro claimed
  have parsed : GTP.parse echoRequest =
      .ok (.v1
        { header := { flagsMsg := 0x32, type := 1, length := 4, teid := 0 }
          seq := some 0x1234, npdu := none, nextExt := none
          ies := some
            [{ type := 0, length := 0, value := [], v2 := false
               fields := .generic }]
          data := [0x12, 0x34, 0, 0] }) := by
    decide +kernel
  have longer := (claimed echoRequest _ parsed (by decide)).2
  revert longer
  decide

/-! ### Optional octets -/

/-- A message with the four optional octets, the last one without a further
extension header. -/
structure OptionalMessage where
  header : GTPv1Header
  seq : Nat
  npdu : Nat
  payload : Bytes

namespace OptionalMessage

def nextExt : Nat := 0

structure Wellformed (message : OptionalMessage) : Prop where
  header : GTPv1Header.format.Fits message.header
  version : GTP.version message.header.flagsMsg = 1
  options : HasOptions message.header.flagsMsg
  seq : message.seq < 256 ^ 2
  npdu : message.npdu < 256 ^ 1

/-- The octets as they are encoded: sequence number, N-PDU number and the type
of the next extension header. -/
def octets (message : OptionalMessage) : Bytes :=
  beBytes 2 message.seq ++ (beBytes 1 message.npdu ++ beBytes 1 nextExt)

def bytes (message : OptionalMessage) : Bytes :=
  GTPv1Header.format.bytes .big message.header ++
    (message.octets ++ message.payload)

/-- What is parsed has the values of the flags that are set, and the payload as
data. -/
structure Recovered (message : OptionalMessage) (packet : GTPv1) : Prop where
  seq : message.header.flagsMsg &&& flagS ≠ 0 →
    packet.seq = some message.seq
  npdu : message.header.flagsMsg &&& flagPN ≠ 0 →
    packet.npdu = some message.npdu
  nextExt : message.header.flagsMsg &&& flagE ≠ 0 →
    packet.nextExt = some OptionalMessage.nextExt
  data : packet.data = message.payload

/-- All flags of optional fields are set. -/
def AllOptions (flags : Nat) : Prop :=
  flags &&& flagS ≠ 0 ∧ flags &&& flagPN ≠ 0 ∧ flags &&& flagE ≠ 0

instance : DecidablePred AllOptions := fun flags =>
  inferInstanceAs (Decidable
    (flags &&& flagS ≠ 0 ∧ flags &&& flagPN ≠ 0 ∧ flags &&& flagE ≠ 0))

theorem optLen_eq_four {flags : Nat} :
    GTPv1.optLen flags = 4 ↔ AllOptions flags := by
  unfold GTPv1.optLen AllOptions optionalSize
  split
  · split
    · split
      · rename_i seq npdu nextExt
        exact iff_of_true rfl ⟨seq, npdu, nextExt⟩
      · rename_i absent
        exact iff_of_false (by decide) fun all => absent all.2.2
    · rename_i absent
      refine iff_of_false ?_ fun all => absent all.2.1
      split <;> decide
  · rename_i absent
    refine iff_of_false ?_ fun all => absent all.1
    split <;> split <;> decide

theorem optLen_le (flags : Nat) : GTPv1.optLen flags ≤ 4 := by
  have within (flag size : Nat) : optionalSize flags flag size ≤ size := by
    unfold optionalSize
    split
    · exact le_rfl
    · exact Nat.zero_le size
  have seq := within flagS 2
  have npdu := within flagPN 1
  have nextExt := within flagE 1
  unfold GTPv1.optLen
  omega

variable {message : OptionalMessage}

theorem octets_length (message : OptionalMessage) :
    message.octets.length = 4 := by
  simp [octets]

/-- What is parsed begins its data behind the octets that were read. -/
theorem data_of_parse {packet : GTPv1} (good : message.Wellformed)
    (parsed : GTPv1.parse message.bytes = .ok packet) :
    packet.data = (message.octets ++ message.payload).drop
      (GTPv1.dataStart message.header.flagsMsg) := by
  have unpacked : GTPv1.unpack message.bytes = .ok packet :=
    packetInit_eq_ok.mp parsed
  unfold GTPv1.unpack OptionalMessage.bytes at unpacked
  rw [StructFormat.unpackHdr_bytes good.header, ok_bind] at unpacked
  obtain ⟨seq, _seqRead, unpacked⟩ := bind_eq_ok.mp unpacked
  obtain ⟨npdu, _npduRead, unpacked⟩ := bind_eq_ok.mp unpacked
  obtain ⟨nextExt, _extRead, unpacked⟩ := bind_eq_ok.mp unpacked
  unfold GTPv1.dataStart
  split at unpacked
  · rename_i control
    obtain ⟨ies, _elements, same⟩ := bind_eq_ok.mp unpacked
    cases same
    rw [if_pos control, List.drop_zero]
  · rename_i user
    cases unpacked
    rw [if_neg user]

theorem parse_all (good : message.Wellformed)
    (user : ¬GTPv1.isControl message.header.flagsMsg)
    (all : AllOptions message.header.flagsMsg) :
    GTPv1.parse message.bytes = .ok
      { header := message.header, seq := some message.seq
        npdu := some message.npdu, nextExt := some nextExt, ies := none
        data := message.payload } := by
  have length := optLen_eq_four.mpr all
  obtain ⟨hasSeq, hasNpdu, hasExt⟩ := all
  have seq : cut (message.octets ++ message.payload) 0 2 =
      beBytes 2 message.seq := by
    unfold octets
    rw [List.append_assoc, cut_beBytes]
  have npdu : byteAt (message.octets ++ message.payload) 2 =
      .ok message.npdu := by
    unfold octets
    rw [List.append_assoc, byteAt_behind_beBytes (by decide),
      List.append_assoc]
    exact byteAt_front good.npdu _
  have ext : byteAt (message.octets ++ message.payload) 3 = .ok nextExt := by
    unfold octets
    rw [List.append_assoc, byteAt_behind_beBytes (by decide),
      List.append_assoc, byteAt_behind_beBytes (by decide)]
    exact byteAt_front (by decide) _
  have sizes : optionalSize message.header.flagsMsg flagS 2 = 2 ∧
      optionalSize message.header.flagsMsg flagPN 1 = 1 :=
    ⟨if_pos hasSeq, if_pos hasNpdu⟩
  unfold GTPv1.parse
  rw [packetInit_eq_ok]
  unfold GTPv1.unpack OptionalMessage.bytes
  rw [StructFormat.unpackHdr_bytes good.header, ok_bind]
  dsimp only
  rw [sizes.1, sizes.2, length, List.drop_left' message.octets_length]
  unfold takeOptional
  rw [if_pos hasSeq, seq, unpackBe_beBytes good.seq, ok_bind, ok_bind,
    if_pos hasNpdu, npdu, ok_bind, ok_bind, if_pos hasExt, ext, ok_bind,
    ok_bind, if_neg user]

/-- A message is recovered when it is no control message and all flags of
optional fields are set. -/
theorem gtp_options_iff (good : message.Wellformed) :
    (∃ packet, GTPv1.parse message.bytes = .ok packet ∧
      message.Recovered packet) ↔
      ¬GTPv1.isControl message.header.flagsMsg ∧
        AllOptions message.header.flagsMsg := by
  constructor
  · rintro ⟨packet, parsed, recovered⟩
    have data := recovered.data
    have most := optLen_le message.header.flagsMsg
    rw [data_of_parse good parsed] at data
    have lengths := congrArg List.length data
    rw [List.length_drop, List.length_append, octets_length] at lengths
    unfold GTPv1.dataStart at lengths
    split at lengths
    · omega
    · rename_i user
      refine ⟨user, optLen_eq_four.mp ?_⟩
      omega
  · rintro ⟨user, all⟩
    exact ⟨_, parse_all good user all, fun _ => rfl, fun _ => rfl, fun _ => rfl,
      rfl⟩

/-- A T-PDU with a sequence number, an N-PDU number and an extension flag. -/
def fullMessage : OptionalMessage :=
  { header := { flagsMsg := 0x27, type := 255, length := 6, teid := 1 }
    seq := 7
    npdu := 9
    payload := [0x45, 0] }

theorem fullMessage_recovered :
    ∃ packet, GTPv1.parse fullMessage.bytes = .ok packet ∧
      fullMessage.Recovered packet :=
  (gtp_options_iff ⟨by decide, by decide, by decide, by decide,
    by decide⟩).mpr ⟨by decide, by decide⟩

/-- A T-PDU with a sequence number alone. -/
def numberedMessage : OptionalMessage :=
  { header := { flagsMsg := 0x22, type := 255, length := 6, teid := 1 }
    seq := 7
    npdu := 0
    payload := [0x45, 0] }

/-- Two of the octets are read as data. -/
theorem numberedMessage_not_recovered :
    numberedMessage.Wellformed ∧
      ¬∃ packet, GTPv1.parse numberedMessage.bytes = .ok packet ∧
        numberedMessage.Recovered packet := by
  have good : numberedMessage.Wellformed :=
    ⟨by decide, by decide, by decide, by decide, by decide⟩
  refine ⟨good, ?_⟩
  rintro ⟨packet, parsed, recovered⟩
  have data := recovered.data
  rw [data_of_parse good parsed] at data
  revert data
  decide

end OptionalMessage

end DpktNg.Gtp
