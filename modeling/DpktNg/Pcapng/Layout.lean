/-
What a well-formed block looks like in a file, and that the parsers of the
blocks read it.  A block is its type and length, the fields of its class, a
body and its length once more; the body ends with the options.

Packet blocks that are parsed and packed again: everything comes back except the
original length of the packet, in whose place the serialiser writes the captured
length.
-/

import DpktNg.Pcapng.Block

namespace DpktNg.Pcapng

open Library

theorem le_align32b (i : Nat) : i ≤ align32b i := by
  unfold align32b
  split
  · exact le_refl i
  · omega

theorem padded_eq (s : Bytes) : padded s = s ++ zeros (padlen s) := by
  have enough := le_align32b s.length
  unfold padded packString padlen
  rw [List.take_append, List.take_of_length_le enough]
  unfold zeros
  rw [List.take_replicate]
  congr 2
  omega

theorem length_add_padlen (s : Bytes) :
    s.length + padlen s = align32b s.length := by
  have enough := le_align32b s.length
  unfold padlen
  omega

/-! ### Options -/

/-- An option as it stands in a block.  Its data are filled up to 32 bits by
bytes that nobody reads. -/
structure OptionRecord where
  code : Nat
  data : Bytes
  padding : Bytes
  codeFits : code < 256 ^ 2
  dataFits : data.length < 256 ^ 2
  filled : padding.length = padlen data
  comment : code = optComment → (decodeUtf8 data).isSome

namespace OptionRecord

variable (order : ByteOrder)

def bytes (opt : OptionRecord) : Bytes :=
  order.fieldBytes [(2, opt.code), (2, opt.data.length)] ++ opt.data ++
    opt.padding

def option (opt : OptionRecord) : PcapngOption where
  code := opt.code
  len := opt.data.length
  data := opt.data
  text := if opt.code = optComment then decodeUtf8 opt.data else none

def zeroed (opt : OptionRecord) : OptionRecord :=
  { opt with padding := zeros (padlen opt.data), filled := zeros_length _ }

theorem fields_fit (opt : OptionRecord) :
    FieldsFit [(2, opt.code), (2, opt.data.length)] := by
  rw [fieldsFit_cons, fieldsFit_cons]
  exact ⟨opt.codeFits, opt.dataFits, fieldsFit_nil⟩

theorem option_size (opt : OptionRecord) :
    opt.option.size = (opt.bytes order).length := by
  have filled := opt.filled
  unfold PcapngOption.size bytes option
  rw [List.length_append, List.length_append, order.fieldBytes_length, filled]
  rfl

theorem bytes_ne_nil (opt : OptionRecord) : opt.bytes order ≠ [] := by
  rw [← List.length_pos_iff, ← opt.option_size]
  unfold PcapngOption.size
  omega

theorem parse_bytes (opt : OptionRecord) (behind : Bytes) :
    PcapngOption.parse order (opt.bytes order ++ behind) = .ok opt.option := by
  have values := order.unpackHdr_fieldBytes opt.fields_fit
    (opt.data ++ opt.padding ++ behind)
  have header : (order.fieldBytes
      [(2, opt.code), (2, opt.data.length)]).length = 4 := by
    rw [order.fieldBytes_length]
    rfl
  have dataThere : cut (order.fieldBytes [(2, opt.code), (2, opt.data.length)] ++
      (opt.data ++ opt.padding ++ behind)) 4 (4 + opt.data.length) =
        opt.data := by
    have middle := cut_append (order.fieldBytes
      [(2, opt.code), (2, opt.data.length)]) opt.data (opt.padding ++ behind)
    rw [header] at middle
    rw [List.append_assoc, ← List.append_assoc]
    exact middle
  unfold bytes
  rw [List.append_assoc, List.append_assoc, ← List.append_assoc opt.data]
  refine packetInit_eq_ok.mpr ?_
  unfold PcapngOption.unpack
  refine bind_eq_ok.mpr ⟨_, values, ?_⟩
  simp only [List.map_cons, List.map_nil, List.getD_cons_zero,
    List.getD_cons_succ]
  rw [dataThere]
  unfold option
  by_cases isComment : opt.code = optComment
  · obtain ⟨text, decoded⟩ :=
      Option.isSome_iff_exists.mp (opt.comment isComment)
    unfold decodeComment
    rw [if_pos isComment, if_pos isComment, decoded]
    rfl
  · rw [if_neg isComment, if_neg isComment]

theorem option_encoded (opt : OptionRecord) : opt.option.encoded = opt.data := by
  unfold PcapngOption.encoded option
  by_cases isComment : opt.code = optComment
  · obtain ⟨text, decoded⟩ :=
      Option.isSome_iff_exists.mp (opt.comment isComment)
    simp only [if_pos isComment, decoded]
    exact encodeUtf8_decodeUtf8 decoded
  · simp only [if_neg isComment]

theorem bytes_option (opt : OptionRecord) :
    opt.option.bytes order = .ok (opt.zeroed.bytes order) := by
  have packed := order.pack_ok opt.fields_fit
  unfold PcapngOption.bytes
  rw [opt.option_encoded]
  refine bind_eq_ok.mpr ⟨_, packed, ?_⟩
  rw [padded_eq, ← List.append_assoc]
  rfl

end OptionRecord

/-- The options of a block: none at all, or a list that ends with its only
`opt_endofopt`. -/
structure OptionArea where
  options : List OptionRecord
  ended : options = [] ∨ ∃ front last, options = front ++ [last] ∧
    last.code = optEndofopt ∧ ∀ opt ∈ front, opt.code ≠ optEndofopt

namespace OptionArea

variable (order : ByteOrder)

def bytes (area : OptionArea) : Bytes :=
  area.options.flatMap (OptionRecord.bytes order)

def opts (area : OptionArea) : List PcapngOption :=
  area.options.map OptionRecord.option

def size (area : OptionArea) : Nat :=
  (area.options.map fun opt => opt.option.size).sum

theorem bytes_length (area : OptionArea) :
    (area.bytes order).length = area.size := by
  unfold bytes size
  rw [List.length_flatMap]
  congr 1
  apply List.map_congr_left
  intro opt _
  exact (opt.option_size order).symm

def empty : OptionArea := ⟨[], Or.inl rfl⟩

def zeroed (area : OptionArea) : OptionArea where
  options := area.options.map OptionRecord.zeroed
  ended := by
    rcases area.ended with nothing | ⟨front, last, same, isEnd, others⟩
    · left
      rw [nothing, List.map_nil]
    · right
      refine ⟨front.map OptionRecord.zeroed, last.zeroed, ?_, isEnd, ?_⟩
      · rw [same, List.map_append, List.map_singleton]
      · intro opt member
        obtain ⟨original, present, rfl⟩ := List.mem_map.mp member
        exact others original present

theorem size_zeroed (area : OptionArea) : area.zeroed.size = area.size := by
  unfold size zeroed
  rw [List.map_map]
  rfl

theorem opts_zeroed (area : OptionArea) : area.zeroed.opts = area.opts := by
  unfold opts zeroed
  rw [List.map_map]
  rfl

/-- The loop reads one option after another up to the last. -/
theorem readOptions_front {front : List OptionRecord} {last : OptionRecord}
    (isEnd : last.code = optEndofopt)
    (others : ∀ opt ∈ front, opt.code ≠ optEndofopt) :
    readOptions order ((front ++ [last]).flatMap (OptionRecord.bytes order)) =
      .ok ((front ++ [last]).map OptionRecord.option) := by
  induction front with
  | nil =>
      have parsed := last.parse_bytes order []
      rw [List.append_nil] at parsed
      rw [List.nil_append, List.flatMap_singleton, readOptions,
        if_neg (last.bytes_ne_nil order), parsed, ok_bind]
      exact if_pos isEnd
  | cons opt rest ih =>
      obtain ⟨notEnd, restOthers⟩ := List.forall_mem_cons.mp others
      have parsed := opt.parse_bytes order
        ((rest ++ [last]).flatMap (OptionRecord.bytes order))
      have present : opt.bytes order ++
          (rest ++ [last]).flatMap (OptionRecord.bytes order) ≠ [] :=
        List.append_ne_nil_of_left_ne_nil (opt.bytes_ne_nil order) _
      have notEndOption : opt.option.code ≠ optEndofopt := notEnd
      rw [List.cons_append, List.flatMap_cons, readOptions, if_neg present,
        parsed, ok_bind, if_neg notEndOption, opt.option_size order,
        List.drop_left, ih restOthers, ok_bind, List.map_cons]

theorem readOptions_bytes (area : OptionArea) :
    readOptions order (area.bytes order) = .ok area.opts := by
  unfold bytes opts
  rcases area.ended with nothing | ⟨front, last, same, isEnd, others⟩
  · rw [nothing, List.flatMap_nil, readOptions, if_pos rfl, List.map_nil]
  · rw [same]
    exact readOptions_front order isEnd others

theorem joinOptions_options (options : List OptionRecord) :
    joinOptions order (options.map OptionRecord.option) =
      .ok ((options.map OptionRecord.zeroed).flatMap
        (OptionRecord.bytes order)) := by
  induction options with
  | nil => rfl
  | cons opt rest ih =>
      rw [List.map_cons, joinOptions, opt.bytes_option, ok_bind, ih, ok_bind,
        List.map_cons, List.flatMap_cons]

/-- The options are packed as they were, but filled up with zeros. -/
theorem packOptions_opts (area : OptionArea) :
    packOptions order area.opts = .ok (area.zeroed.bytes order) := by
  have joined := joinOptions_options order area.options
  change packOptions order (area.options.map OptionRecord.option) =
    .ok ((area.options.map OptionRecord.zeroed).flatMap
      (OptionRecord.bytes order))
  unfold packOptions
  rcases area.ended with nothing | ⟨front, last, same, isEnd, -⟩
  · rw [nothing]
    rfl
  · have lastOpt : (area.options.map OptionRecord.option).getLast? =
        some last.option := by
      rw [same, List.map_append, List.map_singleton, List.getLast?_concat]
    rw [lastOpt]
    exact (if_pos isEnd).trans joined

end OptionArea

/-! ### Blocks -/

section Blocks

variable (order : ByteOrder)

/-- The total length of a block. -/
def blockLen (fields : List (Nat × Nat)) (body : Bytes) : Nat :=
  12 + (fields.map Prod.fst).sum + body.length

/-- The type, the length, and the fields behind them. -/
def headerFields (type : Nat) (fields : List (Nat × Nat)) (body : Bytes) :
    List (Nat × Nat) :=
  (4, type) :: (4, blockLen fields body) :: fields

def blockBytes (type : Nat) (fields : List (Nat × Nat)) (body : Bytes) :
    Bytes :=
  order.fieldBytes (headerFields type fields body) ++ body ++
    order.fieldBytes [(4, blockLen fields body)]

theorem headerFields_length (type : Nat) (fields : List (Nat × Nat))
    (body : Bytes) :
    (order.fieldBytes (headerFields type fields body)).length =
      8 + (fields.map Prod.fst).sum := by
  unfold headerFields
  rw [order.fieldBytes_length, List.map_cons, List.map_cons, List.sum_cons,
    List.sum_cons]
  omega

@[simp] theorem blockBytes_length (type : Nat) (fields : List (Nat × Nat))
    (body : Bytes) :
    (blockBytes order type fields body).length = blockLen fields body := by
  unfold blockBytes
  rw [List.length_append, List.length_append, headerFields_length,
    order.fieldBytes_length]
  unfold blockLen
  simp only [List.map_cons, List.map_nil, List.sum_cons, List.sum_nil]
  omega

/-- The header of a block, the trailing length among its fields: its value is
taken from the four bytes behind the fields. -/
theorem unpackHdr_blockBytes {type : Nat} {fields : List (Nat × Nat)}
    {body : Bytes} (fits : FieldsFit (headerFields type fields body)) :
    ∃ behind, order.unpackHdr
        ((headerFields type fields body).map Prod.fst ++ [4])
        (blockBytes order type fields body) =
      .ok ((headerFields type fields body).map Prod.snd ++ [behind]) := by
  have values := order.values_fieldBytes fits
    (body ++ order.fieldBytes [(4, blockLen fields body)])
  rw [← List.append_assoc] at values
  have enough : ((headerFields type fields body).map Prod.fst ++ [4]).sum ≤
      (blockBytes order type fields body).length := by
    unfold headerFields
    rw [blockBytes_length, List.sum_append, List.map_cons, List.map_cons,
      List.sum_cons, List.sum_cons, List.sum_singleton]
    unfold blockLen
    omega
  refine ⟨order.nat (((blockBytes order type fields body).drop
    ((headerFields type fields body).map Prod.fst).sum).take 4), ?_⟩
  unfold ByteOrder.unpackHdr
  rw [if_neg (by omega), order.values_append]
  unfold blockBytes
  rw [values]
  rfl

theorem unpackOptions_blockBytes {type : Nat} {fields : List (Nat × Nat)}
    (front : Bytes) (area : OptionArea)
    (small : blockLen fields (front ++ area.bytes order) < 256 ^ 4) :
    unpackOptions order (blockLen fields (front ++ area.bytes order))
        (blockBytes order type fields (front ++ area.bytes order))
        (8 + (fields.map Prod.fst).sum + front.length) =
      .ok (area.opts, blockLen fields (front ++ area.bytes order)) := by
  have total := blockBytes_length order type fields
    (front ++ area.bytes order)
  have headLength := headerFields_length order type fields
    (front ++ area.bytes order)
  have tailLength : (order.fieldBytes
      [(4, blockLen fields (front ++ area.bytes order))]).length = 4 := by
    rw [order.fieldBytes_length]
    rfl
  have bodyStop : (blockLen fields (front ++ area.bytes order) : Int) - 4 =
      ((order.fieldBytes (headerFields type fields
        (front ++ area.bytes order)) ++
          (front ++ area.bytes order)).length : Nat) := by
    rw [List.length_append, headLength]
    unfold blockLen
    omega
  have inside : (cutTo (blockBytes order type fields
      (front ++ area.bytes order))
        ((blockLen fields (front ++ area.bytes order) : Int) - 4)).drop
          (8 + (fields.map Prod.fst).sum + front.length) =
            area.bytes order := by
    unfold cutTo blockBytes
    rw [bodyStop, if_pos (Int.natCast_nonneg _), Int.toNat_natCast,
      List.take_left, ← List.append_assoc]
    apply List.drop_left'
    rw [List.length_append, headLength]
  have atEnd : order.nat ((blockBytes order type fields
      (front ++ area.bytes order)).drop
        ((blockBytes order type fields
          (front ++ area.bytes order)).length - 4)) =
            blockLen fields (front ++ area.bytes order) := by
    have front_ : (blockBytes order type fields
        (front ++ area.bytes order)).length - 4 =
          (order.fieldBytes (headerFields type fields
            (front ++ area.bytes order)) ++
              (front ++ area.bytes order)).length := by
      rw [total]
      omega
    rw [front_]
    unfold blockBytes
    rw [List.drop_left, order.fieldBytes_cons]
    change order.nat (order.arrange (beBytes 4 _) ++ []) = _
    rw [List.append_nil, order.nat_arrange, beNat_beBytes small]
  unfold unpackOptions
  rw [inside, area.readOptions_bytes, ok_bind, atEnd, if_pos rfl]

theorem pack_aroundBody {type : Nat} {fields : List (Nat × Nat)}
    {body : Bytes} (fits : FieldsFit (headerFields type fields body)) :
    (order.pack (headerFields type fields body ++
        [(4, blockLen fields body)]) >>= fun hdrBuf =>
          Except.ok (aroundBody hdrBuf body)) =
      .ok (blockBytes order type fields body) := by
  have allFit : FieldsFit (headerFields type fields body ++
      [(4, blockLen fields body)]) := by
    obtain ⟨-, lenFits⟩ := fieldsFit_cons.mp fits
    rw [fieldsFit_append, fieldsFit_cons]
    exact ⟨fits, (fieldsFit_cons.mp lenFits).1, fieldsFit_nil⟩
  have tailLength : (order.fieldBytes [(4, blockLen fields body)]).length =
      4 := by
    rw [order.fieldBytes_length]
    rfl
  rw [order.pack_ok allFit, ok_bind]
  unfold aroundBody blockBytes
  rw [order.fieldBytes_append, List.length_append, tailLength,
    Nat.add_sub_cancel, List.take_left, List.drop_left]

end Blocks

/-! ### Section headers and interfaces -/

/-- A section header of version 1. -/
structure SectionRecord where
  vMinor : Nat
  secLen : Int
  options : OptionArea
  vMinorFits : vMinor < 256 ^ 2
  secLenLow : -(256 ^ 8 / 2 : Nat) ≤ secLen
  secLenHigh : secLen < (256 ^ 8 / 2 : Nat)
  small : 28 + options.size < 256 ^ 4

namespace SectionRecord

variable (order : ByteOrder) (shb : SectionRecord)

def fields : List (Nat × Nat) :=
  [(4, byteOrderMagic), (2, 1), (2, shb.vMinor),
    (8, (shb.secLen % (256 ^ 8 : Nat)).toNat)]

def bytes : Bytes :=
  blockBytes order btShb shb.fields (shb.options.bytes order)

def block : SectionHeaderBlock where
  len := 28 + shb.options.size
  vMinor := shb.vMinor
  secLen := shb.secLen
  lenAtEnd := 28 + shb.options.size
  opts := shb.options.opts

theorem blockLen_eq :
    blockLen shb.fields (shb.options.bytes order) =
      28 + shb.options.size := by
  unfold blockLen fields
  rw [shb.options.bytes_length]
  rfl

theorem fields_fit :
    FieldsFit (headerFields btShb shb.fields (shb.options.bytes order)) := by
  have small := shb.small
  have secLenFits : (shb.secLen % (256 ^ 8 : Nat)).toNat < 256 ^ 8 := by
    have below := Int.emod_lt_of_pos shb.secLen
      (show (0 : Int) < (256 ^ 8 : Nat) by decide)
    omega
  unfold headerFields
  rw [shb.blockLen_eq]
  unfold fields
  simp only [fieldsFit_cons, fieldsFit_nil, and_true]
  exact ⟨by decide, small, by decide, by decide, shb.vMinorFits, secLenFits⟩

theorem unpackHdr_bytes :
    ∃ behind, SectionHeaderBlock.unpackHdr order (shb.bytes order) =
      .ok { shb.block with opts := [], lenAtEnd := behind } := by
  obtain ⟨behind, values⟩ := unpackHdr_blockBytes order (shb.fields_fit order)
  have signed := toSigned_emod shb.secLenLow shb.secLenHigh
  refine ⟨behind, bind_eq_ok.mpr ⟨_, values, ?_⟩⟩
  change Except.ok (SectionHeaderBlock.mk btShb
    (blockLen shb.fields (shb.options.bytes order)) byteOrderMagic 1
    shb.vMinor (toSigned 8 (shb.secLen % (256 ^ 8 : Nat)).toNat) behind
    []) = _
  rw [shb.blockLen_eq, signed]
  rfl

theorem parse_bytes :
    SectionHeaderBlock.parse order (shb.bytes order) = .ok shb.block := by
  obtain ⟨behind, header⟩ := shb.unpackHdr_bytes order
  have len := shb.blockLen_eq order
  have options := @unpackOptions_blockBytes order btShb shb.fields []
    shb.options (by rw [List.nil_append, len]; exact shb.small)
  have total := blockBytes_length order btShb shb.fields
    (shb.options.bytes order)
  rw [List.nil_append, len] at options
  rw [len] at total
  refine packetInit_eq_ok.mpr ?_
  unfold SectionHeaderBlock.unpack
  rw [header, ok_bind]
  unfold bytes block
  dsimp only
  rw [if_neg (by omega)]
  exact bind_eq_ok.mpr ⟨_, options, rfl⟩

/-- A section header is packed as it was read, with zeros behind the data of
its options. -/
theorem bytes_block (zeroed : shb.options.zeroed = shb.options) :
    SectionHeaderBlock.bytes order shb.block = .ok (shb.bytes order) := by
  have len := shb.blockLen_eq order
  have joined := pack_aroundBody order (shb.fields_fit order)
  have signed := signedField_ok shb.secLenLow shb.secLenHigh
  have options := shb.options.packOptions_opts order
  rw [zeroed] at options
  unfold SectionHeaderBlock.bytes
  refine bind_eq_ok.mpr ⟨_, options, bind_eq_ok.mpr ⟨_, signed, ?_⟩⟩
  rw [shb.options.bytes_length, Nat.add_comm]
  unfold headerFields at joined
  rw [len] at joined
  exact joined

end SectionRecord

/-- An interface.  Its resolution takes one byte, its offset eight. -/
structure InterfaceRecord where
  linktype : Nat
  reserved : Nat
  snaplen : Nat
  options : OptionArea
  linktypeFits : linktype < 256 ^ 2
  reservedFits : reserved < 256 ^ 2
  snaplenFits : snaplen < 256 ^ 4
  small : 20 + options.size < 256 ^ 4
  tsresolSized : ∀ opt ∈ options.options,
    opt.code = optIfTsresol → opt.data.length = 1
  tsoffsetSized : ∀ opt ∈ options.options,
    opt.code = optIfTsoffset → opt.data.length = 8

namespace InterfaceRecord

theorem noReserved : 0 < 256 ^ 2 := by decide

/-! An interface without options. -/

theorem bare_small : 20 + OptionArea.empty.size < 256 ^ 4 := by decide

theorem bare_tsresol : ∀ opt ∈ OptionArea.empty.options,
    opt.code = optIfTsresol → opt.data.length = 1 := by
  intro opt member
  cases member

theorem bare_tsoffset : ∀ opt ∈ OptionArea.empty.options,
    opt.code = optIfTsoffset → opt.data.length = 8 := by
  intro opt member
  cases member

variable (order : ByteOrder) (idb : InterfaceRecord)

def fields : List (Nat × Nat) :=
  [(2, idb.linktype), (2, idb.reserved), (4, idb.snaplen)]

def bytes : Bytes :=
  blockBytes order btIdb idb.fields (idb.options.bytes order)

def block : InterfaceDescriptionBlock where
  len := 20 + idb.options.size
  linktype := idb.linktype
  reserved := idb.reserved
  snaplen := idb.snaplen
  lenAtEnd := 20 + idb.options.size
  opts := idb.options.opts

theorem blockLen_eq :
    blockLen idb.fields (idb.options.bytes order) =
      20 + idb.options.size := by
  unfold blockLen fields
  rw [idb.options.bytes_length]
  rfl

theorem fields_fit :
    FieldsFit (headerFields btIdb idb.fields (idb.options.bytes order)) := by
  have small := idb.small
  unfold headerFields
  rw [idb.blockLen_eq]
  unfold fields
  simp only [fieldsFit_cons, fieldsFit_nil, and_true]
  exact ⟨by decide, small, idb.linktypeFits, idb.reservedFits,
    idb.snaplenFits⟩

theorem parse_bytes :
    InterfaceDescriptionBlock.parse order (idb.bytes order) =
      .ok idb.block := by
  obtain ⟨behind, values⟩ := unpackHdr_blockBytes order (idb.fields_fit order)
  have len := idb.blockLen_eq order
  have options := @unpackOptions_blockBytes order btIdb idb.fields []
    idb.options (by rw [List.nil_append, len]; exact idb.small)
  have total := blockBytes_length order btIdb idb.fields
    (idb.options.bytes order)
  rw [List.nil_append, len] at options
  rw [len] at total
  have header : InterfaceDescriptionBlock.ofValues
      ((headerFields btIdb idb.fields (idb.options.bytes order)).map
        Prod.snd ++ [behind]) =
      { idb.block with opts := [], lenAtEnd := behind } := by
    change InterfaceDescriptionBlock.mk btIdb
      (blockLen idb.fields (idb.options.bytes order)) idb.linktype
      idb.reserved idb.snaplen behind [] = _
    rw [len]
    rfl
  refine packetInit_eq_ok.mpr ?_
  unfold InterfaceDescriptionBlock.unpack
  refine bind_eq_ok.mpr ⟨_, values, ?_⟩
  dsimp only
  rw [header]
  unfold bytes block
  dsimp only
  rw [if_neg (by omega)]
  exact bind_eq_ok.mpr ⟨_, options, rfl⟩

/-- An interface is packed as it was read, with zeros behind the data of its
options. -/
theorem bytes_block (zeroed : idb.options.zeroed = idb.options) :
    InterfaceDescriptionBlock.bytes order idb.block =
      .ok (idb.bytes order) := by
  have len := idb.blockLen_eq order
  have joined := pack_aroundBody order (idb.fields_fit order)
  have options := idb.options.packOptions_opts order
  rw [zeroed] at options
  unfold InterfaceDescriptionBlock.bytes
  refine bind_eq_ok.mpr ⟨_, options, ?_⟩
  rw [idb.options.bytes_length, Nat.add_comm]
  unfold headerFields at joined
  rw [len] at joined
  exact joined

end InterfaceRecord

/-! ### Packets -/

/-- A packet with its data and its options. -/
structure PacketRecord (kind : PacketClass) where
  ifaceId : Nat
  dropsCount : Nat
  tsHigh : Nat
  tsLow : Nat
  pktLen : Nat
  data : Bytes
  padding : Bytes
  options : OptionArea
  ifaceIdFits : ifaceId < 256 ^ (if kind = .enhanced then 4 else 2)
  dropsCountFits : dropsCount < 256 ^ (if kind = .enhanced then 0 else 2)
  tsHighFits : tsHigh < 256 ^ 4
  tsLowFits : tsLow < 256 ^ 4
  pktLenFits : pktLen < 256 ^ 4
  filled : padding.length = padlen data
  small : 32 + align32b data.length + options.size < 256 ^ 4

def PacketClass.blockType : PacketClass → Nat
  | .enhanced => btEpb
  | .plain => btPb

namespace PacketRecord

theorem firstInterface :
    0 < 256 ^ (if PacketClass.enhanced = .enhanced then 4 else 2) := by decide

theorem noDrops :
    0 < 256 ^ (if PacketClass.enhanced = .enhanced then 0 else 2) := by decide

theorem noWord : 0 < 256 ^ 4 := by decide

variable {kind : PacketClass} (order : ByteOrder) (record : PacketRecord kind)

def source : List (Nat × Nat) :=
  match kind with
  | .enhanced => [(4, record.ifaceId)]
  | .plain => [(2, record.ifaceId), (2, record.dropsCount)]

def fields : List (Nat × Nat) :=
  record.source ++
    [(4, record.tsHigh), (4, record.tsLow), (4, record.data.length),
      (4, record.pktLen)]

def bytes : Bytes :=
  blockBytes order kind.blockType record.fields
    (record.data ++ record.padding ++ record.options.bytes order)

def block : PacketBlock where
  type := kind.blockType
  len := 32 + align32b record.data.length + record.options.size
  ifaceId := record.ifaceId
  dropsCount := record.dropsCount
  tsHigh := record.tsHigh
  tsLow := record.tsLow
  caplen := record.data.length
  pktLen := record.pktLen
  lenAtEnd := 32 + align32b record.data.length + record.options.size
  pktData := record.data
  opts := record.options.opts

theorem blockLen_eq :
    blockLen record.fields
        (record.data ++ record.padding ++ record.options.bytes order) =
      32 + align32b record.data.length + record.options.size := by
  have filled := record.filled
  have aligned := length_add_padlen record.data
  have width : (record.fields.map Prod.fst).sum = 20 := by
    unfold fields source
    cases kind <;> rfl
  unfold blockLen
  rw [width, List.length_append, List.length_append,
    record.options.bytes_length, filled]
  omega

theorem fields_fit :
    FieldsFit (headerFields kind.blockType record.fields
      (record.data ++ record.padding ++ record.options.bytes order)) := by
  have small := record.small
  have caplenFits : record.data.length < 256 ^ 4 := by
    have longer := le_align32b record.data.length
    omega
  have ifaceIdFits := record.ifaceIdFits
  have dropsCountFits := record.dropsCountFits
  unfold headerFields
  rw [record.blockLen_eq]
  unfold fields source
  cases kind with
  | enhanced =>
      simp only [List.cons_append, List.nil_append, fieldsFit_cons,
        fieldsFit_nil, and_true]
      exact ⟨by decide, small, ifaceIdFits, record.tsHighFits,
        record.tsLowFits, caplenFits, record.pktLenFits⟩
  | plain =>
      simp only [List.cons_append, List.nil_append, fieldsFit_cons,
        fieldsFit_nil, and_true]
      exact ⟨by decide, small, ifaceIdFits, dropsCountFits,
        record.tsHighFits, record.tsLowFits, caplenFits, record.pktLenFits⟩

theorem front_length :
    8 + (record.fields.map Prod.fst).sum = 28 := by
  unfold fields source
  cases kind <;> rfl

theorem widths_eq (body : Bytes) :
    (headerFields kind.blockType record.fields body).map Prod.fst ++ [4] =
      kind.widths := by
  unfold headerFields fields source
  cases kind <;> rfl

theorem ofValues_fields (behind : Nat) :
    kind.ofValues ((headerFields kind.blockType record.fields
      (record.data ++ record.padding ++ record.options.bytes order)).map
        Prod.snd ++ [behind]) =
      { record.block with pktData := [], opts := [], lenAtEnd := behind } := by
  have len := record.blockLen_eq order
  have drops := record.dropsCountFits
  unfold headerFields
  rw [len]
  unfold fields source block
  cases kind with
  | enhanced =>
      have none : record.dropsCount = 0 := by
        rw [if_pos rfl] at drops
        omega
      rw [none]
      rfl
  | plain => rfl

theorem cut_data :
    cut (record.bytes order) 28 (28 + record.data.length) = record.data := by
  have headLength := headerFields_length order kind.blockType record.fields
    (record.data ++ record.padding ++ record.options.bytes order)
  have middle := cut_append (order.fieldBytes (headerFields kind.blockType
    record.fields (record.data ++ record.padding ++
      record.options.bytes order))) record.data
    (record.padding ++ record.options.bytes order ++ order.fieldBytes
      [(4, blockLen record.fields (record.data ++ record.padding ++
        record.options.bytes order))])
  rw [headLength, record.front_length] at middle
  unfold bytes blockBytes
  simp only [List.append_assoc] at middle ⊢
  exact middle

theorem parse_bytes :
    PacketBlock.parse kind order (record.bytes order) = .ok record.block := by
  obtain ⟨behind, values⟩ :=
    unpackHdr_blockBytes order (record.fields_fit order)
  have len := record.blockLen_eq order
  have options := @unpackOptions_blockBytes order kind.blockType
    record.fields (record.data ++ record.padding) record.options
    (by rw [len]; exact record.small)
  have total := blockBytes_length order kind.blockType record.fields
    (record.data ++ record.padding ++ record.options.bytes order)
  have aligned : (record.data ++ record.padding).length =
      align32b record.data.length := by
    rw [List.length_append, record.filled, length_add_padlen]
  have po : kind.widths.sum - 4 = 28 := by cases kind <;> rfl
  rw [record.front_length, aligned, len] at options
  rw [len] at total
  rw [record.widths_eq] at values
  refine packetInit_eq_ok.mpr ?_
  unfold PacketBlock.unpack
  refine bind_eq_ok.mpr ⟨_, values, ?_⟩
  dsimp only
  rw [record.ofValues_fields order, po]
  have long : ¬(record.bytes order).length < record.block.len := by
    unfold bytes block
    dsimp only
    omega
  refine (if_neg long).trans ?_
  refine bind_eq_ok.mpr ⟨_, options, ?_⟩
  change Except.ok { record.block with
    pktData := cut (record.bytes order) 28 (28 + record.data.length) } = _
  rw [record.cut_data order]
  rfl

/-- The record that `__bytes__` writes: zeros behind the data and the options,
and the length of the data as the length of the packet. -/
def rewritten : PacketRecord kind :=
  { record with
    pktLen := record.data.length
    padding := zeros (padlen record.data)
    options := record.options.zeroed
    pktLenFits := by
      have small := record.small
      have longer := le_align32b record.data.length
      omega
    filled := zeros_length _
    small := by
      rw [record.options.size_zeroed]
      exact record.small }

theorem bytes_block :
    PacketBlock.bytes kind order record.block =
      .ok (record.rewritten.bytes order) := by
  have len := record.rewritten.blockLen_eq order
  have joined := pack_aroundBody order (record.rewritten.fields_fit order)
  have n : kind.widths.sum + align32b record.data.length +
      (record.options.zeroed.bytes order).length =
        32 + align32b record.data.length + record.options.zeroed.size := by
    rw [record.options.zeroed.bytes_length]
    cases kind <;> rfl
  have sameFields : record.block.fields kind
      (32 + align32b record.data.length + record.options.zeroed.size)
      record.data.length =
        headerFields kind.blockType record.rewritten.fields
          (record.rewritten.data ++ record.rewritten.padding ++
            record.rewritten.options.bytes order) ++
          [(4, blockLen record.rewritten.fields (record.rewritten.data ++
            record.rewritten.padding ++
              record.rewritten.options.bytes order))] := by
    unfold headerFields
    rw [len]
    unfold PacketBlock.fields fields source
    cases kind <;> rfl
  unfold PacketBlock.bytes
  refine bind_eq_ok.mpr ⟨_, record.options.packOptions_opts order, ?_⟩
  change (order.pack (record.block.fields kind (kind.widths.sum +
    align32b record.data.length + (record.options.zeroed.bytes order).length)
      record.data.length) >>= fun hdrBuf => Except.ok (aroundBody hdrBuf
        (padded record.data ++ record.options.zeroed.bytes order))) = _
  rw [n, sameFields, padded_eq]
  exact joined

end PacketRecord

/-! ### Parsed blocks -/

/-- What two parsed blocks have to agree on. -/
structure SameContents (block block' : PacketBlock) : Prop where
  ifaceId : block'.ifaceId = block.ifaceId
  dropsCount : block'.dropsCount = block.dropsCount
  tsHigh : block'.tsHigh = block.tsHigh
  tsLow : block'.tsLow = block.tsLow
  caplen : block'.caplen = block.caplen
  pktLen : block'.pktLen = block.pktLen
  pktData : block'.pktData = block.pktData
  opts : block'.opts = block.opts

/-- The block is parsed, its serialisation is parsed as well, and both have
the same contents. -/
def Reserialised (kind : PacketClass) (order : ByteOrder) (buf : Bytes) :
    Prop :=
  ∃ block out block', PacketBlock.parse kind order buf = .ok block ∧
    PacketBlock.bytes kind order block = .ok out ∧
    PacketBlock.parse kind order out = .ok block' ∧
    SameContents block block'

namespace PacketRecord

variable {kind : PacketClass}

theorem reserialised_contents (order : ByteOrder)
    (record : PacketRecord kind) :
    Reserialised kind order (record.bytes order) ↔
      SameContents record.block record.rewritten.block := by
  have parsed := record.parse_bytes order
  have packed := record.bytes_block order
  have again := record.rewritten.parse_bytes order
  constructor
  · rintro ⟨block, out, block', first, written, second, same⟩
    rw [parsed, Except.ok.injEq] at first
    subst first
    rw [packed, Except.ok.injEq] at written
    subst written
    rw [again, Except.ok.injEq] at second
    subst second
    exact same
  · intro same
    exact ⟨_, _, _, parsed, packed, again, same⟩

/-- A well-formed block comes back exactly when the whole packet was
captured. -/
theorem reserialised_iff (order : ByteOrder) (record : PacketRecord kind) :
    Reserialised kind order (record.bytes order) ↔
      record.pktLen = record.data.length := by
  rw [reserialised_contents]
  constructor
  · intro same
    exact same.pktLen.symm
  · intro whole
    exact
      { ifaceId := rfl
        dropsCount := rfl
        tsHigh := rfl
        tsLow := rfl
        caplen := rfl
        pktLen := whole.symm
        pktData := rfl
        opts := record.options.opts_zeroed }

end PacketRecord

/-- One byte was captured of a packet of two bytes. -/
def snapped : PacketRecord .enhanced where
  ifaceId := 0
  dropsCount := 0
  tsHigh := 0
  tsLow := 0
  pktLen := 2
  data := [0xaa]
  padding := [0, 0, 0]
  options := .empty
  ifaceIdFits := PacketRecord.firstInterface
  dropsCountFits := PacketRecord.noDrops
  tsHighFits := PacketRecord.noWord
  tsLowFits := PacketRecord.noWord
  pktLenFits := by decide
  filled := by decide
  small := by decide

theorem snapped_not_reserialised :
    ¬Reserialised .enhanced .little (snapped.bytes .little) := by
  rw [PacketRecord.reserialised_contents]
  intro same
  have lost := same.pktLen
  revert lost
  decide

end DpktNg.Pcapng
