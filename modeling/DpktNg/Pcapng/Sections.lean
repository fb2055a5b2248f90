/-
Sections of interfaces and packets, and the times that the reader yields for
the packets.  The reader takes resolution and offset from the first interface
of the file; a packet belongs to the interface that its `iface_id` counts to.
-/

import DpktNg.Pcapng.File
import DpktNg.Pcapng.Layout

namespace DpktNg.Pcapng

open Library

theorem readBlock_nil (order : ByteOrder) : readBlock order [] = none := rfl

theorem readBlock_blockBytes {order : ByteOrder} {type : Nat}
    {fields : List (Nat × Nat)} {body : Bytes}
    (fits : FieldsFit (headerFields type fields body)) (behind : Bytes) :
    readBlock order (blockBytes order type fields body ++ behind) =
      some { type := type, buf := blockBytes order type fields body
             behind := behind } := by
  obtain ⟨typeFits, lenFits⟩ := fieldsFit_cons.mp fits
  have frontFits : FieldsFit [(4, type), (4, blockLen fields body)] := by
    rw [fieldsFit_cons, fieldsFit_cons]
    exact ⟨typeFits, (fieldsFit_cons.mp lenFits).1, fieldsFit_nil⟩
  have split : blockBytes order type fields body ++ behind =
      order.fieldBytes [(4, type), (4, blockLen fields body)] ++
        (order.fieldBytes fields ++ body ++
          order.fieldBytes [(4, blockLen fields body)] ++ behind) := by
    unfold blockBytes headerFields
    have front : order.fieldBytes
        ((4, type) :: (4, blockLen fields body) :: fields) =
          order.fieldBytes [(4, type), (4, blockLen fields body)] ++
            order.fieldBytes fields :=
      order.fieldBytes_append [(4, type), (4, blockLen fields body)] fields
    rw [front]
    simp only [List.append_assoc]
  have values := order.values_fieldBytes frontFits
    (order.fieldBytes fields ++ body ++
      order.fieldBytes [(4, blockLen fields body)] ++ behind)
  rw [← split] at values
  obtain ⟨typeRead, lenRead, -⟩ :
      order.nat ((blockBytes order type fields body ++ behind).take 4) =
          type ∧
        order.nat (((blockBytes order type fields body ++ behind).drop
          4).take 4) = blockLen fields body ∧ True := by
    have both := List.cons_eq_cons.mp values
    exact ⟨both.1, (List.cons_eq_cons.mp both.2).1, trivial⟩
  have total := blockBytes_length order type fields body
  have long : 12 ≤ blockLen fields body := by
    unfold blockLen
    omega
  have enough : ¬((blockBytes order type fields body ++ behind).take
      8).length < 8 := by
    rw [List.length_take, List.length_append]
    omega
  have rest : (blockLen fields body : Int) - 8 =
      ((blockLen fields body - 8 : Nat) : Int) := by omega
  have eight : 8 + (blockLen fields body - 8) = blockLen fields body := by
    omega
  unfold readBlock
  rw [if_neg enough]
  unfold cut
  rw [List.drop_zero, typeRead, lenRead]
  dsimp only
  rw [rest]
  unfold readFile
  rw [if_neg (by omega), Int.toNat_natCast, ← List.take_add, eight,
    List.take_left' total, List.drop_drop, eight, List.drop_left' total]

/-! ### The clock of an interface -/

/-- The resolution that the byte of an option stands for: a power of ten, or
of two when the upper bit is set. -/
def resolutionOf (opt : OptionRecord) : Nat :=
  if beNat opt.data < 128 then 10 ^ beNat opt.data
  else 2 ^ (beNat opt.data - 128)

def offsetOf (order : ByteOrder) (opt : OptionRecord) : Int :=
  toSigned 8 (order.nat opt.data)

/-- The value of the last option with a code, or a default. -/
def lastValue {α : Type} (value : OptionRecord → α) (code : Nat)
    (options : List OptionRecord) (default : α) : α :=
  ((options.filter fun opt => opt.code = code).getLast?.map value).getD default

theorem lastValue_cons_same {α : Type} {value : OptionRecord → α} {code : Nat}
    {opt : OptionRecord} {rest : List OptionRecord} {default : α}
    (same : opt.code = code) :
    lastValue value code (opt :: rest) default =
      lastValue value code rest (value opt) := by
  unfold lastValue
  rw [List.filter_cons_of_pos (by rw [same, decide_eq_true_eq]),
    List.getLast?_cons]
  cases (rest.filter fun opt => opt.code = code).getLast? <;> rfl

theorem lastValue_cons_other {α : Type} {value : OptionRecord → α}
    {code : Nat} {opt : OptionRecord} {rest : List OptionRecord} {default : α}
    (other : opt.code ≠ code) :
    lastValue value code (opt :: rest) default =
      lastValue value code rest default := by
  unfold lastValue
  rw [List.filter_cons_of_neg (by rw [decide_eq_true_eq]; exact other)]

theorem masks (byte : UInt8) :
    (if byte.toNat &&& 0b10000000 ≠ 0 then 2 else 10) ^
        (byte.toNat &&& 0b01111111) =
      if byte.toNat < 128 then 10 ^ byte.toNat else 2 ^ (byte.toNat - 128) := by
  have bits : (byte.toNat &&& 0b10000000 ≠ 0 ↔ ¬byte.toNat < 128) ∧
      byte.toNat &&& 0b01111111 = byte.toNat % 128 := by
    revert byte
    apply forall_byte
    decide +kernel
  have range := byte.toNat_lt
  rw [bits.2]
  by_cases low : byte.toNat < 128
  · rw [if_pos low, if_neg (fun set => bits.1.mp set low),
      Nat.mod_eq_of_lt low]
  · have exponent : byte.toNat % 128 = byte.toNat - 128 := by omega
    rw [if_neg low, if_pos (bits.1.mpr low), exponent]

theorem Clock.option_tsresol {order : ByteOrder} {clock : Clock}
    {opt : OptionRecord} (isTsresol : opt.code = optIfTsresol)
    (sized : opt.data.length = 1) :
    clock.option order opt.option =
      .ok { clock with divisor := resolutionOf opt } := by
  obtain ⟨byte, single⟩ := List.length_eq_one_iff.mp sized
  unfold Clock.option OptionRecord.option resolutionOf
  dsimp only
  rw [if_pos isTsresol, if_pos sized, single, beNat_singleton, masks]

theorem Clock.option_tsoffset {order : ByteOrder} {clock : Clock}
    {opt : OptionRecord} (isTsoffset : opt.code = optIfTsoffset)
    (sized : opt.data.length = 8) :
    clock.option order opt.option =
      .ok { clock with tsoffset := offsetOf order opt } := by
  have notTsresol : opt.code ≠ optIfTsresol := by
    rw [isTsoffset]
    decide
  unfold Clock.option OptionRecord.option offsetOf
  dsimp only
  rw [if_neg notTsresol, if_pos isTsoffset, if_pos sized]

theorem Clock.option_other {order : ByteOrder} {clock : Clock}
    {opt : OptionRecord} (notTsresol : opt.code ≠ optIfTsresol)
    (notTsoffset : opt.code ≠ optIfTsoffset) :
    clock.option order opt.option = .ok clock := by
  unfold Clock.option OptionRecord.option
  dsimp only
  rw [if_neg notTsresol, if_neg notTsoffset]

/-- After the loop the clock has the values of the last options. -/
theorem Clock.options_eq {order : ByteOrder} {options : List OptionRecord}
    (tsresolSized : ∀ opt ∈ options,
      opt.code = optIfTsresol → opt.data.length = 1)
    (tsoffsetSized : ∀ opt ∈ options,
      opt.code = optIfTsoffset → opt.data.length = 8) (clock : Clock) :
    clock.options order (options.map OptionRecord.option) =
      .ok { divisor :=
              lastValue resolutionOf optIfTsresol options clock.divisor
            tsoffset := lastValue (offsetOf order) optIfTsoffset options
              clock.tsoffset } := by
  induction options generalizing clock with
  | nil => rfl
  | cons opt rest ih =>
      obtain ⟨resolSized, restResol⟩ := List.forall_mem_cons.mp tsresolSized
      obtain ⟨offsetSized, restOffset⟩ := List.forall_mem_cons.mp tsoffsetSized
      rw [List.map_cons, Clock.options]
      by_cases isTsresol : opt.code = optIfTsresol
      · have notTsoffset : opt.code ≠ optIfTsoffset := by
          rw [isTsresol]
          decide
        rw [Clock.option_tsresol isTsresol (resolSized isTsresol), ok_bind,
          ih restResol restOffset, lastValue_cons_same isTsresol,
          lastValue_cons_other notTsoffset]
      · by_cases isTsoffset : opt.code = optIfTsoffset
        · rw [Clock.option_tsoffset isTsoffset (offsetSized isTsoffset),
            ok_bind, ih restResol restOffset, lastValue_cons_other isTsresol,
            lastValue_cons_same isTsoffset]
        · rw [Clock.option_other isTsresol isTsoffset, ok_bind,
            ih restResol restOffset, lastValue_cons_other isTsresol,
            lastValue_cons_other isTsoffset]

namespace InterfaceRecord

variable (order : ByteOrder) (idb : InterfaceRecord)

/-- `if_tsresol`, microseconds when there is none. -/
def resolution : Nat :=
  lastValue resolutionOf optIfTsresol idb.options.options 1000000

/-- `if_tsoffset` -/
def offset : Int :=
  lastValue (offsetOf order) optIfTsoffset idb.options.options 0

def ticks (epb : PacketRecord .enhanced) : Nat :=
  epb.tsHigh * 2 ^ 32 + epb.tsLow

/-- The time of a packet of this interface. -/
def time (epb : PacketRecord .enhanced) : ℚ :=
  idb.offset order + (ticks epb : ℚ) / idb.resolution

/-- The time of a packet of this interface, computed with floats. -/
def floatTime (epb : PacketRecord .enhanced) : ℚ :=
  double (double (idb.offset order) + double ((ticks epb : ℚ) / idb.resolution))

def clock : Clock where
  divisor := idb.resolution
  tsoffset := idb.offset order

theorem clock_options :
    Clock.options order {} idb.block.opts = .ok (idb.clock order) :=
  Clock.options_eq idb.tsresolSized idb.tsoffsetSized {}

theorem clock_time (epb : PacketRecord .enhanced) :
    (idb.clock order).time epb.block.tsHigh epb.block.tsLow =
      idb.floatTime order epb := by
  have joined : epb.tsHigh <<< 32 ||| epb.tsLow = ticks epb := by
    have low : epb.tsLow < 2 ^ 32 := epb.tsLowFits
    rw [← Nat.shiftLeft_add_eq_or_of_lt low, Nat.shiftLeft_eq]
    rfl
  unfold Clock.time floatTime clock PacketRecord.block
  dsimp only
  rw [joined]

/-- Nothing is lost where 53 bits are enough for the offset, the quotient and
their sum. -/
theorem floatTime_eq {epb : PacketRecord .enhanced}
    (offset : IsDouble (idb.offset order))
    (quotient : IsDouble ((ticks epb : ℚ) / idb.resolution))
    (sum : IsDouble (idb.time order epb)) :
    idb.floatTime order epb = idb.time order epb := by
  unfold floatTime
  rw [double_eq_self_iff.mpr offset, double_eq_self_iff.mpr quotient]
  exact double_eq_self_iff.mpr sum

end InterfaceRecord

inductive SectionBlock where
  | interface (idb : InterfaceRecord)
  | packet (epb : PacketRecord .enhanced)

def SectionBlock.bytes (order : ByteOrder) : SectionBlock → Bytes
  | .interface idb => idb.bytes order
  | .packet epb => epb.bytes order

def blocksBytes (order : ByteOrder) (blocks : List SectionBlock) : Bytes :=
  blocks.flatMap (SectionBlock.bytes order)

def interfacesOf (blocks : List SectionBlock) : List InterfaceRecord :=
  blocks.filterMap fun block =>
    match block with
    | .interface idb => some idb
    | .packet _ => none

def packetsOf (blocks : List SectionBlock) : List (PacketRecord .enhanced) :=
  blocks.filterMap fun block =>
    match block with
    | .interface _ => none
    | .packet epb => some epb

/-- A section in which every packet refers to an interface declared in front
of it. -/
structure Section where
  order : ByteOrder
  header : SectionRecord
  blocks : List SectionBlock
  declared : ∀ front epb behind, blocks = front ++ .packet epb :: behind →
    epb.ifaceId < (interfacesOf front).length

def Section.bytes (file : Section) : Bytes :=
  file.header.bytes file.order ++ blocksBytes file.order file.blocks

/-! ### The loops of the reader -/

theorem Reader.packets_end {order : ByteOrder} {clock : Clock} {file : Bytes}
    (read : readBlock order file = none) :
    Reader.packets order clock file = .ok [] := by
  rw [Reader.packets]
  split
  · rfl
  · rename_i found
    rw [read] at found
    cases found

theorem Reader.packets_packet {order : ByteOrder} {clock : Clock}
    {file : Bytes} {block : RawBlock} {kind : PacketClass}
    (read : readBlock order file = some block)
    (isPacket : packetClass block.type = some kind) :
    Reader.packets order clock file =
      (PacketBlock.parse kind order block.buf >>= fun epb =>
        Reader.packets order clock block.behind >>= fun entries =>
          .ok ((clock.time epb.tsHigh epb.tsLow, epb.pktData) :: entries)) := by
  rw [Reader.packets]
  split
  · rename_i found
    rw [read] at found
    cases found
  · rename_i found
    rw [read, Option.some.injEq] at found
    subst found
    rw [isPacket]

theorem Reader.packets_other {order : ByteOrder} {clock : Clock}
    {file : Bytes} {block : RawBlock}
    (read : readBlock order file = some block)
    (isOther : packetClass block.type = none) :
    Reader.packets order clock file =
      Reader.packets order clock block.behind := by
  rw [Reader.packets]
  split
  · rename_i found
    rw [read] at found
    cases found
  · rename_i found
    rw [read, Option.some.injEq] at found
    subst found
    rw [isOther]

theorem findIdb_end {order : ByteOrder} {file : Bytes}
    (read : readBlock order file = none) :
    findIdb order file = .error (valueError "IDB not found".toList) := by
  rw [findIdb]
  split
  · rfl
  · rename_i found
    rw [read] at found
    cases found

theorem findIdb_interface {order : ByteOrder} {file : Bytes}
    {block : RawBlock} (read : readBlock order file = some block)
    (isIdb : block.type = btIdb) :
    findIdb order file =
      (InterfaceDescriptionBlock.parse order block.buf >>= fun idb =>
        .ok (idb, block.behind)) := by
  rw [findIdb]
  split
  · rename_i found
    rw [read] at found
    cases found
  · rename_i found
    rw [read, Option.some.injEq] at found
    subst found
    exact if_pos isIdb

/-- The loop of `__iter__` yields every packet, with the time that its own
clock tells. -/
theorem Reader.packets_blocksBytes (order : ByteOrder) (clock : Clock)
    (blocks : List SectionBlock) :
    Reader.packets order clock (blocksBytes order blocks) =
      .ok ((packetsOf blocks).map fun epb =>
        (clock.time epb.block.tsHigh epb.block.tsLow, epb.data)) := by
  induction blocks with
  | nil => exact Reader.packets_end rfl
  | cons block rest ih =>
      cases block with
      | interface idb =>
          have read := @readBlock_blockBytes order _ _ _
            (idb.fields_fit order) (blocksBytes order rest)
          have skipped := @Reader.packets_other order clock _ _ read
            (show packetClass btIdb = none by decide)
          exact skipped.trans ih
      | packet epb =>
          have read := @readBlock_blockBytes order _ _ _
            (epb.fields_fit order) (blocksBytes order rest)
          have first := @Reader.packets_packet order clock _ _ _ read
            (show packetClass btEpb = some .enhanced by decide)
          have parsed := epb.parse_bytes order
          refine first.trans (bind_eq_ok.mpr ⟨_, parsed, ?_⟩)
          exact bind_eq_ok.mpr ⟨_, ih, rfl⟩

/-! ### The section header -/

/-- A section header looks the same from its type in either order. -/
theorem btShb_swapped (order : ByteOrder) :
    beNat (order.arrange (beBytes 4 btShb)) = btShb := by
  cases order <;> decide +kernel

theorem byteOrderMagic_seen (order : ByteOrder) :
    beNat (order.arrange (beBytes 4 byteOrderMagic)) =
      match order with
      | .big => byteOrderMagic
      | .little => byteOrderMagicLe := by
  cases order <;> decide +kernel

theorem swap32b_seen {len : Nat} (fits : len < 256 ^ 4) :
    swap32b (beNat (ByteOrder.little.arrange (beBytes 4 len))) = len := by
  have sized : (ByteOrder.little.arrange (beBytes 4 len)).length = 4 := by
    rw [ByteOrder.arrange_length, beBytes_length]
  have again := beBytes_beNat (ByteOrder.little.arrange (beBytes 4 len))
  rw [sized] at again
  unfold swap32b
  rw [again, ByteOrder.nat_arrange, beNat_beBytes fits]

theorem unpackHdr_big (order : ByteOrder) (shb : SectionRecord)
    (behind : Bytes) :
    ∃ seen, SectionHeaderBlock.unpackHdr .big
        ((shb.bytes order ++ behind).take 28) = .ok seen ∧
      seen.type = btShb ∧
      seen.len = beNat (order.arrange
        (beBytes 4 (28 + shb.options.size))) ∧
      seen.bom = beNat (order.arrange (beBytes 4 byteOrderMagic)) := by
  have total := blockBytes_length order btShb shb.fields
    (shb.options.bytes order)
  rw [shb.blockLen_eq] at total
  have long : ¬((shb.bytes order ++ behind).take 28).length <
      SectionHeaderBlock.widths.sum := by
    change ¬((shb.bytes order ++ behind).take 28).length < 28
    unfold SectionRecord.bytes
    rw [List.length_take, List.length_append, total]
    omega
  have split : ∃ rest, shb.bytes order ++ behind = order.fieldBytes
      [(4, btShb), (4, 28 + shb.options.size), (4, byteOrderMagic)] ++
        rest := by
    have front := order.fieldBytes_append
      [(4, btShb), (4, 28 + shb.options.size), (4, byteOrderMagic)]
      (shb.fields.drop 1)
    refine ⟨order.fieldBytes (shb.fields.drop 1) ++
      (shb.options.bytes order ++ (order.fieldBytes
        [(4, 28 + shb.options.size)] ++ behind)), ?_⟩
    unfold SectionRecord.bytes blockBytes headerFields
    rw [shb.blockLen_eq, ← List.append_assoc, ← front]
    simp only [List.append_assoc]
    rfl
  obtain ⟨rest, split⟩ := split
  have width : (order.fieldBytes [(4, btShb), (4, 28 + shb.options.size),
      (4, byteOrderMagic)]).length = 12 := by
    rw [order.fieldBytes_length]
    rfl
  have values := order.big_values_fieldBytes
    [(4, btShb), (4, 28 + shb.options.size), (4, byteOrderMagic)]
    (rest.take 16)
  have head : (shb.bytes order ++ behind).take 28 = order.fieldBytes
      [(4, btShb), (4, 28 + shb.options.size), (4, byteOrderMagic)] ++
        rest.take 16 := by
    rw [split, List.take_append, width, List.take_of_length_le (by omega)]
  have all : ByteOrder.big.unpackHdr SectionHeaderBlock.widths
      ((shb.bytes order ++ behind).take 28) =
        .ok (ByteOrder.big.values ([4, 4, 4] ++ [2, 2, 8, 4])
          ((shb.bytes order ++ behind).take 28)) := if_neg long
  rw [ByteOrder.big.values_append, head] at all
  rw [head]
  refine ⟨_, bind_eq_ok.mpr ⟨_, all, rfl⟩, ?_⟩
  change ByteOrder.big.values [4, 4, 4] _ = _ at values
  rw [values]
  exact ⟨btShb_swapped order, rfl, rfl⟩

theorem readShb_bytes (order : ByteOrder) (shb : SectionRecord)
    (behind : Bytes) :
    readShb (shb.bytes order ++ behind) = .ok (order, shb.block, behind) := by
  obtain ⟨seen, header, isShb, len, bom⟩ := unpackHdr_big order shb behind
  have total := blockBytes_length order btShb shb.fields
    (shb.options.bytes order)
  rw [shb.blockLen_eq] at total
  have parsed := shb.parse_bytes order
  have long : ¬((shb.bytes order ++ behind).take 28).length < 28 := by
    unfold SectionRecord.bytes
    rw [List.length_take, List.length_append, total]
    omega
  have sized : (shb.bytes order).length = 28 + shb.options.size := total
  have more : readFile ((shb.bytes order ++ behind).drop 28)
      (((28 + shb.options.size : Nat) : Int) - (28 : Nat)) =
        ((shb.bytes order).drop 28, behind) := by
    have count : ((28 + shb.options.size : Nat) : Int) - (28 : Nat) =
        (shb.options.size : Nat) := by omega
    have tail : ((shb.bytes order).drop 28).length = shb.options.size := by
      rw [List.length_drop, sized]
      omega
    rw [count, List.drop_append_of_le_length (by omega)]
    unfold readFile
    rw [if_neg (by omega), Int.toNat_natCast, List.take_left' tail,
      List.drop_left' tail]
  have whole : (shb.bytes order ++ behind).take 28 ++
      (shb.bytes order).drop 28 = shb.bytes order := by
    rw [List.take_append_of_le_length (by omega), List.take_append_drop]
  have hdrLen : SectionHeaderBlock.widths.sum = 28 := rfl
  unfold readShb
  dsimp only
  rw [hdrLen, if_neg long, header, ok_bind, isShb,
    if_neg (fun other => other rfl), bom, byteOrderMagic_seen, len]
  cases order with
  | big =>
      have seenLen : beNat (ByteOrder.big.arrange
          (beBytes 4 (28 + shb.options.size))) = 28 + shb.options.size :=
        beNat_beBytes shb.small
      rw [if_neg (by decide), if_pos rfl, seenLen, more, whole, parsed]
      rfl
  | little =>
      rw [if_pos rfl, swap32b_seen shb.small, more, whole, parsed]
      rfl

/-! ### Whole files -/

theorem reader_init (order : ByteOrder) (header : SectionRecord)
    (idb : InterfaceRecord) (behind : Bytes) :
    Reader.init (header.bytes order ++ (idb.bytes order ++ behind)) =
      .ok { order := order, idb := idb.block, clock := idb.clock order
            dloff := (dltoff.lookup idb.linktype).getD 0
            file := behind } := by
  have found : findIdb order (idb.bytes order ++ behind) =
      .ok (idb.block, behind) := by
    have first := findIdb_interface
      (@readBlock_blockBytes order _ _ _ (idb.fields_fit order) behind) rfl
    exact first.trans (bind_eq_ok.mpr ⟨_, idb.parse_bytes order, rfl⟩)
  have version : ¬header.block.vMajor ≠ 1 := fun other => other rfl
  unfold Reader.init
  rw [readShb_bytes, ok_bind]
  dsimp only
  rw [if_neg version, found, ok_bind]
  exact bind_eq_ok.mpr ⟨_, idb.clock_options order, rfl⟩

/-- What the reader yields of a section whose first block is an interface:
every packet, with the time that the clock of this interface tells. -/
theorem reader_packets (order : ByteOrder) (header : SectionRecord)
    (idb : InterfaceRecord) (blocks : List SectionBlock) :
    (Reader.init (header.bytes order ++
        blocksBytes order (.interface idb :: blocks)) >>= Reader.readpkts) =
      .ok ((packetsOf blocks).map fun epb =>
        (idb.floatTime order epb, epb.data)) := by
  have initial := reader_init order header idb (blocksBytes order blocks)
  have times : (fun epb : PacketRecord .enhanced =>
      ((idb.clock order).time epb.block.tsHigh epb.block.tsLow, epb.data)) =
        fun epb => (idb.floatTime order epb, epb.data) := by
    funext epb
    rw [idb.clock_time]
  have loop := Reader.packets_blocksBytes order (idb.clock order) blocks
  rw [times] at loop
  exact bind_eq_ok.mpr ⟨_, initial, loop⟩

theorem reader_no_interface (order : ByteOrder) (header : SectionRecord) :
    Reader.init (header.bytes order ++ []) =
      .error (valueError "IDB not found".toList) := by
  have version : ¬header.block.vMajor ≠ 1 := fun other => other rfl
  unfold Reader.init
  rw [readShb_bytes, ok_bind]
  dsimp only
  rw [if_neg version, findIdb_end (readBlock_nil order)]
  rfl

namespace Section

variable (file : Section)

/-- An entry of the reader tells the time of the interface that the packet
refers to. -/
def OwnEntry (epb : PacketRecord .enhanced) (entry : ℚ × Bytes) : Prop :=
  (∃ idb, (interfacesOf file.blocks)[epb.ifaceId]? = some idb ∧
    entry.1 = idb.time file.order epb) ∧ entry.2 = epb.data

/-- The reader yields one such entry for each packet. -/
def FollowsInterfaces : Prop :=
  ∃ entries, (Reader.init file.bytes >>= Reader.readpkts) = .ok entries ∧
    List.Forall₂ file.OwnEntry (packetsOf file.blocks) entries

/-- There is a first interface, and every packet has the time by its own that
the first one yields with floats: the float nearest to the sum of those nearest
to the offset and to the ticks over the resolution. -/
def OneClock : Prop :=
  ∃ first, (interfacesOf file.blocks).head? = some first ∧
    ∀ epb ∈ packetsOf file.blocks, ∀ idb,
      (interfacesOf file.blocks)[epb.ifaceId]? = some idb →
        first.floatTime file.order epb = idb.time file.order epb

theorem packet_declared {epb : PacketRecord .enhanced}
    (member : epb ∈ packetsOf file.blocks) :
    ∃ idb, (interfacesOf file.blocks)[epb.ifaceId]? = some idb := by
  obtain ⟨block, present, same⟩ := List.mem_filterMap.mp member
  cases block with
  | interface idb => cases same
  | packet other =>
      rw [Option.some.injEq] at same
      subst same
      obtain ⟨front, behind, split⟩ := List.append_of_mem present
      have bound := file.declared front other behind split
      have longer : (interfacesOf front).length ≤
          (interfacesOf file.blocks).length := by
        rw [split]
        unfold interfacesOf
        rw [List.filterMap_append, List.length_append]
        omega
      exact ⟨_, List.getElem?_eq_getElem (bound.trans_le longer)⟩

theorem blocks_cases :
    file.blocks = [] ∨ ∃ idb rest, file.blocks = .interface idb :: rest := by
  cases split : file.blocks with
  | nil => exact Or.inl rfl
  | cons block rest =>
      cases block with
      | interface idb => exact Or.inr ⟨idb, rest, rfl⟩
      | packet epb =>
          have bound := file.declared [] epb rest split
          exact absurd bound (Nat.not_lt_zero _)

theorem read_empty (nothing : file.blocks = []) :
    (Reader.init file.bytes >>= Reader.readpkts) =
      .error (valueError "IDB not found".toList) := by
  have failed := reader_no_interface file.order file.header
  unfold Section.bytes
  rw [nothing]
  exact congrArg (· >>= Reader.readpkts) failed

/-- What is read is told by the first interface. -/
theorem read_first {first : InterfaceRecord} {rest : List SectionBlock}
    (split : file.blocks = .interface first :: rest) :
    (Reader.init file.bytes >>= Reader.readpkts) =
      .ok ((packetsOf file.blocks).map fun epb =>
        (first.floatTime file.order epb, epb.data)) := by
  have read := reader_packets file.order file.header first rest
  rw [← split] at read
  have samePackets : packetsOf file.blocks = packetsOf rest := by
    rw [split]
    rfl
  rw [samePackets]
  exact read

theorem interfacesOf_head {first : InterfaceRecord}
    {rest : List SectionBlock}
    (split : file.blocks = .interface first :: rest) :
    (interfacesOf file.blocks).head? = some first := by
  rw [split]
  rfl

variable {file}

theorem FollowsInterfaces.oneClock (follows : file.FollowsInterfaces) :
    file.OneClock := by
  obtain ⟨entries, read, own⟩ := follows
  rcases file.blocks_cases with nothing | ⟨first, rest, split⟩
  · rw [file.read_empty nothing] at read
    cases read
  · refine ⟨first, file.interfacesOf_head split, ?_⟩
    intro epb member idb found
    rw [file.read_first split, Except.ok.injEq] at read
    rw [← read, List.forall₂_map_right_iff, List.forall₂_same] at own
    obtain ⟨⟨idb', found', time⟩, -⟩ := own epb member
    rw [found, Option.some.injEq] at found'
    rw [found']
    exact time

theorem OneClock.followsInterfaces (oneClock : file.OneClock) :
    file.FollowsInterfaces := by
  obtain ⟨first, head, same⟩ := oneClock
  rcases file.blocks_cases with nothing | ⟨first', rest, split⟩
  · rw [nothing] at head
    cases head
  · have here := file.interfacesOf_head split
    rw [head, Option.some.injEq] at here
    subst here
    refine ⟨_, file.read_first split, ?_⟩
    rw [List.forall₂_map_right_iff, List.forall₂_same]
    intro epb member
    obtain ⟨idb, found⟩ := file.packet_declared member
    exact ⟨⟨idb, found, same epb member idb found⟩, rfl⟩

variable (file)

/-- Where 53 bits are enough, it is enough that the first interface has the
times of all others. -/
theorem OneClock.of_doubles {first : InterfaceRecord}
    (head : (interfacesOf file.blocks).head? = some first)
    (same : ∀ epb ∈ packetsOf file.blocks, ∀ idb,
      (interfacesOf file.blocks)[epb.ifaceId]? = some idb →
        first.time file.order epb = idb.time file.order epb)
    (offset : IsDouble (first.offset file.order))
    (ticks : ∀ epb ∈ packetsOf file.blocks,
      IsDouble ((InterfaceRecord.ticks epb : ℚ) / first.resolution) ∧
        IsDouble (first.time file.order epb)) :
    file.OneClock := by
  refine ⟨first, head, fun epb member idb found => ?_⟩
  obtain ⟨quotient, sum⟩ := ticks epb member
  rw [first.floatTime_eq file.order offset quotient sum]
  exact same epb member idb found

/-- A time with more bits is never read. -/
theorem OneClock.isDouble {file : Section} (oneClock : file.OneClock)
    {epb : PacketRecord .enhanced} (member : epb ∈ packetsOf file.blocks)
    {idb : InterfaceRecord}
    (found : (interfacesOf file.blocks)[epb.ifaceId]? = some idb) :
    IsDouble (idb.time file.order epb) := by
  obtain ⟨first, -, same⟩ := oneClock
  rw [← same epb member idb found]
  exact double_isDouble _

end Section

/-! ### Two interfaces -/

def microseconds : InterfaceRecord where
  linktype := 1
  reserved := 0
  snaplen := 1500
  options := .empty
  linktypeFits := by decide
  reservedFits := InterfaceRecord.noReserved
  snaplenFits := by decide
  small := InterfaceRecord.bare_small
  tsresolSized := InterfaceRecord.bare_tsresol
  tsoffsetSized := InterfaceRecord.bare_tsoffset

/-- An interface that counts seconds. -/
def wholeSeconds : InterfaceRecord where
  linktype := 1
  reserved := 0
  snaplen := 1500
  options :=
    { options :=
        [{ code := optIfTsresol, data := [0], padding := [0, 0, 0]
           codeFits := by decide, dataFits := by decide, filled := by decide
           comment := by decide },
          { code := optEndofopt, data := [], padding := []
            codeFits := by decide, dataFits := by decide, filled := by decide
            comment := by decide }]
      ended := Or.inr ⟨[_], _, rfl, rfl, by decide⟩ }
  linktypeFits := by decide
  reservedFits := InterfaceRecord.noReserved
  snaplenFits := by decide
  small := by decide
  tsresolSized := by decide
  tsoffsetSized := by decide

/-- One second after the epoch on the second interface. -/
def secondTick : PacketRecord .enhanced where
  ifaceId := 1
  dropsCount := 0
  tsHigh := 0
  tsLow := 1
  pktLen := 0
  data := []
  padding := []
  options := .empty
  ifaceIdFits := by decide
  dropsCountFits := PacketRecord.noDrops
  tsHighFits := PacketRecord.noWord
  tsLowFits := by decide
  pktLenFits := PacketRecord.noWord
  filled := by decide
  small := by decide

def plainSection : SectionRecord where
  vMinor := 0
  secLen := -1
  options := .empty
  vMinorFits := by decide
  secLenLow := by decide
  secLenHigh := by decide
  small := by decide

def twoClocks : Section where
  order := .little
  header := plainSection
  blocks := [.interface microseconds, .interface wholeSeconds,
    .packet secondTick]
  declared := by
    intro front epb behind split
    match front, split with
    | [_, _], split =>
        simp only [List.cons_append, List.nil_append, List.cons.injEq,
          SectionBlock.packet.injEq] at split
        obtain ⟨first, second, third, -⟩ := split
        rw [← first, ← second, ← third]
        decide
    | [], split => cases split
    | [_], split => cases split
    | _ :: _ :: _ :: [], split => cases split
    | _ :: _ :: _ :: _ :: _, split => cases split

end DpktNg.Pcapng
