/-
The blocks of dpkt/pcapng.py and the options in them.  A class and its
little-endian variant are one definition with the byte order as an argument;
`EnhancedPacketBlock` and its subclass `PacketBlock` are one structure with the
class as an argument.
-/

import DpktNg.Python.ByteOrder

namespace DpktNg.Pcapng

def align32b (i : Nat) : Nat := if i % 4 = 0 then i else i + 4 - i % 4

def padded (s : Bytes) : Bytes := packString (align32b s.length) s

def paddedToLen (s : Bytes) (tolen : Nat) : Bytes := packString tolen s

def padlen (s : Bytes) : Nat := align32b s.length - s.length

def optEndofopt : Nat := 0
def optComment : Nat := 1
def optIfTsresol : Nat := 9
def optIfTsoffset : Nat := 14

/-- `text` is there when a comment was decoded. -/
structure PcapngOption where
  code : Nat := optEndofopt
  len : Nat := 0
  data : Bytes := []
  text : Option PyStr := none
deriving DecidableEq, Repr

def PcapngOption.className : ByteOrder → String
  | .big => "PcapngOption"
  | .little => "PcapngOptionLE"

/-- The text of a comment: UTF-8, or else ASCII in front of a zero byte. -/
def decodeComment (data : Bytes) : Except PyError PyStr :=
  match decodeUtf8 data with
  | some text => .ok text
  | none =>
      if 0 ∈ data ∧ ∀ byte ∈ data.takeWhile (· != 0), byte < 0x80 then
        .ok (decodeLatin1 (data.takeWhile (· != 0)))
      else .error .unicodeError

def PcapngOption.unpack (order : ByteOrder) (buf : Bytes) :
    Except PyError PcapngOption := do
  let values ← order.unpackHdr [2, 2] buf
  let code := values.getD 0 0
  let len := values.getD 1 0
  let data := cut buf 4 (4 + len)
  if code = optComment then do
    let text ← decodeComment data
    .ok { code := code, len := len, data := data, text := some text }
  else .ok { code := code, len := len, data := data }

def PcapngOption.parse (order : ByteOrder) :
    Bytes → Except PyError PcapngOption :=
  packetInit (className order) (some 4) (unpack order)

/-- The bytes that `__bytes__` puts into `data`. -/
def PcapngOption.encoded (opt : PcapngOption) : Bytes :=
  if opt.code = optComment then
    match opt.text with
    | some text => encodeUtf8 text
    | none => opt.data
  else opt.data

def PcapngOption.bytes (order : ByteOrder) (opt : PcapngOption) :
    Except PyError Bytes := do
  let hdr ← order.pack [(2, opt.code), (2, opt.encoded.length)]
  .ok (hdr ++ padded opt.encoded)

def PcapngOption.size (opt : PcapngOption) : Nat :=
  4 + opt.data.length + padlen opt.data

/-- The loop of `_do_unpack_options`, which ends at `opt_endofopt`. -/
def readOptions (order : ByteOrder) (optsBuf : Bytes) :
    Except PyError (List PcapngOption) :=
  if optsBuf = [] then .ok []
  else do
    let opt ← PcapngOption.parse order optsBuf
    if opt.code = optEndofopt then .ok [opt]
    else do
      let opts ← readOptions order (optsBuf.drop opt.size)
      .ok (opt :: opts)
termination_by optsBuf.length
decreasing_by
  have present : optsBuf ≠ [] := by assumption
  have positive := List.length_pos_iff.mpr present
  rw [List.length_drop]
  unfold PcapngOption.size
  omega

/-- `_do_unpack_options`: the options, and the length at the end.  The header
in front makes sure that there are four bytes to unpack. -/
def unpackOptions (order : ByteOrder) (len : Nat) (buf : Bytes) (oo : Nat) :
    Except PyError (List PcapngOption × Nat) := do
  let opts ← readOptions order ((cutTo buf (len - 4)).drop oo)
  let lenAtEnd := order.nat (buf.drop (buf.length - 4))
  if lenAtEnd = len then .ok (opts, lenAtEnd)
  else .error (.unpackError "length fields do not match".toList)

def joinOptions (order : ByteOrder) :
    List PcapngOption → Except PyError Bytes
  | [] => .ok []
  | opt :: opts => do
      let first ← opt.bytes order
      let rest ← joinOptions order opts
      .ok (first ++ rest)

/-- `_do_pack_options`; a block without the attribute `opts` has no
options. -/
def packOptions (order : ByteOrder) (opts : List PcapngOption) :
    Except PyError Bytes :=
  match opts.getLast? with
  | none => .ok []
  | some last =>
      if last.code = optEndofopt then joinOptions order opts
      else .error
        (.packError "options must end with opt_endofopt".toList)

/-- `b''.join([hdr_buf[:-4], body, hdr_buf[-4:]])` -/
def aroundBody (hdrBuf body : Bytes) : Bytes :=
  hdrBuf.take (hdrBuf.length - 4) ++ body ++ hdrBuf.drop (hdrBuf.length - 4)

def btShb : Nat := 0x0A0D0D0A
def btIdb : Nat := 1
def btPb : Nat := 2
def btEpb : Nat := 6

def byteOrderMagic : Nat := 0x1A2B3C4D
def byteOrderMagicLe : Nat := 0x4D3C2B1A

/-- `lenAtEnd` is the field `_len`. -/
structure SectionHeaderBlock where
  type : Nat := btShb
  len : Nat := 28
  bom : Nat := byteOrderMagic
  vMajor : Nat := 1
  vMinor : Nat := 0
  secLen : Int := -1
  lenAtEnd : Nat := 28
  opts : List PcapngOption := []
deriving DecidableEq, Repr

def SectionHeaderBlock.widths : List Nat := [4, 4, 4, 2, 2, 8, 4]

def SectionHeaderBlock.ofValues (values : List Nat) : SectionHeaderBlock where
  type := values.getD 0 0
  len := values.getD 1 0
  bom := values.getD 2 0
  vMajor := values.getD 3 0
  vMinor := values.getD 4 0
  secLen := toSigned 8 (values.getD 5 0)
  lenAtEnd := values.getD 6 0

def SectionHeaderBlock.className : ByteOrder → String
  | .big => "SectionHeaderBlock"
  | .little => "SectionHeaderBlockLE"

def SectionHeaderBlock.unpackHdr (order : ByteOrder) (buf : Bytes) :
    Except PyError SectionHeaderBlock := do
  let values ← order.unpackHdr widths buf
  .ok (ofValues values)

def SectionHeaderBlock.unpack (order : ByteOrder) (buf : Bytes) :
    Except PyError SectionHeaderBlock := do
  let shb ← unpackHdr order buf
  if buf.length < shb.len then .error (.needData [])
  else do
    let options ← unpackOptions order shb.len buf (widths.sum - 4)
    .ok { shb with opts := options.1, lenAtEnd := options.2 }

def SectionHeaderBlock.parse (order : ByteOrder) :
    Bytes → Except PyError SectionHeaderBlock :=
  packetInit (className order) (some widths.sum) (unpack order)

def SectionHeaderBlock.bytes (order : ByteOrder) (shb : SectionHeaderBlock) :
    Except PyError Bytes := do
  let optsBuf ← packOptions order shb.opts
  let n := optsBuf.length + widths.sum
  let secLen ← signedField 8 shb.secLen
  let hdrBuf ← order.pack [(4, shb.type), (4, n), (4, shb.bom),
    (2, shb.vMajor), (2, shb.vMinor), (8, secLen), (4, n)]
  .ok (aroundBody hdrBuf optsBuf)

structure InterfaceDescriptionBlock where
  type : Nat := btIdb
  len : Nat := 20
  linktype : Nat := 1
  reserved : Nat := 0
  snaplen : Nat := 1500
  lenAtEnd : Nat := 20
  opts : List PcapngOption := []
deriving DecidableEq, Repr

def InterfaceDescriptionBlock.widths : List Nat := [4, 4, 2, 2, 4, 4]

def InterfaceDescriptionBlock.ofValues (values : List Nat) :
    InterfaceDescriptionBlock where
  type := values.getD 0 0
  len := values.getD 1 0
  linktype := values.getD 2 0
  reserved := values.getD 3 0
  snaplen := values.getD 4 0
  lenAtEnd := values.getD 5 0

def InterfaceDescriptionBlock.className : ByteOrder → String
  | .big => "InterfaceDescriptionBlock"
  | .little => "InterfaceDescriptionBlockLE"

def InterfaceDescriptionBlock.unpack (order : ByteOrder) (buf : Bytes) :
    Except PyError InterfaceDescriptionBlock := do
  let values ← order.unpackHdr widths buf
  let idb := ofValues values
  if buf.length < idb.len then .error (.needData [])
  else do
    let options ← unpackOptions order idb.len buf (widths.sum - 4)
    .ok { idb with opts := options.1, lenAtEnd := options.2 }

def InterfaceDescriptionBlock.parse (order : ByteOrder) :
    Bytes → Except PyError InterfaceDescriptionBlock :=
  packetInit (className order) (some widths.sum) (unpack order)

def InterfaceDescriptionBlock.bytes (order : ByteOrder)
    (idb : InterfaceDescriptionBlock) : Except PyError Bytes := do
  let optsBuf ← packOptions order idb.opts
  let n := optsBuf.length + widths.sum
  let hdrBuf ← order.pack [(4, idb.type), (4, n), (2, idb.linktype),
    (2, idb.reserved), (4, idb.snaplen), (4, n)]
  .ok (aroundBody hdrBuf optsBuf)

/-- `EnhancedPacketBlock` and `PacketBlock` -/
inductive PacketClass where
  | enhanced
  | plain
deriving DecidableEq, Repr

/-- Only `PacketBlock` has the field `drops_count`. -/
structure PacketBlock where
  type : Nat := btEpb
  len : Nat := 64
  ifaceId : Nat := 0
  dropsCount : Nat := 0
  tsHigh : Nat := 0
  tsLow : Nat := 0
  caplen : Nat := 0
  pktLen : Nat := 0
  lenAtEnd : Nat := 64
  pktData : Bytes := []
  opts : List PcapngOption := []
deriving DecidableEq, Repr

def PacketClass.widths : PacketClass → List Nat
  | .enhanced => [4, 4, 4, 4, 4, 4, 4, 4]
  | .plain => [4, 4, 2, 2, 4, 4, 4, 4, 4]

def PacketClass.ofValues (values : List Nat) : PacketClass → PacketBlock
  | .enhanced =>
      { type := values.getD 0 0, len := values.getD 1 0
        ifaceId := values.getD 2 0, tsHigh := values.getD 3 0
        tsLow := values.getD 4 0, caplen := values.getD 5 0
        pktLen := values.getD 6 0, lenAtEnd := values.getD 7 0 }
  | .plain =>
      { type := values.getD 0 0, len := values.getD 1 0
        ifaceId := values.getD 2 0, dropsCount := values.getD 3 0
        tsHigh := values.getD 4 0, tsLow := values.getD 5 0
        caplen := values.getD 6 0, pktLen := values.getD 7 0
        lenAtEnd := values.getD 8 0 }

def PacketClass.className : PacketClass → ByteOrder → String
  | .enhanced, .big => "EnhancedPacketBlock"
  | .enhanced, .little => "EnhancedPacketBlockLE"
  | .plain, .big => "PacketBlock"
  | .plain, .little => "PacketBlockLE"

def PacketBlock.unpack (kind : PacketClass) (order : ByteOrder)
    (buf : Bytes) : Except PyError PacketBlock := do
  let values ← order.unpackHdr kind.widths buf
  let block := kind.ofValues values
  if buf.length < block.len then .error (.needData [])
  else do
    let po := kind.widths.sum - 4
    let optsOffset := po + align32b block.caplen
    let options ← unpackOptions order block.len buf optsOffset
    .ok { block with
          pktData := cut buf po (po + block.caplen)
          opts := options.1
          lenAtEnd := options.2 }

def PacketBlock.parse (kind : PacketClass) (order : ByteOrder) :
    Bytes → Except PyError PacketBlock :=
  packetInit (kind.className order) (some kind.widths.sum) (unpack kind order)

/-- The fields that `__bytes__` packs; both lengths of the packet are that of
its data. -/
def PacketBlock.fields (kind : PacketClass) (block : PacketBlock)
    (n pktLen : Nat) : List (Nat × Nat) :=
  match kind with
  | .enhanced =>
      [(4, block.type), (4, n), (4, block.ifaceId), (4, block.tsHigh),
        (4, block.tsLow), (4, pktLen), (4, pktLen), (4, n)]
  | .plain =>
      [(4, block.type), (4, n), (2, block.ifaceId), (2, block.dropsCount),
        (4, block.tsHigh), (4, block.tsLow), (4, pktLen), (4, pktLen), (4, n)]

def PacketBlock.bytes (kind : PacketClass) (order : ByteOrder)
    (block : PacketBlock) : Except PyError Bytes := do
  let pktBuf := block.pktData
  let pktLen := pktBuf.length
  let optsBuf ← packOptions order block.opts
  let n := kind.widths.sum + align32b pktLen + optsBuf.length
  let hdrBuf ← order.pack (block.fields kind n pktLen)
  .ok (aroundBody hdrBuf (padded pktBuf ++ optsBuf))

end DpktNg.Pcapng
