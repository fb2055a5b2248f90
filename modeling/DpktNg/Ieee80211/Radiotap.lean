/-
The radiotap header: `Radiotap.unpack` of dpkt/radiotap.py and the classes of
its fields.  The 802.11 frame behind the header is a parameter.
-/

import DpktNg.Python.ByteOrder

namespace DpktNg.Ieee80211

open Library

/-- A format character of `struct`, with its standard size. -/
structure Code where
  width : Nat
  signed : Bool
deriving DecidableEq, Repr

def charB : Code := { width := 1, signed := false }
def charSignedB : Code := { width := 1, signed := true }
def charH : Code := { width := 2, signed := false }
def charI : Code := { width := 4, signed := false }
def charQ : Code := { width := 8, signed := false }

/-- `struct.unpack` behind `'<'`, of bytes that are there. -/
def Code.read (code : Code) (bytes : Bytes) : Int :=
  if code.signed then toSigned code.width (ByteOrder.little.nat bytes)
  else ByteOrder.little.nat bytes

/-- A subclass of `RadiotapField`. -/
structure FieldClass where
  name : String
  alignment : Nat
  hdr : List (String × Code)
deriving DecidableEq, Repr

def FieldClass.hdrLen (cls : FieldClass) : Nat :=
  (cls.hdr.map fun entry => entry.2.width).sum

def antenna : FieldClass :=
  { name := "Antenna", alignment := 1, hdr := [("index", charB)] }

def antennaNoise : FieldClass :=
  { name := "AntennaNoise", alignment := 1, hdr := [("db", charSignedB)] }

def antennaSignal : FieldClass :=
  { name := "AntennaSignal", alignment := 1, hdr := [("db", charSignedB)] }

def channel : FieldClass :=
  { name := "Channel", alignment := 2
    hdr := [("freq", charH), ("flags", charH)] }

def fhss : FieldClass :=
  { name := "FHSS", alignment := 1
    hdr := [("set", charB), ("pattern", charB)] }

def flags : FieldClass :=
  { name := "Flags", alignment := 1, hdr := [("val", charB)] }

def lockQuality : FieldClass :=
  { name := "LockQuality", alignment := 2, hdr := [("val", charH)] }

def rxFlags : FieldClass :=
  { name := "RxFlags", alignment := 2, hdr := [("val", charH)] }

def rate : FieldClass :=
  { name := "Rate", alignment := 1, hdr := [("val", charB)] }

def tsft : FieldClass :=
  { name := "TSFT", alignment := 8, hdr := [("usecs", charQ)] }

def txAttenuation : FieldClass :=
  { name := "TxAttenuation", alignment := 2, hdr := [("val", charH)] }

def dbTxAttenuation : FieldClass :=
  { name := "DbTxAttenuation", alignment := 2, hdr := [("db", charH)] }

def dbAntennaNoise : FieldClass :=
  { name := "DbAntennaNoise", alignment := 1, hdr := [("db", charB)] }

def dbAntennaSignal : FieldClass :=
  { name := "DbAntennaSignal", alignment := 1, hdr := [("db", charB)] }

def dbmTxPower : FieldClass :=
  { name := "DbmTxPower", alignment := 1, hdr := [("dbm", charB)] }

def channelPlus : FieldClass :=
  { name := "ChannelPlus", alignment := 4
    hdr := [("flags", charI), ("freq", charH), ("channel", charB),
      ("maxpower", charB)] }

structure RadiotapField where
  cls : FieldClass
  values : List (String × Int)
  data : Bytes
deriving DecidableEq, Repr

def readHdr : List (String × Code) → Bytes → List (String × Int)
  | [], _ => []
  | (name, code) :: rest, bytes =>
      (name, code.read (bytes.take code.width)) ::
        readHdr rest (bytes.drop code.width)

def RadiotapField.unpack (cls : FieldClass) (buf : Bytes) :
    Except PyError RadiotapField :=
  if buf.length < cls.hdrLen then .error .structError
  else .ok { cls, values := readHdr cls.hdr buf, data := buf.drop cls.hdrLen }

def RadiotapField.init (cls : FieldClass) (buf : Bytes) :
    Except PyError RadiotapField :=
  packetInit cls.name (some cls.hdrLen) (RadiotapField.unpack cls) buf

def RadiotapField.len (field : RadiotapField) : Nat :=
  field.cls.hdrLen + field.data.length

def isPresent (presentFlags : Bytes) (bit : Nat) : Except PyError Bool := do
  let byte ← byteAt presentFlags (bit / 8)
  .ok (decide (byte &&& (1 <<< (bit % 8)) ≠ 0))

theorem isPresent_inside {presentFlags : Bytes} {bit : Nat} {present : Bool}
    (read : isPresent presentFlags bit = .ok present) :
    bit / 8 < presentFlags.length := by
  by_contra outside
  unfold isPresent at read
  rw [byteAt_outside (Nat.le_of_not_lt outside)] at read
  cases read

/-- `while self._is_present(ext_bit):` with the present flags so far and the
buffer behind them. -/
def presentWords (presentFlags buf : Bytes) (extBit : Nat) :
    Except PyError (Bytes × Bytes) :=
  match _read : isPresent presentFlags extBit with
  | .error problem => .error problem
  | .ok false => .ok (presentFlags, buf)
  | .ok true =>
      presentWords (presentFlags ++ buf.take 4) (buf.drop 4) (extBit + 32)
termination_by 8 * (presentFlags.length + buf.length) - extBit
decreasing_by
  have inside := isPresent_inside _read
  rw [List.length_append, List.length_take, List.length_drop]
  omega

section

variable {presentFlags : Bytes} {extBit : Nat}

theorem presentWords_stops (read : isPresent presentFlags extBit = .ok false)
    (buf : Bytes) :
    presentWords presentFlags buf extBit = .ok (presentFlags, buf) := by
  rw [presentWords]
  split
  · rename_i failed
    rw [read] at failed
    cases failed
  · rfl
  · rename_i more
    rw [read] at more
    cases more

theorem presentWords_goes (read : isPresent presentFlags extBit = .ok true)
    (buf : Bytes) :
    presentWords presentFlags buf extBit =
      presentWords (presentFlags ++ buf.take 4) (buf.drop 4) (extBit + 32) := by
  rw [presentWords]
  split
  · rename_i failed
    rw [read] at failed
    cases failed
  · rename_i last
    rw [read] at last
    cases last
  · rfl

end

/-- An entry of `field_decoder`: the name, the bit of `<name>_present` and the
class. -/
structure Decoder where
  name : String
  bit : Nat
  parser : FieldClass
deriving DecidableEq, Repr

def fieldDecoder : List Decoder :=
  [⟨"tsft", 0, tsft⟩, ⟨"flags", 1, flags⟩, ⟨"rate", 2, rate⟩,
    ⟨"channel", 3, channel⟩, ⟨"fhss", 4, fhss⟩,
    ⟨"ant_sig", 5, antennaSignal⟩, ⟨"ant_noise", 6, antennaNoise⟩,
    ⟨"lock_qual", 7, lockQuality⟩, ⟨"tx_attn", 8, txAttenuation⟩,
    ⟨"db_tx_attn", 9, dbTxAttenuation⟩, ⟨"dbm_tx_power", 10, dbmTxPower⟩,
    ⟨"ant", 11, antenna⟩, ⟨"db_ant_sig", 12, dbAntennaSignal⟩,
    ⟨"db_ant_noise", 13, dbAntennaNoise⟩, ⟨"rx_flags", 14, rxFlags⟩,
    ⟨"chanplus", 18, channelPlus⟩]

def presentBits (presentFlags : Bytes) :
    List Decoder → Except PyError (List (Decoder × Bool))
  | [] => .ok []
  | decoder :: rest => do
      let present ← isPresent presentFlags decoder.bit
      let others ← presentBits presentFlags rest
      .ok ((decoder, present) :: others)

/-- The attributes that the loop over `field_decoder` sets. -/
def decodeFields : List (Decoder × Bool) → Bytes → Nat →
    Except PyError (List (String × RadiotapField))
  | [], _, _ => .ok []
  | (_, false) :: rest, buf, offset => decodeFields rest buf offset
  | (decoder, true) :: rest, buf, offset => do
      let ali := decoder.parser.alignment
      let pad := if ali > 1 ∧ offset % ali ≠ 0 then ali - offset % ali else 0
      let parsed ← RadiotapField.init decoder.parser (buf.drop pad)
      let field := { parsed with data := [] }
      let others ← decodeFields rest ((buf.drop pad).drop field.len)
        (offset + pad + field.len)
      .ok ((decoder.name, field) :: others)

inductive RadiotapData (Frame : Type) where
  | bytes (data : Bytes)
  | frame (frame : Frame)

structure Radiotap (Frame : Type) where
  version : Nat
  pad : Nat
  length : Nat
  presentFlags : Bytes
  /-- The attributes `tsft`, `flags` and so on, as far as they are set. -/
  named : List (String × RadiotapField)
  fields : List RadiotapField
  data : RadiotapData Frame

def flagsFcs (named : List (String × RadiotapField)) : Except PyError Nat :=
  match (named.lookup "flags").bind fun field => field.values.lookup "val" with
  | none => .error .attributeError
  | some val => .ok ((val.toNat &&& 0x10) >>> 4)

/-- `self.flags_present and self.flags.fcs` -/
def frameFcs (presentFlags : Bytes) (named : List (String × RadiotapField)) :
    Except PyError Nat := do
  if ← isPresent presentFlags 1 then flagsFcs named else .ok 0

section Unpack

variable {Frame : Type} (ieee80211 : Option Nat → Bytes → Except PyError Frame)

def unpackFrame (presentFlags : Bytes)
    (named : List (String × RadiotapField)) (data : Bytes) :
    Except PyError (RadiotapData Frame) :=
  if data.length > 0 then do
    let fcs ← frameFcs presentFlags named
    let frame ← ieee80211 (if fcs ≠ 0 then some fcs else none) data
    .ok (.frame frame)
  else .ok (.bytes data)

def Radiotap.unpack (buf : Bytes) : Except PyError (Radiotap Frame) := do
  let header ← ByteOrder.little.unpackHdr [1, 1, 2] buf
  let length := header.getD 2 0
  let words ← presentWords ((buf.drop 4).take 4) ((buf.drop 4).drop 4) 31
  let decoders ← presentBits words.1 fieldDecoder
  let named ← decodeFields decoders words.2 (4 + words.1.length)
  let data ← unpackFrame ieee80211 words.1 named (buf.drop length)
  .ok {
    version := header.getD 0 0
    pad := header.getD 1 0
    length
    presentFlags := words.1
    named
    fields := named.map Prod.snd
    data }

def Radiotap.init (buf : Bytes) : Except PyError (Radiotap Frame) :=
  packetInit "Radiotap" (some 4) (Radiotap.unpack ieee80211) buf

end Unpack

end DpktNg.Ieee80211
