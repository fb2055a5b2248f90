/-
Messages and attribute-value pairs of dpkt/diameter.py.  Their fields of three
bytes are numbers once `unpack` is done, and bytes again once `pack_hdr` is
done.  So the first call of `__bytes__` on a message that was read succeeds, and
the next one fails.
-/

import DpktNg.Python.Loops
import DpktNg.Python.StructFormat

namespace DpktNg.Diameter

open Library

/-- What the attributes `len` and `cmd` hold at some time. -/
inductive ByteField where
  | number (value : Nat)
  | packed (bytes : Bytes)
deriving DecidableEq, Repr

/-- The number in the three bytes of `'3s'` -/
def int24 (bytes : Bytes) : Nat :=
  (bytes.getD 0 0).toNat <<< 16 ||| (bytes.getD 1 0).toNat <<< 8 |||
    (bytes.getD 2 0).toNat

/-- `struct.pack("BBB", ..)` of the parts of a number, each cut to a byte. -/
def bytes24 (value : Nat) : Bytes :=
  [UInt8.ofNat (value >>> 16 &&& 0xff), UInt8.ofNat (value >>> 8 &&& 0xff),
    UInt8.ofNat (value &&& 0xff)]

/-- The bytes that `pack_hdr` puts into the field; bytes have no `>>`. -/
def ByteField.pack : ByteField → Except PyError Bytes
  | number value => .ok (bytes24 value)
  | packed _ => .error .typeError

structure AVPHdr where
  code : Nat
  flags : Nat
  len : Bytes
deriving DecidableEq, Repr

def AVPHdr.format : StructFormat AVPHdr where
  items := [.int 4, .int 1, .str 3]
  values hdr := (hdr.code, hdr.flags, hdr.len, ())
  ofValues := fun (code, flags, len, _) => { code, flags, len }
  ofValues_values _ := rfl

/-- The attribute `vendor` is set only where the flag says so. -/
structure AVP where
  code : Nat := 0
  flags : Nat := 0
  len : ByteField := .number 0
  vendor : Option Nat := none
  data : Bytes := []
deriving DecidableEq, Repr

namespace AVP

def vendorFlag (flags : Nat) : Bool := flags >>> 7 &&& 1 = 1

def unpack (buf : Bytes) : Except PyError AVP := do
  let (hdr, data) ← AVPHdr.format.unpackHdr .big buf
  let len := int24 hdr.len
  let behind := cutTo data ((len : Int) - AVPHdr.format.size)
  let self : AVP :=
    { code := hdr.code, flags := hdr.flags, len := .number len }
  if vendorFlag hdr.flags then
    let vendor ← unpackBe 4 (data.take 4)
    .ok { self with vendor := some vendor, data := behind.drop 4 }
  else .ok { self with data := behind }

/-- `AVP(buf)` -/
def parse (buf : Bytes) : Except PyError AVP :=
  packetInit "AVP" (some AVPHdr.format.size) unpack buf

/-- `len(avp)` -/
def size (self : AVP) : Nat :=
  AVPHdr.format.size + self.data.length +
    if vendorFlag self.flags then 4 else 0

theorem size_pos (self : AVP) : 0 < self.size := by
  have hdr : AVPHdr.format.size = 8 := rfl
  unfold size
  omega

/-- `pack_hdr`, with what it leaves of the object. -/
def packHdr (self : AVP) : Except PyError (Bytes × AVP) := do
  let len ← self.len.pack
  let data ← AVPHdr.format.packHdr .big
    { code := self.code, flags := self.flags, len }
  let self := { self with len := .packed len }
  if vendorFlag self.flags then
    match self.vendor with
    | none => .error .attributeError
    | some vendor => do
        let id ← packBe 4 vendor
        .ok (data ++ id, self)
  else .ok (data, self)

def bytes (self : AVP) : Except PyError (Bytes × AVP) := do
  let (hdr, self) ← self.packHdr
  .ok (hdr ++ self.data, self)

end AVP

def joinAvps : List AVP → Except PyError (Bytes × List AVP)
  | [] => .ok ([], [])
  | avp :: rest => do
      let (first, avp) ← avp.bytes
      let (others, rest) ← joinAvps rest
      .ok (first ++ others, avp :: rest)

structure DiameterHdr where
  v : Nat
  len : Bytes
  flags : Nat
  cmd : Bytes
  appId : Nat
  hopId : Nat
  endId : Nat
deriving DecidableEq, Repr

def DiameterHdr.format : StructFormat DiameterHdr where
  items := [.int 1, .str 3, .int 1, .str 3, .int 4, .int 4, .int 4]
  values hdr :=
    (hdr.v, hdr.len, hdr.flags, hdr.cmd, hdr.appId, hdr.hopId, hdr.endId, ())
  ofValues := fun (v, len, flags, cmd, appId, hopId, endId, _) =>
    { v, len, flags, cmd, appId, hopId, endId }
  ofValues_values _ := rfl

end DpktNg.Diameter

namespace DpktNg

open Diameter in
/-- The lists `avps` and `data` are the same object. -/
structure Diameter where
  v : Nat
  len : ByteField
  flags : Nat
  cmd : ByteField
  appId : Nat
  hopId : Nat
  endId : Nat
  avps : List AVP
deriving DecidableEq, Repr

end DpktNg

namespace DpktNg.Diameter

open Library

def unpack (buf : Bytes) : Except PyError Diameter := do
  let (hdr, data) ← DiameterHdr.format.unpackHdr .big buf
  let len := int24 hdr.len
  let data := cutTo data ((len : Int) - DiameterHdr.format.size)
  let avps ← parseAll AVP.parse AVP.size AVP.size_pos data
  .ok
    { v := hdr.v
      len := .number len
      flags := hdr.flags
      cmd := .number (int24 hdr.cmd)
      appId := hdr.appId
      hopId := hdr.hopId
      endId := hdr.endId
      avps }

/-- `Diameter(buf)` -/
def parse (buf : Bytes) : Except PyError Diameter :=
  packetInit "Diameter" (some DiameterHdr.format.size) unpack buf

/-- The values of the header, with these bytes in `len` and `cmd`. -/
def hdrWith (self : Diameter) (len cmd : Bytes) : DiameterHdr :=
  { v := self.v
    len
    flags := self.flags
    cmd
    appId := self.appId
    hopId := self.hopId
    endId := self.endId }

/-- `pack_hdr`, with what it leaves of the object. -/
def packHdr (self : Diameter) : Except PyError (Bytes × Diameter) := do
  let len ← self.len.pack
  let cmd ← self.cmd.pack
  let hdr ← DiameterHdr.format.packHdr .big (self.hdrWith len cmd)
  .ok (hdr, { self with len := .packed len, cmd := .packed cmd })

def bytes (self : Diameter) : Except PyError (Bytes × Diameter) := do
  let (hdr, self) ← self.packHdr
  let (joined, avps) ← joinAvps self.avps
  .ok (hdr ++ joined, { self with avps })

/-- `bytes(diameter)` so many times: what the calls return, and the object
behind the last of them. -/
def bytesTimes : Nat → Diameter → Except PyError (List Bytes × Diameter)
  | 0, self => .ok ([], self)
  | count + 1, self => do
      let (first, self) ← self.bytes
      let (others, self) ← bytesTimes count self
      .ok (first :: others, self)

theorem bytes24_eq (value : Nat) : bytes24 value = beBytes 3 value := by
  have byte (n : Nat) : UInt8.ofNat (n &&& 0xff) = UInt8.ofNat n := by
    apply UInt8.toNat_inj.mp
    rw [UInt8.toNat_ofNat', UInt8.toNat_ofNat', Nat.and_two_pow_sub_one_eq_mod n 8]
    exact Nat.mod_mod _ _
  unfold bytes24
  rw [byte, byte, byte, Nat.shiftRight_eq_div_pow, Nat.shiftRight_eq_div_pow]
  change _ = [UInt8.ofNat (value / 256 / 256), UInt8.ofNat (value / 256),
    UInt8.ofNat value]
  rw [Nat.div_div_eq_div_mul]

theorem int24_eq {bytes : Bytes} (length : bytes.length = 3) :
    int24 bytes = beNat bytes := by
  obtain ⟨a, b, c, rfl⟩ := List.length_eq_three.mp length
  have small (byte : UInt8) : byte.toNat < 2 ^ 8 := byte.toNat_lt
  change a.toNat <<< 16 ||| b.toNat <<< 8 ||| c.toNat =
    ((0 * 256 + a.toNat) * 256 + b.toNat) * 256 + c.toNat
  have lower : b.toNat <<< 8 + c.toNat < 2 ^ 16 := by
    have := small b
    have := small c
    rw [Nat.shiftLeft_eq]
    omega
  rw [Nat.or_assoc, ← Nat.shiftLeft_add_eq_or_of_lt (small c),
    ← Nat.shiftLeft_add_eq_or_of_lt lower, Nat.shiftLeft_eq, Nat.shiftLeft_eq]
  omega

theorem int24_bytes24 {value : Nat} (fits : value < 256 ^ 3) :
    int24 (bytes24 value) = value := by
  rw [int24_eq rfl, bytes24_eq, beNat_beBytes fits]

namespace AVP

/-- A pair as `unpack` leaves it. -/
structure Unpacked (avp : AVP) : Prop where
  len : ∃ value, avp.len = .number value
  code : avp.code < 256 ^ 4
  flags : avp.flags < 256 ^ 1
  vendor : vendorFlag avp.flags = true →
    ∃ vendor, avp.vendor = some vendor ∧ vendor < 256 ^ 4

theorem parse_unpacked {buf : Bytes} {self : AVP}
    (parsed : parse buf = .ok self) :
    self.Unpacked ∧ self.size ≤ buf.length := by
  obtain ⟨⟨hdr, data⟩, unpacked, behind⟩ :=
    bind_eq_ok.mp (packetInit_eq_ok.mp parsed)
  obtain ⟨fits, enough, rest⟩ :=
    StructFormat.unpackHdr_fits (fun _values => rfl) unpacked
  have hdrSize : AVPHdr.format.size = 8 := rfl
  have left : data.length = buf.length - 8 := by
    rw [rest, List.length_drop, hdrSize]
  have within := cutTo_length data
    ((int24 hdr.len : Int) - AVPHdr.format.size)
  dsimp only at behind
  split at behind
  · rename_i vendored
    obtain ⟨vendor, read, same⟩ := bind_eq_ok.mp behind
    cases same
    obtain ⟨length, value⟩ := unpackBe_eq_ok.mp read
    have bound := beNat_lt (data.take 4)
    rw [length] at bound
    rw [List.length_take] at length
    refine ⟨⟨⟨_, rfl⟩, fits.1, fits.2.1, fun _ => ⟨vendor, rfl, ?_⟩⟩, ?_⟩
    · rw [value]
      exact bound
    · unfold size
      rw [if_pos vendored, List.length_drop]
      omega
  · rename_i plain
    cases behind
    refine ⟨⟨⟨_, rfl⟩, fits.1, fits.2.1, fun vendored => ?_⟩, ?_⟩
    · exact absurd vendored plain
    · unfold size
      rw [if_neg plain]
      dsimp only
      omega

theorem Unpacked.bytes {self : AVP} (unpacked : self.Unpacked) :
    ∃ out after, self.bytes = .ok (out, after) ∧ after.len ≠ self.len := by
  obtain ⟨value, held⟩ := unpacked.len
  have fits : AVPHdr.format.Fits
      { code := self.code, flags := self.flags, len := bytes24 value } :=
    ⟨unpacked.code, unpacked.flags, rfl, trivial⟩
  unfold AVP.bytes packHdr
  rw [held, show ByteField.pack (.number value) = .ok (bytes24 value) from rfl,
    ok_bind, StructFormat.packHdr_ok fits, ok_bind]
  dsimp only
  split
  · rename_i vendored
    obtain ⟨vendor, isVendor, small⟩ := unpacked.vendor vendored
    rw [isVendor]
    dsimp only
    rw [packBe_ok small, ok_bind, ok_bind]
    exact ⟨_, _, rfl, by simp⟩
  · exact ⟨_, _, rfl, by simp⟩

end AVP

theorem joinAvps_unpacked {avps : List AVP}
    (unpacked : ∀ avp ∈ avps, avp.Unpacked) :
    ∃ joined after, joinAvps avps = .ok (joined, after) ∧
      List.Forall₂ (fun before after => after.len ≠ before.len)
        avps after := by
  induction avps with
  | nil => exact ⟨[], [], rfl, .nil⟩
  | cons avp rest ih =>
      rw [List.forall_mem_cons] at unpacked
      obtain ⟨first, changed, written, differs⟩ := unpacked.1.bytes
      obtain ⟨others, after, joined, allDiffer⟩ := ih unpacked.2
      refine ⟨first ++ others, changed :: after, ?_, .cons differs allDiffer⟩
      rw [joinAvps, written, ok_bind]
      dsimp only
      rw [joined, ok_bind]

theorem parse_fits {buf : Bytes} {self : Diameter}
    (parsed : parse buf = .ok self) :
    ∃ len cmd, self.len = .number len ∧ self.cmd = .number cmd ∧
      DiameterHdr.format.Fits (self.hdrWith (bytes24 len) (bytes24 cmd)) ∧
      ∀ avp ∈ self.avps, avp.Unpacked := by
  obtain ⟨⟨hdr, data⟩, unpacked, behind⟩ :=
    bind_eq_ok.mp (packetInit_eq_ok.mp parsed)
  obtain ⟨avps, parsedAvps, same⟩ := bind_eq_ok.mp behind
  cases same
  obtain ⟨⟨v, _len, flags, _cmd, behindCmd⟩, _enough, _rest⟩ :=
    StructFormat.unpackHdr_fits (fun _values => rfl) unpacked
  refine ⟨_, _, rfl, rfl, ⟨v, rfl, flags, rfl, behindCmd⟩, ?_⟩
  exact parseAll_forall
    (fun _data _avp parsedAvp => (AVP.parse_unpacked parsedAvp).1) parsedAvps

/-- The first call writes the message, and changes `len`, `cmd` and the length
of every pair. -/
theorem bytes_once {buf : Bytes} {self : Diameter}
    (parsed : parse buf = .ok self) :
    ∃ out after, self.bytes = .ok (out, after) ∧
      (∃ len, after.len = .packed len) ∧ after.len ≠ self.len ∧
      after.cmd ≠ self.cmd ∧
      List.Forall₂ (fun before after => after.len ≠ before.len)
        self.avps after.avps := by
  obtain ⟨len, cmd, isLen, isCmd, fits, unpacked⟩ := parse_fits parsed
  obtain ⟨joined, after, written, differ⟩ := joinAvps_unpacked unpacked
  have wrote : self.bytes = .ok
      (DiameterHdr.format.bytes .big (self.hdrWith (bytes24 len)
          (bytes24 cmd)) ++ joined,
        { self with
          len := .packed (bytes24 len)
          cmd := .packed (bytes24 cmd)
          avps := after }) := by
    unfold bytes packHdr
    rw [isLen, isCmd,
      show ByteField.pack (.number len) = .ok (bytes24 len) from rfl,
      show ByteField.pack (.number cmd) = .ok (bytes24 cmd) from rfl,
      ok_bind, ok_bind, StructFormat.packHdr_ok fits, ok_bind, ok_bind]
    dsimp only
    rw [written, ok_bind]
  refine ⟨_, _, wrote, ⟨_, rfl⟩, ?_, ?_, differ⟩
  · rw [isLen]
    simp
  · rw [isCmd]
    simp

theorem bytes_of_packed {self : Diameter} {len : Bytes}
    (isPacked : self.len = .packed len) :
    self.bytes = .error .typeError := by
  unfold bytes packHdr
  rw [isPacked]
  rfl

/-- A call that succeeds leaves the fields as they were. -/
def BytesKeepsFields (self : Diameter) : Prop :=
  ∀ out after, self.bytes = .ok (out, after) →
    after.len = self.len ∧ after.cmd = self.cmd ∧ after.avps = self.avps

/-- Any number of calls return the same. -/
def BytesRepeats (self : Diameter) : Prop :=
  ∃ out, ∀ count, ∃ after,
    self.bytesTimes count = .ok (List.replicate count out, after)

def watchdog : Bytes :=
  [0x01, 0x00, 0x00, 0x28, 0x80, 0x00, 0x01, 0x18, 0x00, 0x00, 0x00, 0x00,
    0x00, 0x00, 0x41, 0xc8, 0x00, 0x00, 0x00, 0x0c,
    0x00, 0x00, 0x01, 0x08, 0x40, 0x00, 0x00, 0x0c, 0x68, 0x30, 0x30, 0x32,
    0x00, 0x00, 0x01, 0x28, 0x40, 0x00, 0x00, 0x08]

def watchdogRead : Diameter :=
  { v := 1
    len := .number 40
    flags := 0x80
    cmd := .number 280
    appId := 0
    hopId := 0x41c8
    endId := 12
    avps :=
      [{ code := 264, flags := 0x40, len := .number 12,
         data := [0x68, 0x30, 0x30, 0x32] },
       { code := 296, flags := 0x40, len := .number 8 }] }

theorem parse_watchdog : parse watchdog = .ok watchdogRead := by
  decide +kernel

/-- A message that was read is changed by writing it, and written once only. -/
theorem parse_bytes_changes {buf : Bytes} {self : Diameter}
    (parsed : parse buf = .ok self) :
    ¬ self.BytesKeepsFields ∧ ¬ self.BytesRepeats := by
  obtain ⟨out, after, written, ⟨len, isPacked⟩, lenDiffers, _cmd, _avps⟩ :=
    bytes_once parsed
  constructor
  · intro keeps
    exact lenDiffers (keeps out after written).1
  · rintro ⟨same, repeats⟩
    obtain ⟨last, twice⟩ := repeats 2
    unfold bytesTimes at twice
    rw [written, ok_bind] at twice
    dsimp only at twice
    unfold bytesTimes at twice
    rw [bytes_of_packed isPacked] at twice
    cases twice

theorem watchdog_changes :
    ¬ watchdogRead.BytesKeepsFields ∧ ¬ watchdogRead.BytesRepeats :=
  parse_bytes_changes parse_watchdog

/-- Its length is no number any more, and the second call fails. -/
theorem watchdog_written :
    ∃ out after, parse watchdog = .ok watchdogRead ∧
      watchdogRead.bytes = .ok (out, after) ∧ out = watchdog ∧
      after.len ≠ watchdogRead.len ∧ after.bytes = .error .typeError :=
  ⟨watchdog,
    { watchdogRead with
      len := .packed [0x00, 0x00, 0x28]
      cmd := .packed [0x00, 0x01, 0x18]
      avps :=
        [{ code := 264, flags := 0x40, len := .packed [0x00, 0x00, 0x0c],
           data := [0x68, 0x30, 0x30, 0x32] },
         { code := 296, flags := 0x40, len := .packed [0x00, 0x00, 0x08] }] },
    parse_watchdog, by decide +kernel, rfl, by decide, rfl⟩

theorem watchdog_not_kept :
    parse watchdog = .ok watchdogRead ∧
      ¬ (watchdogRead.BytesKeepsFields ∧ watchdogRead.BytesRepeats) := by
  obtain ⟨out, after, read, written, _same, differs, _fails⟩ :=
    watchdog_written
  exact ⟨read, fun kept => differs (kept.1 out after written).1⟩

end DpktNg.Diameter
