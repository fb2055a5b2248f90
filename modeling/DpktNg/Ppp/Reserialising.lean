/-
Packets of dpkt/ppp.py and their light version in dpkt/pppoe.py.  The protocol
stands in one byte or in two by a bit of its first byte; the serialiser goes by
the number, and `len` counts one byte always.
-/

import DpktNg.Packet.Payload
import DpktNg.Python.StructFormat

namespace DpktNg.Ppp

open Library

def pfcBit : Nat := 0x01

/-- A packet, with the fields that stand in front of its protocol. -/
structure PPP (F P : Type) where
  front : F
  p : Nat
  data : Payload P
deriving DecidableEq, Repr

/-- The fields of `ppp.PPP` in front of the protocol. -/
structure Encapsulation where
  addr : Nat
  cntrl : Nat
deriving DecidableEq, Repr

def Encapsulation.format : StructFormat Encapsulation where
  items := [.int 1, .int 1]
  values front := (front.addr, front.cntrl, ())
  ofValues := fun (addr, cntrl, _) => { addr, cntrl }
  ofValues_values _ := rfl

/-- `pppoe.PPP` has no field in front of the protocol. -/
def lightFormat : StructFormat Unit where
  items := []
  values _ := ()
  ofValues _ := ()
  ofValues_values _ := rfl

/-- The protocol, and what stands behind it.  The second byte is read again with
the first one. -/
def readProtocol (rest : Bytes) : Except PyError (Nat × Bytes) := do
  let p ← unpackBe 1 (cut rest 0 1)
  if p &&& pfcBit = 0 then
    match unpackBe 2 (cut rest 0 2) with
    | .ok p => .ok (p, rest.drop 2)
    | .error _ => .error (.needData [])
  else .ok (p, rest.drop 1)

namespace PPP

variable {F P : Type} (format : StructFormat F) (registry : Registry P)

def unpack (buf : Bytes) : Except PyError (PPP F P) := do
  let (front, rest) ← format.unpackHdr .big buf
  let (p, data) ← readProtocol rest
  let data ← Payload.decode registry HeaderError p data
  .ok { front, p, data }

def parse (buf : Bytes) : Except PyError (PPP F P) :=
  packetInit "PPP" (some (format.size + 1)) (unpack format registry) buf

def size (self : PPP F P) : Nat := format.size + 1 + self.data.size registry

def packHdr (self : PPP F P) : Except PyError Bytes :=
  let packed := do
    let front ← format.pack .big self.front
    let p ← packBe (if self.p > 0xff then 2 else 1) self.p
    .ok (front ++ p)
  match packed with
  | .ok hdr => .ok hdr
  | .error _ => .error (.packError [])

def bytes (self : PPP F P) : Except PyError Bytes := do
  .ok ((← self.packHdr format) ++ (← self.data.bytes registry))

end PPP

/-- `ppp.PPP(buf)` -/
def parsePPP {P : Type} (registry : Registry P) (buf : Bytes) :
    Except PyError (PPP Encapsulation P) :=
  PPP.parse Encapsulation.format registry buf

def parseLightPPP {P : Type} (registry : Registry P) (buf : Bytes) :
    Except PyError (PPP Unit P) :=
  PPP.parse lightFormat registry buf

theorem pfcBit_clear (p : Nat) : p &&& pfcBit = 0 ↔ p % 2 = 0 := by
  unfold pfcBit
  rw [Nat.and_one_is_mod]

theorem readProtocol_odd {first : UInt8} (odd : first.toNat % 2 = 1)
    (rest : Bytes) : readProtocol (first :: rest) = .ok (first.toNat, rest) := by
  unfold readProtocol
  have one : unpackBe 1 (cut (first :: rest) 0 1) = .ok first.toNat :=
    unpackBe_byte first []
  rw [one, ok_bind, if_neg (by rw [pfcBit_clear]; omega)]
  rfl

theorem readProtocol_even {first : UInt8} (even : first.toNat % 2 = 0)
    (second : UInt8) (rest : Bytes) :
    readProtocol (first :: second :: rest) =
      .ok (first.toNat * 256 + second.toNat, rest) := by
  unfold readProtocol
  have one : unpackBe 1 (cut (first :: second :: rest) 0 1) =
      .ok first.toNat := unpackBe_byte first []
  have two : unpackBe 2 (cut (first :: second :: rest) 0 2) =
      .ok (first.toNat * 256 + second.toNat) := by
    have length : (cut (first :: second :: rest) 0 2).length = 2 := rfl
    unfold unpackBe
    rw [if_pos length]
    have bytes : cut (first :: second :: rest) 0 2 = [first] ++ [second] := rfl
    rw [bytes, beNat_snoc, beNat_singleton]
  rw [one, ok_bind, if_pos ((pfcBit_clear _).mpr even), two]
  rfl

theorem readProtocol_alone {first : UInt8} (even : first.toNat % 2 = 0) :
    readProtocol [first] = .error (.needData []) := by
  unfold readProtocol
  have one : unpackBe 1 (cut [first] 0 1) = .ok first.toNat :=
    unpackBe_byte first []
  have two : unpackBe 2 (cut [first] 0 2) = .error .structError := rfl
  rw [one, ok_bind, if_pos ((pfcBit_clear _).mpr even), two]

/-- The number of the protocol, and when the serialiser makes one byte of it
from which it is read again. -/
theorem readProtocol_written {p : Nat} (small : p ≤ 0xff) (data : Bytes) :
    readProtocol (beBytes 1 p ++ data) = .ok (p, data) ↔ p % 2 = 1 := by
  have value : (UInt8.ofNat p).toNat = p := UInt8.toNat_ofNat_of_lt' (by
    change p < 256
    omega)
  have written : beBytes 1 p ++ data = UInt8.ofNat p :: data := rfl
  rw [written]
  constructor
  · intro read
    by_contra even
    have even : (UInt8.ofNat p).toNat % 2 = 0 := by omega
    cases data with
    | nil =>
        rw [readProtocol_alone even] at read
        cases read
    | cons second rest =>
        rw [readProtocol_even even, Except.ok.injEq, Prod.mk.injEq] at read
        have lengths := congrArg List.length read.2
        rw [List.length_cons] at lengths
        omega
  · intro odd
    rw [readProtocol_odd (by omega), value]

theorem readProtocol_lt {rest data : Bytes} {p : Nat}
    (read : readProtocol rest = .ok (p, data)) : p < 256 ^ 2 := by
  cases rest with
  | nil => cases read
  | cons first behind =>
      have firstLt := first.toNat_lt
      by_cases odd : first.toNat % 2 = 1
      · rw [readProtocol_odd odd] at read
        cases read
        omega
      · have even : first.toNat % 2 = 0 := by omega
        cases behind with
        | nil =>
            rw [readProtocol_alone even] at read
            cases read
        | cons second others =>
            have secondLt := second.toNat_lt
            rw [readProtocol_even even] at read
            cases read
            omega

/-- The protocol is an odd byte, or one behind a byte that is zero. -/
def ShortProtocol : Bytes → Prop
  | [] => False
  | first :: rest =>
      first.toNat % 2 = 1 ∨
        first = 0 ∧ ∃ second ∈ rest.head?, second.toNat % 2 = 1

theorem shortProtocol_iff {rest data : Bytes} {p : Nat}
    (read : readProtocol rest = .ok (p, data)) :
    ShortProtocol rest ↔ p ≤ 0xff ∧ p % 2 = 1 := by
  cases rest with
  | nil => cases read
  | cons first behind =>
      have firstLt := first.toNat_lt
      unfold ShortProtocol
      by_cases odd : first.toNat % 2 = 1
      · rw [readProtocol_odd odd] at read
        cases read
        exact ⟨fun _short => ⟨by omega, odd⟩, fun _small => Or.inl odd⟩
      · have even : first.toNat % 2 = 0 := by omega
        cases behind with
        | nil =>
            rw [readProtocol_alone even] at read
            cases read
        | cons second others =>
            have secondLt := second.toNat_lt
            rw [readProtocol_even even] at read
            cases read
            constructor
            · rintro (impossible | ⟨rfl, second', member, secondOdd⟩)
              · exact absurd impossible odd
              · cases member
                have zero : (0 : UInt8).toNat = 0 := rfl
                omega
            · rintro ⟨small, bothOdd⟩
              have zero : first.toNat = 0 := by omega
              exact Or.inr ⟨UInt8.toNat_inj.mp zero, second, rfl, by omega⟩

namespace PPP

variable {F P : Type} (format : StructFormat F) (registry : Registry P)

/-- The packet has the length that `len` says, and what is written is read as
the same protocol and the same data. -/
def Reread (self : PPP F P) : Prop :=
  ∃ out, self.bytes format registry = .ok out ∧
    self.size format registry = out.length ∧
    ∃ again : PPP F P, parse format registry out = .ok again ∧
      again.p = self.p ∧ again.data = self.data

variable {format} {registry}

theorem parse_bytes {front : F} (fits : format.Fits front) (rest : Bytes) :
    parse format registry (format.bytes .big front ++ rest) =
      packetInit "PPP" (some (format.size + 1)) (fun _buf => do
        let (p, data) ← readProtocol rest
        let data ← Payload.decode registry HeaderError p data
        .ok { front, p, data }) (format.bytes .big front ++ rest) := by
  unfold parse packetInit unpack
  dsimp only
  rw [StructFormat.unpackHdr_bytes fits, ok_bind]

theorem packHdr_eq {self : PPP F P} (fits : format.Fits self.front)
    (small : self.p < 256 ^ 2) :
    self.packHdr format = .ok (format.bytes .big self.front ++
      beBytes (if self.p > 0xff then 2 else 1) self.p) := by
  have packed : packBe (if self.p > 0xff then 2 else 1) self.p =
      .ok (beBytes (if self.p > 0xff then 2 else 1) self.p) := by
    split
    · exact packBe_ok small
    · exact packBe_ok (by omega)
  unfold packHdr
  rw [StructFormat.pack_ok fits, ok_bind, packed, ok_bind]

/-- What is left of both conditions is one on the number of the protocol. -/
theorem reread_iff {self : PPP F P} (fits : format.Fits self.front)
    (small : self.p < 256 ^ 2) {data : Bytes} (raw : self.data = .raw data)
    (unregistered : registry.lookup self.p = none) :
    self.Reread format registry ↔ self.p ≤ 0xff ∧ self.p % 2 = 1 := by
  have written : self.bytes format registry =
      .ok (format.bytes .big self.front ++
        (beBytes (if self.p > 0xff then 2 else 1) self.p ++ data)) := by
    unfold bytes
    rw [packHdr_eq fits small, ok_bind, raw, Payload.bytes, ok_bind,
      List.append_assoc]
  constructor
  · rintro ⟨out, wrote, length, again, parsed, sameP, sameData⟩
    rw [written] at wrote
    cases wrote
    rw [List.length_append, List.length_append, StructFormat.bytes_length fits,
      beBytes_length] at length
    unfold size at length
    rw [raw, Payload.size] at length
    have one : ¬self.p > 0xff := by
      intro wide
      rw [if_pos wide] at length
      omega
    rw [if_neg one, parse_bytes fits] at parsed
    obtain ⟨⟨p, rest⟩, read, decoded⟩ :=
      bind_eq_ok.mp (packetInit_eq_ok.mp parsed)
    obtain ⟨payload, behind, same⟩ := bind_eq_ok.mp decoded
    cases same
    dsimp only at sameP sameData behind
    rw [sameP] at read behind
    rw [Payload.decode_unregistered unregistered] at behind
    cases behind
    rw [raw] at sameData
    cases sameData
    have small : self.p ≤ 0xff := by omega
    exact ⟨small, (readProtocol_written small data).mp read⟩
  · rintro ⟨byte, odd⟩
    have one : ¬self.p > 0xff := by omega
    have read := (readProtocol_written byte data).mpr odd
    rw [if_neg one] at written
    refine ⟨_, written, ?_, self, ?_, rfl, rfl⟩
    · rw [List.length_append, List.length_append,
        StructFormat.bytes_length fits, beBytes_length]
      unfold size
      rw [raw, Payload.size]
      omega
    · rw [parse_bytes fits, packetInit_eq_ok, read, ok_bind]
      dsimp only
      rw [Payload.decode_unregistered unregistered, ok_bind, ← raw]

theorem reread_parsed (isExact : format.Exact) {buf : Bytes} {self : PPP F P}
    (parsed : parse format registry buf = .ok self)
    (unregistered : registry.lookup self.p = none) :
    self.Reread format registry ↔ ShortProtocol (buf.drop format.size) := by
  obtain ⟨⟨front, rest⟩, hdr, unpacked⟩ :=
    bind_eq_ok.mp (packetInit_eq_ok.mp parsed)
  obtain ⟨⟨p, data⟩, read, decoded⟩ := bind_eq_ok.mp unpacked
  obtain ⟨payload, kept, same⟩ := bind_eq_ok.mp decoded
  cases same
  rw [Payload.decode_unregistered unregistered] at kept
  cases kept
  obtain ⟨fits, _enough, behind⟩ := StructFormat.unpackHdr_fits isExact hdr
  rw [behind] at read
  rw [reread_iff fits (readProtocol_lt read) rfl unregistered,
    shortProtocol_iff read]

end PPP

variable {P : Type} {registry : Registry P}

/-- For both classes: exactly where the protocol is one odd byte, with a zero in
front of it or without. -/
theorem ppp_reread_iff :
    (∀ (buf : Bytes) (ppp : PPP Encapsulation P),
      parsePPP registry buf = .ok ppp → registry.lookup ppp.p = none →
      (ppp.Reread Encapsulation.format registry ↔
        ShortProtocol (buf.drop 2))) ∧
    ∀ (buf : Bytes) (ppp : PPP Unit P),
      parseLightPPP registry buf = .ok ppp → registry.lookup ppp.p = none →
      (ppp.Reread lightFormat registry ↔ ShortProtocol buf) :=
  ⟨fun _buf _ppp parsed => PPP.reread_parsed (fun _values => rfl) parsed,
    fun _buf _ppp parsed => PPP.reread_parsed (fun _values => rfl) parsed⟩

/-- A compressed protocol for which no class is registered. -/
theorem ppp_reread_compressed : ∃ ppp again,
    parsePPP Registry.empty [0xff, 0x03, 0x41, 7] = .ok ppp ∧
    (ppp.Reread Encapsulation.format Registry.empty ↔
      ShortProtocol [0x41, 7]) ∧
    parseLightPPP Registry.empty [0x00, 0x41, 7] = .ok again ∧
    (again.Reread lightFormat Registry.empty ↔
      ShortProtocol [0x00, 0x41, 7]) := by
  have parsed : parsePPP Registry.empty [0xff, 0x03, 0x41, 7] = .ok
      { front := { addr := 0xff, cntrl := 3 }, p := 0x41, data := .raw [7] } :=
    rfl
  have light : parseLightPPP Registry.empty [0x00, 0x41, 7] = .ok
      { front := (), p := 0x41, data := .raw [7] } := rfl
  exact ⟨_, _, parsed, ppp_reread_iff.1 _ _ parsed rfl,
    light, ppp_reread_iff.2 _ _ light rfl⟩

def configureRequest : Bytes := [0xff, 0x03, 0xc0, 0x21, 1, 1, 0, 4]

/-- `len` is a byte short. -/
theorem configureRequest_len :
    ¬∀ (registry : Registry Unit) (buf : Bytes) (ppp : PPP Encapsulation Unit),
      parsePPP registry buf = .ok ppp → registry.lookup ppp.p = none →
      ppp.Reread Encapsulation.format registry := by
  intro claimed
  have parsed : parsePPP Registry.empty configureRequest = .ok
      { front := { addr := 0xff, cntrl := 3 }, p := 0xc021
        data := .raw [1, 1, 0, 4] } := rfl
  obtain ⟨out, wrote, length, _again⟩ := claimed Registry.empty _ _ parsed rfl
  have written : PPP.bytes Encapsulation.format Registry.empty
      { front := { addr := 0xff, cntrl := 3 }, p := 0xc021
        data := .raw [1, 1, 0, 4] } = .ok configureRequest := rfl
  rw [written] at wrote
  cases wrote
  revert length
  decide

end DpktNg.Ppp
