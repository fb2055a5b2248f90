/-
Link state updates of dpkt/ospf.py.  The two versions have the same loop over
the LSAs of an update, each with its own header and its own classes.
-/

import DpktNg.Python.Records

namespace DpktNg.Ospf

open Library

/-- `struct.unpack('>I', field + b'\x00')[0] >> 8` of three bytes -/
def unpackMetric (field : Bytes) : Except PyError Nat := do
  let value ← unpackBe 4 (field ++ [0])
  .ok (value / 256)

/-- `struct.pack('>I', metric << 8)[:3]` -/
def packMetric (metric : Nat) : Except PyError Bytes := do
  .ok ((← packBe 4 (metric * 256)).take 3)

theorem beBytes_shift (width value : Nat) :
    beBytes (width + 1) (value * 256) = beBytes width value ++ [0] := by
  have low : UInt8.ofNat (value * 256) = 0 := by
    apply UInt8.toNat_inj.mp
    rw [UInt8.toNat_ofNat']
    exact Nat.mul_mod_left value 256
  rw [beBytes, Nat.mul_div_cancel value (by decide), low]

theorem unpackMetric_beBytes {metric : Nat} (fits : metric < 256 ^ 3) :
    unpackMetric (beBytes 3 metric) = .ok metric := by
  have shifted : metric * 256 < 256 ^ 4 := by omega
  unfold unpackMetric
  rw [← beBytes_shift, unpackBe_beBytes shifted, ok_bind,
    Nat.mul_div_cancel metric (by decide)]

theorem packMetric_ok {metric : Nat} (fits : metric < 256 ^ 3) :
    packMetric metric = .ok (beBytes 3 metric) := by
  have shifted : metric * 256 < 256 ^ 4 := by omega
  unfold packMetric packBe
  rw [if_pos shifted, ok_bind, beBytes_shift,
    List.take_left' (beBytes_length 3 metric)]

def addressFormat : RecordFormat Nat where
  widths := [4]
  fields address := [(4, address)]
  ofValues values := values.getD 0 0
  widths_fields _ := rfl
  ofValues_fields _ := rfl

theorem addressFormat_size : 0 < addressFormat.size := by decide

/-- An LSA: the values of its header, and what its class makes of the rest. -/
structure Lsa (Header Body : Type) where
  header : Header
  body : Body
deriving DecidableEq, Repr

section

variable {Header Body : Type}

/-- `unpack` of a class: `dpkt.Packet.unpack`, and then the body. -/
def unpackLsa (format : RecordFormat Header)
    (unpackBody : Bytes → Except PyError Body) (buf : Bytes) :
    Except PyError (Lsa Header Body) := do
  let (hdr, data) ← takeHeader format.size buf
  let body ← unpackBody data
  .ok { header := format.read .big hdr, body }

theorem unpackLsa_bytes {format : RecordFormat Header}
    {unpackBody : Bytes → Except PyError Body} {header : Header}
    (fits : format.Fits header) (data : Bytes) :
    unpackLsa format unpackBody (format.bytes .big header ++ data) = (do
      let body ← unpackBody data
      .ok { header, body }) := by
  have length := format.bytes_length .big header
  have split : takeHeader format.size (format.bytes .big header ++ data) =
      .ok (format.bytes .big header, data) := by
    rw [takeHeader_eq_ok, List.take_left' length, List.drop_left' length,
      List.length_append]
    exact ⟨by omega, rfl, rfl⟩
  have read := format.read_bytes .big fits []
  rw [List.append_nil] at read
  unfold unpackLsa
  rw [split, ok_bind]
  dsimp only
  rw [read]

end

/-- The LSAs of a version: where the type ends in the header, the class of a
type, the class of the header alone, and `bytes`. -/
structure LsaClasses (α : Type) where
  typeStop : Nat
  /-- `_lsa_sw.get(lsa_type, Header)` -/
  construct : Nat → Bytes → Except PyError α
  constructHeader : Bytes → Except PyError α
  bytes : α → Except PyError Bytes

/-- `OSPFv2LSU` and `OSPFv3LSU` -/
structure LinkStateUpdate (α : Type) where
  lsaCount : Nat
  lsas : List α
deriving DecidableEq, Repr

namespace LinkStateUpdate

variable {α : Type} (classes : LsaClasses α)

/-- The body of the loop over the bytes of one LSA. -/
def parseLsa (lsaBuf : Bytes) : Except PyError α := do
  let lsaType ← unpackBe (classes.typeStop - 2) (cut lsaBuf 2 classes.typeStop)
  match classes.construct lsaType lsaBuf with
  | .ok lsa => .ok lsa
  | .error problem =>
      if HeaderError problem then classes.constructHeader lsaBuf
      else .error problem

/-- The loop over the LSAs, from the next one on. -/
def parseLsas : Nat → Bytes → Except PyError (List α)
  | 0, _ => .ok []
  | count + 1, buf =>
      if buf.length < 20 then .ok []
      else do
        let lsaLen ← unpackBe 2 (cut buf 18 20)
        let lsa ← parseLsa classes (buf.take lsaLen)
        let lsas ← parseLsas count (buf.drop lsaLen)
        .ok (lsa :: lsas)

def unpack (buf : Bytes) : Except PyError (LinkStateUpdate α) := do
  let lsaCount ← unpackBe 4 (buf.take 4)
  let lsas ← parseLsas classes lsaCount (buf.drop 4)
  .ok { lsaCount, lsas }

def parse (className : String) (buf : Bytes) :
    Except PyError (LinkStateUpdate α) :=
  packetInit className none (unpack classes) buf

def bytes (self : LinkStateUpdate α) : Except PyError Bytes := do
  let hdr ← packBe 4 self.lsas.length
  let lsas ← joinBytes classes.bytes self.lsas
  .ok (hdr ++ lsas)

/-- The bytes of an LSA whose length field says how long it is. -/
structure Framed (lsaBuf : Bytes) : Prop where
  long : 20 ≤ lsaBuf.length
  small : lsaBuf.length < 256 ^ 2
  length_eq : cut lsaBuf 18 20 = beBytes 2 lsaBuf.length

variable {classes}

theorem parseLsas_framed {encoded : List Bytes}
    (framed : ∀ lsaBuf ∈ encoded, Framed lsaBuf) {lsas : List α} :
    parseLsas classes encoded.length encoded.flatten = .ok lsas ↔
      List.Forall₂ (fun lsaBuf lsa => parseLsa classes lsaBuf = .ok lsa)
        encoded lsas := by
  induction encoded generalizing lsas with
  | nil =>
      rw [List.forall₂_nil_left_iff]
      unfold parseLsas
      rw [List.length_nil, Except.ok.injEq]
      exact eq_comm
  | cons lsaBuf rest ih =>
      obtain ⟨here, later⟩ := List.forall_mem_cons.mp framed
      have long := here.long
      have field : cut (lsaBuf ++ rest.flatten) 18 20 =
          beBytes 2 lsaBuf.length := by
        rw [← here.length_eq]
        unfold cut
        rw [List.drop_append_of_le_length (by omega),
          List.take_append_of_le_length]
        rw [List.length_drop]
        omega
      have read := unpackBe_beBytes here.small
      rw [List.length_cons, List.flatten_cons, parseLsas, if_neg, field, read,
        ok_bind, List.take_left, List.drop_left]
      · constructor
        · intro parsed
          obtain ⟨lsa, first, parsed⟩ := bind_eq_ok.mp parsed
          obtain ⟨others, behind, same⟩ := bind_eq_ok.mp parsed
          rw [Except.ok.injEq] at same
          rw [← same]
          exact .cons first ((ih later).mp behind)
        · intro parsed
          cases parsed with
          | cons first behind =>
              rw [first, ok_bind, (ih later).mpr behind, ok_bind]
      · rw [List.length_append]
        omega

theorem parse_framed {encoded : List Bytes} (few : encoded.length < 256 ^ 4)
    (framed : ∀ lsaBuf ∈ encoded, Framed lsaBuf) (className : String)
    {self : LinkStateUpdate α} :
    parse classes className (beBytes 4 encoded.length ++ encoded.flatten) =
        .ok self ↔
      self.lsaCount = encoded.length ∧
        List.Forall₂ (fun lsaBuf lsa => parseLsa classes lsaBuf = .ok lsa)
          encoded self.lsas := by
  have length := beBytes_length 4 encoded.length
  have read := unpackBe_beBytes few
  unfold parse
  rw [packetInit_eq_ok]
  unfold unpack
  rw [List.take_left' length, List.drop_left' length, read, ok_bind]
  constructor
  · intro parsed
    obtain ⟨lsas, found, same⟩ := bind_eq_ok.mp parsed
    rw [Except.ok.injEq] at same
    rw [← same]
    exact ⟨rfl, (parseLsas_framed framed).mp found⟩
  · rintro ⟨count, found⟩
    rw [(parseLsas_framed framed).mpr found, ok_bind, ← count]

end LinkStateUpdate

end DpktNg.Ospf
