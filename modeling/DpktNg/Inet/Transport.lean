/-
UDP and TCP, dpkt/udp.py and dpkt/tcp.py: their headers, how they are read and
how they are written.
-/

import DpktNg.Inet.Checksum

namespace DpktNg.Inet

open Library

def ipProtoTcp : Nat := 6
def ipProtoUdp : Nat := 17

structure UDP where
  sport : Nat := 0xdead
  dport : Nat := 0
  ulen : Nat := 8
  sum : Nat := 0
  data : Bytes := []
deriving DecidableEq, Repr

structure TCP where
  sport : Nat := 0xdead
  dport : Nat := 0
  seq : Nat := 0xdeadbeef
  ack : Nat := 0
  offFlags : Nat := 0x5002
  win : Nat := 0xffff
  sum : Nat := 0
  urp : Nat := 0
  opts : Bytes := []
  data : Bytes := []
deriving DecidableEq, Repr

def UDP.fields (self : UDP) : List (Nat × Nat) :=
  [(2, self.sport), (2, self.dport), (2, self.ulen), (2, self.sum)]

def TCP.fields (self : TCP) : List (Nat × Nat) :=
  [(2, self.sport), (2, self.dport), (4, self.seq), (4, self.ack),
    (2, self.offFlags), (2, self.win), (2, self.sum), (2, self.urp)]

def UDP.bytes (self : UDP) : Except PyError Bytes := do
  let header ← packHdr self.fields
  .ok (header ++ self.data)

def TCP.bytes (self : TCP) : Except PyError Bytes := do
  let header ← packHdr self.fields
  .ok (header ++ self.opts ++ self.data)

def UDP.unpack (buf : Bytes) : Except PyError UDP := do
  let (header, data) ← takeHeader 8 buf
  let [sport, dport, ulen, sum] ← unpackFields [2, 2, 2, 2] header
    | .error .structError
  .ok { sport, dport, ulen, sum, data }

/-- The length of the TCP header in bytes, from four bits of a field. -/
def TCP.headerLength (offFlags : Nat) : Nat := offFlags / 2 ^ 12 * 4

def TCP.unpack (buf : Bytes) : Except PyError TCP := do
  let (header, _) ← takeHeader 20 buf
  let [sport, dport, seq, ack, offFlags, win, sum, urp] ←
      unpackFields [2, 2, 4, 4, 2, 2, 2, 2] header
    | .error .structError
  if TCP.headerLength offFlags < 20 then
    .error (.unpackError "invalid header length".toList)
  else
    .ok
      { sport, dport, seq, ack, offFlags, win, sum, urp
        opts := cut buf 20 (TCP.headerLength offFlags)
        data := buf.drop (TCP.headerLength offFlags) }

/-- The attribute `flags`, nine bits of a field. -/
def TCP.flags (self : TCP) : Nat := self.offFlags % 2 ^ 9

def UDP.parse : Bytes → Except PyError UDP :=
  packetInit "UDP" (some 8) UDP.unpack

def TCP.parse : Bytes → Except PyError TCP :=
  packetInit "TCP" (some 20) TCP.unpack

def UDP.size (self : UDP) : Nat := 8 + self.data.length

def TCP.size (self : TCP) : Nat := 20 + self.opts.length + self.data.length

theorem UDP.parse_raisesOnly (buf : Bytes) :
    RaisesOnly PyError.IsUnpackError (UDP.parse buf) := by
  apply packetInit_raisesOnly
  have spelled : UDP.unpack buf = _ := @header_bind _ [2, 2, 2, 2] buf _
  rw [spelled]
  split
  · exact raisesOnly_error.mpr (Or.inl rfl)
  · exact raisesOnly_ok _

theorem TCP.parse_raisesOnly (buf : Bytes) :
    RaisesOnly PyError.IsUnpackError (TCP.parse buf) := by
  apply packetInit_raisesOnly
  have spelled : TCP.unpack buf = _ :=
    @header_bind _ [2, 2, 4, 4, 2, 2, 2, 2] buf _
  rw [spelled]
  split
  · exact raisesOnly_error.mpr (Or.inl rfl)
  · dsimp only [fieldValues]
    split
    · exact raisesOnly_error.mpr (Or.inr trivial)
    · exact raisesOnly_ok _

inductive Transport where
  | raw (bytes : Bytes)
  | tcp (segment : TCP)
  | udp (datagram : UDP)
deriving DecidableEq, Repr

namespace Transport

def size : Transport → Nat
  | .raw bytes => bytes.length
  | .tcp segment => segment.size
  | .udp datagram => datagram.size

def fields : Transport → List (Nat × Nat)
  | .raw _ => []
  | .tcp segment => segment.fields
  | .udp datagram => datagram.fields

def bytes : Transport → Except PyError Bytes
  | .raw bytes => .ok bytes
  | .tcp segment => segment.bytes
  | .udp datagram => datagram.bytes

/-- `data.sum`, which byte strings do not have. -/
def sum? : Transport → Option Nat
  | .raw _ => none
  | .tcp segment => some segment.sum
  | .udp datagram => some datagram.sum

def setSum (value : Nat) : Transport → Transport
  | .raw bytes => .raw bytes
  | .tcp segment => .tcp { segment with sum := value }
  | .udp datagram => .udp { datagram with sum := value }

@[simp] theorem size_setSum (value : Nat) (data : Transport) :
    (data.setSum value).size = data.size := by
  cases data <;> rfl

theorem setSum_own {data : Transport} {value : Nat}
    (own : data.sum? = some value) : data.setSum value = data := by
  cases data with
  | raw bytes => cases own
  | tcp segment =>
      cases own
      rfl
  | udp datagram =>
      cases own
      rfl

theorem sum?_setSum {data : Transport} {own : Nat}
    (present : data.sum? = some own) (value : Nat) :
    (data.setSum value).sum? = some value := by
  cases data with
  | raw bytes => cases present
  | tcp segment => rfl
  | udp datagram => rfl

/-- The packed checksum field stands between two parts that do not depend on
it, the first one of even length. -/
theorem bytes_split {data : Transport} {own : Nat} {out : Bytes}
    (present : data.sum? = some own) (packed : data.bytes = .ok out) :
    ∃ front back, front.length % 2 = 0 ∧
      (∀ datagram, data = .udp datagram → front.length = 6) ∧
      out = front ++ beBytes 2 own ++ back ∧
      ∀ value, value ≤ 0xffff →
        (data.setSum value).bytes = .ok (front ++ beBytes 2 value ++ back) := by
  cases data with
  | raw bytes => cases present
  | tcp segment =>
      cases present
      obtain ⟨header, packedHeader, done⟩ := bind_eq_ok.mp packed
      rw [Except.ok.injEq] at done
      obtain ⟨fits, same⟩ := packHdr_eq_ok_iff.mp packedHeader
      refine ⟨beBytes 2 segment.sport ++ beBytes 2 segment.dport ++
        beBytes 4 segment.seq ++ beBytes 4 segment.ack ++
        beBytes 2 segment.offFlags ++ beBytes 2 segment.win,
        beBytes 2 segment.urp ++ segment.opts ++ segment.data, ?_, ?_, ?_, ?_⟩
      · simp
      · intro datagram impossible
        cases impossible
      · rw [← done, same]
        simp [TCP.fields]
      · intro value word
        refine bind_eq_ok.mpr ⟨_, packHdr_eq_ok_iff.mpr ⟨?_, rfl⟩, ?_⟩
        · simp only [TCP.fields, FieldsFit, List.forall_mem_cons] at fits ⊢
          simp only [fits, true_and]
          exact ⟨by omega, by simp⟩
        · simp [TCP.fields]
  | udp datagram =>
      cases present
      obtain ⟨header, packedHeader, done⟩ := bind_eq_ok.mp packed
      rw [Except.ok.injEq] at done
      obtain ⟨fits, same⟩ := packHdr_eq_ok_iff.mp packedHeader
      refine ⟨beBytes 2 datagram.sport ++ beBytes 2 datagram.dport ++
        beBytes 2 datagram.ulen, datagram.data, ?_, ?_, ?_, ?_⟩
      · simp
      · intro _other _same
        simp
      · rw [← done, same]
        simp [UDP.fields]
      · intro value word
        refine bind_eq_ok.mpr ⟨_, packHdr_eq_ok_iff.mpr ⟨?_, rfl⟩, ?_⟩
        · simp only [UDP.fields, FieldsFit, List.forall_mem_cons] at fits ⊢
          simp only [fits, true_and]
          exact ⟨by omega, by simp⟩
        · simp [UDP.fields]

theorem bytes_length {data : Transport} {out : Bytes}
    (packed : data.bytes = .ok out) : out.length = data.size := by
  cases data with
  | raw bytes =>
      cases packed
      rfl
  | tcp segment =>
      obtain ⟨header, packedHeader, done⟩ := bind_eq_ok.mp packed
      rw [Except.ok.injEq] at done
      rw [← done, (packHdr_eq_ok_iff.mp packedHeader).2]
      simp [size, TCP.size, TCP.fields]
      omega
  | udp datagram =>
      obtain ⟨header, packedHeader, done⟩ := bind_eq_ok.mp packed
      rw [Except.ok.injEq] at done
      rw [← done, (packHdr_eq_ok_iff.mp packedHeader).2]
      simp [size, UDP.size, UDP.fields]
      omega

theorem bytes_of_fit {data : Transport} (fits : FieldsFit data.fields) :
    ∃ out, data.bytes = .ok out := by
  cases data with
  | raw bytes => exact ⟨bytes, rfl⟩
  | tcp segment =>
      exact ⟨_, bind_eq_ok.mpr
        ⟨_, packHdr_eq_ok_iff.mpr ⟨fits, rfl⟩, rfl⟩⟩
  | udp datagram =>
      exact ⟨_, bind_eq_ok.mpr
        ⟨_, packHdr_eq_ok_iff.mpr ⟨fits, rfl⟩, rfl⟩⟩

end Transport

end DpktNg.Inet
