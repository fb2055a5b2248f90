/-
Parsing of IPv4 packets, `IP.unpack` of dpkt/ip.py: the header and its options,
and the data, which the registered parser of the protocol decodes unless the
packet is a later fragment.
-/

import DpktNg.Inet.Ip
import DpktNg.Inet.Ip6

namespace DpktNg.Inet

open Library

/-- A parsed packet whose data is of type `Data`. -/
structure ParsedIP (Data : Type) where
  hdr : IpHdr
  data : Data

/-- `(v_hl & 0xf) << 2`, the length of the header with its options. -/
def headerLength (vHl : Nat) : Nat := vHl % 16 * 4

/-- The attribute `offset`, thirteen bits of a field. -/
def IpHdr.offset (self : IpHdr) : Nat := self.flagsOffset % 2 ^ 13

/-- `self.data`: later fragments are not decoded. -/
def Upper.dataOfIp {Data : Type} (upper : Upper Data) (hdr : IpHdr)
    (buf : Bytes) : Except PyError Data :=
  if hdr.offset = 0 then upper.decode (some hdr.p) buf else .ok (upper.raw buf)

section Parsing

variable {Data : Type} (upper : Upper Data)

def ParsedIP.unpack (buf : Bytes) : Except PyError (ParsedIP Data) := do
  let (header, _) ← takeHeader 20 buf
  let [vHl, tos, len, id, flagsOffset, ttl, p, sum] ←
      unpackFields [1, 1, 2, 2, 2, 1, 1, 2] (header.take 12)
    | .error .structError
  if headerLength vHl < 20 then
    .error (.unpackError "invalid header length".toList)
  else
    let hdr : IpHdr :=
      { vHl, tos, len, id, flagsOffset, ttl, p, sum
        src := cut header 12 16, dst := cut header 16 20
        opts := cut buf 20 (headerLength vHl) }
    let payload :=
      if len ≠ 0 then cut buf (headerLength vHl) len
      else buf.drop (headerLength vHl)
    let data ← upper.dataOfIp hdr payload
    .ok { hdr, data }

def ParsedIP.parse : Bytes → Except PyError (ParsedIP Data) :=
  packetInit "IP" (some 20) (ParsedIP.unpack upper)

end Parsing

def ipHeaderLength (buf : Bytes) : Nat := headerLength (beNat (cut buf 0 1))

def ipLen (buf : Bytes) : Nat := beNat (cut buf 2 4)

def ipHdr (buf : Bytes) : IpHdr where
  vHl := beNat (cut buf 0 1)
  tos := beNat (cut buf 1 2)
  len := ipLen buf
  id := beNat (cut buf 4 6)
  flagsOffset := beNat (cut buf 6 8)
  ttl := beNat (cut buf 8 9)
  p := beNat (cut buf 9 10)
  sum := beNat (cut buf 10 12)
  src := cut buf 12 16
  dst := cut buf 16 20
  opts := cut buf 20 (ipHeaderLength buf)

def ipPayload (buf : Bytes) : Bytes :=
  if ipLen buf ≠ 0 then cut buf (ipHeaderLength buf) (ipLen buf)
  else buf.drop (ipHeaderLength buf)

theorem ipPayload_length {buf : Bytes} (enough : 20 ≤ buf.length)
    (header : 20 ≤ ipHeaderLength buf) :
    (ipPayload buf).length < buf.length := by
  unfold ipPayload cut
  split
  · rw [List.length_take, List.length_drop]
    omega
  · rw [List.length_drop]
    omega

section Raising

variable {Data : Type} (upper : Upper Data)

theorem ParsedIP.unpack_eq (buf : Bytes) :
    ParsedIP.unpack upper buf =
      if buf.length < 20 then .error .structError
      else if ipHeaderLength buf < 20 then
        .error (.unpackError "invalid header length".toList)
      else (do
        let data ← upper.dataOfIp (ipHdr buf) (ipPayload buf)
        .ok { hdr := ipHdr buf, data }) := by
  unfold ParsedIP.unpack takeHeader
  split
  · rfl
  · rename_i enough
    have header : (buf.take 20).take 12 = buf.take 12 := by
      rw [List.take_take]
      rfl
    have fields :
        unpackFields [1, 1, 2, 2, 2, 1, 1, 2] ((buf.take 20).take 12) =
          .ok [beNat (cut buf 0 1), beNat (cut buf 1 2), ipLen buf,
            beNat (cut buf 4 6), beNat (cut buf 6 8), beNat (cut buf 8 9),
            beNat (cut buf 9 10), beNat (cut buf 10 12)] := by
      rw [header]
      refine (@unpackFields_take [1, 1, 2, 2, 2, 1, 1, 2] buf
        (by change 12 ≤ _; omega)).trans (congrArg Except.ok ?_)
      simp [fieldValues, cut, ipLen, List.take_take, List.drop_take,
        List.drop_drop]
    rw [ok_bind]
    dsimp only
    rw [fields, ok_bind]
    dsimp only
    rw [cut_take (by decide), cut_take (by decide)]
    rfl

theorem Upper.decode_registered {upper : Upper Data} {nxt : Option Nat}
    {buf : Bytes} {data : Data} (decoder : Bytes → Except PyError Data)
    (registered : nxt.bind upper.protosw = some decoder)
    (decoded : decoder buf = .ok data) : upper.decode nxt buf = .ok data := by
  unfold Upper.decode
  rw [registered]
  dsimp only
  rw [decoded]

/-- Errors of a registered parser that are not of the library leave `decode`,
and no other error does. -/
theorem Upper.decode_escapes {Allowed : PyError → Prop}
    (library : ∀ problem, problem.IsUnpackError → Allowed problem)
    {upper : Upper Data} {nxt : Option Nat} {buf : Bytes} :
    Escapes Allowed (upper.decode nxt buf) ↔
      ∃ decoder, nxt.bind upper.protosw = some decoder ∧
        Escapes Allowed (decoder buf) := by
  unfold Upper.decode
  split
  · rename_i missing
    constructor
    · intro impossible
      exact absurd impossible (not_escapes_ok _)
    · rintro ⟨decoder, found, _escapes⟩
      rw [missing] at found
      cases found
  · rename_i decoder registered
    constructor
    · intro escapes
      refine ⟨decoder, registered, ?_⟩
      cases result : decoder buf with
      | ok data =>
          rw [result] at escapes
          exact absurd escapes (not_escapes_ok _)
      | error problem =>
          rw [result] at escapes
          dsimp only at escapes
          split at escapes
          · exact absurd escapes (not_escapes_ok _)
          · exact escapes
    · rintro ⟨other, found, escapes⟩
      rw [registered, Option.some.injEq] at found
      rw [← found] at escapes
      obtain ⟨problem, raised, refused⟩ := escapes
      refine ⟨problem, ?_, refused⟩
      rw [raised]
      exact if_neg fun expected => refused (library problem expected)

theorem Upper.decode_congr {upper upper' : Upper Data} {nxt : Option Nat}
    {buf : Bytes} (raw : upper.raw = upper'.raw)
    (registered : ∀ p, (upper.protosw p).map (· buf) =
      (upper'.protosw p).map (· buf)) :
    upper.decode nxt buf = upper'.decode nxt buf := by
  have found : (nxt.bind upper.protosw).map (· buf) =
      (nxt.bind upper'.protosw).map (· buf) := by
    cases nxt with
    | none => rfl
    | some p => exact registered p
  unfold Upper.decode
  rw [raw]
  cases first : nxt.bind upper.protosw with
  | none =>
      cases second : nxt.bind upper'.protosw with
      | none => rfl
      | some decoder' =>
          rw [first, second] at found
          cases found
  | some decoder =>
      cases second : nxt.bind upper'.protosw with
      | none =>
          rw [first, second] at found
          cases found
      | some decoder' =>
          rw [first, second, Option.map_some, Option.map_some,
            Option.some.injEq] at found
          dsimp only
          rw [found]

end Raising

end DpktNg.Inet
