/-
Messages of the Domain Name System, dpkt/dns.py: questions, resource records
and whole messages, each with the code that packs it and the code that reads
it.  A record's attributes other than its header fields exist once they were
set.
-/

import DpktNg.Dns.Name

namespace DpktNg.Dns

open Library

def dnsA : Nat := 1
def dnsNs : Nat := 2
def dnsCname : Nat := 5
def dnsSoa : Nat := 6
def dnsNull : Nat := 10
def dnsPtr : Nat := 12
def dnsHinfo : Nat := 13
def dnsMx : Nat := 15
def dnsTxt : Nat := 16
def dnsAaaa : Nat := 28
def dnsSrv : Nat := 33
def dnsOpt : Nat := 41

def dnsIn : Nat := 1

def dnsRd : Nat := 0x0100

structure Q where
  name : PyStr
  type : Nat := dnsA
  cls : Nat := dnsIn
deriving DecidableEq, Repr

/-- A `preference`: an integer, or the tuple that `struct.unpack` returns. -/
inductive Preference where
  | int (value : Nat)
  | tuple (values : List Nat)
deriving DecidableEq, Repr

/-- An item of `text`: decoded from a message, or bytes given by a caller. -/
inductive TextItem where
  | str (text : PyStr)
  | bytes (data : Bytes)
deriving DecidableEq, Repr

structure RR extends Q where
  ttl : Nat := 0
  rlen : Nat := 4
  rdata : Bytes := []
  ip : Option Bytes := none
  nsname : Option PyStr := none
  cname : Option PyStr := none
  ptrname : Option PyStr := none
  mname : Option PyStr := none
  rname : Option PyStr := none
  serial : Option Nat := none
  refresh : Option Nat := none
  retry : Option Nat := none
  expire : Option Nat := none
  minimum : Option Nat := none
  preference : Option Preference := none
  mxname : Option PyStr := none
  text : Option (List TextItem) := none
  ip6 : Option Bytes := none
  null : Option Bytes := none
  priority : Option Nat := none
  weight : Option Nat := none
  port : Option Nat := none
  srvname : Option PyStr := none
deriving DecidableEq, Repr

structure DNS where
  id : Nat := 0
  op : Nat := dnsRd
  qd : List Q := []
  an : List RR := []
  ns : List RR := []
  ar : List RR := []
deriving DecidableEq, Repr

def getAttribute {α : Type} : Option α → Except PyError α
  | some value => .ok value
  | none => .error .attributeError

/-- `'RR type %s is not supported' % type` -/
def unsupported (type : Nat) : PyStr :=
  "RR type ".toList ++ decimal type ++ " is not supported".toList

def packPreference : Preference → Except PyError Bytes
  | .int value => packBe 2 value
  | .tuple _ => .error .structError

/-- `struct.pack('B', len(x)) + x`, which wants bytes. -/
def packTextItem : TextItem → Except PyError Bytes
  | .str text => do
      let _ ← packBe 1 text.length
      .error .typeError
  | .bytes data => do
      let size ← packBe 1 data.length
      .ok (size ++ data)

section Packing

variable (pointer : Nat → Except PyError Bytes)

def packRdata (self : RR) (off : Nat) (labelPtrs : LabelPtrs) :
    Except PyError (Bytes × LabelPtrs) :=
  if self.rdata ≠ [] then .ok (self.rdata, labelPtrs)
  else if self.type = dnsA then do
    .ok (← getAttribute self.ip, labelPtrs)
  else if self.type = dnsNs then do
    packName pointer (← getAttribute self.nsname) off labelPtrs
  else if self.type = dnsCname then do
    packName pointer (← getAttribute self.cname) off labelPtrs
  else if self.type = dnsPtr then do
    packName pointer (← getAttribute self.ptrname) off labelPtrs
  else if self.type = dnsSoa then do
    let (mname, labelPtrs) ←
      packName pointer (← getAttribute self.mname) off labelPtrs
    let (rname, labelPtrs) ← packName pointer (← getAttribute self.rname)
      (off + mname.length) labelPtrs
    let numbers ← packFields
      [(4, ← getAttribute self.serial), (4, ← getAttribute self.refresh),
        (4, ← getAttribute self.retry), (4, ← getAttribute self.expire),
        (4, ← getAttribute self.minimum)]
    .ok (mname ++ rname ++ numbers, labelPtrs)
  else if self.type = dnsMx then do
    let preference ← packPreference (← getAttribute self.preference)
    let (mxname, labelPtrs) ←
      packName pointer (← getAttribute self.mxname) (off + 2) labelPtrs
    .ok (preference ++ mxname, labelPtrs)
  else if self.type = dnsTxt ∨ self.type = dnsHinfo then do
    let items ← (← getAttribute self.text).mapM packTextItem
    .ok (items.flatten, labelPtrs)
  else if self.type = dnsAaaa then do
    .ok (← getAttribute self.ip6, labelPtrs)
  else if self.type = dnsSrv then do
    let numbers ← packFields
      [(2, ← getAttribute self.priority), (2, ← getAttribute self.weight),
        (2, ← getAttribute self.port)]
    let (srvname, labelPtrs) ←
      packName pointer (← getAttribute self.srvname) (off + 6) labelPtrs
    .ok (numbers ++ srvname, labelPtrs)
  else if self.type = dnsOpt then .ok ([], labelPtrs)
  else .error (.packError (unsupported self.type))

def packQ (buf : Bytes) (labelPtrs : LabelPtrs) (q : Q) :
    Except PyError (Bytes × LabelPtrs) := do
  let (name, labelPtrs) ← packName pointer q.name buf.length labelPtrs
  let fields ← packFields [(2, q.type), (2, q.cls)]
  .ok (buf ++ name ++ fields, labelPtrs)

def packRr (buf : Bytes) (labelPtrs : LabelPtrs) (rr : RR) :
    Except PyError (Bytes × LabelPtrs) := do
  let (name, labelPtrs) ← packName pointer rr.name buf.length labelPtrs
  let (rdata, labelPtrs) ←
    packRdata pointer rr (buf.length + name.length + 10) labelPtrs
  let fields ← packFields
    [(2, rr.type), (2, rr.cls), (4, rr.ttl), (2, rdata.length)]
  .ok (buf ++ name ++ fields ++ rdata, labelPtrs)

/-- `DNS.__bytes__`, for what is written as a pointer. -/
def DNS.bytesWith (self : DNS) : Except PyError Bytes := do
  let header ← packFields
    [(2, self.id), (2, self.op), (2, self.qd.length), (2, self.an.length),
      (2, self.ns.length), (2, self.ar.length)]
  let (buf, labelPtrs) ← writeAll (packQ pointer) header Dict.empty self.qd
  let (buf, labelPtrs) ← writeAll (packRr pointer) buf labelPtrs self.an
  let (buf, labelPtrs) ← writeAll (packRr pointer) buf labelPtrs self.ns
  let (buf, _) ← writeAll (packRr pointer) buf labelPtrs self.ar
  .ok buf

end Packing

def DNS.bytes (self : DNS) : Except PyError Bytes := self.bytesWith packPointer

section Packed

variable {pointer : Nat → Except PyError Bytes} {buf buf' : Bytes}
  {labelPtrs labelPtrs' : LabelPtrs}

theorem packQ_eq_ok {q : Q}
    (packed : packQ pointer buf labelPtrs q = .ok (buf', labelPtrs')) :
    ∃ name fields,
      packName pointer q.name buf.length labelPtrs = .ok (name, labelPtrs') ∧
      packFields [(2, q.type), (2, q.cls)] = .ok fields ∧
      buf ++ name ++ fields = buf' := by
  obtain ⟨⟨name, labelPtrs₁⟩, packedName, packed⟩ := bind_eq_ok.mp packed
  obtain ⟨fields, packedFields, done⟩ := bind_eq_ok.mp packed
  rw [Except.ok.injEq, Prod.mk.injEq] at done
  rw [← done.2]
  exact ⟨name, fields, packedName, packedFields, done.1⟩

theorem packRr_eq_ok {rr : RR}
    (packed : packRr pointer buf labelPtrs rr = .ok (buf', labelPtrs')) :
    ∃ name labelPtrs₁ rdata fields,
      packName pointer rr.name buf.length labelPtrs = .ok (name, labelPtrs₁) ∧
      packRdata pointer rr (buf.length + name.length + 10) labelPtrs₁ =
        .ok (rdata, labelPtrs') ∧
      packFields [(2, rr.type), (2, rr.cls), (4, rr.ttl), (2, rdata.length)] =
        .ok fields ∧
      buf ++ name ++ fields ++ rdata = buf' := by
  obtain ⟨⟨name, labelPtrs₁⟩, packedName, packed⟩ := bind_eq_ok.mp packed
  obtain ⟨⟨rdata, labelPtrs₂⟩, packedRdata, packed⟩ := bind_eq_ok.mp packed
  obtain ⟨fields, packedFields, done⟩ := bind_eq_ok.mp packed
  rw [Except.ok.injEq, Prod.mk.injEq] at done
  rw [← done.2]
  exact ⟨name, labelPtrs₁, rdata, fields, packedName, packedRdata,
    packedFields, done.1⟩

theorem packQ_begins {q : Q}
    (packed : packQ pointer buf labelPtrs q = .ok (buf', labelPtrs')) :
    buf <+: buf' := by
  obtain ⟨name, fields, _packedName, _packedFields, shape⟩ := packQ_eq_ok packed
  rw [List.append_assoc] at shape
  exact ⟨name ++ fields, shape⟩

theorem packRr_begins {rr : RR}
    (packed : packRr pointer buf labelPtrs rr = .ok (buf', labelPtrs')) :
    buf <+: buf' := by
  obtain ⟨name, _, rdata, fields, _, _, _, shape⟩ := packRr_eq_ok packed
  rw [List.append_assoc, List.append_assoc] at shape
  exact ⟨name ++ (fields ++ rdata), shape⟩

theorem DNS.bytesWith_eq_ok {dns : DNS} {out : Bytes}
    (packed : dns.bytesWith pointer = .ok out) :
    ∃ header out₁ labelPtrs₁ out₂ labelPtrs₂ out₃ labelPtrs₃ labelPtrs₄,
      packFields [(2, dns.id), (2, dns.op), (2, dns.qd.length),
        (2, dns.an.length), (2, dns.ns.length), (2, dns.ar.length)] =
          .ok header ∧
      writeAll (packQ pointer) header Dict.empty dns.qd =
        .ok (out₁, labelPtrs₁) ∧
      writeAll (packRr pointer) out₁ labelPtrs₁ dns.an =
        .ok (out₂, labelPtrs₂) ∧
      writeAll (packRr pointer) out₂ labelPtrs₂ dns.ns =
        .ok (out₃, labelPtrs₃) ∧
      writeAll (packRr pointer) out₃ labelPtrs₃ dns.ar =
        .ok (out, labelPtrs₄) := by
  obtain ⟨header, packedHeader, packed⟩ := bind_eq_ok.mp packed
  obtain ⟨⟨out₁, labelPtrs₁⟩, packedQd, packed⟩ := bind_eq_ok.mp packed
  obtain ⟨⟨out₂, labelPtrs₂⟩, packedAn, packed⟩ := bind_eq_ok.mp packed
  obtain ⟨⟨out₃, labelPtrs₃⟩, packedNs, packed⟩ := bind_eq_ok.mp packed
  obtain ⟨⟨out₄, labelPtrs₄⟩, packedAr, done⟩ := bind_eq_ok.mp packed
  have same : out₄ = out := Except.ok.inj done
  rw [same] at packedAr
  exact ⟨header, out₁, labelPtrs₁, out₂, labelPtrs₂, out₃, labelPtrs₃,
    labelPtrs₄, packedHeader, packedQd, packedAn, packedNs, packedAr⟩

end Packed

/-- The loop over the character strings of a TXT record. -/
def unpackText : Bytes → Except PyError (List TextItem)
  | [] => .ok []
  | n :: buf =>
      match decodeUtf8 (buf.take n.toNat) with
      | none => .error .unicodeError
      | some item => do
          let items ← unpackText (buf.drop n.toNat)
          .ok (.str item :: items)
termination_by buf => buf.length
decreasing_by
  simp only [List.length_drop, List.length_cons]
  omega

def encodeHex (data : Bytes) : Bytes :=
  data.flatMap fun byte => (hex2 byte.toNat).map fun c => UInt8.ofNat c.toNat

def unpackRdata (self : RR) (buf : Bytes) (off : Nat) : Except PyError RR :=
  if self.type = dnsA then .ok { self with ip := some self.rdata }
  else if self.type = dnsNs then do
    let (nsname, _) ← unpackName buf off
    .ok { self with nsname := some nsname }
  else if self.type = dnsCname then do
    let (cname, _) ← unpackName buf off
    .ok { self with cname := some cname }
  else if self.type = dnsPtr then do
    let (ptrname, _) ← unpackName buf off
    .ok { self with ptrname := some ptrname }
  else if self.type = dnsSoa then do
    let (mname, off) ← unpackName buf off
    let (rname, off) ← unpackName buf off
    let [serial, refresh, retry, expire, minimum] ←
        unpackFields [4, 4, 4, 4, 4] (cut buf off (off + 20))
      | .error .structError
    .ok { self with
      mname := some mname, rname := some rname, serial := some serial
      refresh := some refresh, retry := some retry, expire := some expire
      minimum := some minimum }
  else if self.type = dnsMx then do
    let preference ← unpackFields [2] (self.rdata.take 2)
    let (mxname, _) ← unpackName buf (off + 2)
    .ok { self with
      preference := some (.tuple preference), mxname := some mxname }
  else if self.type = dnsTxt ∨ self.type = dnsHinfo then do
    let text ← unpackText self.rdata
    .ok { self with text := some text }
  else if self.type = dnsAaaa then .ok { self with ip6 := some self.rdata }
  else if self.type = dnsNull then
    .ok { self with null := some (encodeHex self.rdata) }
  else if self.type = dnsSrv then do
    let [priority, weight, port] ← unpackFields [2, 2, 2] (self.rdata.take 6)
      | .error .structError
    let (srvname, _) ← unpackName buf (off + 6)
    .ok { self with
      priority := some priority, weight := some weight, port := some port
      srvname := some srvname }
  else if self.type = dnsOpt then .ok self
  else .error (.unpackError (unsupported self.type))

def unpackQ (buf : Bytes) (off : Nat) : Except PyError (Q × Nat) := do
  let (name, off) ← unpackName buf off
  let [type, cls] ← unpackFields [2, 2] (cut buf off (off + 4))
    | .error .structError
  .ok ({ name, type, cls }, off + 4)

def unpackRr (buf : Bytes) (off : Nat) : Except PyError (RR × Nat) := do
  let (name, off) ← unpackName buf off
  let [type, cls, ttl, rdlen] ←
      unpackFields [2, 2, 4, 2] (cut buf off (off + 10))
    | .error .structError
  let off := off + 10
  let rr ← unpackRdata
    { name, type, cls, ttl, rlen := rdlen, rdata := cut buf off (off + rdlen) }
    buf off
  .ok (rr, off + rdlen)

def DNS.unpack (buf : Bytes) : Except PyError DNS := do
  let (header, _) ← takeHeader 12 buf
  let [id, op, qd, an, ns, ar] ← unpackFields [2, 2, 2, 2, 2, 2] header
    | .error .structError
  let (qd, off) ← readMany unpackQ buf 12 qd
  let (an, off) ← readMany unpackRr buf off an
  let (ns, off) ← readMany unpackRr buf off ns
  let (ar, _) ← readMany unpackRr buf off ar
  .ok { id, op, qd, an, ns, ar }

def DNS.parse : Bytes → Except PyError DNS :=
  packetInit "DNS" (some 12) DNS.unpack

end DpktNg.Dns
