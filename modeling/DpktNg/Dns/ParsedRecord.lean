/-
Records and messages that were read: what the reader makes of them, case by
case, and what two records have in common that say the same.
-/

import DpktNg.Dns.RecordRoundTrip
import DpktNg.Dns.ParsedName

namespace DpktNg.Dns

open Library

/-- What `unpack_rdata` makes of a record, one case for each type. -/
inductive Decodes (buf : Bytes) (off : Nat) (self : RR) : RR → Prop
  | a (typed : self.type = dnsA) :
      Decodes buf off self { self with ip := some self.rdata }
  | ns {nsname : PyStr} {behind : Nat} (typed : self.type = dnsNs)
      (read : unpackName buf off = .ok (nsname, behind)) :
      Decodes buf off self { self with nsname := some nsname }
  | cname {cname : PyStr} {behind : Nat} (typed : self.type = dnsCname)
      (read : unpackName buf off = .ok (cname, behind)) :
      Decodes buf off self { self with cname := some cname }
  | ptr {ptrname : PyStr} {behind : Nat} (typed : self.type = dnsPtr)
      (read : unpackName buf off = .ok (ptrname, behind)) :
      Decodes buf off self { self with ptrname := some ptrname }
  | soa {mname rname : PyStr}
      {middle behind serial refresh retry expire minimum : Nat}
      (typed : self.type = dnsSoa)
      (first : unpackName buf off = .ok (mname, middle))
      (second : unpackName buf middle = .ok (rname, behind))
      (numbers : unpackFields [4, 4, 4, 4, 4] (cut buf behind (behind + 20)) =
        .ok [serial, refresh, retry, expire, minimum]) :
      Decodes buf off self { self with
        mname := some mname, rname := some rname, serial := some serial
        refresh := some refresh, retry := some retry, expire := some expire
        minimum := some minimum }
  | mx {preference : List Nat} {mxname : PyStr} {behind : Nat}
      (typed : self.type = dnsMx)
      (number : unpackFields [2] (self.rdata.take 2) = .ok preference)
      (read : unpackName buf (off + 2) = .ok (mxname, behind)) :
      Decodes buf off self { self with
        preference := some (.tuple preference), mxname := some mxname }
  | text {text : List TextItem}
      (typed : self.type = dnsTxt ∨ self.type = dnsHinfo)
      (read : unpackText self.rdata = .ok text) :
      Decodes buf off self { self with text := some text }
  | aaaa (typed : self.type = dnsAaaa) :
      Decodes buf off self { self with ip6 := some self.rdata }
  | null (typed : self.type = dnsNull) :
      Decodes buf off self { self with null := some (encodeHex self.rdata) }
  | srv {srvname : PyStr} {priority weight port behind : Nat}
      (typed : self.type = dnsSrv)
      (numbers : unpackFields [2, 2, 2] (self.rdata.take 6) =
        .ok [priority, weight, port])
      (read : unpackName buf (off + 6) = .ok (srvname, behind)) :
      Decodes buf off self { self with
        priority := some priority, weight := some weight, port := some port
        srvname := some srvname }
  | opt (typed : self.type = dnsOpt) : Decodes buf off self self

section Records

variable {buf : Bytes} {off : Nat}

theorem unpackRdata_of_decodes {self rr : RR} (decodes : Decodes buf off self rr) :
    unpackRdata self buf off = .ok rr := by
  cases decodes with
  | a typed => simp [unpackRdata, typed]
  | ns typed read => simp [unpackRdata, typed, dnsA, dnsNs, read]
  | cname typed read =>
      simp [unpackRdata, typed, dnsA, dnsNs, dnsCname, read]
  | ptr typed read =>
      simp [unpackRdata, typed, dnsA, dnsNs, dnsCname, dnsPtr, read]
  | soa typed first second numbers =>
      simp [unpackRdata, typed, dnsA, dnsNs, dnsCname, dnsPtr, dnsSoa, first,
        second, numbers]
  | mx typed number read =>
      simp [unpackRdata, typed, dnsA, dnsNs, dnsCname, dnsPtr, dnsSoa, dnsMx,
        number, read]
  | text typed read =>
      rcases typed with txt | hinfo
      · simp [unpackRdata, txt, dnsA, dnsNs, dnsCname, dnsPtr, dnsSoa, dnsMx,
          dnsTxt, read]
      · simp [unpackRdata, hinfo, dnsA, dnsNs, dnsCname, dnsPtr, dnsSoa, dnsMx,
          dnsHinfo, read]
  | aaaa typed =>
      simp [unpackRdata, typed, dnsA, dnsNs, dnsCname, dnsPtr, dnsSoa, dnsMx,
        dnsTxt, dnsHinfo, dnsAaaa]
  | null typed =>
      simp [unpackRdata, typed, dnsA, dnsNs, dnsCname, dnsPtr, dnsSoa, dnsMx,
        dnsTxt, dnsHinfo, dnsAaaa, dnsNull]
  | srv typed numbers read =>
      simp [unpackRdata, typed, dnsA, dnsNs, dnsCname, dnsPtr, dnsSoa, dnsMx,
        dnsTxt, dnsHinfo, dnsAaaa, dnsNull, dnsSrv, numbers, read]
  | opt typed =>
      simp [unpackRdata, typed, dnsA, dnsNs, dnsCname, dnsPtr, dnsSoa, dnsMx,
        dnsTxt, dnsHinfo, dnsAaaa, dnsNull, dnsSrv, dnsOpt]

theorem decodes_of_unpackRdata {self rr : RR}
    (read : unpackRdata self buf off = .ok rr) : Decodes buf off self rr := by
  unfold unpackRdata at read
  by_cases a : self.type = dnsA
  · rw [if_pos a] at read
    cases read
    exact .a a
  rw [if_neg a] at read
  by_cases ns : self.type = dnsNs
  · rw [if_pos ns] at read
    obtain ⟨⟨nsname, behind⟩, readName, done⟩ := bind_eq_ok.mp read
    cases done
    exact .ns ns readName
  rw [if_neg ns] at read
  by_cases cname : self.type = dnsCname
  · rw [if_pos cname] at read
    obtain ⟨⟨target, behind⟩, readName, done⟩ := bind_eq_ok.mp read
    cases done
    exact .cname cname readName
  rw [if_neg cname] at read
  by_cases ptr : self.type = dnsPtr
  · rw [if_pos ptr] at read
    obtain ⟨⟨ptrname, behind⟩, readName, done⟩ := bind_eq_ok.mp read
    cases done
    exact .ptr ptr readName
  rw [if_neg ptr] at read
  by_cases soa : self.type = dnsSoa
  · rw [if_pos soa] at read
    obtain ⟨⟨mname, middle⟩, first, read⟩ := bind_eq_ok.mp read
    obtain ⟨⟨rname, behind⟩, second, read⟩ := bind_eq_ok.mp read
    obtain ⟨fields, numbers, done⟩ := bind_eq_ok.mp read
    split at done
    · cases done
      exact .soa soa first second numbers
    · cases done
  rw [if_neg soa] at read
  by_cases mx : self.type = dnsMx
  · rw [if_pos mx] at read
    obtain ⟨preference, number, read⟩ := bind_eq_ok.mp read
    obtain ⟨⟨mxname, behind⟩, readName, done⟩ := bind_eq_ok.mp read
    cases done
    exact .mx mx number readName
  rw [if_neg mx] at read
  by_cases text : self.type = dnsTxt ∨ self.type = dnsHinfo
  · rw [if_pos text] at read
    obtain ⟨items, readText, done⟩ := bind_eq_ok.mp read
    cases done
    exact .text text readText
  rw [if_neg text] at read
  by_cases aaaa : self.type = dnsAaaa
  · rw [if_pos aaaa] at read
    cases read
    exact .aaaa aaaa
  rw [if_neg aaaa] at read
  by_cases null : self.type = dnsNull
  · rw [if_pos null] at read
    cases read
    exact .null null
  rw [if_neg null] at read
  by_cases srv : self.type = dnsSrv
  · rw [if_pos srv] at read
    obtain ⟨fields, numbers, read⟩ := bind_eq_ok.mp read
    dsimp only at read
    split at read
    · obtain ⟨⟨srvname, behind⟩, readName, done⟩ := bind_eq_ok.mp read
      cases done
      exact .srv srv numbers readName
    · cases read
  rw [if_neg srv] at read
  by_cases opt : self.type = dnsOpt
  · rw [if_pos opt] at read
    cases read
    exact .opt opt
  · rw [if_neg opt] at read
    cases read

theorem unpackQ_eq_ok {q : Q} {next : Nat} :
    unpackQ buf off = .ok (q, next) ↔
      ∃ behind, unpackName buf off = .ok (q.name, behind) ∧
        unpackFields [2, 2] (cut buf behind (behind + 4)) =
          .ok [q.type, q.cls] ∧ next = behind + 4 := by
  constructor
  · intro read
    obtain ⟨⟨name, behind⟩, readName, read⟩ := bind_eq_ok.mp read
    obtain ⟨fields, readFields, done⟩ := bind_eq_ok.mp read
    split at done
    · cases done
      exact ⟨behind, readName, readFields, rfl⟩
    · cases done
  · intro parts
    obtain ⟨behind, readName, readFields, stop⟩ := parts
    simp only [unpackQ, readName, ok_bind, readFields, stop]

theorem unpackRr_eq_ok {rr : RR} {next : Nat} :
    unpackRr buf off = .ok (rr, next) ↔
      ∃ name behind type cls ttl rdlen,
        unpackName buf off = .ok (name, behind) ∧
        unpackFields [2, 2, 4, 2] (cut buf behind (behind + 10)) =
          .ok [type, cls, ttl, rdlen] ∧
        Decodes buf (behind + 10)
          { name, type, cls, ttl, rlen := rdlen
            rdata := cut buf (behind + 10) (behind + 10 + rdlen) } rr ∧
        next = behind + 10 + rdlen := by
  constructor
  · intro read
    obtain ⟨⟨name, behind⟩, readName, read⟩ := bind_eq_ok.mp read
    obtain ⟨fields, readFields, read⟩ := bind_eq_ok.mp read
    dsimp only at readFields read
    split at read
    · rename_i type cls ttl rdlen
      obtain ⟨record, readRdata, done⟩ := bind_eq_ok.mp read
      cases done
      exact ⟨name, behind, type, cls, ttl, rdlen, readName, readFields,
        decodes_of_unpackRdata readRdata, rfl⟩
    · cases read
  · intro parts
    obtain ⟨name, behind, type, cls, ttl, rdlen, readName, readFields, decodes,
      stop⟩ := parts
    simp only [unpackRr, readName, ok_bind, readFields,
      unpackRdata_of_decodes decodes, stop]

theorem unpackRr_reads {rr : RR} {next : Nat}
    (read : unpackRr buf off = .ok (rr, next)) :
    ∃ behind, unpackName buf off = .ok (rr.name, behind) ∧
      unpackFields [2, 2, 4, 2] (cut buf behind (behind + 10)) =
        .ok [rr.type, rr.cls, rr.ttl, rr.rlen] ∧
      rr.rdata = cut buf (behind + 10) (behind + 10 + rr.rlen) ∧
      Decodes buf (behind + 10)
        { name := rr.name, type := rr.type, cls := rr.cls, ttl := rr.ttl
          rlen := rr.rlen, rdata := rr.rdata } rr ∧
      next = behind + 10 + rr.rlen := by
  obtain ⟨name, behind, type, cls, ttl, rdlen, readName, readFields, decodes,
    stop⟩ := unpackRr_eq_ok.mp read
  have parts : rr.name = name ∧ rr.type = type ∧ rr.cls = cls ∧
      rr.ttl = ttl ∧ rr.rlen = rdlen ∧
        rr.rdata = cut buf (behind + 10) (behind + 10 + rdlen) := by
    cases decodes <;> exact ⟨rfl, rfl, rfl, rfl, rfl, rfl⟩
  obtain ⟨sameName, sameType, sameCls, sameTtl, sameRlen, sameRdata⟩ := parts
  refine ⟨behind, ?_, ?_, ?_, ?_, ?_⟩
  · rw [sameName]
    exact readName
  · rw [sameType, sameCls, sameTtl, sameRlen]
    exact readFields
  · rw [sameRlen]
    exact sameRdata
  · rw [← sameRdata, ← sameName, ← sameType, ← sameCls, ← sameTtl, ← sameRlen]
      at decodes
    exact decodes
  · rw [sameRlen]
    exact stop

end Records

section Longer

variable {buf full : Bytes} {off behind next : Nat}

theorem unpackFields_extends {widths values : List Nat} (within : buf <+: full)
    {size : Nat} (total : widths.sum = size) (positive : 0 < size)
    (read : unpackFields widths (cut buf off (off + size)) = .ok values) :
    unpackFields widths (cut full off (off + size)) = .ok values := by
  rw [ cut_of_prefix within (fields_end total positive read)]
  exact read

theorem decodes_extends {self rr : RR} (within : buf <+: full)
    (decodes : Decodes buf off self rr) : Decodes full off self rr := by
  cases decodes with
  | a typed => exact .a typed
  | ns typed read => exact .ns typed (unpackName_extends within read)
  | cname typed read => exact .cname typed (unpackName_extends within read)
  | ptr typed read => exact .ptr typed (unpackName_extends within read)
  | soa typed first second numbers =>
      exact .soa typed (unpackName_extends within first)
        (unpackName_extends within second)
        (unpackFields_extends within rfl (by decide) numbers)
  | mx typed number read =>
      exact .mx typed number (unpackName_extends within read)
  | text typed read => exact .text typed read
  | aaaa typed => exact .aaaa typed
  | null typed => exact .null typed
  | srv typed numbers read =>
      exact .srv typed numbers (unpackName_extends within read)
  | opt typed => exact .opt typed

theorem unpackRr_extends {rr : RR} (within : buf <+: full)
    (inside : next ≤ buf.length) (read : unpackRr buf off = .ok (rr, next)) :
    unpackRr full off = .ok (rr, next) := by
  obtain ⟨behind, readName, readFields, data, decodes, stop⟩ :=
    unpackRr_reads read
  apply unpackRr_eq_ok.mpr
  refine ⟨rr.name, behind, rr.type, rr.cls, rr.ttl, rr.rlen,
    unpackName_extends within readName,
    unpackFields_extends within rfl (by decide) readFields, ?_, stop⟩
  rw [stop] at inside
  rw [ cut_of_prefix within inside, ← data]
  exact decodes_extends within decodes

end Longer

theorem DNS.parse_eq_ok {buf : Bytes} {dns : DNS}
    (parsed : DNS.parse buf = .ok dns) :
    12 ≤ buf.length ∧
      fieldValues [2, 2, 2, 2, 2, 2] (buf.take 12) =
        [dns.id, dns.op, dns.qd.length, dns.an.length, dns.ns.length,
          dns.ar.length] ∧
      ∃ off₁ off₂ off₃ off₄,
        readMany unpackQ buf 12 dns.qd.length = .ok (dns.qd, off₁) ∧
        readMany unpackRr buf off₁ dns.an.length = .ok (dns.an, off₂) ∧
        readMany unpackRr buf off₂ dns.ns.length = .ok (dns.ns, off₃) ∧
        readMany unpackRr buf off₃ dns.ar.length = .ok (dns.ar, off₄) := by
  have unpacked : DNS.unpack buf = .ok dns := packetInit_eq_ok.mp parsed
  have spelled : DNS.unpack buf = _ := @header_bind _ [2, 2, 2, 2, 2, 2] buf _
  rw [spelled] at unpacked
  split at unpacked
  · cases unpacked
  rename_i whole
  have twelve : ([2, 2, 2, 2, 2, 2] : List Nat).sum = 12 := rfl
  rw [twelve] at whole unpacked
  dsimp only at unpacked
  split at unpacked
  · rename_i id op qdCount anCount nsCount arCount fields
    obtain ⟨⟨qd, off₁⟩, readQd, unpacked⟩ := bind_eq_ok.mp unpacked
    obtain ⟨⟨an, off₂⟩, readAn, unpacked⟩ := bind_eq_ok.mp unpacked
    obtain ⟨⟨ns, off₃⟩, readNs, unpacked⟩ := bind_eq_ok.mp unpacked
    obtain ⟨⟨ar, off₄⟩, readAr, done⟩ := bind_eq_ok.mp unpacked
    cases done
    dsimp only at readAn readNs readAr ⊢
    rw [readMany_length readQd, readMany_length readAn,
      readMany_length readNs, readMany_length readAr]
    exact ⟨by omega, fields, off₁, off₂, off₃, off₄, readQd, readAn, readNs,
      readAr⟩
  · cases unpacked

abbrev DNS.records (self : DNS) : List RR := self.an ++ self.ns ++ self.ar

theorem read_of_parse {buf : Bytes} {dns : DNS}
    (parsed : DNS.parse buf = .ok dns) :
    (∀ q ∈ dns.qd, ∃ off next, unpackQ buf off = .ok (q, next)) ∧
      ∀ rr ∈ dns.records, ∃ off next, unpackRr buf off = .ok (rr, next) := by
  obtain ⟨_whole, _fields, off₁, off₂, off₃, off₄, readQd, readAn, readNs,
    readAr⟩ := DNS.parse_eq_ok parsed
  have each : ∀ off rr next, unpackRr buf off = .ok (rr, next) →
      ∃ off next, unpackRr buf off = .ok (rr, next) :=
    fun off _rr next read => ⟨off, next, read⟩
  constructor
  · exact readMany_forall (fun off _q next read => ⟨off, next, read⟩) readQd
  · intro rr member
    rw [List.mem_append, List.mem_append] at member
    rcases member with (inAn | inNs) | inAr
    · exact readMany_forall each readAn rr inAn
    · exact readMany_forall each readNs rr inNs
    · exact readMany_forall each readAr rr inAr

/-- The record with its names in upper case and without the bytes that its data
was read from. -/
def RR.decoded (self : RR) : RR :=
  { self with
    name := upToCase self.name
    rlen := 0
    rdata := []
    nsname := self.nsname.map upToCase
    cname := self.cname.map upToCase
    ptrname := self.ptrname.map upToCase
    mname := self.mname.map upToCase
    rname := self.rname.map upToCase
    mxname := self.mxname.map upToCase
    srvname := self.srvname.map upToCase }

/-- Both records have the same header fields and the same decoded data, with
names up to case. -/
def SameDecoded (sent got : RR) : Prop := got.decoded = sent.decoded

structure SameContent (sent got : DNS) : Prop where
  id : got.id = sent.id
  op : got.op = sent.op
  qd : List.Forall₂ SameQ sent.qd got.qd
  an : List.Forall₂ SameDecoded sent.an got.an
  ns : List.Forall₂ SameDecoded sent.ns got.ns
  ar : List.Forall₂ SameDecoded sent.ar got.ar

/-- A record of a type with one attribute per field of its data, made from its
header fields and that data. -/
def RR.ofTyped (name : PyStr) (type cls ttl : Nat) : TypedRdata → RR
  | .address ip =>
      if type = dnsA then { name, type, cls, ttl, rlen := 0, ip }
      else { name, type, cls, ttl, rlen := 0, ip6 := ip }
  | .name target =>
      if type = dnsNs then { name, type, cls, ttl, rlen := 0, nsname := target }
      else if type = dnsCname then
        { name, type, cls, ttl, rlen := 0, cname := target }
      else { name, type, cls, ttl, rlen := 0, ptrname := target }
  | .soa mname rname serial refresh retry expire minimum =>
      { name, type, cls, ttl, rlen := 0, mname, rname, serial, refresh, retry
        expire, minimum }
  | .srv priority weight port srvname =>
      { name, type, cls, ttl, rlen := 0, priority, weight, port, srvname }
  | .other => { name, type, cls, ttl, rlen := 0 }

/-- The types whose data can be generated from what was read. -/
def generatedTypes : List Nat :=
  [dnsA, dnsNs, dnsCname, dnsPtr, dnsSoa, dnsAaaa, dnsSrv]

theorem decoded_of_decodes {buf : Bytes} {off : Nat} {name : PyStr}
    {type cls ttl rlen : Nat} {rdata : Bytes} {rr : RR}
    (decodes : Decodes buf off { name, type, cls, ttl, rlen, rdata } rr)
    (generated : type ∈ generatedTypes) :
    rr.decoded = RR.ofTyped (upToCase name) type cls ttl rr.typedRdata := by
  cases decodes with
  | a typed =>
      change type = dnsA at typed
      simp [RR.decoded, RR.ofTyped, RR.typedRdata, typed]
  | ns typed _read =>
      change type = dnsNs at typed
      simp [RR.decoded, RR.ofTyped, RR.typedRdata, typed, dnsA, dnsNs]
  | cname typed _read =>
      change type = dnsCname at typed
      simp [RR.decoded, RR.ofTyped, RR.typedRdata, typed, dnsA, dnsNs, dnsCname]
  | ptr typed _read =>
      change type = dnsPtr at typed
      simp [RR.decoded, RR.ofTyped, RR.typedRdata, typed, dnsA, dnsNs, dnsCname,
        dnsPtr]
  | soa typed _first _second _numbers =>
      change type = dnsSoa at typed
      simp [RR.decoded, RR.ofTyped, RR.typedRdata, typed, dnsA, dnsNs, dnsCname,
        dnsPtr, dnsSoa]
  | mx typed _number _read =>
      change type = dnsMx at typed
      rw [typed] at generated
      exact absurd generated (by decide)
  | text typed _read =>
      change type = dnsTxt ∨ type = dnsHinfo at typed
      rcases typed with txt | hinfo
      · rw [txt] at generated
        exact absurd generated (by decide)
      · rw [hinfo] at generated
        exact absurd generated (by decide)
  | aaaa typed =>
      change type = dnsAaaa at typed
      simp [RR.decoded, RR.ofTyped, RR.typedRdata, typed, dnsA, dnsNs, dnsCname,
        dnsPtr, dnsSoa, dnsMx, dnsAaaa]
  | null typed =>
      change type = dnsNull at typed
      rw [typed] at generated
      exact absurd generated (by decide)
  | srv typed _numbers _read =>
      change type = dnsSrv at typed
      simp [RR.decoded, RR.ofTyped, RR.typedRdata, typed, dnsA, dnsNs, dnsCname,
        dnsPtr, dnsSoa, dnsMx, dnsAaaa, dnsSrv]
  | opt typed =>
      change type = dnsOpt at typed
      rw [typed] at generated
      exact absurd generated (by decide)

end DpktNg.Dns
