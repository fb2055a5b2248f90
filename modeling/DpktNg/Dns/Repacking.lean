/-
Packing again what was read.  A name that was read can always be packed, and a
record can, unless its data is to be generated and its type keeps the data in
a form that the packer does not take.

The front of a message that is laid out as the packer lays it out is reproduced
byte for byte.
-/

import DpktNg.Dns.ParsedRecord
import DpktNg.Dns.ShortMessage

namespace DpktNg.Dns

open Library

/-! ### Names -/

theorem packPointer_succeeds {ptr : Nat} (below : ptr < 0xc000) :
    packPointer ptr = .ok (beBytes 2 (0xc000 ||| ptr)) := by
  have fits : 0xc000 ||| ptr < 256 ^ 2 :=
    Nat.or_lt_two_pow (n := 16) (by decide) (by omega)
  unfold packPointer packBe
  rw [if_pos fits]

theorem TableBelow.empty (bound : Nat) : TableBelow Dict.empty bound := by
  intro key ptr found
  cases found

/-- Offsets from 0xc000 on are not registered, so every pointer can be
written. -/
theorem packLabels_succeeds {labels : List Bytes}
    (short : ∀ label ∈ labels, label.length < 256) (off : Nat) (buf : Bytes)
    {labelPtrs : LabelPtrs} (below : TableBelow labelPtrs 0xc000) :
    ∃ written labelPtrs', packLabels packPointer off buf labelPtrs labels =
        .ok (buf ++ written, labelPtrs') ∧
      written.length ≤ wireLength labels + 1 ∧
      TableBelow labelPtrs' 0xc000 := by
  induction labels generalizing buf labelPtrs with
  | nil =>
      refine ⟨[], labelPtrs, ?_, Nat.zero_le _, below⟩
      rw [packLabels, List.append_nil]
  | cons label rest ih =>
      cases found : labelPtrs.get? (upper (joinDots (label :: rest))) with
      | some ptr =>
          refine ⟨beBytes 2 (0xc000 ||| ptr), labelPtrs, ?_, ?_, below⟩
          · rw [packLabels_cons_found found,
              packPointer_succeeds (below _ _ found), ok_bind]
          · rw [beBytes_length, wireLength_cons]
            omega
      | none =>
          have size : packBe 1 label.length = .ok (beBytes 1 label.length) :=
            if_pos (short label List.mem_cons_self)
          rw [packLabels_cons_absent found, size, ok_bind]
          have belowNext : TableBelow
              (if (upper (joinDots (label :: rest))).length > 1 ∧
                  off + buf.length < 0xc000
                then labelPtrs.set (upper (joinDots (label :: rest)))
                  (off + buf.length)
                else labelPtrs) 0xc000 := by
            intro key ptr here
            split at here
            · rename_i registered
              by_cases same : key = upper (joinDots (label :: rest))
              · rw [same, Dict.get?_set_same, Option.some.injEq] at here
                omega
              · rw [Dict.get?_set_other _ _ same] at here
                exact below key ptr here
            · exact below key ptr here
          obtain ⟨written, labelPtrs', packed, length, below'⟩ := ih
            (fun other member => short other (List.mem_cons_of_mem _ member))
            (buf ++ beBytes 1 label.length ++ label) belowNext
          refine ⟨beBytes 1 label.length ++ label ++ written, labelPtrs', ?_,
            ?_, below'⟩
          · rw [packed, List.append_assoc, List.append_assoc,
              List.append_assoc]
          · rw [List.length_append, List.length_append, beBytes_length,
              wireLength_cons]
            omega

theorem packName_succeeds {name : PyStr} (read : ReadName name) (off : Nat)
    {labelPtrs : LabelPtrs} (below : TableBelow labelPtrs 0xc000) :
    ∃ written labelPtrs',
      packName packPointer name off labelPtrs = .ok (written, labelPtrs') ∧
      written.length ≤ 257 ∧ TableBelow labelPtrs' 0xc000 := by
  have short : ∀ label ∈ dotLabels (encodeUtf8 name) ++ [[]],
      label.length < 256 := by
    intro label member
    rcases List.mem_append.mp member with inside | root
    · have small := read.labels_short label inside
      omega
    · rw [List.mem_singleton.mp root]
      exact Nat.zero_lt_succ _
  obtain ⟨written, labelPtrs', packed, length, below'⟩ :=
    packLabels_succeeds short off [] below
  refine ⟨written, labelPtrs', packed, ?_, below'⟩
  have wire := read.wire_short
  unfold wireLength at length wire
  rw [List.map_append, List.sum_append] at length
  simp only [List.map_cons, List.map_nil, List.length_nil, List.sum_cons,
    List.sum_nil] at length
  omega

/-! ### Data of a record -/

def RR.withRdata (self : RR) (rdata : Bytes) : RR :=
  { self with rdata := rdata }

@[simp] theorem RR.withRdata_toQ (rr : RR) (rdata : Bytes) :
    (rr.withRdata rdata).toQ = rr.toQ := rfl

/-- The data is there, or the packer can generate it. -/
def RR.Packable (rr : RR) : Prop :=
  rr.rdata = [] → rr.type ≠ dnsMx ∧ rr.type ≠ dnsNull ∧
    (rr.type = dnsTxt ∨ rr.type = dnsHinfo → rr.text = some [])

theorem unpackText_items {rdata : Bytes} {items : List TextItem}
    (read : unpackText rdata = .ok items) :
    (items = [] ↔ rdata = []) ∧ ∀ item ∈ items, ∃ text, item = .str text := by
  fun_induction unpackText rdata generalizing items with
  | case1 =>
      rw [Except.ok.injEq] at read
      rw [← read]
      exact ⟨by simp, fun item member => absurd member List.not_mem_nil⟩
  | case2 n rest notUtf8 => cases read
  | case3 n rest text decoded ih =>
      obtain ⟨others, readOthers, done⟩ := bind_eq_ok.mp read
      rw [Except.ok.injEq] at done
      rw [← done]
      refine ⟨by simp, ?_⟩
      intro item member
      cases member with
      | head => exact ⟨text, rfl⟩
      | tail _ behind => exact (ih readOthers).2 item behind

theorem packTextItem_str (text : PyStr) (packed : Bytes) :
    packTextItem (.str text) ≠ .ok packed := by
  intro impossible
  obtain ⟨size, _packedSize, impossible⟩ := bind_eq_ok.mp impossible
  cases impossible

theorem packRdata_kept {pointer : Nat → Except PyError Bytes} {rr : RR}
    (kept : rr.rdata ≠ []) (off : Nat) (labelPtrs : LabelPtrs) :
    packRdata pointer rr off labelPtrs = .ok (rr.rdata, labelPtrs) := by
  unfold packRdata
  rw [if_pos kept]

section Data

variable {buf : Bytes} {off : Nat} {self source : RR} {rdata : Bytes}

/-- Packing the data of a record that was read, after its bytes were replaced
by `rdata`. -/
theorem packRdata_succeeds (decodes : Decodes buf off self source)
    (short : self.rdata.length < 0x10000) (rdataShort : rdata.length < 0x10000)
    (packable : RR.Packable (source.withRdata rdata)) (start : Nat)
    {labelPtrs : LabelPtrs} (below : TableBelow labelPtrs 0xc000) :
    ∃ written labelPtrs',
      packRdata packPointer (source.withRdata rdata) start labelPtrs =
        .ok (written, labelPtrs') ∧
      written.length < 0x10000 ∧ TableBelow labelPtrs' 0xc000 := by
  by_cases kept : rdata = []
  case neg =>
    exact ⟨rdata, labelPtrs, packRdata_kept kept start labelPtrs, rdataShort,
      below⟩
  rw [kept] at packable ⊢
  obtain ⟨notMx, notNull, noText⟩ := packable rfl
  cases decodes with
  | a typed =>
      refine ⟨self.rdata, labelPtrs, ?_, short, below⟩
      simp [packRdata, RR.withRdata, typed, getAttribute]
  | @ns nsname behind typed read =>
      obtain ⟨written, labelPtrs', packed, length, below'⟩ :=
        packName_succeeds (readName_of_unpackName read) start below
      refine ⟨written, labelPtrs', ?_, by omega, below'⟩
      simp [packRdata, RR.withRdata, typed, getAttribute, dnsA, dnsNs, packed]
  | @cname cname behind typed read =>
      obtain ⟨written, labelPtrs', packed, length, below'⟩ :=
        packName_succeeds (readName_of_unpackName read) start below
      refine ⟨written, labelPtrs', ?_, by omega, below'⟩
      simp [packRdata, RR.withRdata, typed, getAttribute, dnsA, dnsNs, dnsCname,
        packed]
  | @ptr ptrname behind typed read =>
      obtain ⟨written, labelPtrs', packed, length, below'⟩ :=
        packName_succeeds (readName_of_unpackName read) start below
      refine ⟨written, labelPtrs', ?_, by omega, below'⟩
      simp [packRdata, RR.withRdata, typed, getAttribute, dnsA, dnsNs, dnsCname,
        dnsPtr, packed]
  | @soa mname rname middle behind serial refresh retry expire minimum typed
      first second numbers =>
      obtain ⟨written, labelPtrs₁, packed, length, below₁⟩ :=
        packName_succeeds (readName_of_unpackName first) start below
      obtain ⟨written', labelPtrs₂, packed', length', below₂⟩ :=
        packName_succeeds (readName_of_unpackName second)
          (start + written.length) below₁
      have fields : packFields [(4, serial), (4, refresh), (4, retry),
          (4, expire), (4, minimum)] = .ok (cut buf behind (behind + 20)) :=
        packFields_of_unpackFields numbers
      have twenty : (cut buf behind (behind + 20)).length = 20 :=
        packFields_length fields
      refine ⟨written ++ written' ++ cut buf behind (behind + 20), labelPtrs₂,
        ?_, ?_, below₂⟩
      · simp [packRdata, RR.withRdata, typed, getAttribute, dnsA, dnsNs,
          dnsCname, dnsPtr, dnsSoa, packed, packed', fields]
      · rw [List.length_append, List.length_append, twenty]
        omega
  | mx typed _number _read => exact absurd typed notMx
  | @text text typed read =>
      have empty : text = [] := Option.some.inj (noText typed)
      refine ⟨[], labelPtrs, ?_, by decide, below⟩
      rcases typed with txt | hinfo
      · simp [packRdata, RR.withRdata, txt, getAttribute, dnsA, dnsNs, dnsCname,
          dnsPtr, dnsSoa, dnsMx, dnsTxt, empty]
      · simp [packRdata, RR.withRdata, hinfo, getAttribute, dnsA, dnsNs,
          dnsCname, dnsPtr, dnsSoa, dnsMx, dnsHinfo, empty]
  | aaaa typed =>
      refine ⟨self.rdata, labelPtrs, ?_, short, below⟩
      simp [packRdata, RR.withRdata, typed, getAttribute, dnsA, dnsNs, dnsCname,
        dnsPtr, dnsSoa, dnsMx, dnsTxt, dnsHinfo, dnsAaaa]
  | null typed => exact absurd typed notNull
  | @srv srvname priority weight port behind typed numbers read =>
      obtain ⟨written, labelPtrs', packed, length, below'⟩ :=
        packName_succeeds (readName_of_unpackName read) (start + 6) below
      have fields : packFields [(2, priority), (2, weight), (2, port)] =
          .ok (self.rdata.take 6) := packFields_of_unpackFields numbers
      have six : (self.rdata.take 6).length = 6 := packFields_length fields
      refine ⟨self.rdata.take 6 ++ written, labelPtrs', ?_, ?_, below'⟩
      · simp [packRdata, RR.withRdata, typed, getAttribute, dnsA, dnsNs,
          dnsCname, dnsPtr, dnsSoa, dnsMx, dnsTxt, dnsHinfo, dnsAaaa, dnsSrv,
          packed, fields]
      · rw [List.length_append, six]
        omega
  | opt typed =>
      refine ⟨[], labelPtrs, ?_, by decide, below⟩
      simp [packRdata, RR.withRdata, typed, dnsA, dnsNs, dnsCname, dnsPtr,
        dnsSoa, dnsMx, dnsTxt, dnsHinfo, dnsAaaa, dnsSrv, dnsOpt]

theorem packable_of_type {rr : RR}
    (other : rr.type ∉ [dnsMx, dnsNull, dnsTxt, dnsHinfo]) : rr.Packable := by
  simp only [List.mem_cons, List.not_mem_nil, or_false, not_or] at other
  intro _empty
  refine ⟨other.1, other.2.1, ?_⟩
  intro text
  rcases text with txt | hinfo
  · exact absurd txt other.2.2.1
  · exact absurd hinfo other.2.2.2

theorem packable_of_packRdata {pointer : Nat → Except PyError Bytes}
    (decodes : Decodes buf off self source) {start : Nat}
    {labelPtrs : LabelPtrs} {packed : Bytes × LabelPtrs}
    (done : packRdata pointer (source.withRdata rdata) start labelPtrs =
      .ok packed) : RR.Packable (source.withRdata rdata) := by
  cases decodes with
  | a typed => exact packable_of_type (by simp [typed]; decide)
  | ns typed _ => exact packable_of_type (by simp [typed]; decide)
  | cname typed _ => exact packable_of_type (by simp [typed]; decide)
  | ptr typed _ => exact packable_of_type (by simp [typed]; decide)
  | soa typed _ _ _ => exact packable_of_type (by simp [typed]; decide)
  | mx typed _ _ =>
      intro empty
      change rdata = [] at empty
      simp [packRdata, RR.withRdata, empty, typed, dnsA, dnsNs, dnsCname,
        dnsPtr, dnsSoa, dnsMx, getAttribute, packPreference] at done
      cases done
  | @text text typed read =>
      intro empty
      change rdata = [] at empty
      refine ⟨?_, ?_, fun _ => ?_⟩
      · intro mx
        rcases typed with txt | hinfo
        · exact absurd (txt.symm.trans mx) (by decide)
        · exact absurd (hinfo.symm.trans mx) (by decide)
      · intro null
        rcases typed with txt | hinfo
        · exact absurd (txt.symm.trans null) (by decide)
        · exact absurd (hinfo.symm.trans null) (by decide)
      · have generated : ((text.mapM packTextItem) >>= fun items =>
            (.ok (items.flatten, labelPtrs) : Except PyError _)) =
              .ok packed := by
          rcases typed with txt | hinfo
          · simpa [packRdata, RR.withRdata, empty, txt, dnsA, dnsNs, dnsCname,
              dnsPtr, dnsSoa, dnsMx, dnsTxt, getAttribute] using done
          · simpa [packRdata, RR.withRdata, empty, hinfo, dnsA, dnsNs, dnsCname,
              dnsPtr, dnsSoa, dnsMx, dnsHinfo, getAttribute] using done
        cases text with
        | nil => rfl
        | cons item rest =>
            obtain ⟨content, str⟩ :=
              (unpackText_items read).2 item List.mem_cons_self
            obtain ⟨items, mapped, _done⟩ := bind_eq_ok.mp generated
            rw [List.mapM_cons] at mapped
            obtain ⟨first, packedFirst, _rest⟩ := bind_eq_ok.mp mapped
            rw [str] at packedFirst
            exact absurd packedFirst (packTextItem_str content first)
  | aaaa typed => exact packable_of_type (by simp [typed]; decide)
  | null typed =>
      intro empty
      change rdata = [] at empty
      simp [packRdata, RR.withRdata, empty, typed, dnsA, dnsNs, dnsCname,
        dnsPtr, dnsSoa, dnsMx, dnsTxt, dnsHinfo, dnsAaaa, dnsSrv, dnsOpt,
        dnsNull] at done
  | srv typed _ _ => exact packable_of_type (by simp [typed]; decide)
  | opt typed => exact packable_of_type (by simp [typed]; decide)

end Data

/-! ### Messages that were read -/

def Q.Received (q : Q) : Prop :=
  ∃ buf off next, unpackQ buf off = .ok (q, next)

/-- A record that was read, with the bytes of its data replaced or not. -/
def RR.Received (rr : RR) : Prop :=
  ∃ buf off next source, unpackRr buf off = .ok (source, next) ∧
    ∃ rdata : Bytes, rdata.length < 0x10000 ∧
      rr = source.withRdata rdata

structure DNS.Received (dns : DNS) : Prop where
  header : ∃ header, packFields
    [(2, dns.id), (2, dns.op), (2, dns.qd.length), (2, dns.an.length),
      (2, dns.ns.length), (2, dns.ar.length)] = .ok header
  questions : ∀ q ∈ dns.qd, q.Received
  records : ∀ rr ∈ dns.records, rr.Received

theorem cut_length_le (buf : Bytes) (start size : Nat) :
    (cut buf start (start + size)).length ≤ size := by
  unfold cut
  rw [List.length_take]
  omega

theorem rdata_short {buf : Bytes} {off next : Nat} {rr : RR}
    (read : unpackRr buf off = .ok (rr, next)) : rr.rdata.length < 0x10000 := by
  obtain ⟨behind, _readName, fields, data, _decodes, _stop⟩ :=
    unpackRr_reads read
  have packed := packFields_of_unpackFields fields
  have fit := (packFields_eq_ok_iff.mp packed).1 (2, rr.rlen) (by simp)
  have length := cut_length_le buf (behind + 10) rr.rlen
  rw [← data] at length
  change rr.rlen < 256 ^ 2 at fit
  omega

theorem received_of_unpackRr {buf : Bytes} {off next : Nat} {rr : RR}
    (read : unpackRr buf off = .ok (rr, next)) : rr.Received :=
  ⟨buf, off, next, rr, read, rr.rdata, rdata_short read, rfl⟩

theorem packFields_header {buf : Bytes} {dns : DNS}
    (parsed : DNS.parse buf = .ok dns) :
    12 ≤ buf.length ∧ packFields
      [(2, dns.id), (2, dns.op), (2, dns.qd.length), (2, dns.an.length),
        (2, dns.ns.length), (2, dns.ar.length)] = .ok (buf.take 12) := by
  obtain ⟨whole, fields, _⟩ := DNS.parse_eq_ok parsed
  have twelve : (buf.take 12).length = [2, 2, 2, 2, 2, 2].sum := by
    rw [List.length_take]
    simp only [List.sum_cons, List.sum_nil]
    omega
  have header := packFields_fieldValues twelve
  rw [fields] at header
  exact ⟨whole, header⟩

theorem received_of_parse {buf : Bytes} {dns : DNS}
    (parsed : DNS.parse buf = .ok dns) : dns.Received := by
  obtain ⟨_whole, header⟩ := packFields_header parsed
  obtain ⟨questions, records⟩ := read_of_parse parsed
  refine ⟨⟨_, header⟩, ?_, ?_⟩
  · intro q member
    exact ⟨buf, questions q member⟩
  · intro rr member
    obtain ⟨off, next, read⟩ := records rr member
    exact received_of_unpackRr read

/-! ### When packing succeeds -/

theorem packQ_succeeds {q : Q} (received : q.Received) (out : Bytes)
    {labelPtrs : LabelPtrs} (below : TableBelow labelPtrs 0xc000) :
    ∃ out' labelPtrs', packQ packPointer out labelPtrs q =
        .ok (out', labelPtrs') ∧ TableBelow labelPtrs' 0xc000 := by
  obtain ⟨buf, off, next, read⟩ := received
  obtain ⟨behind, readName, readFields, _stop⟩ := unpackQ_eq_ok.mp read
  obtain ⟨name, labelPtrs', packedName, _length, below'⟩ :=
    packName_succeeds (readName_of_unpackName readName) out.length below
  have packedFields : packFields [(2, q.type), (2, q.cls)] =
      .ok (cut buf behind (behind + 4)) := packFields_of_unpackFields readFields
  refine ⟨out ++ name ++ cut buf behind (behind + 4), labelPtrs', ?_, below'⟩
  simp only [packQ, packedName, ok_bind, packedFields]

theorem packRr_succeeds {rr : RR} (received : rr.Received)
    (packable : rr.Packable) (out : Bytes) {labelPtrs : LabelPtrs}
    (below : TableBelow labelPtrs 0xc000) :
    ∃ out' labelPtrs', packRr packPointer out labelPtrs rr =
        .ok (out', labelPtrs') ∧ TableBelow labelPtrs' 0xc000 := by
  obtain ⟨buf, off, next, source, read, rdata, short, same⟩ := received
  obtain ⟨name, behind, type, cls, ttl, rdlen, readName, readFields, decodes,
    _stop⟩ := unpackRr_eq_ok.mp read
  have fit := (packFields_eq_ok_iff.mp
    (packFields_of_unpackFields readFields)).1
  have shortData := cut_length_le buf (behind + 10) rdlen
  have small : rdlen < 256 ^ 2 := fit (2, rdlen) (by simp)
  have header : rr.name = name ∧ rr.type = type ∧ rr.cls = cls ∧
      rr.ttl = ttl := by
    rw [same]
    cases decodes <;> exact ⟨rfl, rfl, rfl, rfl⟩
  obtain ⟨written, labelPtrs₁, packedName, _length, below₁⟩ :=
    packName_succeeds (readName_of_unpackName readName) out.length below
  rw [same] at packable
  obtain ⟨data, labelPtrs₂, packedData, length, below₂⟩ :=
    packRdata_succeeds decodes (Nat.lt_of_le_of_lt shortData small) short
      packable (out.length + written.length + 10) below₁
  rw [← same] at packedData
  have fields : FieldsFit [(2, type), (2, cls), (4, ttl), (2, data.length)] := by
    intro field member
    simp only [List.mem_cons, List.not_mem_nil, or_false] at member
    rcases member with here | here | here | here
    · exact here ▸ fit (2, type) (by simp)
    · exact here ▸ fit (2, cls) (by simp)
    · exact here ▸ fit (4, ttl) (by simp)
    · exact here ▸ length
  obtain ⟨fieldBytes, packedFields⟩ : ∃ fieldBytes, packFields
      [(2, type), (2, cls), (4, ttl), (2, data.length)] = .ok fieldBytes :=
    ⟨_, packFields_eq_ok_iff.mpr ⟨fields, rfl⟩⟩
  refine ⟨out ++ written ++ fieldBytes ++ data, labelPtrs₂, ?_, below₂⟩
  simp only [packRr, header.1, header.2.1, header.2.2.1, header.2.2.2,
    packedName, ok_bind, packedData, packedFields]

theorem packable_of_packRr {rr : RR} (received : rr.Received)
    {pointer : Nat → Except PyError Bytes} {out : Bytes} {labelPtrs : LabelPtrs}
    {result : Bytes × LabelPtrs}
    (packed : packRr pointer out labelPtrs rr = .ok result) : rr.Packable := by
  obtain ⟨buf, off, next, source, read, rdata, _short, same⟩ := received
  obtain ⟨_, _, _, _, _, _, _, _, decodes, _⟩ := unpackRr_eq_ok.mp read
  obtain ⟨out', labelPtrs'⟩ := result
  obtain ⟨_, _, _, _, _, packedData, _, _⟩ := packRr_eq_ok packed
  rw [same] at packedData ⊢
  exact packable_of_packRdata decodes packedData

/-- `bytes(dns)` returns exactly when every record can be packed. -/
theorem DNS.Received.bytes_succeeds_iff {dns : DNS} (received : dns.Received) :
    (∃ out, dns.bytes = .ok out) ↔
      ∀ rr ∈ dns.records, rr.Packable := by
  constructor
  · intro succeeds
    obtain ⟨out, packed⟩ := succeeds
    obtain ⟨_, _, _, _, _, _, _, _, _, _, packedAn, packedNs, packedAr⟩ :=
      DNS.bytesWith_eq_ok packed
    have each : ∀ rr ∈ dns.records, ∀ out₁ labelPtrs₁ result,
        packRr packPointer out₁ labelPtrs₁ rr = .ok result → rr.Packable :=
      fun rr member _ _ _ => packable_of_packRr (received.records rr member)
    intro rr member
    rcases List.mem_append.mp member with among | inAr
    · rcases List.mem_append.mp among with inAn | inNs
      · exact writeAll_forall (fun rr inside => each rr (by simp [inside]))
          packedAn rr inAn
      · exact writeAll_forall (fun rr inside => each rr (by simp [inside]))
          packedNs rr inNs
    · exact writeAll_forall (fun rr inside => each rr (by simp [inside]))
        packedAr rr inAr
  · intro packable
    obtain ⟨header, packedHeader⟩ := received.header
    have each : ∀ rr ∈ dns.records, ∀ out₁ labelPtrs₁,
        TableBelow labelPtrs₁ 0xc000 → ∃ out₂ labelPtrs₂,
          packRr packPointer out₁ labelPtrs₁ rr = .ok (out₂, labelPtrs₂) ∧
            TableBelow labelPtrs₂ 0xc000 :=
      fun rr member out₁ _ => packRr_succeeds (received.records rr member)
        (packable rr member) out₁
    obtain ⟨out₁, labelPtrs₁, packedQd, below₁⟩ :=
      @writeAll_succeeds _ _ _ _ (fun _out table => TableBelow table 0xc000) _
        dns.qd (fun q member out₁ _ => packQ_succeeds
          (received.questions q member) out₁)
        header Dict.empty (TableBelow.empty _)
    obtain ⟨out₂, labelPtrs₂, packedAn, below₂⟩ :=
      @writeAll_succeeds _ _ _ _ (fun _out table => TableBelow table 0xc000) _
        dns.an (fun rr member => each rr (by simp [member])) out₁ labelPtrs₁
        below₁
    obtain ⟨out₃, labelPtrs₃, packedNs, below₃⟩ :=
      @writeAll_succeeds _ _ _ _ (fun _out table => TableBelow table 0xc000) _
        dns.ns (fun rr member => each rr (by simp [member])) out₂ labelPtrs₂
        below₂
    obtain ⟨out₄, labelPtrs₄, packedAr, _below₄⟩ :=
      @writeAll_succeeds _ _ _ _ (fun _out table => TableBelow table 0xc000) _
        dns.ar (fun rr member => each rr (by simp [member])) out₃ labelPtrs₃
        below₃
    refine ⟨out₄, ?_⟩
    unfold DNS.bytes DNS.bytesWith
    simp only [packedHeader, ok_bind, packedQd, packedAn, packedNs, packedAr]

/-- The types whose data is written as it stands when it is empty. -/
def bareTypes : List Nat := [dnsA, dnsTxt, dnsHinfo, dnsAaaa, dnsOpt]

/-- `pack_rdata` writes the data that was received. -/
def RR.AsItStands (rr : RR) : Prop := rr.rdata ≠ [] ∨ rr.type ∈ bareTypes

/-- Behind the header these questions and records stand up to an offset, and
each name of theirs is compressed the way `pack_name` compresses it there, with
this table in the end.  A record has to be complete without what follows it. -/
inductive LaidOut (buf : Bytes) : List Q → List RR → Nat → LabelPtrs → Prop
  | header : LaidOut buf [] [] 12 Dict.empty
  | question {qd : List Q} {q : Q} {off behind : Nat}
      {labelPtrs labelPtrs' : LabelPtrs} (front : LaidOut buf qd [] off labelPtrs)
      (read : unpackQ buf off = .ok (q, behind + 4))
      (name : packName packPointer q.name off labelPtrs =
        .ok (cut buf off behind, labelPtrs')) :
      LaidOut buf (qd ++ [q]) [] (behind + 4) labelPtrs'
  | record {qd : List Q} {records : List RR} {rr : RR} {off behind stop : Nat}
      {labelPtrs labelPtrs' : LabelPtrs}
      (front : LaidOut buf qd records off labelPtrs)
      (ends : stop = behind + 10 + rr.rlen) (inside : stop ≤ buf.length)
      (read : unpackRr (buf.take stop) off = .ok (rr, stop))
      (name : packName packPointer rr.name off labelPtrs =
        .ok (cut buf off behind, labelPtrs'))
      (stands : rr.AsItStands) :
      LaidOut buf qd (records ++ [rr]) stop labelPtrs'

/-! ### What is packed there -/

/-- A record that was read and has data, or needs none, keeps its bytes. -/
theorem packRdata_asItStands {pointer : Nat → Except PyError Bytes}
    {buf : Bytes} {start : Nat} {self rr : RR}
    (decodes : Decodes buf start self rr) (stands : rr.AsItStands) (off : Nat)
    (labelPtrs : LabelPtrs) :
    packRdata pointer rr off labelPtrs = .ok (rr.rdata, labelPtrs) := by
  by_cases kept : rr.rdata = []
  case neg => exact packRdata_kept kept off labelPtrs
  have bare : rr.type ∈ bareTypes := stands.resolve_left (not_not.mpr kept)
  cases decodes with
  | a typed =>
      change self.rdata = [] at kept
      simp [packRdata, kept, typed, getAttribute]
  | @text text typed read =>
      change self.rdata = [] at kept
      have empty : text = [] := (unpackText_items read).1.mpr kept
      rcases typed with txt | hinfo
      · simp [packRdata, kept, txt, getAttribute, dnsA, dnsNs, dnsCname, dnsPtr,
          dnsSoa, dnsMx, dnsTxt, empty]
      · simp [packRdata, kept, hinfo, getAttribute, dnsA, dnsNs, dnsCname,
          dnsPtr, dnsSoa, dnsMx, dnsHinfo, empty]
  | aaaa typed =>
      change self.rdata = [] at kept
      simp [packRdata, kept, typed, getAttribute, dnsA, dnsNs, dnsCname, dnsPtr,
        dnsSoa, dnsMx, dnsTxt, dnsHinfo, dnsAaaa]
  | opt typed =>
      simp [packRdata, kept, typed, dnsA, dnsNs, dnsCname, dnsPtr, dnsSoa,
        dnsMx, dnsTxt, dnsHinfo, dnsAaaa, dnsSrv, dnsOpt]
  | ns typed _ => exact absurd bare (by simp [typed]; decide)
  | cname typed _ => exact absurd bare (by simp [typed]; decide)
  | ptr typed _ => exact absurd bare (by simp [typed]; decide)
  | soa typed _ _ _ => exact absurd bare (by simp [typed]; decide)
  | mx typed _ _ => exact absurd bare (by simp [typed]; decide)
  | null typed => exact absurd bare (by simp [typed]; decide)
  | srv typed _ _ => exact absurd bare (by simp [typed]; decide)

section Written

variable {buf : Bytes}

theorem LaidOut.off_le {qd : List Q} {records : List RR} {off : Nat}
    {labelPtrs : LabelPtrs} (laid : LaidOut buf qd records off labelPtrs)
    (whole : 12 ≤ buf.length) : off ≤ buf.length := by
  cases laid with
  | header => exact whole
  | question _front read _name =>
      obtain ⟨behind, _readName, fields, stop⟩ := unpackQ_eq_ok.mp read
      rw [stop]
      exact fields_end rfl (by decide) fields
  | record _front _ends inside _read _name _stands => exact inside

theorem packQ_laid {q : Q} {off behind : Nat}
    {labelPtrs labelPtrs' table : LabelPtrs} {out : Bytes}
    (off_le : off ≤ buf.length)
    (read : unpackQ buf off = .ok (q, behind + 4))
    (name : packName packPointer q.name off labelPtrs =
      .ok (cut buf off behind, labelPtrs'))
    (packed : packQ lowPointer (buf.take off) labelPtrs q = .ok (out, table)) :
    out = buf.take (behind + 4) ∧ table = labelPtrs' := by
  obtain ⟨written, fields, packedName, packedFields, shape⟩ := packQ_eq_ok packed
  rw [List.length_take, Nat.min_eq_left off_le] at packedName
  have same := packName_of_low packedName name
  rw [Prod.mk.injEq] at same
  obtain ⟨behind', readName, readFields, stop⟩ := unpackQ_eq_ok.mp read
  have position : behind = behind' := Nat.add_right_cancel stop
  rw [← position] at readName readFields
  have fieldBytes : packFields [(2, q.type), (2, q.cls)] =
      .ok (cut buf behind (behind + 4)) := packFields_of_unpackFields readFields
  rw [fieldBytes, Except.ok.injEq] at packedFields
  have forward := behind_of_unpackName readName
  refine ⟨?_, same.2⟩
  rw [← shape, same.1, ← packedFields,
    take_append_cut (Nat.le_of_lt forward.1),
    take_append_cut (Nat.le_add_right _ _)]

theorem packRr_laid {rr : RR} {off behind stop : Nat}
    {labelPtrs labelPtrs' table : LabelPtrs} {out : Bytes}
    (off_le : off ≤ buf.length) (ends : stop = behind + 10 + rr.rlen)
    (inside : stop ≤ buf.length)
    (read : unpackRr (buf.take stop) off = .ok (rr, stop))
    (name : packName packPointer rr.name off labelPtrs =
      .ok (cut buf off behind, labelPtrs'))
    (stands : rr.AsItStands)
    (packed : packRr lowPointer (buf.take off) labelPtrs rr = .ok (out, table)) :
    out = buf.take stop ∧ table = labelPtrs' := by
  obtain ⟨written, labelPtrs₁, rdata, fields, packedName, packedRdata,
    packedFields, shape⟩ := packRr_eq_ok packed
  rw [List.length_take, Nat.min_eq_left off_le] at packedName
  have same := packName_of_low packedName name
  rw [Prod.mk.injEq] at same
  have whole := unpackRr_extends (List.take_prefix stop buf)
    (by rw [List.length_take]; omega) read
  obtain ⟨behind', readName, readFields, data, decodes, stop'⟩ :=
    unpackRr_reads whole
  have position : behind = behind' := by omega
  rw [← position] at readName readFields data
  rw [packRdata_asItStands decodes stands, Except.ok.injEq, Prod.mk.injEq]
    at packedRdata
  have length : rr.rdata.length = rr.rlen := by
    rw [data]
    exact cut_length (by omega)
  have fieldBytes : packFields
      [(2, rr.type), (2, rr.cls), (4, rr.ttl), (2, rr.rlen)] =
        .ok (cut buf behind (behind + 10)) :=
    packFields_of_unpackFields readFields
  rw [← packedRdata.1, length, fieldBytes, Except.ok.injEq] at packedFields
  have forward := behind_of_unpackName readName
  refine ⟨?_, ?_⟩
  · rw [← shape, same.1, ← packedFields, ← packedRdata.1, data,
      take_append_cut (Nat.le_of_lt forward.1),
      take_append_cut (Nat.le_add_right _ _),
      take_append_cut (Nat.le_add_right _ _), ends]
  · rw [← packedRdata.2]
    exact same.2

theorem LaidOut.written {qd : List Q} {records : List RR} {off : Nat}
    {labelPtrs : LabelPtrs} (laid : LaidOut buf qd records off labelPtrs)
    (whole : 12 ≤ buf.length) {out₁ out₂ : Bytes}
    {labelPtrs₁ labelPtrs₂ : LabelPtrs}
    (questions : writeAll (packQ lowPointer) (buf.take 12) Dict.empty qd =
      .ok (out₁, labelPtrs₁))
    (rest : writeAll (packRr lowPointer) out₁ labelPtrs₁ records =
      .ok (out₂, labelPtrs₂)) :
    out₂ = buf.take off ∧ labelPtrs₂ = labelPtrs := by
  induction laid generalizing out₁ labelPtrs₁ out₂ labelPtrs₂ with
  | header =>
      cases questions
      cases rest
      exact ⟨rfl, rfl⟩
  | question front read name ih =>
      rw [writeAll_append] at questions
      obtain ⟨⟨out, table⟩, before, last⟩ := bind_eq_ok.mp questions
      obtain ⟨sameOut, sameTable⟩ := ih before rfl
      obtain ⟨⟨out', table'⟩, step, done⟩ := bind_eq_ok.mp last
      cases done
      cases rest
      rw [sameOut, sameTable] at step
      exact packQ_laid (front.off_le whole) read name step
  | record front ends inside read name stands ih =>
      rw [writeAll_append] at rest
      obtain ⟨⟨out, table⟩, before, last⟩ := bind_eq_ok.mp rest
      obtain ⟨sameOut, sameTable⟩ := ih questions before
      obtain ⟨⟨out', table'⟩, step, done⟩ := bind_eq_ok.mp last
      cases done
      rw [sameOut, sameTable] at step
      exact packRr_laid (front.off_le whole) ends inside read name stands step

end Written

end DpktNg.Dns
