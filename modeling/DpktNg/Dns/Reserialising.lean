/-
A parsed message that is packed again.  Data that was received is written as it
stands, while the names around it are compressed anew; a pointer in the data
still leads where it led before.  The message comes back when such pointers
lead into the front of the message that is laid out as the packer does it.
-/

import DpktNg.Dns.Repacking
import DpktNg.Dns.MovedData

namespace DpktNg.Dns

open Library

/-! ### Data that keeps its meaning -/

/-- The data of the record behind `before` is decoded to the same after
packing: the record stands in the laid-out front, or its names are spelled in
its data up to pointers into that front. -/
inductive DNS.KeepsData (dns : DNS) (buf : Bytes) (before : List RR) (rr : RR) :
    Prop
  | inPlace {off : Nat} {labelPtrs : LabelPtrs}
      (laid : LaidOut buf dns.qd (before ++ [rr]) off labelPtrs) :
      KeepsData dns buf before rr
  | intoQuestions {qd : List Q} {off : Nat} {labelPtrs : LabelPtrs}
      (laid : LaidOut buf qd [] off labelPtrs) (front : qd <+: dns.qd)
      (inside : rr.DataInside (buf.take off)) : KeepsData dns buf before rr
  | intoRecords {records : List RR} {off : Nat} {labelPtrs : LabelPtrs}
      (laid : LaidOut buf dns.qd records off labelPtrs)
      (front : records <+: before) (inside : rr.DataInside (buf.take off)) :
      KeepsData dns buf before rr

/-- Every record with data keeps its meaning. -/
def DNS.RdataKept (dns : DNS) (buf : Bytes) : Prop :=
  ∀ before rr after, dns.records = before ++ rr :: after → rr.rdata ≠ [] →
    dns.KeepsData buf before rr

/-- No name that is packed again has an empty label. -/
structure DNS.RepackedFine (dns : DNS) : Prop where
  questions : ∀ q ∈ dns.qd, NoEmptyLabel q.name
  owners : ∀ rr ∈ dns.records, NoEmptyLabel rr.name
  generated : ∀ rr ∈ dns.records, rr.rdata = [] →
    ∀ name ∈ rr.rdataNames, NoEmptyLabel name

/-- Parsing the packed message gives the same content. -/
def DNS.ComesBack (dns : DNS) (out : Bytes) : Prop :=
  ∃ got, DNS.parse out = .ok got ∧ SameContent dns got

theorem RR.withRdata_empty {rr : RR} (empty : rr.rdata = []) :
    rr.withRdata [] = rr := by
  rw [← empty]
  rfl

theorem LaidOut.last {buf : Bytes} {qd : List Q} {records : List RR} {rr : RR}
    {stop : Nat} {labelPtrs : LabelPtrs}
    (laid : LaidOut buf qd (records ++ [rr]) stop labelPtrs) :
    ∃ off labelPtrs', LaidOut buf qd records off labelPtrs' ∧
      stop ≤ buf.length ∧ unpackRr (buf.take stop) off = .ok (rr, stop) := by
  generalize whole : records ++ [rr] = all at laid
  cases laid with
  | header => exact absurd whole (by simp)
  | question _front _read _name => exact absurd whole (by simp)
  | record front _ends inside read _name _stands =>
      obtain ⟨sameRecords, sameLast⟩ := List.append_inj' whole rfl
      rw [List.cons.injEq] at sameLast
      rw [sameRecords, sameLast.1]
      exact ⟨_, _, front, inside, read⟩

theorem dataInside_bare {rr : RR} (bare : rr.type ∈ bareTypes) (start : Bytes) :
    rr.DataInside start := by
  unfold bareTypes at bare
  simp only [List.mem_cons, List.not_mem_nil, or_false] at bare
  have other : rr.type ∉ [dnsNs, dnsCname, dnsPtr, dnsSoa, dnsMx, dnsSrv] := by
    rcases bare with typed | typed | typed | typed | typed <;> rw [typed] <;>
      decide
  simp only [List.mem_cons, List.not_mem_nil, or_false, not_or] at other
  obtain ⟨notNs, notCname, notPtr, notSoa, notMx, notSrv⟩ := other
  refine ⟨?_, fun typed => absurd typed notSoa,
    fun typed => absurd typed notMx, fun typed => absurd typed notSrv⟩
  intro typed
  rcases mem_targetTypes.mp typed with ns | cname | ptr
  · exact absurd ns notNs
  · exact absurd cname notCname
  · exact absurd ptr notPtr

/-! ### Records that come back -/

section Steps

variable {buf out out' : Bytes} {off next : Nat} {rr : RR}
  {labelPtrs labelPtrs' : LabelPtrs}

theorem packRr_asItStands (read : unpackRr buf off = .ok (rr, next))
    (stands : rr.AsItStands)
    (packed : packRr lowPointer out labelPtrs rr = .ok (out', labelPtrs')) :
    ∃ name fields,
      packName lowPointer rr.name out.length labelPtrs =
        .ok (name, labelPtrs') ∧
      out ++ name ++ fields ++ rr.rdata = out' := by
  obtain ⟨name, labelPtrs₁, rdata, fields, packedName, packedRdata, _fields,
    shape⟩ := packRr_eq_ok packed
  obtain ⟨_, _, _, _, decodes, _⟩ := unpackRr_reads read
  rw [packRdata_asItStands decodes stands, Except.ok.injEq, Prod.mk.injEq]
    at packedRdata
  rw [← packedRdata.1] at shape
  rw [packedRdata.2] at packedName
  exact ⟨name, fields, packedName, shape⟩

theorem packRr_keepsTable (read : unpackRr buf off = .ok (rr, next))
    (fine : NoEmptyLabel rr.name) (stands : rr.AsItStands)
    (table : TableOk out labelPtrs)
    (packed : packRr lowPointer out labelPtrs rr = .ok (out', labelPtrs')) :
    TableOk out' labelPtrs' := by
  obtain ⟨name, fields, packedName, shape⟩ :=
    packRr_asItStands read stands packed
  have carried : CarriedName rr.name := (ownerName_read read).carried fine
  obtain ⟨table', _reads⟩ := packName_readsBack carried table packedName
  rw [← shape, List.append_assoc (out ++ name)]
  exact table'.extend (List.prefix_append _ _)

theorem packRr_inPlace {qd : List Q} {before : List RR} {stop : Nat}
    {table : LabelPtrs}
    (laid : LaidOut buf qd (before ++ [rr]) stop table)
    (whole : 12 ≤ buf.length) {out₀ : Bytes} {labelPtrs₀ : LabelPtrs}
    (questions : writeAll (packQ lowPointer) (buf.take 12) Dict.empty qd =
      .ok (out₀, labelPtrs₀))
    (reached : writeAll (packRr lowPointer) out₀ labelPtrs₀ before =
      .ok (out, labelPtrs))
    (packed : packRr lowPointer out labelPtrs rr = .ok (out', labelPtrs')) :
    ReadAs unpackRr (SameDecoded rr) out out' := by
  obtain ⟨start, table', front, inside, read⟩ := laid.last
  have both : writeAll (packRr lowPointer) out₀ labelPtrs₀ (before ++ [rr]) =
      .ok (out', labelPtrs') := by
    simp only [writeAll_append, reached, ok_bind, writeAll, packed]
  obtain ⟨sameOut, _sameTable⟩ := front.written whole questions reached
  obtain ⟨sameOut', _sameTable'⟩ := laid.written whole questions both
  have start_le : start ≤ buf.length := front.off_le whole
  refine ⟨packRr_begins packed, ?_⟩
  intro full within
  rw [sameOut'] at within
  refine ⟨rr, ?_, rfl⟩
  rw [sameOut, sameOut', List.length_take, List.length_take,
    Nat.min_eq_left start_le, Nat.min_eq_left inside]
  exact unpackRr_extends within (by rw [List.length_take]; omega) read

/-- A record is decoded to the same wherever it stands behind `start`, when its
data leads nowhere else. -/
theorem packRr_moved {start : Bytes} (read : unpackRr buf off = .ok (rr, next))
    (fine : NoEmptyLabel rr.name) (stands : rr.AsItStands)
    (inside : rr.DataInside start) (begins : start <+: buf)
    (behindStart : start <+: out) (table : TableOk out labelPtrs)
    (packed : packRr lowPointer out labelPtrs rr = .ok (out', labelPtrs')) :
    TableOk out' labelPtrs' ∧ ReadAs unpackRr (SameDecoded rr) out out' := by
  have keeps := packRr_keepsTable read fine stands table packed
  have carried : CarriedName rr.name := (ownerName_read read).carried fine
  apply packRr_reads carried table packed
  intro front rdata labelPtrs₁ shape _table₁ packedRdata
  refine ⟨keeps, ?_⟩
  intro full within name same
  obtain ⟨behind, _readName, readFields, data, decodes, _stop⟩ :=
    unpackRr_reads read
  rw [packRdata_asItStands decodes stands, Except.ok.injEq, Prod.mk.injEq]
    at packedRdata
  rw [← packedRdata.1] at shape ⊢
  obtain ⟨written, fields, _packedName, parts⟩ :=
    packRr_asItStands read stands packed
  have sameFront : front = out ++ written ++ fields :=
    List.append_cancel_right (shape.trans parts.symm)
  have outFront : out <+: front := by
    rw [sameFront, List.append_assoc]
    exact List.prefix_append _ _
  have reaches : behind + 10 ≤ buf.length :=
    fields_end rfl (by decide) readFields
  have length : (buf.take (behind + 10)).length = behind + 10 := by
    rw [List.length_take]
    omega
  have here : buf.take (behind + 10) ++ rr.rdata <+: buf := by
    rw [data, take_append_cut (Nat.le_add_right _ _)]
    exact List.take_prefix _ _
  rw [← shape] at within
  rw [← length] at decodes
  exact decodes_moved decodes inside here begins within
    (behindStart.trans outFront) same

theorem generated_of_empty {start : Nat} {self : RR}
    (decodes : Decodes buf start self rr) (empty : rr.rdata = [])
    (packable : rr.Packable) (other : rr.type ∉ bareTypes) :
    rr.type ∈ generatedTypes := by
  obtain ⟨notMx, notNull, _noText⟩ := packable empty
  cases decodes with
  | text typed _ =>
      rcases typed with txt | hinfo
      · exact absurd (by simp [txt, bareTypes]) other
      · exact absurd (by simp [hinfo, bareTypes]) other
  | mx typed _ _ => exact absurd typed notMx
  | null typed => exact absurd typed notNull
  | opt typed => exact absurd (by simp [typed, bareTypes]) other
  | a typed => simp [typed, generatedTypes]
  | ns typed _ => simp [typed, generatedTypes]
  | cname typed _ => simp [typed, generatedTypes]
  | ptr typed _ => simp [typed, generatedTypes]
  | soa typed _ _ _ => simp [typed, generatedTypes]
  | aaaa typed => simp [typed, generatedTypes]
  | srv typed _ _ => simp [typed, generatedTypes]

/-- A record without data comes back, when its names are fine. -/
theorem packRr_empty (read : unpackRr buf off = .ok (rr, next))
    (empty : rr.rdata = []) (packable : rr.Packable)
    (fine : NoEmptyLabel rr.name)
    (namesFine : ∀ name ∈ rr.rdataNames, NoEmptyLabel name)
    (table : TableOk out labelPtrs)
    (packed : packRr lowPointer out labelPtrs rr = .ok (out', labelPtrs')) :
    TableOk out' labelPtrs' ∧ ReadAs unpackRr (SameDecoded rr) out out' := by
  by_cases bare : rr.type ∈ bareTypes
  · exact packRr_moved read fine (Or.inr bare) (dataInside_bare bare [])
      List.nil_prefix List.nil_prefix table packed
  · obtain ⟨_, _, _, _, decodes, _⟩ := unpackRr_reads read
    have generated := generated_of_empty decodes empty packable bare
    have back := packRr_regenerates read generated fine namesFine
    rw [RR.withRdata_empty empty] at back
    exact back out labelPtrs out' labelPtrs' table packed

end Steps

/-! ### Messages that come back -/

section Messages

variable {buf out : Bytes} {dns : DNS}

/-- The front that the pointers of a record lead to has been reproduced when the
record is packed. -/
theorem DNS.KeepsData.readsBack {before : List RR} {rr : RR}
    (keeps : dns.KeepsData buf before rr) (whole : 12 ≤ buf.length)
    {off next : Nat} (read : unpackRr buf off = .ok (rr, next))
    (kept : rr.rdata ≠ []) (fine : NoEmptyLabel rr.name)
    {out₀ out₁ out₂ : Bytes} {labelPtrs₀ labelPtrs₁ labelPtrs₂ : LabelPtrs}
    (questions : writeAll (packQ lowPointer) (buf.take 12) Dict.empty dns.qd =
      .ok (out₀, labelPtrs₀))
    (reached : writeAll (packRr lowPointer) out₀ labelPtrs₀ before =
      .ok (out₁, labelPtrs₁))
    (table : TableOk out₁ labelPtrs₁)
    (packed : packRr lowPointer out₁ labelPtrs₁ rr = .ok (out₂, labelPtrs₂)) :
    TableOk out₂ labelPtrs₂ ∧ ReadAs unpackRr (SameDecoded rr) out₁ out₂ := by
  have stands : rr.AsItStands := Or.inl kept
  have growsQd : ∀ q : Q, ∀ out₁ labelPtrs₁ out₂ labelPtrs₂,
      packQ lowPointer out₁ labelPtrs₁ q = .ok (out₂, labelPtrs₂) →
        out₁ <+: out₂ := fun _q _ _ _ _ step => packQ_begins step
  have growsRr : ∀ rr : RR, ∀ out₁ labelPtrs₁ out₂ labelPtrs₂,
      packRr lowPointer out₁ labelPtrs₁ rr = .ok (out₂, labelPtrs₂) →
        out₁ <+: out₂ := fun _rr _ _ _ _ step => packRr_begins step
  cases keeps with
  | inPlace laid =>
      exact ⟨packRr_keepsTable read fine stands table packed,
        packRr_inPlace laid whole questions reached packed⟩
  | @intoQuestions qd stop _ laid front inside =>
      obtain ⟨rest, split⟩ := front
      rw [← split, writeAll_append] at questions
      obtain ⟨⟨middle, between⟩, first, last⟩ := bind_eq_ok.mp questions
      obtain ⟨sameMiddle, _⟩ := laid.written whole first rfl
      have begins₀ : middle <+: out₀ :=
        writeAll_begins (fun q _ => growsQd q) last
      have begins₁ : out₀ <+: out₁ :=
        writeAll_begins (fun rr _ => growsRr rr) reached
      have behindStart : buf.take stop <+: out₁ := by
        rw [← sameMiddle]
        exact begins₀.trans begins₁
      exact packRr_moved read fine stands inside (List.take_prefix _ _)
        behindStart table packed
  | @intoRecords records stop _ laid front inside =>
      obtain ⟨rest, split⟩ := front
      rw [← split, writeAll_append] at reached
      obtain ⟨⟨middle, between⟩, first, last⟩ := bind_eq_ok.mp reached
      obtain ⟨sameMiddle, _⟩ := laid.written whole questions first
      have begins₁ : middle <+: out₁ :=
        writeAll_begins (fun rr _ => growsRr rr) last
      have behindStart : buf.take stop <+: out₁ := by
        rw [← sameMiddle]
        exact begins₁
      exact packRr_moved read fine stands inside (List.take_prefix _ _)
        behindStart table packed

theorem comesBack_of_kept (parsed : DNS.parse buf = .ok dns)
    (packed : dns.bytes = .ok out) (fit : dns.PointersFit)
    (kept : dns.RdataKept buf) (fine : dns.RepackedFine) :
    dns.ComesBack out := by
  obtain ⟨questions, records⟩ := read_of_parse parsed
  obtain ⟨whole, packedBefore⟩ := packFields_header parsed
  have packable := (received_of_parse parsed).bytes_succeeds_iff.mp ⟨out, packed⟩
  have packedLow : dns.bytesWith lowPointer = .ok out :=
    fit.packed packed
  have carried : ∀ q ∈ dns.qd, CarriedName q.name := by
    intro q member
    obtain ⟨off, next, read⟩ := questions q member
    obtain ⟨_, readName, _⟩ := unpackQ_eq_ok.mp read
    exact (readName_of_unpackName readName).carried (fine.questions q member)
  obtain ⟨got, parsedGot, id, op, qd, an, ns, ar⟩ :=
    @parse_of_reached _ SameDecoded _ packedLow carried
    (fun header packedHeader out₀ labelPtrs₀ packedQd before rr after split
      out₁ labelPtrs₁ reached table out₂ labelPtrs₂ step => by
        have member : rr ∈ dns.records := by
          unfold DNS.records
          rw [split]
          exact List.mem_append_right _ List.mem_cons_self
        obtain ⟨off, next, read⟩ := records rr member
        have owner := fine.owners rr member
        rw [packedBefore, Except.ok.injEq] at packedHeader
        rw [← packedHeader] at packedQd
        by_cases empty : rr.rdata = []
        · exact packRr_empty read empty (packable rr member) owner
            (fine.generated rr member empty) table step
        · exact (kept before rr after split empty).readsBack whole read empty
            owner packedQd reached table step)
  exact ⟨got, parsedGot, ⟨id, op, qd, an, ns, ar⟩⟩

theorem rdataNames_bare {rr : RR} (bare : rr.type ∈ bareTypes) :
    rr.rdataNames = [] := by
  unfold bareTypes at bare
  simp only [List.mem_cons, List.not_mem_nil, or_false] at bare
  unfold RR.rdataNames
  rcases bare with typed | typed | typed | typed | typed <;> rw [typed] <;> rfl

theorem fine_of_comesBack (parsed : DNS.parse buf = .ok dns)
    (packed : dns.bytes = .ok out) (fit : dns.PointersFit)
    (comesBack : dns.ComesBack out) : dns.RepackedFine := by
  obtain ⟨_questions, records⟩ := read_of_parse parsed
  obtain ⟨got, parsedGot, same⟩ := comesBack
  have received := received_of_parse parsed
  have packable := received.bytes_succeeds_iff.mp ⟨out, packed⟩
  have packedLow : dns.bytesWith lowPointer = .ok out :=
    fit.packed packed
  obtain ⟨fineQd, fineRecords⟩ := @good_of_parse dns got out SameDecoded
    (fun rr => NoEmptyLabel rr.name ∧
      (rr.rdata = [] → ∀ name ∈ rr.rdataNames, NoEmptyLabel name))
    packedLow parsedGot same.qd same.an same.ns same.ar received.questions
    (fun rr member out₁ labelPtrs₁ out₂ labelPtrs₂ found next table step within
      readBack sameRr => by
        obtain ⟨off, stop, read⟩ := records rr member
        by_cases stands : rr.AsItStands
        · obtain ⟨owner, position, _⟩ := packRr_found rr (ownerName_read read)
            table step within readBack (sameName_of_decoded sameRr)
          refine ⟨⟨owner, ?_⟩, packRr_keepsTable read owner stands table step,
            position⟩
          intro empty name among
          have bare := stands.resolve_left (not_not.mpr empty)
          rw [rdataNames_bare bare] at among
          cases among
        · unfold RR.AsItStands at stands
          rw [not_or, not_not] at stands
          obtain ⟨_, _, _, _, decodes, _⟩ := unpackRr_reads read
          have generated := generated_of_empty decodes stands.1
            (packable rr member) stands.2
          rw [← RR.withRdata_empty stands.1] at step sameRr
          obtain ⟨fine, table', position⟩ := packRr_regenerated read generated
            table step within readBack sameRr
          exact ⟨⟨fine.1, fun _empty => fine.2⟩, table', position⟩)
  exact ⟨fineQd, fun rr member => (fineRecords rr member).1,
    fun rr member => (fineRecords rr member).2⟩

/-- A message that comes back has no empty label in a name that is packed again;
without one it comes back if all data keeps its meaning. -/
theorem reserialised (parsed : DNS.parse buf = .ok dns)
    (packed : dns.bytes = .ok out) (fit : dns.PointersFit) :
    (dns.ComesBack out → dns.RepackedFine) ∧
      (dns.RdataKept buf → dns.RepackedFine → dns.ComesBack out) :=
  ⟨fine_of_comesBack parsed packed fit, comesBack_of_kept parsed packed fit⟩

end Messages

/-! ### A referral with two equal questions -/

/-- Two questions for `a`, both spelled out, and a name server record for `b`
with four bytes of data. -/
def referralFront : Bytes :=
  [0, 7, 0x81, 0x80, 0, 2, 0, 1, 0, 0, 0, 0] ++ [1, 0x61, 0, 0, 1, 0, 1] ++
    [1, 0x61, 0, 0, 1, 0, 1] ++ ([1, 0x62, 0] ++ [0, 2, 0, 1, 0, 0, 0, 60, 0, 4])

/-- The server is `c` in front of the name at an offset. -/
def referralData (target : UInt8) : Bytes := [1, 0x63, 0xc0, target]

def referralRecord (target : UInt8) (server : PyStr) : RR :=
  { name := ['b'], type := dnsNs, ttl := 60, rdata := referralData target
    nsname := server }

def referral (target : UInt8) (server : PyStr) : DNS where
  id := 7
  op := 0x8180
  qd := [{ name := ['a'] }, { name := ['a'] }]
  an := [referralRecord target server]

section Referral

variable {target : UInt8} {server : PyStr} {behind : Nat}

theorem referral_names :
    unpackName referralFront 12 = .ok (['a'], 15) ∧
      unpackName referralFront 19 = .ok (['a'], 22) ∧
      unpackName referralFront 26 = .ok (['b'], 29) := by
  have first : Spells (cellAt referralFront) 12 12 [[0x61]] 15 :=
    .item (show cellAt referralFront 12 = some (.item [0x61] 14) from rfl)
      (.stop rfl)
  have second : Spells (cellAt referralFront) 19 19 [[0x61]] 22 :=
    .item (show cellAt referralFront 19 = some (.item [0x61] 21) from rfl)
      (.stop rfl)
  have owner : Spells (cellAt referralFront) 26 26 [[0x62]] 29 :=
    .item (show cellAt referralFront 26 = some (.item [0x62] 28) from rfl)
      (.stop rfl)
  exact ⟨unpackName_of_spells rfl (by decide) first,
    unpackName_of_spells rfl (by decide) second,
    unpackName_of_spells rfl (by decide) owner⟩

theorem referral_question :
    unpackQ (referralFront ++ referralData target) 12 =
      .ok ({ name := ['a'] }, 19) := by
  have within : referralFront <+: referralFront ++ referralData target :=
    List.prefix_append _ _
  exact unpackQ_eq_ok.mpr ⟨15, unpackName_extends within referral_names.1,
    unpackFields_extends within rfl (by decide) rfl, rfl⟩

theorem referral_parse
    (read : unpackName (referralFront ++ referralData target) 39 =
      .ok (server, behind)) :
    DNS.parse (referralFront ++ referralData target) =
      .ok (referral target server) := by
  obtain ⟨_nameFirst, nameSecond, nameOwner⟩ := referral_names
  have within : referralFront <+: referralFront ++ referralData target :=
    List.prefix_append _ _
  have second : unpackQ (referralFront ++ referralData target) 19 =
      .ok ({ name := ['a'] }, 26) :=
    unpackQ_eq_ok.mpr ⟨22, unpackName_extends within nameSecond,
      unpackFields_extends within rfl (by decide) rfl, rfl⟩
  have record : unpackRr (referralFront ++ referralData target) 26 =
      .ok (referralRecord target server, 43) :=
    unpackRr_eq_ok.mpr ⟨['b'], 29, dnsNs, 1, 60, 4,
      unpackName_extends within nameOwner,
      unpackFields_extends within rfl (by decide) rfl,
      .ns rfl read, rfl⟩
  have questions : readMany unpackQ (referralFront ++ referralData target) 12 2 =
      .ok ([{ name := ['a'] }, { name := ['a'] }], 26) := by
    simp only [readMany, referral_question, ok_bind, second]
  have records : readMany unpackRr (referralFront ++ referralData target) 26 1 =
      .ok ([referralRecord target server], 43) := by
    simp only [readMany, record, ok_bind]
  have none : readMany unpackRr (referralFront ++ referralData target) 43 0 =
      .ok ([], 43) := rfl
  apply packetInit_eq_ok.mpr
  have split : takeHeader 12 (referralFront ++ referralData target) = .ok
      ([0, 7, 0x81, 0x80, 0, 2, 0, 1, 0, 0, 0, 0],
        (referralFront ++ referralData target).drop 12) := rfl
  have fields : unpackFields [2, 2, 2, 2, 2, 2]
      [0, 7, 0x81, 0x80, 0, 2, 0, 1, 0, 0, 0, 0] =
        .ok [7, 0x8180, 2, 1, 0, 0] := rfl
  simp only [DNS.unpack, split, ok_bind, fields, questions, records, none]
  rfl

end Referral

/-- The bytes that the packer writes in front of the data: the name of the second
question becomes a pointer. -/
def referralPacked : Bytes :=
  [0, 7, 0x81, 0x80, 0, 2, 0, 1, 0, 0, 0, 0] ++ [1, 0x61, 0, 0, 1, 0, 1] ++
    [0xc0, 12, 0, 1, 0, 1] ++ ([1, 0x62, 0] ++ [0, 2, 0, 1, 0, 0, 0, 60, 0, 4])

/-- The server is `c.a`, with a pointer to the first question, which stays. -/
theorem questionReferral_comesBack :
    (referral 12 "c.a".toList).ComesBack
      (referralPacked ++ referralData 12) := by
  have start : Spells (cellAt (referralFront.take 19)) 12 12 [[0x61]] 15 :=
    .item (show cellAt (referralFront.take 19) 12 =
        some (.item [0x61] 14) from rfl) (.stop rfl)
  have inside : SpellsInto (cellAt (referralData 12))
      (cellAt (referralFront.take 19)) 0 [[0x63], [0x61]] 4 :=
    .item (show cellAt (referralData 12) 0 = some (.item [0x63] 2) from rfl)
      (.jump (show cellAt (referralData 12) 2 = some (.jump 12 4) from rfl)
        start)
  have prefixed : referralFront.take 19 <+: referralFront ++ referralData 12 :=
    (List.take_prefix _ _).trans (List.prefix_append _ _)
  have read : unpackName (referralFront ++ referralData 12) 39 =
      .ok ("c.a".toList, 43) :=
    unpackName_eq_ok.mpr ⟨[[0x63], [0x61]], rfl, by decide,
      (spells_moved inside List.prefix_rfl prefixed).raise (by decide)⟩
  have parsed := referral_parse read
  have laid : LaidOut (referralFront ++ referralData 12) ([] ++ [{ name := ['a'] }])
      [] 19 (Dict.empty.set [0x41, 0x2e] 12) :=
    .question .header referral_question rfl
  have kept : (referral 12 "c.a".toList).RdataKept
      (referralFront ++ referralData 12) := by
    intro before rr after split _kept
    have single : rr = referralRecord 12 "c.a".toList := by
      have member : rr ∈ (referral 12 "c.a".toList).records := by
        rw [split]
        exact List.mem_append_right _ List.mem_cons_self
      exact List.mem_singleton.mp member
    rw [single]
    exact .intoQuestions laid ⟨[{ name := ['a'] }], rfl⟩
      ⟨fun _ => ⟨4, _, inside⟩, fun typed => absurd typed (by decide),
        fun typed => absurd typed (by decide),
        fun typed => absurd typed (by decide)⟩
  have packed : (referral 12 "c.a".toList).bytes =
      .ok (referralPacked ++ referralData 12) := by
    decide +kernel
  have fit : (referral 12 "c.a".toList).PointersFit := by
    unfold DNS.PointersFit
    decide +kernel
  have fine : (referral 12 "c.a".toList).RepackedFine := by
    constructor <;> decide +kernel
  exact (reserialised parsed packed fit).2 kept fine

theorem referralPacked_names :
    unpackName referralPacked 12 = .ok (['a'], 15) ∧
      unpackName referralPacked 19 = .ok (['a'], 21) ∧
      unpackName referralPacked 25 = .ok (['b'], 28) := by
  have first : Spells (cellAt referralPacked) 12 12 [[0x61]] 15 :=
    .item (show cellAt referralPacked 12 = some (.item [0x61] 14) from rfl)
      (.stop rfl)
  have second : Spells (cellAt referralPacked) 19 19 [[0x61]] 21 :=
    .jump (show cellAt referralPacked 19 = some (.jump 12 21) from rfl)
      (by decide) first
  have owner : Spells (cellAt referralPacked) 25 25 [[0x62]] 28 :=
    .item (show cellAt referralPacked 25 = some (.item [0x62] 27) from rfl)
      (.stop rfl)
  exact ⟨unpackName_of_spells rfl (by decide) first,
    unpackName_of_spells rfl (by decide) second,
    unpackName_of_spells rfl (by decide) owner⟩

/-- The pointer to the name of the record leads into its label after packing. -/
theorem ownerReferral_misread (name : PyStr) (behind : Nat) :
    unpackName (referralPacked ++ referralData 26) 38 ≠ .ok (name, behind) := by
  intro read
  obtain ⟨labels, _text, _short, cells⟩ := unpackName_eq_ok.mp read
  have label : cellAt (referralPacked ++ referralData 26) 38 =
      some (.item [0x63] 40) := rfl
  have pointer : cellAt (referralPacked ++ referralData 26) 40 =
      some (.jump 26 42) := rfl
  have inLabel : cellAt (referralPacked ++ referralData 26) 26 = none := rfl
  cases cells with
  | stop at_cell => rw [label] at at_cell; cases at_cell
  | jump at_cell _ _ => rw [label] at at_cell; cases at_cell
  | item at_cell rest =>
      rw [label] at at_cell
      cases at_cell
      cases rest with
      | stop at_cell => rw [pointer] at at_cell; cases at_cell
      | item at_cell _ => rw [pointer] at at_cell; cases at_cell
      | jump at_cell _ rest =>
          rw [pointer] at at_cell
          cases at_cell
          exact rest.present inLabel

theorem ownerReferral_record (rr : RR) (next : Nat) :
    unpackRr (referralPacked ++ referralData 26) 25 ≠ .ok (rr, next) := by
  intro read
  have within : referralPacked <+: referralPacked ++ referralData 26 :=
    List.prefix_append _ _
  obtain ⟨name, behind, type, cls, ttl, rdlen, readName, readFields, decodes,
    _stop⟩ := unpackRr_eq_ok.mp read
  rw [unpackName_extends within referralPacked_names.2.2] at readName
  cases readName
  have fields : unpackFields [2, 2, 4, 2]
      (cut (referralPacked ++ referralData 26) 28 (28 + 10)) =
        .ok [dnsNs, 1, 60, 4] := rfl
  rw [fields] at readFields
  cases readFields
  obtain ⟨_, _, _, readTarget, _⟩ := decodes_target decodes
    (mem_targetTypes.mpr (Or.inl rfl))
  exact ownerReferral_misread _ _ readTarget

/-- The server is `c.b`, with a pointer to the name of the record.  That name
moves, and the packed message is no longer parsed. -/
theorem ownerReferral_is_lost :
    ¬∀ buf dns out, DNS.parse buf = .ok dns → dns.bytes = .ok out →
      ∃ got, DNS.parse out = .ok got ∧ SameContent dns got := by
  intro claimed
  have start : Spells (cellAt referralFront) 26 26 [[0x62]] 29 :=
    .item (show cellAt referralFront 26 = some (.item [0x62] 28) from rfl)
      (.stop rfl)
  have inside : SpellsInto (cellAt (referralData 26)) (cellAt referralFront) 0
      [[0x63], [0x62]] 4 :=
    .item (show cellAt (referralData 26) 0 = some (.item [0x63] 2) from rfl)
      (.jump (show cellAt (referralData 26) 2 = some (.jump 26 4) from rfl)
        start)
  have read : unpackName (referralFront ++ referralData 26) 39 =
      .ok ("c.b".toList, 43) :=
    unpackName_eq_ok.mpr ⟨[[0x63], [0x62]], rfl, by decide,
      spells_moved inside List.prefix_rfl (List.prefix_append _ _)⟩
  obtain ⟨got, parsed, _same⟩ := claimed _ _ (referralPacked ++ referralData 26)
    (referral_parse read) rfl
  obtain ⟨_whole, counts, off₁, off₂, _, _, readQd, readAn, _, _⟩ :=
    DNS.parse_eq_ok parsed
  have values : fieldValues [2, 2, 2, 2, 2, 2]
      ((referralPacked ++ referralData 26).take 12) =
        [7, 0x8180, 2, 1, 0, 0] := rfl
  rw [values] at counts
  simp only [List.cons.injEq, and_true] at counts
  obtain ⟨_, _, two, one, _⟩ := counts
  have within : referralPacked <+: referralPacked ++ referralData 26 :=
    List.prefix_append _ _
  have first : unpackQ (referralPacked ++ referralData 26) 12 =
      .ok ({ name := ['a'] }, 19) :=
    unpackQ_eq_ok.mpr ⟨15, unpackName_extends within referralPacked_names.1,
      rfl, rfl⟩
  have second : unpackQ (referralPacked ++ referralData 26) 19 =
      .ok ({ name := ['a'] }, 25) :=
    unpackQ_eq_ok.mpr ⟨21, unpackName_extends within referralPacked_names.2.1,
      rfl, rfl⟩
  rw [← two] at readQd
  simp only [readMany, first, second, ok_bind, Except.ok.injEq, Prod.mk.injEq]
    at readQd
  rw [← one, ← readQd.2, readMany] at readAn
  obtain ⟨⟨rr, next⟩, record, _rest⟩ := bind_eq_ok.mp readAn
  exact ownerReferral_record rr next record

end DpktNg.Dns
