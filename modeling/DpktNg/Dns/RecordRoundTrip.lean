/-
Questions and resource records are read back as they were packed, with their
names up to ASCII case.  A record's data may hold names as well, and these go
through the same table.
-/

import DpktNg.Dns.Message
import DpktNg.Dns.NameRoundTrip

namespace DpktNg.Dns

open Library

/-! ### What a record says -/

/-- The typed fields of a record's data, with names up to case and without the
preference of an MX record. -/
inductive TypedRdata where
  | address (ip : Option Bytes)
  | name (name : Option PyStr)
  | soa (mname rname : Option PyStr)
      (serial refresh retry expire minimum : Option Nat)
  | srv (priority weight port : Option Nat) (srvname : Option PyStr)
  | other
deriving DecidableEq, Repr

def RR.typedRdata (self : RR) : TypedRdata :=
  if self.type = dnsA then .address self.ip
  else if self.type = dnsNs then .name (self.nsname.map upToCase)
  else if self.type = dnsCname then .name (self.cname.map upToCase)
  else if self.type = dnsPtr then .name (self.ptrname.map upToCase)
  else if self.type = dnsSoa then
    .soa (self.mname.map upToCase) (self.rname.map upToCase) self.serial
      self.refresh self.retry self.expire self.minimum
  else if self.type = dnsMx then .name (self.mxname.map upToCase)
  else if self.type = dnsAaaa then .address self.ip6
  else if self.type = dnsSrv then
    .srv self.priority self.weight self.port (self.srvname.map upToCase)
  else .other

/-- The names that a record's data is made from. -/
def RR.rdataNames (self : RR) : List PyStr :=
  if self.type = dnsNs then self.nsname.toList
  else if self.type = dnsCname then self.cname.toList
  else if self.type = dnsPtr then self.ptrname.toList
  else if self.type = dnsSoa then self.mname.toList ++ self.rname.toList
  else if self.type = dnsMx then self.mxname.toList
  else if self.type = dnsSrv then self.srvname.toList
  else []

def SameQ (sent got : Q) : Prop :=
  SameName sent.name got.name ∧ got.type = sent.type ∧ got.cls = sent.cls

def SameRr (sent got : RR) : Prop :=
  SameQ sent.toQ got.toQ ∧ got.ttl = sent.ttl ∧
    got.typedRdata = sent.typedRdata

def typedTypes : List Nat :=
  [dnsA, dnsNs, dnsCname, dnsPtr, dnsSoa, dnsMx, dnsAaaa, dnsSrv]

/-- A record of a type with typed data, from which the data is generated. -/
structure RR.Generated (rr : RR) : Prop where
  typed : rr.type ∈ typedTypes
  empty : rr.rdata = []
  name : ValidName rr.name
  names : ∀ name ∈ rr.rdataNames, ValidName name

theorem getAttribute_eq_ok {α : Type} {attribute_ : Option α} {value : α} :
    getAttribute attribute_ = .ok value ↔ attribute_ = some value := by
  cases attribute_ with
  | none =>
      constructor
      · intro impossible
        cases impossible
      · intro impossible
        cases impossible
  | some present => rw [getAttribute, Except.ok.injEq, Option.some.injEq]

/-- The data packed behind `front` can be read there into a record that has
only its header fields. -/
structure RdataReads (front : Bytes) (sent : RR) (rdata : Bytes)
    (labelPtrs : LabelPtrs) : Prop where
  table : TableOk (front ++ rdata) labelPtrs
  reads : ∀ full, front ++ rdata <+: full → ∀ fresh : RR,
    fresh.type = sent.type → fresh.rdata = rdata →
      ∃ got, unpackRdata fresh full front.length = .ok got ∧
        got.typedRdata = sent.typedRdata ∧ got.toQ = fresh.toQ ∧
        got.ttl = fresh.ttl

/-! ### Generated data of several fields -/

section Generating

variable {pointer : Nat → Except PyError Bytes} {off : Nat} {rr : RR}
  {labelPtrs : LabelPtrs}

theorem packRdata_srv (typed : rr.type = dnsSrv) (empty : rr.rdata = []) :
    packRdata pointer rr off labelPtrs =
      getAttribute rr.priority >>= fun priority =>
        getAttribute rr.weight >>= fun weight =>
          getAttribute rr.port >>= fun port =>
            packFields [(2, priority), (2, weight), (2, port)] >>=
              fun numbers => getAttribute rr.srvname >>= fun name =>
                packName pointer name (off + 6) labelPtrs >>=
                  fun packed => .ok (numbers ++ packed.1, packed.2) := by
  simp [packRdata, empty, typed, dnsA, dnsNs, dnsCname, dnsPtr, dnsSoa, dnsMx,
    dnsTxt, dnsHinfo, dnsAaaa, dnsSrv]

theorem packRdata_soa (typed : rr.type = dnsSoa) (empty : rr.rdata = []) :
    packRdata pointer rr off labelPtrs =
      getAttribute rr.mname >>= fun mname =>
        packName pointer mname off labelPtrs >>= fun first =>
          getAttribute rr.rname >>= fun rname =>
            packName pointer rname (off + first.1.length) first.2 >>=
                fun second =>
              getAttribute rr.serial >>= fun serial =>
                getAttribute rr.refresh >>= fun refresh =>
                  getAttribute rr.retry >>= fun retry =>
                    getAttribute rr.expire >>= fun expire =>
                      getAttribute rr.minimum >>= fun minimum =>
                        packFields [(4, serial), (4, refresh), (4, retry),
                            (4, expire), (4, minimum)] >>= fun numbers =>
                          .ok (first.1 ++ second.1 ++ numbers, second.2) := by
  simp [packRdata, empty, typed, dnsA, dnsNs, dnsCname, dnsPtr, dnsSoa]

end Generating

section Types

variable {front rdata : Bytes} {rr : RR} {labelPtrs labelPtrs' : LabelPtrs}

theorem rdataReads_address (given : Option Bytes) (keep : RR → RR)
    (generated : packRdata lowPointer rr front.length labelPtrs =
      getAttribute given >>= fun ip => .ok (ip, labelPtrs))
    (reads : ∀ fresh full, fresh.type = rr.type →
      unpackRdata fresh full front.length = .ok (keep fresh))
    (keeps : ∀ fresh, fresh.type = rr.type → given = some fresh.rdata →
      (keep fresh).typedRdata = rr.typedRdata)
    (header : ∀ fresh, (keep fresh).toQ = fresh.toQ ∧
      (keep fresh).ttl = fresh.ttl)
    (table : TableOk front labelPtrs)
    (packed : packRdata lowPointer rr front.length labelPtrs =
      .ok (rdata, labelPtrs')) : RdataReads front rr rdata labelPtrs' := by
  rw [generated] at packed
  obtain ⟨ip, present, done⟩ := bind_eq_ok.mp packed
  rw [getAttribute_eq_ok] at present
  rw [Except.ok.injEq, Prod.mk.injEq] at done
  refine ⟨?_, ?_⟩
  · rw [← done.2]
    exact table.extend (List.prefix_append _ _)
  · intro full _within fresh sameType data
    refine ⟨keep fresh, reads fresh full sameType,
      keeps fresh sameType ?_, header fresh⟩
    rw [present, data, done.1]

theorem rdataReads_a (typed : rr.type = dnsA) (empty : rr.rdata = [])
    (table : TableOk front labelPtrs)
    (packed : packRdata lowPointer rr front.length labelPtrs =
      .ok (rdata, labelPtrs')) : RdataReads front rr rdata labelPtrs' := by
  refine rdataReads_address rr.ip
    (fun fresh => { fresh with ip := some fresh.rdata }) ?_ ?_ ?_
    (fun fresh => ⟨rfl, rfl⟩) table packed
  · simp [packRdata, empty, typed]
  · intro fresh full sameType
    simp [unpackRdata, sameType, typed]
  · intro fresh sameType present
    simp [RR.typedRdata, sameType, typed, present]

theorem rdataReads_aaaa (typed : rr.type = dnsAaaa) (empty : rr.rdata = [])
    (table : TableOk front labelPtrs)
    (packed : packRdata lowPointer rr front.length labelPtrs =
      .ok (rdata, labelPtrs')) : RdataReads front rr rdata labelPtrs' := by
  refine rdataReads_address rr.ip6
    (fun fresh => { fresh with ip6 := some fresh.rdata }) ?_ ?_ ?_
    (fun fresh => ⟨rfl, rfl⟩) table packed
  · simp [packRdata, empty, typed, dnsA, dnsNs, dnsCname, dnsPtr, dnsSoa,
      dnsMx, dnsTxt, dnsHinfo, dnsAaaa]
  · intro fresh full sameType
    simp [unpackRdata, sameType, typed, dnsA, dnsNs, dnsCname, dnsPtr, dnsSoa,
      dnsMx, dnsTxt, dnsHinfo, dnsAaaa]
  · intro fresh sameType present
    simp [RR.typedRdata, sameType, typed, dnsA, dnsNs, dnsCname, dnsPtr,
      dnsSoa, dnsMx, dnsAaaa, present]

theorem nameReads {name : PyStr} (carried : CarriedName name)
    {first written : Bytes}
    (table : TableOk front labelPtrs)
    (packed : packName lowPointer name (front.length + first.length) labelPtrs =
      .ok (written, labelPtrs')) :
    TableOk (front ++ (first ++ written)) labelPtrs' ∧
      ∀ full, front ++ (first ++ written) <+: full →
        ∃ got, unpackName full (front.length + first.length) =
          .ok (got, front.length + first.length + written.length) ∧
          SameName name got := by
  rw [← List.length_append] at packed
  obtain ⟨table', _begins, reads⟩ := packName_readsBack carried
    (table.extend (List.prefix_append front first)) packed
  rw [List.append_assoc] at table' reads
  refine ⟨table', ?_⟩
  intro full within
  obtain ⟨got, read, same⟩ := reads full within
  rw [List.length_append, List.length_append, List.length_append,
    ← Nat.add_assoc] at read
  exact ⟨got, read, same⟩

theorem rdataReads_name (given : Option PyStr) (keep : RR → PyStr → RR)
    (generated : packRdata lowPointer rr front.length labelPtrs =
      getAttribute given >>= fun name =>
        packName lowPointer name front.length labelPtrs)
    (carried : ∀ name, given = some name → CarriedName name)
    (reads : ∀ fresh full, fresh.type = rr.type →
      unpackRdata fresh full front.length =
        unpackName full front.length >>= fun read => .ok (keep fresh read.1))
    (keeps : ∀ fresh got, fresh.type = rr.type →
      some (upToCase got) = given.map upToCase →
        (keep fresh got).typedRdata = rr.typedRdata)
    (header : ∀ fresh got, (keep fresh got).toQ = fresh.toQ ∧
      (keep fresh got).ttl = fresh.ttl)
    (table : TableOk front labelPtrs)
    (packed : packRdata lowPointer rr front.length labelPtrs =
      .ok (rdata, labelPtrs')) : RdataReads front rr rdata labelPtrs' := by
  rw [generated] at packed
  obtain ⟨name, present, packedName⟩ := bind_eq_ok.mp packed
  rw [getAttribute_eq_ok] at present
  obtain ⟨table', _begins, readName⟩ :=
    packName_readsBack (carried name present) table packedName
  refine ⟨table', ?_⟩
  intro full within fresh sameType _data
  obtain ⟨got, read, same⟩ := readName full within
  have upper : some (upToCase got) = given.map upToCase := by
    rw [present, Option.map_some, same]
  refine ⟨keep fresh got, ?_, keeps fresh got sameType upper,
    header fresh got⟩
  rw [reads fresh full sameType, read, ok_bind]

theorem rdataReads_ns (typed : rr.type = dnsNs) (empty : rr.rdata = [])
    (carried : ∀ name ∈ rr.rdataNames, CarriedName name)
    (table : TableOk front labelPtrs)
    (packed : packRdata lowPointer rr front.length labelPtrs =
      .ok (rdata, labelPtrs')) : RdataReads front rr rdata labelPtrs' := by
  refine rdataReads_name rr.nsname
    (fun fresh got => { fresh with nsname := some got }) ?_ ?_ ?_ ?_
    (fun fresh got => ⟨rfl, rfl⟩) table packed
  · simp [packRdata, empty, typed, dnsA, dnsNs]
  · intro name present
    apply carried
    simp [RR.rdataNames, typed, dnsNs, present]
  · intro fresh full sameType
    simp [unpackRdata, sameType, typed, dnsA, dnsNs]
  · intro fresh got sameType upper
    simp [RR.typedRdata, sameType, typed, dnsA, dnsNs, upper]

theorem rdataReads_cname (typed : rr.type = dnsCname) (empty : rr.rdata = [])
    (carried : ∀ name ∈ rr.rdataNames, CarriedName name)
    (table : TableOk front labelPtrs)
    (packed : packRdata lowPointer rr front.length labelPtrs =
      .ok (rdata, labelPtrs')) : RdataReads front rr rdata labelPtrs' := by
  refine rdataReads_name rr.cname
    (fun fresh got => { fresh with cname := some got }) ?_ ?_ ?_ ?_
    (fun fresh got => ⟨rfl, rfl⟩) table packed
  · simp [packRdata, empty, typed, dnsA, dnsNs, dnsCname]
  · intro name present
    apply carried
    simp [RR.rdataNames, typed, dnsNs, dnsCname, present]
  · intro fresh full sameType
    simp [unpackRdata, sameType, typed, dnsA, dnsNs, dnsCname]
  · intro fresh got sameType upper
    simp [RR.typedRdata, sameType, typed, dnsA, dnsNs, dnsCname, upper]

theorem rdataReads_ptr (typed : rr.type = dnsPtr) (empty : rr.rdata = [])
    (carried : ∀ name ∈ rr.rdataNames, CarriedName name)
    (table : TableOk front labelPtrs)
    (packed : packRdata lowPointer rr front.length labelPtrs =
      .ok (rdata, labelPtrs')) : RdataReads front rr rdata labelPtrs' := by
  refine rdataReads_name rr.ptrname
    (fun fresh got => { fresh with ptrname := some got }) ?_ ?_ ?_ ?_
    (fun fresh got => ⟨rfl, rfl⟩) table packed
  · simp [packRdata, empty, typed, dnsA, dnsNs, dnsCname, dnsPtr]
  · intro name present
    apply carried
    simp [RR.rdataNames, typed, dnsNs, dnsCname, dnsPtr, present]
  · intro fresh full sameType
    simp [unpackRdata, sameType, typed, dnsA, dnsNs, dnsCname, dnsPtr]
  · intro fresh got sameType upper
    simp [RR.typedRdata, sameType, typed, dnsA, dnsNs, dnsCname, dnsPtr, upper]

theorem rdataReads_mx (typed : rr.type = dnsMx) (empty : rr.rdata = [])
    (carried : ∀ name ∈ rr.rdataNames, CarriedName name)
    (table : TableOk front labelPtrs)
    (packed : packRdata lowPointer rr front.length labelPtrs =
      .ok (rdata, labelPtrs')) : RdataReads front rr rdata labelPtrs' := by
  have generated : packRdata lowPointer rr front.length labelPtrs =
      getAttribute rr.preference >>= fun value =>
        packPreference value >>= fun preference =>
          getAttribute rr.mxname >>= fun name =>
            packName lowPointer name (front.length + 2) labelPtrs >>=
              fun packed => .ok (preference ++ packed.1, packed.2) := by
    simp [packRdata, empty, typed, dnsA, dnsNs, dnsCname, dnsPtr, dnsSoa,
      dnsMx]
  rw [generated] at packed
  obtain ⟨value, _given, packed⟩ := bind_eq_ok.mp packed
  obtain ⟨preference, packedPreference, packed⟩ := bind_eq_ok.mp packed
  obtain ⟨name, present, packed⟩ := bind_eq_ok.mp packed
  obtain ⟨⟨written, labelPtrs''⟩, packedName, done⟩ := bind_eq_ok.mp packed
  rw [getAttribute_eq_ok] at present
  rw [Except.ok.injEq, Prod.mk.injEq] at done
  have two : preference.length = 2 := by
    cases value with
    | int value => rw [(packBe_eq_ok packedPreference).2, beBytes_length]
    | tuple values => cases packedPreference
  have carriedName : CarriedName name := by
    apply carried
    simp [RR.rdataNames, typed, dnsNs, dnsCname, dnsPtr, dnsSoa, dnsMx,
      present]
  rw [← two] at packedName
  obtain ⟨table', readName⟩ := nameReads carriedName table packedName
  rw [← done.1, ← done.2]
  refine ⟨table', ?_⟩
  intro full within fresh sameType data
  have freshTyped := sameType.trans typed
  obtain ⟨got, read, same⟩ := readName full within
  rw [two] at read
  have number : unpackFields [2] (fresh.rdata.take 2) =
      .ok [beNat preference] := by
    have width : preference.length = [2].sum := two
    rw [data, List.take_left' two]
    unfold unpackFields
    rw [if_pos width, fieldValues, ← two, List.take_length]
    rfl
  refine ⟨{ fresh with
    preference := some (.tuple [beNat preference]), mxname := some got },
    ?_, ?_, rfl, rfl⟩
  · simp [unpackRdata, freshTyped, dnsA, dnsNs, dnsCname, dnsPtr, dnsSoa,
      dnsMx, number, read]
  · unfold SameName at same
    simp [RR.typedRdata, freshTyped, typed, dnsA, dnsNs, dnsCname, dnsPtr,
      dnsSoa, dnsMx, present, same]

theorem rdataReads_srv (typed : rr.type = dnsSrv) (empty : rr.rdata = [])
    (carried : ∀ name ∈ rr.rdataNames, CarriedName name)
    (table : TableOk front labelPtrs)
    (packed : packRdata lowPointer rr front.length labelPtrs =
      .ok (rdata, labelPtrs')) : RdataReads front rr rdata labelPtrs' := by
  rw [packRdata_srv typed empty] at packed
  obtain ⟨priority, hasPriority, packed⟩ := bind_eq_ok.mp packed
  obtain ⟨weight, hasWeight, packed⟩ := bind_eq_ok.mp packed
  obtain ⟨port, hasPort, packed⟩ := bind_eq_ok.mp packed
  obtain ⟨numbers, packedNumbers, packed⟩ := bind_eq_ok.mp packed
  obtain ⟨name, present, packed⟩ := bind_eq_ok.mp packed
  obtain ⟨⟨written, labelPtrs''⟩, packedName, done⟩ := bind_eq_ok.mp packed
  rw [getAttribute_eq_ok] at hasPriority hasWeight hasPort present
  rw [Except.ok.injEq, Prod.mk.injEq] at done
  have six : numbers.length = 6 := packFields_length packedNumbers
  have carriedName : CarriedName name := by
    apply carried
    simp [RR.rdataNames, typed, dnsNs, dnsCname, dnsPtr, dnsSoa, dnsMx,
      dnsSrv, present]
  rw [← six] at packedName
  obtain ⟨table', readName⟩ := nameReads carriedName table packedName
  rw [← done.1, ← done.2]
  refine ⟨table', ?_⟩
  intro full within fresh sameType data
  have freshTyped := sameType.trans typed
  obtain ⟨got, read, same⟩ := readName full within
  rw [six] at read
  have fields : unpackFields [2, 2, 2] (fresh.rdata.take 6) =
      .ok [priority, weight, port] := by
    rw [data, List.take_left' six]
    exact unpackFields_packFields packedNumbers
  refine ⟨{ fresh with
    priority := some priority, weight := some weight, port := some port
    srvname := some got }, ?_, ?_, rfl, rfl⟩
  · simp [unpackRdata, freshTyped, dnsA, dnsNs, dnsCname, dnsPtr, dnsSoa,
      dnsMx, dnsTxt, dnsHinfo, dnsAaaa, dnsNull, dnsSrv, fields, read]
  · unfold SameName at same
    simp [RR.typedRdata, freshTyped, typed, dnsA, dnsNs, dnsCname, dnsPtr,
      dnsSoa, dnsMx, dnsAaaa, dnsSrv, hasPriority, hasWeight, hasPort,
      present, same]

theorem rdataReads_soa (typed : rr.type = dnsSoa) (empty : rr.rdata = [])
    (carried : ∀ name ∈ rr.rdataNames, CarriedName name)
    (table : TableOk front labelPtrs)
    (packed : packRdata lowPointer rr front.length labelPtrs =
      .ok (rdata, labelPtrs')) : RdataReads front rr rdata labelPtrs' := by
  rw [packRdata_soa typed empty] at packed
  obtain ⟨mname, hasMname, packed⟩ := bind_eq_ok.mp packed
  obtain ⟨⟨first, labelPtrs₁⟩, packedFirst, packed⟩ := bind_eq_ok.mp packed
  obtain ⟨rname, hasRname, packed⟩ := bind_eq_ok.mp packed
  obtain ⟨⟨second, labelPtrs₂⟩, packedSecond, packed⟩ := bind_eq_ok.mp packed
  obtain ⟨serial, hasSerial, packed⟩ := bind_eq_ok.mp packed
  obtain ⟨refresh, hasRefresh, packed⟩ := bind_eq_ok.mp packed
  obtain ⟨retry, hasRetry, packed⟩ := bind_eq_ok.mp packed
  obtain ⟨expire, hasExpire, packed⟩ := bind_eq_ok.mp packed
  obtain ⟨minimum, hasMinimum, packed⟩ := bind_eq_ok.mp packed
  obtain ⟨numbers, packedNumbers, done⟩ := bind_eq_ok.mp packed
  rw [getAttribute_eq_ok] at hasMname hasRname hasSerial hasRefresh hasRetry
  rw [getAttribute_eq_ok] at hasExpire hasMinimum
  rw [Except.ok.injEq, Prod.mk.injEq] at done
  have names : CarriedName mname ∧ CarriedName rname := by
    constructor <;> apply carried <;>
      simp [RR.rdataNames, typed, dnsNs, dnsCname, dnsPtr, dnsSoa, hasMname,
        hasRname]
  obtain ⟨table₁, _begins, readFirst⟩ :=
    packName_readsBack names.1 table packedFirst
  rw [← List.length_append] at packedSecond
  obtain ⟨table₂, begins₂, readSecond⟩ :=
    packName_readsBack names.2 table₁ packedSecond
  have twenty : numbers.length = 20 := packFields_length packedNumbers
  have shape : front ++ rdata = front ++ first ++ second ++ numbers := by
    rw [← done.1, ← List.append_assoc, ← List.append_assoc]
  have within₂ : front ++ first ++ second <+: front ++ rdata :=
    ⟨numbers, shape.symm⟩
  rw [← done.2]
  refine ⟨table₂.extend within₂, ?_⟩
  intro full within fresh sameType _data
  have freshTyped := sameType.trans typed
  obtain ⟨gotM, readM, sameM⟩ :=
    readFirst full (begins₂.trans (within₂.trans within))
  obtain ⟨gotR, readR, sameR⟩ := readSecond full (within₂.trans within)
  have fields : unpackFields [4, 4, 4, 4, 4]
      (cut full (front ++ first ++ second).length
        ((front ++ first ++ second).length + 20)) =
      .ok [serial, refresh, retry, expire, minimum] := by
    obtain ⟨behind, whole⟩ := within
    rw [shape] at whole
    rw [← whole, ← twenty, cut_append]
    exact unpackFields_packFields packedNumbers
  refine ⟨{ fresh with
    mname := some gotM, rname := some gotR, serial := some serial
    refresh := some refresh, retry := some retry, expire := some expire
    minimum := some minimum }, ?_, ?_, rfl, rfl⟩
  · simp only [unpackRdata, freshTyped, dnsA, dnsNs, dnsCname, dnsPtr, dnsSoa,
      Nat.reduceEqDiff, ↓reduceIte, readM, ok_bind, readR, fields]
  · unfold SameName at sameM sameR
    simp [RR.typedRdata, freshTyped, typed, dnsA, dnsNs, dnsCname, dnsPtr,
      dnsSoa, hasMname, hasRname, hasSerial, hasRefresh, hasRetry, hasExpire,
      hasMinimum, sameM, sameR]

theorem packRdata_reads (typed : rr.type ∈ typedTypes) (empty : rr.rdata = [])
    (carried : ∀ name ∈ rr.rdataNames, CarriedName name)
    (table : TableOk front labelPtrs)
    (packed : packRdata lowPointer rr front.length labelPtrs =
      .ok (rdata, labelPtrs')) : RdataReads front rr rdata labelPtrs' := by
  simp only [typedTypes, List.mem_cons, List.not_mem_nil, or_false] at typed
  rcases typed with a | ns | cname | ptr | soa | mx | aaaa | srv
  · exact rdataReads_a a empty table packed
  · exact rdataReads_ns ns empty carried table packed
  · exact rdataReads_cname cname empty carried table packed
  · exact rdataReads_ptr ptr empty carried table packed
  · exact rdataReads_soa soa empty carried table packed
  · exact rdataReads_mx mx empty carried table packed
  · exact rdataReads_aaaa aaaa empty table packed
  · exact rdataReads_srv srv empty carried table packed

end Types

/-! ### Questions and records -/

theorem packQ_readsBack {q : Q} (carried : CarriedName q.name) :
    ReadsBack TableOk (packQ lowPointer) unpackQ SameQ q := by
  intro out labelPtrs out' labelPtrs' table packed
  obtain ⟨name, fields, packedName, packedFields, shape⟩ := packQ_eq_ok packed
  obtain ⟨table₁, begins, readName⟩ := packName_readsBack carried table packedName
  have grown : out ++ name <+: out' := ⟨fields, shape⟩
  have four : fields.length = 4 := packFields_length packedFields
  have stop : out'.length = (out ++ name).length + 4 := by
    rw [← shape, List.length_append, four]
  refine ⟨table₁.extend grown, begins.trans grown, ?_⟩
  intro full within
  obtain ⟨got, read, same⟩ := readName full (grown.trans within)
  have values : unpackFields [2, 2] (cut full (out ++ name).length
      ((out ++ name).length + 4)) = .ok [q.type, q.cls] := by
    obtain ⟨behind, whole⟩ := within
    rw [← whole, ← shape, ← four, cut_append]
    exact unpackFields_packFields packedFields
  refine ⟨{ name := got, type := q.type, cls := q.cls }, ?_, same, rfl, rfl⟩
  simp only [unpackQ, read, ok_bind, values, stop]

/-- A record is read back behind `out`, if its data is read back behind its
fixed fields. -/
theorem packRr_reads {rr : RR} {Same : RR → Prop} {out out' : Bytes}
    {labelPtrs labelPtrs' : LabelPtrs} (carried : CarriedName rr.name)
    (table : TableOk out labelPtrs)
    (packed : packRr lowPointer out labelPtrs rr = .ok (out', labelPtrs'))
    (data : ∀ front rdata labelPtrs₁, front ++ rdata = out' →
      TableOk front labelPtrs₁ →
      packRdata lowPointer rr front.length labelPtrs₁ =
        .ok (rdata, labelPtrs') →
      TableOk out' labelPtrs' ∧ ∀ full, out' <+: full → ∀ name,
        SameName rr.name name →
          ∃ got, unpackRdata { name, type := rr.type, cls := rr.cls
                               ttl := rr.ttl, rlen := rdata.length, rdata }
              full front.length = .ok got ∧ Same got) :
    TableOk out' labelPtrs' ∧ ReadAs unpackRr Same out out' := by
  obtain ⟨name, labelPtrs₁, rdata, fields, packedName, packedRdata,
    packedFields, shape⟩ := packRr_eq_ok packed
  obtain ⟨table₁, begins, readName⟩ :=
    packName_readsBack carried table packedName
  have ten : fields.length = 10 := packFields_length packedFields
  -- The fixed fields stand before the data although they are packed after it.
  have position : out.length + name.length + 10 =
      (out ++ name ++ fields).length := by
    rw [List.length_append, List.length_append, ten]
  have packedRdata : packRdata lowPointer rr (out ++ name ++ fields).length
      labelPtrs₁ = .ok (rdata, labelPtrs') := by
    rw [← position]
    exact packedRdata
  obtain ⟨table₂, readRdata⟩ := data _ rdata labelPtrs₁ shape
    (table₁.extend (List.prefix_append (out ++ name) fields)) packedRdata
  have grown : out ++ name <+: out' :=
    ⟨fields ++ rdata, by rw [← shape, List.append_assoc (out ++ name)]⟩
  refine ⟨table₂, begins.trans grown, ?_⟩
  intro full within
  obtain ⟨got, read, same⟩ := readName full (grown.trans within)
  obtain ⟨record, readRecord, sameRecord⟩ := readRdata full within got same
  obtain ⟨behind, whole⟩ := within
  have values : unpackFields [2, 2, 4, 2] (cut full (out ++ name).length
      ((out ++ name).length + 10)) =
      .ok [rr.type, rr.cls, rr.ttl, rdata.length] := by
    rw [← whole, ← shape, List.append_assoc, ← ten, cut_append]
    exact unpackFields_packFields packedFields
  have start : (out ++ name).length + 10 = (out ++ name ++ fields).length := by
    simp only [List.length_append, ten]
  rw [start] at values
  have found : cut full (out ++ name ++ fields).length
      ((out ++ name ++ fields).length + rdata.length) = rdata := by
    rw [← whole, ← shape, cut_append]
  have stop : out'.length = (out ++ name ++ fields).length + rdata.length := by
    rw [← shape, List.length_append]
  refine ⟨record, ?_, sameRecord⟩
  simp only [unpackRr, read, ok_bind, values, start, found, readRecord, stop]

theorem packRr_readsBack {rr : RR} (generated : rr.Generated) :
    ReadsBack TableOk (packRr lowPointer) unpackRr SameRr rr := by
  intro out labelPtrs out' labelPtrs' table packed
  apply packRr_reads generated.name.carried table packed
  intro front rdata labelPtrs₁ shape table₁ packedRdata
  obtain ⟨table₂, readRdata⟩ := packRdata_reads generated.typed generated.empty
    (fun name member => (generated.names name member).carried) table₁
    packedRdata
  rw [shape] at table₂ readRdata
  refine ⟨table₂, ?_⟩
  intro full within name same
  obtain ⟨got, read, sameTyped, sameHeader, sameTtl⟩ := readRdata full within
    { name, type := rr.type, cls := rr.cls, ttl := rr.ttl
      rlen := rdata.length, rdata } rfl rfl
  refine ⟨got, read, ?_, sameTtl, sameTyped⟩
  rw [sameHeader]
  exact ⟨same, rfl, rfl⟩

end DpktNg.Dns
