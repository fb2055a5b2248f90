/-
Records whose data is generated again from the fields it was decoded to.  The
preference of an MX record was kept as a tuple and the strings of TXT and HINFO
records as text, and the packer takes neither; all other types come back, as
long as no name has an empty label.
-/

import DpktNg.Dns.Repacking

namespace DpktNg.Dns

open Library

/-! ### Generated data is read back -/

section Generated

variable {buf : Bytes} {off next : Nat} {source : RR}

theorem rdataNames_read {self : RR} (decodes : Decodes buf off self source) :
    ∀ name ∈ source.rdataNames, ReadName name := by
  cases decodes with
  | a typed => simp [RR.rdataNames, typed, dnsA, dnsNs, dnsCname, dnsPtr,
      dnsSoa, dnsMx, dnsSrv]
  | ns typed read =>
      simpa [RR.rdataNames, typed] using readName_of_unpackName read
  | cname typed read =>
      simpa [RR.rdataNames, typed, dnsNs, dnsCname] using
        readName_of_unpackName read
  | ptr typed read =>
      simpa [RR.rdataNames, typed, dnsNs, dnsCname, dnsPtr] using
        readName_of_unpackName read
  | soa typed first second _numbers =>
      simpa [RR.rdataNames, typed, dnsNs, dnsCname, dnsPtr, dnsSoa] using
        ⟨readName_of_unpackName first, readName_of_unpackName second⟩
  | mx typed _number read =>
      simpa [RR.rdataNames, typed, dnsNs, dnsCname, dnsPtr, dnsSoa, dnsMx]
        using readName_of_unpackName read
  | text typed _read =>
      rcases typed with txt | hinfo
      · simp [RR.rdataNames, txt, dnsNs, dnsCname, dnsPtr, dnsSoa, dnsMx,
          dnsSrv, dnsTxt]
      · simp [RR.rdataNames, hinfo, dnsNs, dnsCname, dnsPtr, dnsSoa, dnsMx,
          dnsSrv, dnsHinfo]
  | aaaa typed => simp [RR.rdataNames, typed, dnsNs, dnsCname, dnsPtr, dnsSoa,
      dnsMx, dnsSrv, dnsAaaa]
  | null typed => simp [RR.rdataNames, typed, dnsNs, dnsCname, dnsPtr, dnsSoa,
      dnsMx, dnsSrv, dnsNull]
  | srv typed _numbers read =>
      simpa [RR.rdataNames, typed, dnsNs, dnsCname, dnsPtr, dnsSoa, dnsMx,
        dnsSrv] using readName_of_unpackName read
  | opt typed => simp [RR.rdataNames, typed, dnsNs, dnsCname, dnsPtr, dnsSoa,
      dnsMx, dnsSrv, dnsOpt]

theorem decodes_of_unpackRr (read : unpackRr buf off = .ok (source, next)) :
    ∃ start, Decodes buf start
      { name := source.name, type := source.type, cls := source.cls
        ttl := source.ttl, rlen := source.rlen, rdata := source.rdata }
      source := by
  obtain ⟨behind, _, _, _, decodes, _⟩ := unpackRr_reads read
  exact ⟨behind + 10, decodes⟩

theorem ownerName_read (read : unpackRr buf off = .ok (source, next)) :
    ReadName source.name := by
  obtain ⟨_, readName, _⟩ := unpackRr_reads read
  exact readName_of_unpackName readName

theorem generated_typed {type : Nat} (generated : type ∈ generatedTypes) :
    type ∈ typedTypes := by
  revert generated
  unfold generatedTypes typedTypes
  simp only [List.mem_cons, List.not_mem_nil, or_false]
  tauto

theorem packRr_regenerates (read : unpackRr buf off = .ok (source, next))
    (generated : source.type ∈ generatedTypes)
    (ownerFine : NoEmptyLabel source.name)
    (namesFine : ∀ name ∈ source.rdataNames, NoEmptyLabel name) :
    ReadsBack TableOk (packRr lowPointer) unpackRr SameDecoded
      (source.withRdata []) := by
  intro out labelPtrs out' labelPtrs' table packed
  obtain ⟨start, decodes⟩ := decodes_of_unpackRr read
  have carried : ∀ name ∈ (source.withRdata []).rdataNames,
      CarriedName name := fun name member =>
    (rdataNames_read decodes name member).carried (namesFine name member)
  have owner : CarriedName (source.withRdata []).name :=
    (ownerName_read read).carried ownerFine
  have typed : (source.withRdata []).type ∈ typedTypes :=
    generated_typed generated
  apply packRr_reads owner table packed
  intro front rdata labelPtrs₁ shape table₁ packedRdata
  obtain ⟨table₂, readRdata⟩ := packRdata_reads typed rfl carried table₁
    packedRdata
  rw [shape] at table₂ readRdata
  refine ⟨table₂, ?_⟩
  intro full within name sameName
  obtain ⟨got, readGot, sameTyped, _sameHeader, _sameTtl⟩ :=
    readRdata full within
      { name, type := source.type, cls := source.cls, ttl := source.ttl
        rlen := rdata.length, rdata } rfl rfl
  refine ⟨got, readGot, ?_⟩
  have gotSays := decoded_of_decodes (decodes_of_unpackRdata readGot) generated
  have sourceSays := decoded_of_decodes decodes generated
  unfold SameDecoded
  change got.decoded = source.decoded
  rw [gotSays, sourceSays, sameTyped, sameName]
  rfl

end Generated

/-! ### Names that are not read back -/

/-- The types whose data is one name. -/
def targetTypes : List Nat := [dnsNs, dnsCname, dnsPtr]

def RR.target (self : RR) : Option PyStr :=
  if self.type = dnsNs then self.nsname
  else if self.type = dnsCname then self.cname
  else self.ptrname

theorem mem_targetTypes {type : Nat} :
    type ∈ targetTypes ↔ type = dnsNs ∨ type = dnsCname ∨ type = dnsPtr := by
  unfold targetTypes
  simp only [List.mem_cons, List.not_mem_nil, or_false]

section Targets

variable {buf : Bytes} {off : Nat} {rr : RR}

theorem packRdata_target {pointer : Nat → Except PyError Bytes}
    (typed : rr.type ∈ targetTypes) (empty : rr.rdata = [])
    (labelPtrs : LabelPtrs) :
    packRdata pointer rr off labelPtrs = getAttribute rr.target >>= fun name =>
      packName pointer name off labelPtrs := by
  rcases mem_targetTypes.mp typed with ns | cname | ptr
  · simp [packRdata, RR.target, empty, ns, dnsA, dnsNs]
  · simp [packRdata, RR.target, empty, cname, dnsA, dnsNs, dnsCname]
  · simp [packRdata, RR.target, empty, ptr, dnsA, dnsNs, dnsCname, dnsPtr]

theorem rdataNames_target (typed : rr.type ∈ targetTypes) :
    rr.rdataNames = rr.target.toList := by
  rcases mem_targetTypes.mp typed with ns | cname | ptr
  · simp [RR.rdataNames, RR.target, ns]
  · simp [RR.rdataNames, RR.target, cname, dnsNs, dnsCname]
  · simp [RR.rdataNames, RR.target, ptr, dnsNs, dnsCname, dnsPtr]

theorem decodes_target {self : RR} (decodes : Decodes buf off self rr)
    (typed : self.type ∈ targetTypes) :
    rr.type = self.type ∧ ∃ name behind,
      unpackName buf off = .ok (name, behind) ∧ rr.target = some name := by
  have read := unpackRdata_of_decodes decodes
  rcases mem_targetTypes.mp typed with ns | cname | ptr
  · simp only [unpackRdata, ns, dnsA, dnsNs] at read
    obtain ⟨⟨name, behind⟩, readName, done⟩ := bind_eq_ok.mp read
    rw [Except.ok.injEq] at done
    rw [← done]
    exact ⟨rfl, name, behind, readName, by simp [RR.target, ns]⟩
  · simp only [unpackRdata, cname, dnsA, dnsNs, dnsCname] at read
    obtain ⟨⟨name, behind⟩, readName, done⟩ := bind_eq_ok.mp read
    rw [Except.ok.injEq] at done
    rw [← done]
    exact ⟨rfl, name, behind, readName,
      by simp [RR.target, cname, dnsNs, dnsCname]⟩
  · simp only [unpackRdata, ptr, dnsA, dnsNs, dnsCname, dnsPtr] at read
    obtain ⟨⟨name, behind⟩, readName, done⟩ := bind_eq_ok.mp read
    rw [Except.ok.injEq] at done
    rw [← done]
    exact ⟨rfl, name, behind, readName,
      by simp [RR.target, ptr, dnsNs, dnsCname, dnsPtr]⟩

theorem decodes_soa {self : RR} (decodes : Decodes buf off self rr)
    (typed : self.type = dnsSoa) :
    ∃ mname middle rname behind, unpackName buf off = .ok (mname, middle) ∧
      unpackName buf middle = .ok (rname, behind) ∧ rr.mname = some mname ∧
        rr.rname = some rname := by
  cases decodes with
  | soa _ first second _ => exact ⟨_, _, _, _, first, second, rfl, rfl⟩
  | text other _ =>
      rcases other with txt | hinfo
      · exact absurd (txt.symm.trans typed) (by decide)
      · exact absurd (hinfo.symm.trans typed) (by decide)
  | _ => exact absurd (Eq.trans (Eq.symm ‹_›) typed) (by decide)

theorem decodes_text {self : RR} (decodes : Decodes buf off self rr)
    (typed : self.type = dnsTxt ∨ self.type = dnsHinfo) :
    ∃ text, unpackText self.rdata = .ok text ∧ rr.text = some text := by
  rcases typed with txt | hinfo
  · cases decodes with
    | text _ read => exact ⟨_, read, rfl⟩
    | _ => exact absurd (Eq.trans (Eq.symm ‹_›) txt) (by decide)
  · cases decodes with
    | text _ read => exact ⟨_, read, rfl⟩
    | _ => exact absurd (Eq.trans (Eq.symm ‹_›) hinfo) (by decide)

theorem decodes_srv {self : RR} (decodes : Decodes buf off self rr)
    (typed : self.type = dnsSrv) :
    ∃ srvname behind, unpackName buf (off + 6) = .ok (srvname, behind) ∧
      rr.srvname = some srvname := by
  cases decodes with
  | srv _ _ read => exact ⟨_, _, read, rfl⟩
  | text other _ =>
      rcases other with txt | hinfo
      · exact absurd (txt.symm.trans typed) (by decide)
      · exact absurd (hinfo.symm.trans typed) (by decide)
  | _ => exact absurd (Eq.trans (Eq.symm ‹_›) typed) (by decide)

end Targets

section Misread

variable {front rdata full : Bytes} {labelPtrs labelPtrs' : LabelPtrs}

/-- A name that is packed behind `front` and read back there the same has no
empty label. -/
theorem noEmptyLabel_of_same {name got : PyStr} (read : ReadName name)
    {written : Bytes} {behind : Nat} (table : TableOk front labelPtrs)
    (packed : packName lowPointer name front.length labelPtrs =
      .ok (written, labelPtrs'))
    (within : front ++ written <+: full)
    (readBack : unpackName full front.length = .ok (got, behind))
    (same : SameName name got) :
    NoEmptyLabel name ∧ TableOk (front ++ written) labelPtrs' ∧
      behind = (front ++ written).length := by
  have noEmpty : NoEmptyLabel name := by
    by_contra bad
    exact packName_misread read bad table packed within readBack same
  obtain ⟨table', _begins, reads⟩ :=
    packName_readsBack (read.carried noEmpty) table packed
  obtain ⟨_, readAgain, _⟩ := reads full within
  rw [readAgain, Except.ok.injEq, Prod.mk.injEq] at readBack
  exact ⟨noEmpty, table', readBack.2.symm⟩

theorem sameName_of_map {name got : PyStr} {sent : Option PyStr}
    (given : sent = some name)
    (same : (some got).map upToCase = sent.map upToCase) :
    SameName name got := by
  rw [given, Option.map_some, Option.map_some, Option.some.injEq] at same
  exact same

theorem decoded_target (rr : RR) :
    rr.decoded.target = rr.target.map upToCase := by
  unfold RR.target RR.decoded
  dsimp only
  split
  · rfl
  · split <;> rfl

section Generated

-- the data of a record is generated, and read back the same
variable {source fresh got : RR}
  (readNames : ∀ name ∈ source.rdataNames, ReadName name)
  (table : TableOk front labelPtrs)
  (packed : packRdata lowPointer (source.withRdata []) front.length
    labelPtrs = .ok (rdata, labelPtrs'))
  (within : front ++ rdata <+: full) (sameType : fresh.type = source.type)
  (decodes : Decodes full front.length fresh got)
  (same : SameDecoded source got)

include readNames table packed within sameType decodes same

theorem target_fine (typed : source.type ∈ targetTypes) :
    ∀ name ∈ source.rdataNames, NoEmptyLabel name := by
  have generatedTyped : (source.withRdata []).type ∈ targetTypes := typed
  rw [packRdata_target generatedTyped rfl] at packed
  obtain ⟨name, present, packedName⟩ := bind_eq_ok.mp packed
  have given : source.target = some name := getAttribute_eq_ok.mp present
  rw [← sameType] at typed
  obtain ⟨_, gotName, behind, readBack, gotTarget⟩ :=
    decodes_target decodes typed
  rw [sameType] at typed
  have targets := congrArg RR.target same
  rw [decoded_target, decoded_target, gotTarget] at targets
  have names : source.rdataNames = [name] := by
    rw [rdataNames_target typed, given]
    rfl
  have read : ReadName name := readNames name (by simp [names])
  have fine := noEmptyLabel_of_same read table packedName within readBack
    (sameName_of_map given targets)
  intro other member
  rw [names, List.mem_singleton] at member
  rw [member]
  exact fine.1

theorem soa_fine (typed : source.type = dnsSoa) :
    ∀ name ∈ source.rdataNames, NoEmptyLabel name := by
  have generatedTyped : (source.withRdata []).type = dnsSoa := typed
  rw [packRdata_soa generatedTyped rfl] at packed
  obtain ⟨mname, hasMname, packed⟩ := bind_eq_ok.mp packed
  obtain ⟨⟨first, labelPtrs₁⟩, packedFirst, packed⟩ := bind_eq_ok.mp packed
  obtain ⟨rname, hasRname, packed⟩ := bind_eq_ok.mp packed
  obtain ⟨⟨second, labelPtrs₂⟩, packedSecond, packed⟩ := bind_eq_ok.mp packed
  obtain ⟨_, _, packed⟩ := bind_eq_ok.mp packed
  obtain ⟨_, _, packed⟩ := bind_eq_ok.mp packed
  obtain ⟨_, _, packed⟩ := bind_eq_ok.mp packed
  obtain ⟨_, _, packed⟩ := bind_eq_ok.mp packed
  obtain ⟨_, _, packed⟩ := bind_eq_ok.mp packed
  obtain ⟨numbers, _, done⟩ := bind_eq_ok.mp packed
  rw [Except.ok.injEq, Prod.mk.injEq] at done
  have givenM : source.mname = some mname := getAttribute_eq_ok.mp hasMname
  have givenR : source.rname = some rname := getAttribute_eq_ok.mp hasRname
  obtain ⟨gotM, middle, gotR, behind, readM, readR, gotMname, gotRname⟩ :=
    decodes_soa decodes (sameType.trans typed)
  have namesM : (some gotM).map upToCase = source.mname.map upToCase := by
    have whole := congrArg RR.mname same
    rw [← gotMname]
    exact whole
  have namesR : (some gotR).map upToCase = source.rname.map upToCase := by
    have whole := congrArg RR.rname same
    rw [← gotRname]
    exact whole
  have names : source.rdataNames = [mname, rname] := by
    simp [RR.rdataNames, typed, dnsNs, dnsCname, dnsPtr, dnsSoa, givenM, givenR]
  have shape : front ++ first ++ second <+: full := by
    refine List.IsPrefix.trans ⟨numbers, ?_⟩ within
    rw [← done.1, ← List.append_assoc, ← List.append_assoc]
  obtain ⟨fineM, table₁, position⟩ := noEmptyLabel_of_same
    (readNames mname (by simp [names])) table packedFirst
    ((List.prefix_append _ _).trans shape) readM
    (sameName_of_map givenM namesM)
  rw [← List.length_append] at packedSecond
  rw [position] at readR
  obtain ⟨fineR, _, _⟩ := noEmptyLabel_of_same
    (readNames rname (by simp [names])) table₁ packedSecond shape readR
    (sameName_of_map givenR namesR)
  intro other member
  rw [names, List.mem_cons, List.mem_singleton] at member
  rcases member with isMname | isRname
  · rw [isMname]
    exact fineM
  · rw [isRname]
    exact fineR

theorem srv_fine (typed : source.type = dnsSrv) :
    ∀ name ∈ source.rdataNames, NoEmptyLabel name := by
  have generatedTyped : (source.withRdata []).type = dnsSrv := typed
  rw [packRdata_srv generatedTyped rfl] at packed
  obtain ⟨_, _, packed⟩ := bind_eq_ok.mp packed
  obtain ⟨_, _, packed⟩ := bind_eq_ok.mp packed
  obtain ⟨_, _, packed⟩ := bind_eq_ok.mp packed
  obtain ⟨numbers, packedNumbers, packed⟩ := bind_eq_ok.mp packed
  obtain ⟨name, present, packed⟩ := bind_eq_ok.mp packed
  obtain ⟨⟨written, labelPtrs₁⟩, packedName, done⟩ := bind_eq_ok.mp packed
  rw [Except.ok.injEq, Prod.mk.injEq] at done
  have given : source.srvname = some name := getAttribute_eq_ok.mp present
  obtain ⟨gotName, behind, readBack, gotSrvname⟩ :=
    decodes_srv decodes (sameType.trans typed)
  have targets : (some gotName).map upToCase = source.srvname.map upToCase := by
    have whole := congrArg RR.srvname same
    rw [← gotSrvname]
    exact whole
  have names : source.rdataNames = [name] := by
    simp [RR.rdataNames, typed, dnsNs, dnsCname, dnsPtr, dnsSoa, dnsMx, dnsSrv,
      given]
  have six : numbers.length = 6 := packFields_length packedNumbers
  rw [← six, ← List.length_append] at packedName readBack
  have shape : front ++ numbers ++ written <+: full := by
    rw [List.append_assoc, done.1]
    exact within
  have fine := noEmptyLabel_of_same (readNames name (by simp [names]))
    (table.extend (List.prefix_append _ _)) packedName shape readBack
    (sameName_of_map given targets)
  intro other member
  rw [names, List.mem_singleton] at member
  rw [member]
  exact fine.1

theorem rdataNames_fine (generated : source.type ∈ generatedTypes) :
    ∀ name ∈ source.rdataNames, NoEmptyLabel name := by
  simp only [generatedTypes, List.mem_cons, List.not_mem_nil, or_false]
    at generated
  have target : source.type ∈ targetTypes →
      ∀ name ∈ source.rdataNames, NoEmptyLabel name := fun typed =>
    target_fine readNames table packed within sameType decodes same typed
  rcases generated with a | ns | cname | ptr | soa | aaaa | srv
  · simp [RR.rdataNames, a, dnsA, dnsNs, dnsCname, dnsPtr, dnsSoa, dnsMx,
      dnsSrv]
  · exact target (mem_targetTypes.mpr (Or.inl ns))
  · exact target (mem_targetTypes.mpr (Or.inr (Or.inl cname)))
  · exact target (mem_targetTypes.mpr (Or.inr (Or.inr ptr)))
  · exact soa_fine readNames table packed within sameType decodes same soa
  · simp [RR.rdataNames, aaaa, dnsNs, dnsCname, dnsPtr, dnsSoa, dnsMx, dnsSrv,
      dnsAaaa]
  · exact srv_fine readNames table packed within sameType decodes same srv

end Generated

end Misread

/-! ### Questions and records that come back -/

theorem sameName_of_decoded {sent got : RR} (same : SameDecoded sent got) :
    SameName sent.name got.name := congrArg (fun rr : RR => rr.name) same

section ComeBack

variable {buf full out out' : Bytes} {off next stop : Nat}
  {labelPtrs labelPtrs' : LabelPtrs}

theorem packQ_good {q got : Q} (read : unpackQ buf off = .ok (q, next))
    (table : TableOk out labelPtrs)
    (packed : packQ lowPointer out labelPtrs q = .ok (out', labelPtrs'))
    (within : out' <+: full)
    (readBack : unpackQ full out.length = .ok (got, stop))
    (same : SameQ q got) :
    NoEmptyLabel q.name ∧ TableOk out' labelPtrs' ∧ stop = out'.length := by
  obtain ⟨_, readName, _, _⟩ := unpackQ_eq_ok.mp read
  obtain ⟨_, gotName, _, _⟩ := unpackQ_eq_ok.mp readBack
  obtain ⟨name, fields, packedName, _, shape⟩ := packQ_eq_ok packed
  have begins : out ++ name <+: full :=
    List.IsPrefix.trans ⟨fields, shape⟩ within
  have asRead := readName_of_unpackName readName
  obtain ⟨fine, _, _⟩ := noEmptyLabel_of_same asRead table packedName begins
    gotName same.1
  obtain ⟨table', _begins, reads⟩ :=
    packQ_readsBack (asRead.carried fine) _ _ _ _ table packed
  obtain ⟨_, readAgain, _⟩ := reads full within
  rw [readAgain, Except.ok.injEq, Prod.mk.injEq] at readBack
  exact ⟨fine, table', readBack.2.symm⟩

theorem packRr_found (rr : RR) {got : RR} (read : ReadName rr.name)
    (table : TableOk out labelPtrs)
    (packed : packRr lowPointer out labelPtrs rr = .ok (out', labelPtrs'))
    (within : out' <+: full)
    (readBack : unpackRr full out.length = .ok (got, stop))
    (same : SameName rr.name got.name) :
    NoEmptyLabel rr.name ∧ stop = out'.length ∧
      ∃ front rdata labelPtrs₁ fresh, front ++ rdata = out' ∧
        TableOk front labelPtrs₁ ∧
        packRdata lowPointer rr front.length labelPtrs₁ =
          .ok (rdata, labelPtrs') ∧
        fresh.type = rr.type ∧ Decodes full front.length fresh got := by
  obtain ⟨name, labelPtrs₁, rdata, fields, packedName, packedRdata,
    packedFields, shape⟩ := packRr_eq_ok packed
  obtain ⟨gotName, behind, type, cls, ttl, rdlen, readName, readFields, decodes,
    position⟩ := unpackRr_eq_ok.mp readBack
  have owner : got.name = gotName := by cases decodes <;> rfl
  rw [owner] at same
  have begins : out ++ name <+: full := by
    refine List.IsPrefix.trans ⟨fields ++ rdata, ?_⟩ within
    rw [← shape, List.append_assoc (out ++ name)]
  obtain ⟨fine, table₁, nameEnd⟩ :=
    noEmptyLabel_of_same read table packedName begins readName same
  have ten : fields.length = 10 := packFields_length packedFields
  have placed : cut full behind (behind + 10) = fields := by
    obtain ⟨rest, whole⟩ := within
    rw [← whole, ← shape, nameEnd, List.append_assoc, ← ten]
    exact cut_append (out ++ name) fields (rdata ++ rest)
  have again : unpackFields [2, 2, 4, 2] fields =
      .ok [rr.type, rr.cls, rr.ttl, rdata.length] :=
    unpackFields_packFields packedFields
  rw [placed, again, Except.ok.injEq] at readFields
  simp only [List.cons.injEq, and_true] at readFields
  have start : behind + 10 = (out ++ name ++ fields).length := by
    rw [nameEnd, ← ten, ← List.length_append]
  have place : out.length + name.length + 10 =
      (out ++ name ++ fields).length := by
    rw [← start, nameEnd, List.length_append]
  rw [place] at packedRdata
  rw [start] at decodes position
  refine ⟨fine, ?_, out ++ name ++ fields, rdata, labelPtrs₁, _, shape,
    table₁.extend (List.prefix_append _ _), packedRdata, ?_, decodes⟩
  · rw [position, ← readFields.2.2.2, ← shape]
    exact List.length_append.symm
  · exact readFields.1.symm

/-- A record whose data is generated comes back only if its names are fine. -/
theorem packRr_regenerated {source got : RR}
    (read : unpackRr buf off = .ok (source, next))
    (generated : source.type ∈ generatedTypes) (table : TableOk out labelPtrs)
    (packed : packRr lowPointer out labelPtrs (source.withRdata []) =
      .ok (out', labelPtrs'))
    (within : out' <+: full)
    (readBack : unpackRr full out.length = .ok (got, stop))
    (same : SameDecoded (source.withRdata []) got) :
    (NoEmptyLabel source.name ∧
        ∀ name ∈ source.rdataNames, NoEmptyLabel name) ∧
      TableOk out' labelPtrs' ∧ stop = out'.length := by
  obtain ⟨start, decodes⟩ := decodes_of_unpackRr read
  have named : ReadName source.name := ownerName_read read
  have owner : ReadName (source.withRdata []).name := named
  obtain ⟨ownerFine, position, front, rdata, labelPtrs₁, fresh, shape, table₁,
    packedRdata, sameType, gotDecodes⟩ := packRr_found
      (source.withRdata []) owner table packed within readBack
      (sameName_of_decoded same)
  have fine : NoEmptyLabel source.name := ownerFine
  rw [← shape] at within
  have namesFine := rdataNames_fine (rdataNames_read decodes) table₁
    packedRdata within sameType gotDecodes same generated
  have back := packRr_regenerates read generated fine namesFine _ _ _ _ table
    packed
  exact ⟨⟨fine, namesFine⟩, back.1, position⟩

end ComeBack

/-- Where a packed message is parsed to the same content, each of its names is
fine and each of its records is as good as a record that comes back. -/
theorem good_of_parse {dns got : DNS} {out : Bytes} {Same : RR → RR → Prop}
    {Good : RR → Prop} (packed : dns.bytesWith lowPointer = .ok out)
    (parsed : DNS.parse out = .ok got)
    (sameQd : List.Forall₂ SameQ dns.qd got.qd)
    (sameAn : List.Forall₂ Same dns.an got.an)
    (sameNs : List.Forall₂ Same dns.ns got.ns)
    (sameAr : List.Forall₂ Same dns.ar got.ar)
    (questions : ∀ q ∈ dns.qd, q.Received)
    (records : ∀ rr ∈ dns.records, ∀ out₁ labelPtrs₁ out₂ labelPtrs₂ found next,
      TableOk out₁ labelPtrs₁ →
        packRr lowPointer out₁ labelPtrs₁ rr = .ok (out₂, labelPtrs₂) →
          out₂ <+: out → unpackRr out out₁.length = .ok (found, next) →
            Same rr found →
              Good rr ∧ TableOk out₂ labelPtrs₂ ∧ next = out₂.length) :
    (∀ q ∈ dns.qd, NoEmptyLabel q.name) ∧ ∀ rr ∈ dns.records, Good rr := by
  obtain ⟨header, out₁, labelPtrs₁, out₂, labelPtrs₂, out₃, labelPtrs₃, _,
    packedHeader, packedQd, packedAn, packedNs, packedAr⟩ :=
      DNS.bytesWith_eq_ok packed
  obtain ⟨_whole, _fields, off₁, off₂, off₃, off₄, readQd, readAn, readNs,
    readAr⟩ := DNS.parse_eq_ok parsed
  have twelve : header.length = 12 := packFields_length packedHeader
  rw [← twelve, ← sameQd.length_eq] at readQd
  rw [← sameAn.length_eq] at readAn
  rw [← sameNs.length_eq] at readNs
  rw [← sameAr.length_eq] at readAr
  have grows : ∀ rr : RR, ∀ out₁ labelPtrs₁ out₂ labelPtrs₂,
      packRr lowPointer out₁ labelPtrs₁ rr = .ok (out₂, labelPtrs₂) →
        out₁ <+: out₂ := fun _rr _ _ _ _ step => packRr_begins step
  have begins₄ : out₃ <+: out := writeAll_begins (fun rr _ => grows rr) packedAr
  have begins₃ : out₂ <+: out :=
    (writeAll_begins (fun rr _ => grows rr) packedNs).trans begins₄
  have begins₂ : out₁ <+: out :=
    (writeAll_begins (fun rr _ => grows rr) packedAn).trans begins₃
  have eachQ : ∀ q ∈ dns.qd, ∀ out₁ labelPtrs₁ out₂ labelPtrs₂ found next,
      TableOk out₁ labelPtrs₁ →
        packQ lowPointer out₁ labelPtrs₁ q = .ok (out₂, labelPtrs₂) →
          out₂ <+: out → unpackQ out out₁.length = .ok (found, next) →
            SameQ q found →
              NoEmptyLabel q.name ∧ TableOk out₂ labelPtrs₂ ∧
                next = out₂.length := by
    intro q member _ _ _ _ _ _ table step within read same
    obtain ⟨_, _, _, received⟩ := questions q member
    exact packQ_good received table step within read same
  obtain ⟨goodQd, table₁, stop₁⟩ := writeAll_good eachQ
    (fun _q _ _ _ _ _ step => packQ_begins step) (TableOk.empty header)
    packedQd begins₂ readQd sameQd
  rw [stop₁] at readAn
  obtain ⟨goodAn, table₂, stop₂⟩ := writeAll_good
    (fun rr member => records rr (by simp [member])) (fun rr _ => grows rr)
    table₁ packedAn begins₃ readAn sameAn
  rw [stop₂] at readNs
  obtain ⟨goodNs, table₃, stop₃⟩ := writeAll_good
    (fun rr member => records rr (by simp [member])) (fun rr _ => grows rr)
    table₂ packedNs begins₄ readNs sameNs
  rw [stop₃] at readAr
  obtain ⟨goodAr, _, _⟩ := writeAll_good
    (fun rr member => records rr (by simp [member])) (fun rr _ => grows rr)
    table₃ packedAr List.prefix_rfl readAr sameAr
  refine ⟨goodQd, ?_⟩
  intro rr member
  rw [List.mem_append, List.mem_append] at member
  rcases member with (inAn | inNs) | inAr
  · exact goodAn rr inAn
  · exact goodNs rr inNs
  · exact goodAr rr inAr

end DpktNg.Dns
