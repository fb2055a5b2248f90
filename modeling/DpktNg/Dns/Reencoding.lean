/-
Messages some of whose records had their data set to `b''`, so that it is
generated again from the fields it was decoded to.
-/

import DpktNg.Dns.Regenerating

namespace DpktNg.Dns

open Library

/-! ### Clearing the data of records -/

/-- The three lists of records of a message. -/
inductive Part where
  | an
  | ns
  | ar
deriving DecidableEq, Repr

def DNS.part (self : DNS) : Part → List RR
  | .an => self.an
  | .ns => self.ns
  | .ar => self.ar

/-- `getattr(dns, part)[i].rdata = b''` -/
def DNS.clearRdata (self : DNS) (part : Part) (i : Nat) : DNS :=
  let clear := fun records : List RR =>
    records.modify i fun rr => rr.withRdata []
  match part with
  | .an => { self with an := clear self.an }
  | .ns => { self with ns := clear self.ns }
  | .ar => { self with ar := clear self.ar }

def DNS.clearAll (self : DNS) : DNS :=
  let clear := fun records : List RR =>
    records.map fun rr => rr.withRdata []
  { self with an := clear self.an, ns := clear self.ns, ar := clear self.ar }

/-- The types that are both decoded into fields and generated from fields. -/
def reencodedTypes : List Nat :=
  [dnsA, dnsNs, dnsCname, dnsPtr, dnsSoa, dnsMx, dnsTxt, dnsHinfo, dnsAaaa,
    dnsSrv]

/-- The types whose decoded fields the packer does not take. -/
def mismatchedTypes : List Nat := [dnsMx, dnsTxt, dnsHinfo]

/-- No name in the message has an empty label. -/
structure DNS.NamesFine (dns : DNS) : Prop where
  questions : ∀ q ∈ dns.qd, NoEmptyLabel q.name
  owners : ∀ rr ∈ dns.records, NoEmptyLabel rr.name
  rdata : ∀ rr ∈ dns.records, ∀ name ∈ rr.rdataNames, NoEmptyLabel name

theorem forall_mem_modify {α : Type} {P : α → Prop} {items : List α} {i : Nat}
    {item : α} {change : α → α} (present : items[i]? = some item)
    (holds : P item) :
    (∀ other ∈ items.modify i change, P other) ↔
      P (change item) ∧ ∀ other ∈ items, P other := by
  obtain ⟨inside, value⟩ := List.getElem?_eq_some_iff.mp present
  have whole : items = items.take i ++ item :: items.drop (i + 1) := by
    rw [← value, List.getElem_cons_drop, List.take_append_drop]
  rw [List.modify_eq_take_cons_drop inside, value]
  constructor
  · intro every
    refine ⟨every _ (by simp), ?_⟩
    intro other member
    rw [whole, List.mem_append, List.mem_cons] at member
    rcases member with before | same | after
    · exact every other (List.mem_append_left _ before)
    · rw [same]
      exact holds
    · exact every other
        (List.mem_append_right _ (List.mem_cons_of_mem _ after))
  · intro parts other member
    rw [List.mem_append, List.mem_cons] at member
    rcases member with before | same | after
    · exact parts.2 other (List.mem_of_mem_take before)
    · rw [same]
      exact parts.1
    · exact parts.2 other (List.mem_of_mem_drop after)

section Clearing

variable {dns : DNS} {part : Part} {i : Nat} {rr : RR} {P : RR → Prop}

theorem mem_records_of_part (present : (dns.part part)[i]? = some rr) :
    rr ∈ dns.records := by
  have member := List.mem_of_getElem? present
  unfold DNS.records
  cases part with
  | an => exact List.mem_append_left _ (List.mem_append_left _ member)
  | ns => exact List.mem_append_left _ (List.mem_append_right _ member)
  | ar => exact List.mem_append_right _ member

theorem forall_records_clearRdata
    (present : (dns.part part)[i]? = some rr) (holds : P rr) :
    (∀ other ∈ (dns.clearRdata part i).records, P other) ↔
      P (rr.withRdata []) ∧ ∀ other ∈ dns.records, P other := by
  unfold DNS.records
  cases part with
  | an =>
      have here := @forall_mem_modify _ P _ i rr (fun rr => rr.withRdata [])
        present holds
      simp only [DNS.clearRdata, List.forall_mem_append, DNS.part] at here ⊢
      rw [here]
      tauto
  | ns =>
      have here := @forall_mem_modify _ P _ i rr (fun rr => rr.withRdata [])
        present holds
      simp only [DNS.clearRdata, List.forall_mem_append, DNS.part] at here ⊢
      rw [here]
      tauto
  | ar =>
      have here := @forall_mem_modify _ P _ i rr (fun rr => rr.withRdata [])
        present holds
      simp only [DNS.clearRdata, List.forall_mem_append, DNS.part] at here ⊢
      rw [here]
      tauto

end Clearing

/-! ### When packing succeeds -/

/-- What was read can be packed again, but for NULL records without data. -/
theorem packable_of_read {buf : Bytes} {off next : Nat} {rr : RR}
    (read : unpackRr buf off = .ok (rr, next)) :
    rr.Packable ↔ (rr.type = dnsNull → rr.rdata ≠ []) := by
  obtain ⟨start, decodes⟩ := decodes_of_unpackRr read
  constructor
  · intro packable null empty
    exact (packable empty).2.1 null
  · intro fine empty
    refine ⟨?_, fun null => fine null empty, ?_⟩
    · intro mx
      have readAgain := unpackRdata_of_decodes decodes
      simp [unpackRdata, mx, empty, dnsA, dnsNs, dnsCname, dnsPtr, dnsSoa,
        dnsMx, unpackFields] at readAgain
      cases readAgain
    · intro typed
      obtain ⟨text, readText, given⟩ := decodes_text decodes typed
      rw [given, (unpackText_items readText).1.mpr empty]

/-- Without its data a record can be packed unless its fields are kept in
another form than the packer takes. -/
theorem packable_cleared {buf : Bytes} {off next : Nat} {rr : RR}
    (read : unpackRr buf off = .ok (rr, next))
    (reencoded : rr.type ∈ reencodedTypes) (nonempty : rr.rdata ≠ []) :
    (rr.withRdata []).Packable ↔ rr.type ∉ mismatchedTypes := by
  simp only [mismatchedTypes, List.mem_cons, List.not_mem_nil, or_false, not_or]
  constructor
  · intro packable
    obtain ⟨notMx, _notNull, noText⟩ := packable rfl
    have textless : ¬(rr.type = dnsTxt ∨ rr.type = dnsHinfo) := by
      intro typed
      obtain ⟨start, decodes⟩ := decodes_of_unpackRr read
      obtain ⟨text, readText, given⟩ := decodes_text decodes typed
      have none : rr.text = some [] := noText typed
      rw [given, Option.some.injEq] at none
      exact nonempty ((unpackText_items readText).1.mp none)
    rw [not_or] at textless
    exact ⟨notMx, textless.1, textless.2⟩
  · intro other
    apply packable_of_type
    simp only [List.mem_cons, List.not_mem_nil, or_false, not_or]
    refine ⟨other.1, ?_, other.2.1, other.2.2⟩
    intro null
    rw [RR.withRdata_toQ] at null
    rw [null] at reencoded
    exact absurd reencoded (by decide)

section Messages

variable {buf : Bytes} {dns : DNS}

/-- One record was cleared: packing succeeds unless the record's fields are
kept in another form or some NULL record has no data. -/
theorem bytes_clearRdata_iff (parsed : DNS.parse buf = .ok dns) {part : Part}
    {i : Nat} {rr : RR} (present : (dns.part part)[i]? = some rr)
    (reencoded : rr.type ∈ reencodedTypes) (nonempty : rr.rdata ≠ []) :
    (∃ out, (dns.clearRdata part i).bytes = .ok out) ↔
      rr.type ∉ mismatchedTypes ∧
        ∀ other ∈ dns.records, other.type = dnsNull → other.rdata ≠ [] := by
  obtain ⟨_questions, records⟩ := read_of_parse parsed
  obtain ⟨off, next, read⟩ := records rr (mem_records_of_part present)
  have received : (dns.clearRdata part i).Received := by
    obtain ⟨header, questions, received⟩ := received_of_parse parsed
    have here : rr.Received := received rr (mem_records_of_part present)
    have cleared : (rr.withRdata []).Received :=
      ⟨buf, off, next, rr, read, [], by decide, rfl⟩
    refine ⟨?_, ?_, (forall_records_clearRdata present here).mpr
      ⟨cleared, received⟩⟩
    · cases part <;> simpa [DNS.clearRdata] using header
    · cases part <;> exact questions
  have untouched : rr.Packable := fun empty => absurd empty nonempty
  rw [received.bytes_succeeds_iff,
    forall_records_clearRdata present untouched,
    packable_cleared read reencoded nonempty]
  constructor
  · intro parts
    refine ⟨parts.1, ?_⟩
    intro other member
    obtain ⟨_, _, readOther⟩ := records other member
    exact (packable_of_read readOther).mp (parts.2 other member)
  · intro parts
    refine ⟨parts.1, ?_⟩
    intro other member
    obtain ⟨_, _, readOther⟩ := records other member
    exact (packable_of_read readOther).mpr (parts.2 other member)

theorem generated_of_reencoded {type : Nat} (reencoded : type ∈ reencodedTypes)
    (matched : type ∉ mismatchedTypes) : type ∈ generatedTypes := by
  revert reencoded matched
  unfold reencodedTypes mismatchedTypes generatedTypes
  simp only [List.mem_cons, List.not_mem_nil, or_false]
  tauto

theorem mem_records_clearAll {rr : RR} (member : rr ∈ dns.clearAll.records) :
    ∃ source ∈ dns.records, rr = source.withRdata [] := by
  unfold DNS.records DNS.clearAll at member
  dsimp only at member
  rw [← List.map_append, ← List.map_append, List.mem_map] at member
  obtain ⟨source, among, same⟩ := member
  exact ⟨source, among, same.symm⟩

theorem forall₂_cleared {records got : List RR} :
    List.Forall₂ SameDecoded
        (records.map fun rr => rr.withRdata []) got ↔
      List.Forall₂ SameDecoded records got := by
  rw [List.forall₂_map_left_iff]
  exact Iff.rfl

theorem received_clearAll (parsed : DNS.parse buf = .ok dns) :
    dns.clearAll.Received := by
  obtain ⟨header, questions, _received⟩ := received_of_parse parsed
  refine ⟨by simpa [DNS.clearAll] using header, questions, ?_⟩
  intro rr member
  obtain ⟨source, among, same⟩ := mem_records_clearAll member
  obtain ⟨off, next, read⟩ := (read_of_parse parsed).2 source among
  exact ⟨buf, off, next, source, read, [], by decide, same⟩

/-- All records were cleared: the message is packed to one with the same
content. -/
def DNS.Regenerates (dns : DNS) : Prop :=
  ∃ out got, dns.clearAll.bytes = .ok out ∧ DNS.parse out = .ok got ∧
    SameContent dns got

theorem regenerates_of_fine (parsed : DNS.parse buf = .ok dns)
    (eligible : ∀ rr ∈ dns.records, rr.type ∈ reencodedTypes)
    (fit : dns.clearAll.PointersFit)
    (matched : ∀ rr ∈ dns.records, rr.type ∉ mismatchedTypes)
    (fine : dns.NamesFine) : dns.Regenerates := by
  obtain ⟨questions, records⟩ := read_of_parse parsed
  have generated : ∀ rr ∈ dns.records, rr.type ∈ generatedTypes :=
    fun rr member => generated_of_reencoded (eligible rr member)
      (matched rr member)
  have packable : ∀ rr ∈ dns.clearAll.records, rr.Packable := by
    intro rr member
    obtain ⟨source, among, same⟩ := mem_records_clearAll member
    have typed := generated source among
    rw [same]
    apply packable_of_type
    intro other
    rw [RR.withRdata_toQ] at other
    revert typed other
    unfold generatedTypes
    simp only [List.mem_cons, List.not_mem_nil, or_false]
    intro typed other
    rcases other with mx | null | txt | hinfo
    · rw [mx] at typed
      exact absurd typed (by decide)
    · rw [null] at typed
      exact absurd typed (by decide)
    · rw [txt] at typed
      exact absurd typed (by decide)
    · rw [hinfo] at typed
      exact absurd typed (by decide)
  obtain ⟨out, packed⟩ :=
    (received_clearAll parsed).bytes_succeeds_iff.mpr packable
  have packedLow : dns.clearAll.bytesWith lowPointer = .ok out :=
    fit.packed packed
  have carried : ∀ q ∈ dns.clearAll.qd, CarriedName q.name := by
    intro q member
    obtain ⟨off, next, read⟩ := questions q member
    obtain ⟨_, readName, _⟩ := unpackQ_eq_ok.mp read
    exact (readName_of_unpackName readName).carried (fine.questions q member)
  obtain ⟨got, parsedGot, id, op, qd, an, ns, ar⟩ :=
    @parse_of_reached _ SameDecoded _ packedLow carried
    (fun _header _packedHeader _out₀ _table₀ _packedQd before rr after split
      out₁ labelPtrs₁ _reached table out₂ labelPtrs₂ step => by
        have member : rr ∈ dns.clearAll.records := by
          unfold DNS.records
          rw [split]
          exact List.mem_append_right _ List.mem_cons_self
        obtain ⟨source, among, same⟩ := mem_records_clearAll member
        obtain ⟨off, next, read⟩ := records source among
        rw [same] at step ⊢
        exact packRr_regenerates read (generated source among)
          (fine.owners source among) (fine.rdata source among) out₁ labelPtrs₁
          out₂ labelPtrs₂ table step)
  exact ⟨out, got, packed, parsedGot, ⟨id, op, qd, forall₂_cleared.mp an,
    forall₂_cleared.mp ns, forall₂_cleared.mp ar⟩⟩

theorem fine_of_regenerates (parsed : DNS.parse buf = .ok dns)
    (eligible : ∀ rr ∈ dns.records, rr.type ∈ reencodedTypes ∧ rr.rdata ≠ [])
    (fit : dns.clearAll.PointersFit) (regenerates : dns.Regenerates) :
    (∀ rr ∈ dns.records, rr.type ∉ mismatchedTypes) ∧ dns.NamesFine := by
  obtain ⟨questions, records⟩ := read_of_parse parsed
  obtain ⟨out, got, packed, parsedGot, same⟩ := regenerates
  have packable :=
    (received_clearAll parsed).bytes_succeeds_iff.mp ⟨out, packed⟩
  have matched : ∀ rr ∈ dns.records, rr.type ∉ mismatchedTypes := by
    intro rr member
    obtain ⟨off, next, read⟩ := records rr member
    obtain ⟨reencoded, nonempty⟩ := eligible rr member
    apply (packable_cleared read reencoded nonempty).mp
    apply packable
    unfold DNS.records DNS.clearAll
    dsimp only
    rw [← List.map_append, ← List.map_append]
    exact List.mem_map_of_mem member
  have packedLow : dns.clearAll.bytesWith lowPointer = .ok out :=
    fit.packed packed
  obtain ⟨fineQd, fineRecords⟩ := @good_of_parse dns.clearAll got out
    SameDecoded
    (fun rr => NoEmptyLabel rr.name ∧
      ∀ name ∈ rr.rdataNames, NoEmptyLabel name)
    packedLow parsedGot same.qd (forall₂_cleared.mpr same.an)
    (forall₂_cleared.mpr same.ns) (forall₂_cleared.mpr same.ar)
    (received_clearAll parsed).questions
    (fun rr member _ _ _ _ _ _ table step within readBack sameRr => by
      obtain ⟨source, among, cleared⟩ := mem_records_clearAll member
      obtain ⟨off, next, read⟩ := records source among
      have generated := generated_of_reencoded (eligible source among).1
        (matched source among)
      rw [cleared] at step sameRr ⊢
      have good := packRr_regenerated read generated table step within readBack
        sameRr
      exact good)
  have clearedIn : ∀ rr ∈ dns.records,
      rr.withRdata [] ∈ dns.clearAll.records := by
    intro rr member
    unfold DNS.records DNS.clearAll
    dsimp only
    rw [← List.map_append, ← List.map_append]
    exact List.mem_map_of_mem member
  refine ⟨matched, ⟨fineQd, ?_, ?_⟩⟩
  · intro rr member
    exact (fineRecords _ (clearedIn rr member)).1
  · intro rr member
    exact (fineRecords _ (clearedIn rr member)).2

/-- A record without its data is packed unless its type keeps its fields in
another form or a NULL record has no data; a message of such records comes back
exactly when no name has an empty label, as long as its pointers fit. -/
theorem reencode_iff (parsed : DNS.parse buf = .ok dns) :
    (∀ part i rr, (dns.part part)[i]? = some rr → rr.type ∈ reencodedTypes →
      rr.rdata ≠ [] →
        ((∃ out, (dns.clearRdata part i).bytes = .ok out) ↔
          rr.type ∉ mismatchedTypes ∧
            ∀ other ∈ dns.records, other.type = dnsNull → other.rdata ≠ [])) ∧
    ((∀ rr ∈ dns.records, rr.type ∈ reencodedTypes ∧ rr.rdata ≠ []) →
      dns.clearAll.PointersFit →
        (dns.Regenerates ↔
          (∀ rr ∈ dns.records, rr.type ∉ mismatchedTypes) ∧
            dns.NamesFine)) := by
  constructor
  · intro part i rr present reencoded nonempty
    exact bytes_clearRdata_iff parsed present reencoded nonempty
  · intro eligible fit
    constructor
    · intro regenerates
      exact fine_of_regenerates parsed eligible fit regenerates
    · intro parts
      exact regenerates_of_fine parsed (fun rr member => (eligible rr member).1)
        fit parts.1 parts.2

end Messages

/-! ### An alias and a mail exchange -/

/-- An alias `a` of `b`, and the address of `b`, whose name points into the data
of the alias. -/
def aliasBytes : Bytes :=
  [0, 7, 0x81, 0x80, 0, 0, 0, 2, 0, 0, 0, 0] ++
    ([1, 0x61, 0] ++ [0, 5, 0, 1, 0, 0, 0, 0, 0, 3] ++ [1, 0x62, 0]) ++
      ([0xc0, 25] ++ [0, 1, 0, 1, 0, 0, 0, 0, 0, 4] ++ [192, 0, 2, 1])

def aliasMessage : DNS where
  id := 7
  op := 0x8180
  an := [
    { name := ['a'], type := dnsCname, rlen := 3, rdata := [1, 0x62, 0]
      cname := some ['b'] },
    { name := ['b'], type := dnsA, rlen := 4, rdata := [192, 0, 2, 1]
      ip := some [192, 0, 2, 1] }]

theorem aliasBytes_parse : DNS.parse aliasBytes = .ok aliasMessage := by
  have target : Spells (cellAt aliasBytes) 25 25 [[0x62]] 28 :=
    .item (show cellAt aliasBytes 25 = some (.item [0x62] 27) from rfl)
      (.stop rfl)
  have owner : Spells (cellAt aliasBytes) 12 12 [[0x61]] 15 :=
    .item (show cellAt aliasBytes 12 = some (.item [0x61] 14) from rfl)
      (.stop rfl)
  have pointed : Spells (cellAt aliasBytes) 28 28 [[0x62]] 30 :=
    .jump (show cellAt aliasBytes 28 = some (.jump 25 30) from rfl)
      (by decide) target
  have nameA : unpackName aliasBytes 12 = .ok (['a'], 15) :=
    unpackName_of_spells rfl (by decide) owner
  have nameB : unpackName aliasBytes 25 = .ok (['b'], 28) :=
    unpackName_of_spells rfl (by decide) target
  have nameB' : unpackName aliasBytes 28 = .ok (['b'], 30) :=
    unpackName_of_spells rfl (by decide) pointed
  have first : unpackRr aliasBytes 12 = .ok (aliasMessage.an[0], 28) := by
    apply unpackRr_eq_ok.mpr
    exact ⟨['a'], 15, dnsCname, 1, 0, 3, nameA, rfl,
      .cname rfl nameB, rfl⟩
  have second : unpackRr aliasBytes 28 = .ok (aliasMessage.an[1], 44) := by
    apply unpackRr_eq_ok.mpr
    exact ⟨['b'], 30, dnsA, 1, 0, 4, nameB', rfl, .a rfl, rfl⟩
  have records : readMany unpackRr aliasBytes 12 2 =
      .ok (aliasMessage.an, 44) := by
    simp only [readMany, first, ok_bind, second]
    rfl
  apply packetInit_eq_ok.mpr
  have split : takeHeader 12 aliasBytes = .ok
      ([0, 7, 0x81, 0x80, 0, 0, 0, 2, 0, 0, 0, 0], aliasBytes.drop 12) := rfl
  have fields : unpackFields [2, 2, 2, 2, 2, 2]
      [0, 7, 0x81, 0x80, 0, 0, 0, 2, 0, 0, 0, 0] =
        .ok [7, 0x8180, 0, 2, 0, 0] := rfl
  have none : ∀ off, readMany unpackQ aliasBytes off 0 = .ok ([], off) :=
    fun _off => rfl
  have none' : ∀ off, readMany unpackRr aliasBytes off 0 = .ok ([], off) :=
    fun _off => rfl
  simp only [DNS.unpack, split, ok_bind, fields, none, records, none']
  rfl

/-- Without its data the alias is packed, and without any data the message
comes back. -/
theorem aliasMessage_reencodes :
    (∃ out, (aliasMessage.clearRdata .an 0).bytes = .ok out) ∧
      aliasMessage.Regenerates := by
  have both := reencode_iff aliasBytes_parse
  have fit : aliasMessage.clearAll.PointersFit := by
    unfold DNS.PointersFit
    decide +kernel
  have fine : aliasMessage.NamesFine := by
    constructor <;> decide +kernel
  constructor
  · exact (both.1 .an 0 aliasMessage.an[0] rfl (by decide) (by decide)).mpr
      (by decide +kernel)
  · exact (both.2 (by decide) fit).mpr ⟨by decide, fine⟩

/-- A mail exchange `b` of preference 10 for `a`. -/
def mailBytes : Bytes :=
  [0, 7, 0x81, 0x80, 0, 0, 0, 1, 0, 0, 0, 0] ++
    ([1, 0x61, 0] ++ [0, 15, 0, 1, 0, 0, 0, 0, 0, 5] ++ [0, 10, 1, 0x62, 0])

def mailMessage : DNS where
  id := 7
  op := 0x8180
  an := [
    { name := ['a'], type := dnsMx, rlen := 5, rdata := [0, 10, 1, 0x62, 0]
      preference := some (.tuple [10]), mxname := some ['b'] }]

theorem mailBytes_parse : DNS.parse mailBytes = .ok mailMessage := by
  have owner : Spells (cellAt mailBytes) 12 12 [[0x61]] 15 :=
    .item (show cellAt mailBytes 12 = some (.item [0x61] 14) from rfl)
      (.stop rfl)
  have target : Spells (cellAt mailBytes) 27 27 [[0x62]] 30 :=
    .item (show cellAt mailBytes 27 = some (.item [0x62] 29) from rfl)
      (.stop rfl)
  have nameA : unpackName mailBytes 12 = .ok (['a'], 15) :=
    unpackName_of_spells rfl (by decide) owner
  have nameB : unpackName mailBytes 27 = .ok (['b'], 30) :=
    unpackName_of_spells rfl (by decide) target
  have record : unpackRr mailBytes 12 = .ok (mailMessage.an[0], 30) := by
    apply unpackRr_eq_ok.mpr
    exact ⟨['a'], 15, dnsMx, 1, 0, 5, nameA, rfl,
      .mx rfl rfl nameB, rfl⟩
  apply packetInit_eq_ok.mpr
  have split : takeHeader 12 mailBytes = .ok
      ([0, 7, 0x81, 0x80, 0, 0, 0, 1, 0, 0, 0, 0], mailBytes.drop 12) := rfl
  have fields : unpackFields [2, 2, 2, 2, 2, 2]
      [0, 7, 0x81, 0x80, 0, 0, 0, 1, 0, 0, 0, 0] =
        .ok [7, 0x8180, 0, 1, 0, 0] := rfl
  simp only [DNS.unpack, split, ok_bind, fields, readMany, record]
  rfl

/-- The preference was kept as a tuple, which `struct.pack` does not take. -/
theorem mailMessage_is_not_packed :
    ¬∀ buf dns, buf.length < 0x4000 → DNS.parse buf = .ok dns →
      ∀ part i rr, (dns.part part)[i]? = some rr → rr.type ∈ reencodedTypes →
        rr.rdata ≠ [] → ∃ out, (dns.clearRdata part i).bytes = .ok out := by
  intro claimed
  obtain ⟨out, packed⟩ := claimed mailBytes mailMessage (by decide)
    mailBytes_parse .an 0 mailMessage.an[0] rfl (by decide) (by decide)
  have refused : (mailMessage.clearRdata .an 0).bytes = .error .structError := rfl
  rw [refused] at packed
  cases packed

end DpktNg.Dns
