/-
Whole messages are read back as they were packed, as long as no pointer needs
more than its fourteen bits.  Beyond that the high bits of an offset are lost,
and a question comes back under another name.
-/

import DpktNg.Dns.RecordRoundTrip

namespace DpktNg.Dns

open Library

/-- A message of the supported records with well-formed names. -/
structure DNS.WellFormed (dns : DNS) : Prop where
  questions : ∀ q ∈ dns.qd, ValidName q.name
  records : ∀ rr ∈ dns.an ++ dns.ns ++ dns.ar, rr.Generated

structure SameMessage (sent got : DNS) : Prop where
  id : got.id = sent.id
  op : got.op = sent.op
  qd : List.Forall₂ SameQ sent.qd got.qd
  an : List.Forall₂ SameRr sent.an got.an
  ns : List.Forall₂ SameRr sent.ns got.ns
  ar : List.Forall₂ SameRr sent.ar got.ar

/-- What is packed is read back. -/
def DNS.RoundTrips (dns : DNS) : Prop :=
  ∀ out, dns.bytes = .ok out →
    ∃ got, DNS.parse out = .ok got ∧ SameMessage dns got

/-- Every offset that `pack_name` finds in `label_ptrs` is below 0x4000: a
message that is packed at all is packed when other pointers are refused. -/
def DNS.PointersFit (dns : DNS) : Prop :=
  dns.bytes.isOk → (dns.bytesWith lowPointer).isOk

theorem packRdata_refines (rr : RR) (off : Nat) (labelPtrs : LabelPtrs) :
    Refines (packRdata lowPointer rr off labelPtrs)
      (packRdata packPointer rr off labelPtrs) := by
  have named : ∀ attribute_ : Option PyStr, Refines
      (getAttribute attribute_ >>= fun name =>
        packName lowPointer name off labelPtrs)
      (getAttribute attribute_ >>= fun name =>
        packName packPointer name off labelPtrs) := fun attribute_ =>
    .bind (.refl _) fun name => packName_refines name off labelPtrs
  unfold packRdata
  refine .ite (.refl _) (.ite (.refl _) (.ite (named _) (.ite (named _)
    (.ite (named _) (.ite ?soa (.ite ?mx (.ite (.refl _) (.ite (.refl _)
      (.ite ?srv (.refl _))))))))))
  case soa =>
    exact .bind (.refl _) fun _mname => .bind (packName_refines _ _ _)
      fun _first => .bind (.refl _) fun _rname =>
        .bind (packName_refines _ _ _) fun _second => .refl _
  case mx =>
    exact .bind (.refl _) fun _value => .bind (.refl _) fun _preference =>
      .bind (.refl _) fun _name => .bind (packName_refines _ _ _)
        fun _written => .refl _
  case srv =>
    exact .bind (.refl _) fun _priority => .bind (.refl _) fun _weight =>
      .bind (.refl _) fun _port => .bind (.refl _) fun _numbers =>
        .bind (.refl _) fun _name => .bind (packName_refines _ _ _)
          fun _written => .refl _

theorem packQ_refines (buf : Bytes) (labelPtrs : LabelPtrs) (q : Q) :
    Refines (packQ lowPointer buf labelPtrs q)
      (packQ packPointer buf labelPtrs q) :=
  .bind (packName_refines _ _ _) fun _name => .refl _

theorem packRr_refines (buf : Bytes) (labelPtrs : LabelPtrs) (rr : RR) :
    Refines (packRr lowPointer buf labelPtrs rr)
      (packRr packPointer buf labelPtrs rr) :=
  .bind (packName_refines _ _ _) fun _name =>
    .bind (packRdata_refines _ _ _) fun _rdata => .refl _

theorem DNS.bytesWith_refines (dns : DNS) :
    Refines (dns.bytesWith lowPointer) dns.bytes :=
  .bind (.refl _) fun _header =>
    .bind (writeAll_refines packQ_refines _ _ _) fun _questions =>
      .bind (writeAll_refines packRr_refines _ _ _) fun _answers =>
        .bind (writeAll_refines packRr_refines _ _ _) fun _servers =>
          .bind (writeAll_refines packRr_refines _ _ _) fun _others => .refl _

theorem DNS.PointersFit.packed {dns : DNS} (fit : dns.PointersFit)
    {out : Bytes} (packed : dns.bytes = .ok out) :
    dns.bytesWith lowPointer = .ok out := by
  have returned := fit (by rw [packed]; rfl)
  cases low : dns.bytesWith lowPointer with
  | error problem =>
      rw [low] at returned
      cases returned
  | ok other =>
      have same := dns.bytesWith_refines other low
      rw [packed, Except.ok.injEq] at same
      rw [same]

theorem takeHeader_of_prefix {header full : Bytes}
    (within : header <+: full) :
    takeHeader header.length full = .ok (header, full.drop header.length) := by
  have longer := within.length_le
  unfold takeHeader
  rw [if_neg (by omega), List.prefix_iff_eq_take.mp within]
  simp

/-- A message comes back when each of its records does at the output that is
reached before it. -/
theorem parse_of_reached {dns : DNS} {Same : RR → RR → Prop} {out : Bytes}
    (packed : dns.bytesWith lowPointer = .ok out)
    (questions : ∀ q ∈ dns.qd, CarriedName q.name)
    (records : ∀ header, packFields
        [(2, dns.id), (2, dns.op), (2, dns.qd.length), (2, dns.an.length),
          (2, dns.ns.length), (2, dns.ar.length)] = .ok header →
      ∀ out₀ labelPtrs₀, writeAll (packQ lowPointer) header Dict.empty dns.qd =
        .ok (out₀, labelPtrs₀) →
      ∀ before rr after, dns.an ++ dns.ns ++ dns.ar = before ++ rr :: after →
        ∀ out₁ labelPtrs₁, writeAll (packRr lowPointer) out₀ labelPtrs₀ before =
          .ok (out₁, labelPtrs₁) → TableOk out₁ labelPtrs₁ →
            ∀ out₂ labelPtrs₂, packRr lowPointer out₁ labelPtrs₁ rr =
              .ok (out₂, labelPtrs₂) →
                TableOk out₂ labelPtrs₂ ∧
                  ReadAs unpackRr (Same rr) out₁ out₂) :
    ∃ got, DNS.parse out = .ok got ∧ got.id = dns.id ∧ got.op = dns.op ∧
      List.Forall₂ SameQ dns.qd got.qd ∧ List.Forall₂ Same dns.an got.an ∧
      List.Forall₂ Same dns.ns got.ns ∧ List.Forall₂ Same dns.ar got.ar := by
  obtain ⟨header, out₁, labelPtrs₁, out₂, labelPtrs₂, out₃, labelPtrs₃, _,
    packedHeader, packedQd, packedAn, packedNs, packedAr⟩ :=
      DNS.bytesWith_eq_ok packed
  have each := records header packedHeader out₁ labelPtrs₁ packedQd
  have packedAnNs : writeAll (packRr lowPointer) out₁ labelPtrs₁
      (dns.an ++ dns.ns) = .ok (out₃, labelPtrs₃) := by
    rw [writeAll_append, packedAn, ok_bind]
    exact packedNs
  obtain ⟨table₁, begins₁, readQd⟩ := writeAll_readsBack dns.qd
    (fun q member => packQ_readsBack (questions q member))
    (TableOk.empty header) packedQd
  obtain ⟨table₂, begins₂, readAn⟩ := writeAll_readsBackFrom dns.an
    (fun before rr after split => each before rr (after ++ dns.ns ++ dns.ar)
      (by rw [split]; simp)) table₁ packedAn
  obtain ⟨table₃, begins₃, readNs⟩ := writeAll_readsBackFrom dns.ns
    (fun before rr after split out₄ labelPtrs₄ reached =>
      each (dns.an ++ before) rr (after ++ dns.ar) (by rw [split]; simp)
        out₄ labelPtrs₄
        (by rw [writeAll_append, packedAn, ok_bind]; exact reached))
    table₂ packedNs
  obtain ⟨_table₄, begins₄, readAr⟩ := writeAll_readsBackFrom dns.ar
    (fun before rr after split out₄ labelPtrs₄ reached =>
      each (dns.an ++ dns.ns ++ before) rr after (by rw [split]; simp)
        out₄ labelPtrs₄
        (by rw [writeAll_append, packedAnNs, ok_bind]; exact reached))
    table₃ packedAr
  obtain ⟨qd, gotQd, sameQd⟩ :=
    readQd out (begins₂.trans (begins₃.trans begins₄))
  obtain ⟨an, gotAn, sameAn⟩ := readAn out (begins₃.trans begins₄)
  obtain ⟨ns, gotNs, sameNs⟩ := readNs out begins₄
  obtain ⟨ar, gotAr, sameAr⟩ := readAr out List.prefix_rfl
  have twelve : header.length = 12 := packFields_length packedHeader
  have split := takeHeader_of_prefix
    (begins₁.trans (begins₂.trans (begins₃.trans begins₄)))
  rw [twelve] at split gotQd
  have fields : unpackFields [2, 2, 2, 2, 2, 2] header =
      .ok [dns.id, dns.op, dns.qd.length, dns.an.length, dns.ns.length,
        dns.ar.length] := unpackFields_packFields packedHeader
  have unpacked : DNS.unpack out =
      .ok { id := dns.id, op := dns.op, qd, an, ns, ar } := by
    simp only [DNS.unpack, split, ok_bind, fields, gotQd, gotAn, gotNs, gotAr]
  refine ⟨{ id := dns.id, op := dns.op, qd, an, ns, ar }, ?_, rfl, rfl, sameQd,
    sameAn, sameNs, sameAr⟩
  unfold DNS.parse packetInit
  rw [unpacked]

/-- The theorem of the round trip, for the packer that writes low pointers. -/
theorem parse_of_bytesWith {dns : DNS} (wellFormed : dns.WellFormed)
    {out : Bytes} (packed : dns.bytesWith lowPointer = .ok out) :
    ∃ got, DNS.parse out = .ok got ∧ SameMessage dns got := by
  obtain ⟨questions, records⟩ := wellFormed
  have carried : ∀ q ∈ dns.qd, CarriedName q.name :=
    fun q member => (questions q member).carried
  obtain ⟨got, parsed, id, op, qd, an, ns, ar⟩ := parse_of_reached packed carried
    (fun _header _packedHeader _out₀ _table₀ _packedQd before rr after split
      out₁ labelPtrs₁ _reached table out₂ labelPtrs₂ =>
        packRr_readsBack (records rr (by rw [split]; simp)) out₁ labelPtrs₁
          out₂ labelPtrs₂ table)
  exact ⟨got, parsed, ⟨id, op, qd, an, ns, ar⟩⟩

/-- Messages of any size come back, up to ASCII case, as long as the pointers
that are written fit in fourteen bits. -/
theorem DNS.round_trip (dns : DNS) (wellFormed : dns.WellFormed)
    (fit : dns.PointersFit) : dns.RoundTrips := by
  intro out packed
  exact parse_of_bytesWith wellFormed (fit.packed packed)

/-- A name server whose record repeats the name of the question. -/
def serverMessage : DNS where
  id := 7
  qd := [{ name := "ex.org".toList, type := dnsNs }]
  an := [
    { name := "EX.org".toList, type := dnsNs, ttl := 60
      nsname := some "ns.ex.ORG".toList },
    { name := "org".toList, type := dnsMx
      preference := some (.int 10), mxname := some "ns.ex.org".toList }]
  ar := [
    { name := "ns.ex.org".toList, type := dnsA, ip := some [192, 0, 2, 1] }]

theorem serverMessage_round_trip :
    serverMessage.PointersFit ∧ serverMessage.RoundTrips := by
  have org : ValidName "org".toList :=
    ⟨[asciiBytes "org"], by decide +kernel⟩
  have exOrg : ValidName "ex.org".toList :=
    ⟨[asciiBytes "ex", asciiBytes "org"],
      by decide +kernel⟩
  have upperOrg : ValidName "EX.org".toList :=
    ⟨[asciiBytes "EX", asciiBytes "org"],
      by decide +kernel⟩
  have server : ValidName "ns.ex.org".toList :=
    ⟨[asciiBytes "ns", asciiBytes "ex", asciiBytes "org"], by decide +kernel⟩
  have upperServer : ValidName "ns.ex.ORG".toList :=
    ⟨[asciiBytes "ns", asciiBytes "ex", asciiBytes "ORG"], by decide +kernel⟩
  have wellFormed : serverMessage.WellFormed := by
    constructor
    · intro q member
      rw [List.mem_singleton.mp member]
      exact exOrg
    · intro rr member
      simp only [serverMessage, List.append_nil, List.cons_append,
        List.nil_append, List.mem_cons, List.not_mem_nil, or_false] at member
      rcases member with ns | mx | a
      · rw [ns]
        refine ⟨by decide, rfl, upperOrg, fun name among => ?_⟩
        rw [List.mem_singleton.mp among]
        exact upperServer
      · rw [mx]
        refine ⟨by decide, rfl, org, fun name among => ?_⟩
        rw [List.mem_singleton.mp among]
        exact server
      · rw [a]
        exact ⟨by decide, rfl, server, fun name among =>
          absurd among List.not_mem_nil⟩
  have fit : serverMessage.PointersFit := by
    unfold DNS.PointersFit
    decide +kernel
  exact ⟨fit, DNS.round_trip serverMessage wellFormed fit⟩

def letterQ (letter : Char) : Q := { name := [letter] }

def manyQuestions : List Q := List.replicate 2729 (letterQ 'x') ++ [letterQ 'a']

/-- The last question repeats the name that was packed at 0x4003. -/
def largeMessage : DNS := { op := 0, qd := manyQuestions ++ [letterQ 'a'] }

def largeHeader : Bytes := [0, 0, 0, 0, 0x0a, 0xab, 0, 0, 0, 0, 0, 0]

def tableX : LabelPtrs := Dict.empty.set [0x58, 0x2e] 12

def tableXA : LabelPtrs := tableX.set [0x41, 0x2e] 0x4003

def manyBytes : Bytes :=
  largeHeader ++ [1, 0x78, 0, 0, 1, 0, 1] ++
    (List.replicate 2728 [0xc0, 0x0c, 0, 1, 0, 1]).flatten ++
      [1, 0x61, 0, 0, 1, 0, 1]

section Packed

variable {pointer : Nat → Except PyError Bytes}

theorem packQ_first :
    packQ pointer largeHeader Dict.empty (letterQ 'x') =
      .ok (largeHeader ++ [1, 0x78, 0, 0, 1, 0, 1], tableX) := rfl

theorem packQ_again (short : pointer 12 = .ok [0xc0, 0x0c]) (buf : Bytes) :
    packQ pointer buf tableX (letterQ 'x') =
      .ok (buf ++ [0xc0, 0x0c, 0, 1, 0, 1], tableX) := by
  have name : packName pointer ['x'] buf.length tableX =
      pointer 12 >>= fun written => .ok ([] ++ written, tableX) := rfl
  simp only [packQ, letterQ, name, short, ok_bind, List.nil_append]
  rw [show packFields [(2, dnsA), (2, dnsIn)] = .ok [0, 1, 0, 1] from rfl,
    ok_bind, List.append_assoc]
  rfl

theorem writeAll_again (short : pointer 12 = .ok [0xc0, 0x0c]) (buf : Bytes)
    (count : Nat) :
    writeAll (packQ pointer) buf tableX (List.replicate count (letterQ 'x')) =
      .ok (buf ++ (List.replicate count [0xc0, 0x0c, 0, 1, 0, 1]).flatten,
        tableX) := by
  induction count generalizing buf with
  | zero => rw [List.replicate_zero, writeAll, List.replicate_zero,
      List.flatten_nil, List.append_nil]
  | succ count ih =>
      rw [List.replicate_succ, writeAll, packQ_again short, ok_bind]
      simp only
      rw [ih, List.replicate_succ, List.flatten_cons, List.append_assoc]

theorem packQ_a {buf : Bytes} (start : buf.length = 0x4003) :
    packQ pointer buf tableX (letterQ 'a') =
      .ok (buf ++ [1, 0x61, 0, 0, 1, 0, 1], tableXA) := by
  have name : packName pointer ['a'] 0x4003 tableX =
      .ok ([1, 0x61, 0], tableXA) := rfl
  simp only [packQ, letterQ, start, name, ok_bind]
  rw [show packFields [(2, dnsA), (2, dnsIn)] = .ok [0, 1, 0, 1] from rfl,
    ok_bind, List.append_assoc]
  rfl

theorem writeAll_manyQuestions (short : pointer 12 = .ok [0xc0, 0x0c]) :
    writeAll (packQ pointer) largeHeader Dict.empty manyQuestions =
      .ok (manyBytes, tableXA) := by
  have start : (largeHeader ++ [1, 0x78, 0, 0, 1, 0, 1] ++
      (List.replicate 2728 ([0xc0, 0x0c, 0, 1, 0, 1] : Bytes)).flatten).length =
        0x4003 := by
    rw [List.length_append, List.length_flatten, List.map_replicate,
      List.sum_replicate]
    rfl
  unfold manyQuestions
  rw [List.replicate_succ, List.cons_append, writeAll, packQ_first, ok_bind]
  simp only
  rw [writeAll_append, writeAll_again short, ok_bind, writeAll, packQ_a start,
    ok_bind]
  rfl

end Packed

theorem manyBytes_length : manyBytes.length = 0x400a := by
  unfold manyBytes
  rw [List.length_append, List.length_append, List.length_flatten,
    List.map_replicate, List.sum_replicate]
  rfl

theorem largeMessage_wellFormed : largeMessage.WellFormed := by
  have x : ValidName (letterQ 'x').name :=
    ⟨[[0x78]], by decide +kernel⟩
  have a : ValidName (letterQ 'a').name :=
    ⟨[[0x61]], by decide +kernel⟩
  refine ⟨?_, fun rr member => absurd member List.not_mem_nil⟩
  intro q member
  rcases List.mem_append.mp member with many | last
  · rcases List.mem_append.mp many with repeated | only
    · rw [List.eq_of_mem_replicate repeated]
      exact x
    · rw [List.mem_singleton.mp only]
      exact a
  · rw [List.mem_singleton.mp last]
    exact a

def largeBytes : Bytes := manyBytes ++ [0xc0, 0x03, 0, 1, 0, 1]

theorem largeMessage_bytes : largeMessage.bytes = .ok largeBytes := by
  have last : packQ packPointer manyBytes tableXA (letterQ 'a') =
      .ok (largeBytes, tableXA) := by
    have name : packName packPointer ['a'] manyBytes.length tableXA =
        .ok ([0xc0, 0x03], tableXA) := rfl
    simp only [packQ, letterQ, name, ok_bind]
    rw [show packFields [(2, dnsA), (2, dnsIn)] = .ok [0, 1, 0, 1] from rfl,
      ok_bind, List.append_assoc]
    rfl
  have questions : writeAll (packQ packPointer) largeHeader Dict.empty
      largeMessage.qd = .ok (largeBytes, tableXA) := by
    rw [largeMessage, writeAll_append, writeAll_manyQuestions rfl, ok_bind,
      writeAll, last]
    rfl
  have count : largeMessage.qd.length = 0x0aab := by
    rw [largeMessage, manyQuestions, List.length_append, List.length_append,
      List.length_replicate]
    rfl
  have header : packFields [(2, largeMessage.id), (2, largeMessage.op),
      (2, largeMessage.qd.length), (2, largeMessage.an.length),
      (2, largeMessage.ns.length), (2, largeMessage.ar.length)] =
      .ok largeHeader := by
    rw [count]
    rfl
  unfold DNS.bytes DNS.bytesWith
  rw [header, ok_bind, questions]
  rfl

theorem largeHeader_prefix : largeHeader <+: largeBytes := by
  unfold largeBytes manyBytes
  rw [List.append_assoc, List.append_assoc, List.append_assoc]
  exact List.prefix_append _ _

theorem unpackQ_large :
    unpackQ largeBytes 0x400a = .ok ({ name := [] }, 0x4010) := by
  have pointed : manyBytes ++ beBytes 2 (0xc000 ||| 3) <+: largeBytes :=
    ⟨[0, 1, 0, 1], by rw [largeBytes, List.append_assoc]; rfl⟩
  have at_pointer := cellAt_pointer manyBytes (show 3 < 0x4000 by decide)
  rw [manyBytes_length] at at_pointer
  have at_header : cellAt largeHeader 3 = some (.stop 4) := rfl
  have spelled : Spells (cellAt largeBytes) 0x400a 0x400a [] 0x400c :=
    .jump (cellAt_extends pointed _ _ at_pointer) (by decide)
      (.stop (cellAt_extends largeHeader_prefix _ _ at_header))
  have name : unpackName largeBytes 0x400a = .ok ([], 0x400c) :=
    unpackName_of_spells rfl (Nat.zero_le _) spelled
  have fields : cut largeBytes 0x400c 0x4010 = [0, 1, 0, 1] := by
    have start : (manyBytes ++ [0xc0, 0x03]).length = 0x400c := by
      rw [List.length_append, manyBytes_length]
      rfl
    have placed := cut_append (manyBytes ++ [0xc0, 0x03]) [0, 1, 0, 1] []
    rw [start, List.append_nil, List.append_assoc] at placed
    exact placed
  have values : unpackFields [2, 2] [0, 1, 0, 1] = .ok [1, 1] := rfl
  unfold unpackQ
  rw [name, ok_bind]
  dsimp only
  rw [fields, values, ok_bind]
  rfl

/-- A well-formed message of 16400 bytes that does not come back. -/
theorem large_message_does_not_round_trip :
    largeMessage.WellFormed ∧ largeMessage.bytes = .ok largeBytes ∧
      ¬largeMessage.RoundTrips := by
  refine ⟨largeMessage_wellFormed, largeMessage_bytes, ?_⟩
  intro trips
  obtain ⟨got, parsed, same⟩ := trips largeBytes largeMessage_bytes
  -- All questions but the last one come back, whatever follows them.
  obtain ⟨_table, _begins, readMost⟩ := writeAll_readsBack manyQuestions
    (fun q member => packQ_readsBack (largeMessage_wellFormed.questions q
      (List.mem_append_left _ member)).carried)
    (TableOk.empty largeHeader) (writeAll_manyQuestions rfl)
  obtain ⟨items, gotMost, sameMost⟩ :=
    readMost largeBytes (List.prefix_append _ _)
  rw [manyBytes_length] at gotMost
  have gotLast : readMany unpackQ largeBytes 0x400a 1 =
      .ok ([{ name := [] }], 0x4010) := by
    simp only [readMany, unpackQ_large, ok_bind]
  have gotAll := readMany_add gotMost gotLast
  have count : manyQuestions.length + 1 = 0x0aab := by
    rw [manyQuestions, List.length_append, List.length_replicate]
    rfl
  rw [count] at gotAll
  have split := takeHeader_of_prefix largeHeader_prefix
  have unpacked : DNS.unpack largeBytes =
      .ok { op := 0, qd := items ++ [{ name := [] }] } := by
    have fields : unpackFields [2, 2, 2, 2, 2, 2] largeHeader =
        .ok [0, 0, 0x0aab, 0, 0, 0] := rfl
    change takeHeader 12 largeBytes = _ at split
    change readMany unpackQ largeBytes 12 0x0aab = _ at gotAll
    unfold DNS.unpack
    rw [split, ok_bind]
    dsimp only
    rw [fields, ok_bind]
    dsimp only
    rw [gotAll, ok_bind]
    rfl
  have questions : got.qd = items ++ [{ name := [] }] := by
    have read := packetInit_eq_ok.mp parsed
    rw [unpacked, Except.ok.injEq] at read
    rw [← read]
  have final := List.forall₂_drop_append _ _ _ (questions ▸ same.qd)
  rw [← sameMost.length_eq, largeMessage, List.drop_left] at final
  cases final with
  | cons lost _none =>
      have renamed : upToCase [] = upToCase ['a'] := lost.1
      cases renamed

end DpktNg.Dns
