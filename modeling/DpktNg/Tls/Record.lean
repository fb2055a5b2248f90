/-
Records of dpkt/ssl.py, and the two loops over them: `tls_multi_factory`, which
leaves an incomplete record at the end, and `TLS`, which raises `NeedData`
there.
-/

import DpktNg.Python.Struct
import DpktNg.Python.Loops

namespace DpktNg.Tls

open Library

structure TLSRecord where
  type : Nat
  version : Nat
  length : Nat
  data : Bytes
  compressed : Bool
  encrypted : Bool
deriving DecidableEq, Repr

def TLSRecord.unpack (buf : Bytes) : Except PyError TLSRecord := do
  let (hdr, _) ← takeHeader 5 buf
  let length := beNat (cut hdr 3 5)
  let data := cut buf 5 (5 + length)
  if data.length < length then
    .error (.needData "TLSRecord data was too short.".toList)
  else
    .ok
      { type := beNat (cut hdr 0 1)
        version := beNat (cut hdr 1 3)
        length
        data
        compressed := true
        encrypted := true }

/-- `TLSRecord(buf)`, which sets the length again at its end. -/
def tlsRecord (buf : Bytes) : Except PyError TLSRecord := do
  let record ← packetInit "TLSRecord" (some 5) TLSRecord.unpack buf
  .ok { record with length := record.data.length }

theorem tlsRecord_raisesOnly (buf : Bytes) :
    RaisesOnly PyError.IsUnpackError (tlsRecord buf) := by
  have unpacks : RaisesOnly HeaderError (TLSRecord.unpack buf) := by
    unfold TLSRecord.unpack
    apply RaisesOnly.bind
    · exact (takeHeader_raisesOnly 5 buf).mono fun _problem => Or.inl
    · intro split _taken
      dsimp only
      split
      · exact raisesOnly_error.mpr (Or.inr trivial)
      · exact raisesOnly_ok _
  unfold tlsRecord
  apply (packetInit_raisesOnly unpacks).bind
  intro record _unpacked
  exact raisesOnly_ok _

namespace TLSRecord

def size (self : TLSRecord) : Nat := 5 + self.data.length

def bytes (self : TLSRecord) : Except PyError Bytes := do
  let hdr ← packHdr [(1, self.type), (2, self.version), (2, self.length)]
  .ok (hdr ++ self.data)

end TLSRecord

def ssl3VersionBytes : List Bytes := [[3, 0], [3, 1], [3, 2], [3, 3]]

/-- `while i + 5 <= n`: the records from `i` on, and where they end. -/
def multiFrom (buf : Bytes) (i : Nat) :
    Except PyError (List TLSRecord × Nat) :=
  if i + 5 ≤ buf.length then
    if cut buf (i + 1) (i + 3) ∈ ssl3VersionBytes then
      match tlsRecord (buf.drop i) with
      | .ok msg => do
          let (msgs, last) ← multiFrom buf (i + msg.size)
          .ok (msg :: msgs, last)
      | .error (.needData _message) => .ok ([], i)
      | .error problem => .error problem
    else
      .error (.other "SSL3Exception"
        ("Bad TLS version in buf: ".toList ++ reprBytes (cut buf i (i + 5))))
  else .ok ([], i)
termination_by buf.length - i
decreasing_by
  unfold TLSRecord.size
  omega

def tlsMultiFactory (buf : Bytes) : Except PyError (List TLSRecord × Nat) :=
  multiFrom buf 0

structure TLS where
  records : List TLSRecord
  data : Bytes
deriving DecidableEq, Repr

/-- `while buf` -/
def readRecords : Bytes → Except PyError (List TLSRecord) :=
  parseAll tlsRecord (fun record => 5 + record.length) fun _record => by omega

def TLS.unpack (buf : Bytes) : Except PyError TLS := do
  .ok { records := (← readRecords buf), data := [] }

/-- `TLS(buf)`, of a class without `__hdr__`. -/
def tls (buf : Bytes) : Except PyError TLS :=
  packetInit "TLS" none TLS.unpack buf

/-- Shorter than a header, or than the header and what it declares. -/
def Incomplete (rest : Bytes) : Prop :=
  rest.length < 5 ∨ rest.length < 5 + beNat (cut rest 3 5)

instance : DecidablePred Incomplete := fun rest =>
  inferInstanceAs (Decidable
    (rest.length < 5 ∨ rest.length < 5 + beNat (cut rest 3 5)))

theorem unpack_complete {buf : Bytes} (whole : ¬Incomplete buf) :
    TLSRecord.unpack buf = .ok
      { type := beNat (cut buf 0 1)
        version := beNat (cut buf 1 3)
        length := beNat (cut buf 3 5)
        data := cut buf 5 (5 + beNat (cut buf 3 5))
        compressed := true
        encrypted := true } := by
  unfold Incomplete at whole
  have header : takeHeader 5 buf = .ok (buf.take 5, buf.drop 5) :=
    takeHeader_eq_ok.mpr ⟨by omega, rfl, rfl⟩
  have length : (cut buf 5 (5 + beNat (cut buf 3 5))).length =
      beNat (cut buf 3 5) := by
    rw [cut_length_of_le (by omega)]
    omega
  unfold TLSRecord.unpack
  rw [header, ok_bind]
  dsimp only
  rw [cut_take (by omega), cut_take (by omega), cut_take (by omega), length,
    if_neg (Nat.lt_irrefl _)]

theorem packHdr_cuts {buf : Bytes} (enough : 5 ≤ buf.length) :
    packHdr [(1, beNat (cut buf 0 1)), (2, beNat (cut buf 1 3)),
      (2, beNat (cut buf 3 5))] = .ok (buf.take 5) := by
  have packed : packHdr ([1, 2, 2].zip (fieldValues [1, 2, 2] (buf.take 5))) =
      .ok (buf.take 5) := @packHdr_fieldValues [1, 2, 2] buf enough
  have values : fieldValues [1, 2, 2] (buf.take 5) =
      [beNat (cut (buf.take 5) 0 1), beNat (cut (buf.take 5) 1 3),
        beNat (cut (buf.take 5) 3 5)] := by
    unfold cut
    rw [fieldValues, fieldValues, fieldValues, fieldValues, List.drop_drop,
      List.drop_zero]
  rw [values, cut_take (by omega), cut_take (by omega),
    cut_take (by omega)] at packed
  exact packed

/-- A record that is there as a whole is parsed, and written as it was. -/
theorem tlsRecord_complete {buf : Bytes} (whole : ¬Incomplete buf) :
    ∃ record, tlsRecord buf = .ok record ∧ record.length = record.data.length ∧
      record.size ≤ buf.length ∧
      record.bytes = .ok (buf.take record.size) := by
  have parsed : packetInit "TLSRecord" (some 5) TLSRecord.unpack buf = _ :=
    packetInit_eq_ok.mpr (unpack_complete whole)
  unfold Incomplete at whole
  have length : (cut buf 5 (5 + beNat (cut buf 3 5))).length =
      beNat (cut buf 3 5) := by
    rw [cut_length_of_le (by omega)]
    omega
  unfold tlsRecord
  rw [parsed, ok_bind]
  refine ⟨_, rfl, rfl, ?_, ?_⟩
  · unfold TLSRecord.size
    dsimp only
    omega
  · unfold TLSRecord.bytes TLSRecord.size
    dsimp only
    rw [length, packHdr_cuts (by omega), ok_bind]
    exact congrArg Except.ok (take_append_cut (by omega))

theorem tlsRecord_incomplete {buf : Bytes} (short : Incomplete buf) :
    ∃ message, tlsRecord buf = .error (.needData message) := by
  unfold tlsRecord
  by_cases header : buf.length < 5
  · have raised : TLSRecord.unpack buf = .error .structError := by
      unfold TLSRecord.unpack takeHeader
      rw [if_pos header]
      rfl
    rw [packetInit_short raised header]
    exact ⟨_, rfl⟩
  · have behind : buf.length < 5 + beNat (cut buf 3 5) :=
      short.resolve_left header
    have split : takeHeader 5 buf = .ok (buf.take 5, buf.drop 5) :=
      takeHeader_eq_ok.mpr ⟨by omega, rfl, rfl⟩
    have raised : TLSRecord.unpack buf =
        .error (.needData "TLSRecord data was too short.".toList) := by
      have length : (cut buf 5 (5 + beNat (cut buf 3 5))).length <
          beNat (cut buf 3 5) := by
        unfold cut at behind ⊢
        rw [List.length_take, List.length_drop]
        omega
      unfold TLSRecord.unpack
      rw [split, ok_bind]
      dsimp only
      rw [cut_take (by omega), if_pos length]
    rw [packetInit_passes raised PyError.noConfusion]
    exact ⟨_, rfl⟩

theorem readRecords_cons {buf : Bytes} {record : TLSRecord}
    (parsed : tlsRecord buf = .ok record)
    (length : record.length = record.data.length) (some_left : buf ≠ []) :
    readRecords buf = (do
      let records ← readRecords (buf.drop record.size)
      .ok (record :: records)) := by
  unfold readRecords
  rw [parseAll_of_ne_nil some_left, parsed, ok_bind, length]
  rfl

/-- What the tolerant loop makes of the bytes from `i` on, and what the strict
one makes of them. -/
structure Splits (buf : Bytes) (i : Nat) (records : List TLSRecord)
    (last : Nat) : Prop where
  from_le : i ≤ last
  within : last ≤ buf.length
  written : joinBytes TLSRecord.bytes records = .ok (cut buf i last)
  rest : last ≠ buf.length → Incomplete (buf.drop last)
  whole : last = buf.length → readRecords (buf.drop i) = .ok records
  partly : last ≠ buf.length →
    ∃ message, readRecords (buf.drop i) = .error (.needData message)

/-- Where an incomplete record or nothing is left, no record is there. -/
theorem splits_nil {buf : Bytes} {i : Nat} (within : i ≤ buf.length)
    (rest : i ≠ buf.length → Incomplete (buf.drop i)) :
    Splits buf i [] i := by
  refine ⟨le_rfl, within, ?_, rest, ?_, ?_⟩
  · unfold cut
    rw [Nat.sub_self, List.take_zero]
    rfl
  · rintro rfl
    rw [List.drop_length]
    exact parseAll_nil
  · intro differs
    obtain ⟨message, raised⟩ := tlsRecord_incomplete (rest differs)
    have some_left : buf.drop i ≠ [] := by
      rw [ne_eq, List.drop_eq_nil_iff]
      omega
    unfold readRecords
    rw [parseAll_of_ne_nil some_left, raised]
    exact ⟨message, rfl⟩

theorem splits_cons {buf : Bytes} {i last : Nat} {record : TLSRecord}
    {records : List TLSRecord} (header : i + 5 ≤ buf.length)
    (parsed : tlsRecord (buf.drop i) = .ok record)
    (rest : i + record.size ≤ buf.length →
      Splits buf (i + record.size) records last) :
    Splits buf i (record :: records) last := by
  have complete : ¬Incomplete (buf.drop i) := by
    intro short
    obtain ⟨message, raised⟩ := tlsRecord_incomplete short
    rw [raised] at parsed
    cases parsed
  obtain ⟨same, again, length, size, bytes⟩ := tlsRecord_complete complete
  rw [parsed, Except.ok.injEq] at again
  rw [← again] at length size bytes
  rw [List.length_drop] at size
  have some_left : buf.drop i ≠ [] := by
    rw [ne_eq, List.drop_eq_nil_iff]
    omega
  have others := rest (by omega)
  have strict := readRecords_cons parsed length some_left
  rw [List.drop_drop] at strict
  refine ⟨?_, others.within, ?_, others.rest, ?_, ?_⟩
  · have := others.from_le
    omega
  · have first : (buf.drop i).take record.size =
        cut buf i (i + record.size) := by
      unfold cut
      rw [Nat.add_sub_cancel_left]
    rw [joinBytes, bytes, ok_bind, others.written, ok_bind, first,
      cut_append_cut buf (by omega) others.from_le]
  · intro reached
    rw [strict, others.whole reached, ok_bind]
  · intro stopped
    obtain ⟨message, raised⟩ := others.partly stopped
    rw [strict, raised]
    exact ⟨message, rfl⟩

theorem multiFrom_splits {buf : Bytes} {i last : Nat}
    {records : List TLSRecord} (within : i ≤ buf.length)
    (split : multiFrom buf i = .ok (records, last)) :
    Splits buf i records last := by
  fun_induction multiFrom buf i generalizing records last with
  | case1 i header version msg parsed ih =>
      obtain ⟨⟨msgs, behind⟩, others, same⟩ := bind_eq_ok.mp split
      cases same
      exact splits_cons header parsed fun enough => ih enough others
  | case2 i header version message raised =>
      cases split
      refine splits_nil within fun _differs => ?_
      by_contra complete
      obtain ⟨record, parsed, _⟩ := tlsRecord_complete complete
      rw [raised] at parsed
      cases parsed
  | case3 i header version problem other raised => cases split
  | case4 i header version => cases split
  | case5 i header =>
      cases split
      refine splits_nil within fun _differs => Or.inl ?_
      rw [List.length_drop]
      omega

/-- The records are what stands in front of the returned index, the rest is an
incomplete record or nothing, and `TLS` returns the same records or raises
`NeedData`. -/
theorem tls_multi_splits {buf : Bytes} {records : List TLSRecord} {i : Nat}
    (split : tlsMultiFactory buf = .ok (records, i)) :
    joinBytes TLSRecord.bytes records = .ok (buf.take i) ∧
      (i ≠ buf.length ↔ buf.drop i ≠ [] ∧ Incomplete (buf.drop i)) ∧
      (i = buf.length → ∃ tls', tls buf = .ok tls' ∧ tls'.records = records) ∧
      (i ≠ buf.length → ∃ message, tls buf = .error (.needData message)) := by
  have splits := multiFrom_splits (Nat.zero_le buf.length) split
  have within := splits.within
  refine ⟨splits.written, ?_, ?_, ?_⟩
  · rw [ne_eq (buf.drop i), List.drop_eq_nil_iff]
    constructor
    · intro differs
      exact ⟨by omega, splits.rest differs⟩
    · rintro ⟨more, _short⟩
      omega
  · intro reached
    refine ⟨{ records, data := [] }, packetInit_eq_ok.mpr ?_, rfl⟩
    unfold TLS.unpack
    have read : readRecords buf = .ok records := splits.whole reached
    rw [read, ok_bind]
  · intro stopped
    obtain ⟨message, raised⟩ := splits.partly stopped
    have failed : TLS.unpack buf = .error (.needData message) := by
      unfold TLS.unpack
      have read : readRecords buf = .error (.needData message) := raised
      rw [read]
      rfl
    exact ⟨message, packetInit_passes failed PyError.noConfusion⟩

/-- A handshake record, and the beginning of another. -/
theorem tls_multi_splits_partly : ∃ records,
    tlsMultiFactory [22, 3, 1, 0, 2, 7, 8, 22, 3, 1, 0, 9, 1] =
      .ok (records, 7) ∧
    joinBytes TLSRecord.bytes records = .ok [22, 3, 1, 0, 2, 7, 8] ∧
    ∃ message, tls [22, 3, 1, 0, 2, 7, 8, 22, 3, 1, 0, 9, 1] =
      .error (.needData message) := by
  have split : tlsMultiFactory [22, 3, 1, 0, 2, 7, 8, 22, 3, 1, 0, 9, 1] =
      .ok ([{ type := 22, version := 0x301, length := 2, data := [7, 8]
              compressed := true, encrypted := true }], 7) := by
    decide +kernel
  obtain ⟨written, _rest, _whole, partly⟩ := tls_multi_splits split
  exact ⟨_, split, written, partly (by decide)⟩

end DpktNg.Tls
