/-
The TLVs of IS-IS: `_parse_tlvs` of dpkt/isis.py, and the classes of TLVs with
the loops over their values.
-/

import DpktNg.Library.Walks
import DpktNg.Packet.TypeLength
import DpktNg.Python.Loops

namespace DpktNg.Isis

open Library TypeLengthValue

def tlvAreaAddr : Nat := 1
def tlvIsNeighbors : Nat := 6
def tlvAuth : Nat := 10
def tlvEisReach : Nat := 22
def tlvIpIntReach : Nat := 128
def tlvProtoSup : Nat := 129
def tlvIpExtReach : Nat := 130

inductive TlvClass where
  | generic
  | areaAddr
  | neighbors
  | auth
  | eisReach
  | ipIntReach
  | protoSup
  | ipExtReach
deriving DecidableEq, Repr

def tlvSw : List (Nat × TlvClass) :=
  [(tlvAreaAddr, .areaAddr), (tlvIsNeighbors, .neighbors), (tlvAuth, .auth),
    (tlvEisReach, .eisReach), (tlvIpIntReach, .ipIntReach),
    (tlvProtoSup, .protoSup), (tlvIpExtReach, .ipExtReach)]

/-- `ISIS._tlv_sw.get(t, ISISGenericTLV)` -/
def tlvClass (t : Nat) : TlvClass := (tlvSw.lookup t).getD .generic

structure Reachability where
  neighbor : Bytes
  metric : Nat
  subtlvs : Bytes
deriving DecidableEq, Repr

/-- An entry of `prefixes`. -/
structure IpReachability where
  defaultMetric : Nat
  delayMetric : Nat
  expenseMetric : Nat
  errorMetric : Nat
  prefix_ : Bytes
  mask : Bytes
deriving DecidableEq, Repr

/-- The attributes that a class sets besides those of `ISISTLV`. -/
inductive TlvBody where
  | plain
  | addresses (addresses : Bytes)
  | neighbors (neighbors : List Bytes)
  | auth (authType : Nat) (authData : Bytes)
  | reachabilities (reachabilities : List Reachability)
  | prefixes (prefixes : List IpReachability)
  | protocols (protocols : Bytes)
deriving DecidableEq, Repr

structure ISISTLV where
  cls : TlvClass
  type : Nat
  length : Nat
  value : Bytes
  body : TlvBody
deriving DecidableEq, Repr

/-- `bytes([self.type, len(self.value)]) + self.value` -/
def ISISTLV.bytes (tlv : ISISTLV) : Except PyError Bytes := do
  let type ← byteOf tlv.type
  let length ← byteOf tlv.value.length
  .ok (type ++ length ++ tlv.value)

/-! ### The values

What a loop reads at `off` of a value, it reads at the front of the value from
there on. -/

def neighborReader : ItemReader PyError UInt8 Bytes where
  read value := .ok (cut value 0 6, 6)
  positive := by
    intro value item size read
    cases read
    exact Nat.succ_pos 5

def readReachability (value : Bytes) :
    Except PyError (Reachability × Nat) := do
  let nid := cut value 0 7
  let padded ← unpackBe 4 (cut value 7 (7 + 3) ++ [0])
  let metric := padded >>> 8
  let extra ← byteAt value 10
  .ok ({ neighbor := nid, metric, subtlvs := cut value 11 (11 + extra) },
    11 + extra)

def reachabilityReader : ItemReader PyError UInt8 Reachability where
  read := readReachability
  positive := by
    intro value item size read
    obtain ⟨_padded, _unpacked, rest⟩ := bind_eq_ok.mp read
    obtain ⟨extra, _byte, done⟩ := bind_eq_ok.mp rest
    rw [Except.ok.injEq, Prod.mk.injEq] at done
    rw [← done.2]
    omega

def readIpReachability (value : Bytes) :
    Except PyError (IpReachability × Nat) := do
  let defaultMetric ← byteAt value 0
  let delayMetric ← byteAt value 1
  let expenseMetric ← byteAt value 2
  let errorMetric ← byteAt value 3
  .ok ({
    defaultMetric
    delayMetric
    expenseMetric
    errorMetric
    prefix_ := cut value 4 8
    mask := cut value 8 12 }, 12)

def ipReachabilityReader : ItemReader PyError UInt8 IpReachability where
  read := readIpReachability
  positive := by
    intro value item size read
    obtain ⟨_default, _read, rest⟩ := bind_eq_ok.mp read
    obtain ⟨_delay, _read, rest⟩ := bind_eq_ok.mp rest
    obtain ⟨_expense, _read, rest⟩ := bind_eq_ok.mp rest
    obtain ⟨_error, _read, done⟩ := bind_eq_ok.mp rest
    rw [Except.ok.injEq, Prod.mk.injEq] at done
    rw [← done.2]
    exact Nat.succ_pos 11

def TlvClass.unpackValue (cls : TlvClass) (value : Bytes) :
    Except PyError TlvBody :=
  match cls with
  | .generic => .ok .plain
  | .areaAddr => .ok (.addresses value)
  | .neighbors => do .ok (.neighbors (← neighborReader.strides 6 value 0))
  | .auth =>
      if 1 ≤ value.length then do
        .ok (.auth (← byteAt value 0) (value.drop 1))
      else .ok .plain
  | .eisReach => do
      .ok (.reachabilities (← reachabilityReader.strides 11 value 0))
  | .ipIntReach | .ipExtReach => do
      .ok (.prefixes (← ipReachabilityReader.strides 12 value 0))
  | .protoSup => .ok (.protocols value)

def ISISTLV.unpack (cls : TlvClass) (buf : Bytes) : Except PyError ISISTLV := do
  let type ← byteAt buf 0
  let length ← byteAt buf 1
  let value := cut buf 2 (2 + length)
  let body ← cls.unpackValue value
  .ok { cls, type, length, value, body }

/-- `ISISTLV(buf)`, which unpacks nothing where there is nothing. -/
def ISISTLV.init (cls : TlvClass) (buf : Bytes) : Except PyError ISISTLV :=
  if buf = [] then
    .ok { cls, type := 0, length := 0, value := [], body := .plain }
  else ISISTLV.unpack cls buf

/-- The TLV that the loop makes at an offset. -/
def tlvAt (buf : Bytes) (off l : Nat) : Except PyError ISISTLV := do
  let t ← byteAt buf off
  ISISTLV.init (tlvClass t) (cut buf off (off + 2 + l))

def parseTlvs (buf : Bytes) : Except PyError (List ISISTLV) :=
  recordsFrom tlvAt buf 0

/-! ### Nothing is raised -/

theorem neighborReader_total (value : Bytes) (_enough : 6 ≤ value.length) :
    ∃ found, neighborReader.read value = .ok found :=
  ⟨_, rfl⟩

theorem reachabilityReader_total (value : Bytes) (enough : 11 ≤ value.length) :
    ∃ found, reachabilityReader.read value = .ok found := by
  have padded : (cut value 7 (7 + 3) ++ [0]).length = 4 := by
    rw [List.length_append, cut_length_of_le (by omega)]
    rfl
  have extra := byteAt_inside (show 10 < value.length by omega)
  have unpacked : unpackBe 4 (cut value 7 (7 + 3) ++ [0]) =
      .ok (beNat (cut value 7 (7 + 3) ++ [0])) := if_pos padded
  change ∃ found, readReachability value = .ok found
  unfold readReachability
  rw [unpacked, ok_bind, extra, ok_bind]
  exact ⟨_, rfl⟩

theorem ipReachabilityReader_total (value : Bytes)
    (enough : 12 ≤ value.length) :
    ∃ found, ipReachabilityReader.read value = .ok found := by
  have metric (index : Nat) (inside : index < 4) :
      ∃ byte, byteAt value index = .ok byte :=
    ⟨_, byteAt_inside (by omega)⟩
  obtain ⟨default, readDefault⟩ := metric 0 (by omega)
  obtain ⟨delay, readDelay⟩ := metric 1 (by omega)
  obtain ⟨expense, readExpense⟩ := metric 2 (by omega)
  obtain ⟨error, readError⟩ := metric 3 (by omega)
  change ∃ found, readIpReachability value = .ok found
  unfold readIpReachability
  rw [readDefault, ok_bind, readDelay, ok_bind, readExpense, ok_bind,
    readError, ok_bind]
  exact ⟨_, rfl⟩

theorem TlvClass.unpackValue_total (cls : TlvClass) (value : Bytes) :
    ∃ body, cls.unpackValue value = .ok body := by
  cases cls with
  | generic => exact ⟨_, rfl⟩
  | areaAddr => exact ⟨_, rfl⟩
  | neighbors =>
      obtain ⟨neighbors, read⟩ := ItemReader.strides_total (Nat.succ_pos 5)
        neighborReader_total value 0
      exact ⟨.neighbors neighbors, by rw [unpackValue, read]; rfl⟩
  | auth =>
      rw [unpackValue]
      split
      · rename_i enough
        rw [byteAt_inside enough]
        exact ⟨_, rfl⟩
      · exact ⟨_, rfl⟩
  | eisReach =>
      obtain ⟨entries, read⟩ := ItemReader.strides_total (Nat.succ_pos 10)
        reachabilityReader_total value 0
      exact ⟨.reachabilities entries, by rw [unpackValue, read]; rfl⟩
  | ipIntReach =>
      obtain ⟨entries, read⟩ := ItemReader.strides_total (Nat.succ_pos 11)
        ipReachabilityReader_total value 0
      exact ⟨.prefixes entries, by rw [unpackValue, read]; rfl⟩
  | protoSup => exact ⟨_, rfl⟩
  | ipExtReach =>
      obtain ⟨entries, read⟩ := ItemReader.strides_total (Nat.succ_pos 11)
        ipReachabilityReader_total value 0
      exact ⟨.prefixes entries, by rw [unpackValue, read]; rfl⟩

/-! ### The TLV of a record -/

section Records

variable {record : TypeLengthValue} {body : TlvBody}

/-- The TLV that is made of a record, with what the class made of the value. -/
def ISISTLV.of (record : TypeLengthValue) (body : TlvBody) : ISISTLV where
  cls := tlvClass record.type.toNat
  type := record.type.toNat
  length := record.value.length
  value := record.value
  body := body

theorem ISISTLV.init_encoded
    (unpacked : (tlvClass record.type.toNat).unpackValue record.value =
      .ok body) :
    ISISTLV.init (tlvClass record.type.toNat) record.encoded =
      .ok (.of record body) := by
  have type : byteAt record.encoded 0 = .ok record.type.toNat := rfl
  have length : byteAt record.encoded 1 = .ok record.value.length :=
    congrArg Except.ok (count_toNat record.short)
  have there : record.encoded ≠ [] := List.cons_ne_nil _ _
  unfold ISISTLV.init ISISTLV.unpack
  rw [if_neg there, type, ok_bind, length, ok_bind, record.cut_value]
  dsimp only
  rw [unpacked]
  rfl

theorem readsRecord_of
    (unpacked : (tlvClass record.type.toNat).unpackValue record.value =
      .ok body) :
    ReadsRecord tlvAt record (.of record body) := by
  intro front behind
  unfold tlvAt
  rw [byteAt_type, ok_bind, cut_record]
  exact ISISTLV.init_encoded unpacked

theorem ISISTLV.bytes_of (record : TypeLengthValue) (body : TlvBody) :
    (ISISTLV.of record body).bytes = .ok record.encoded := by
  have type : byteOf record.type.toNat = .ok [record.type] := by
    unfold byteOf
    rw [if_pos record.type.toNat_lt, UInt8.ofNat_toNat]
  have length := byteOf_ok record.short
  unfold ISISTLV.bytes ISISTLV.of
  rw [type, ok_bind, length]
  rfl

end Records

theorem exists_tlvs (records : List TypeLengthValue) :
    ∃ tlvs, List.Forall₂ (ReadsRecord tlvAt) records tlvs ∧
      joinBytes ISISTLV.bytes tlvs = .ok (encodedAll records) := by
  have each (record : TypeLengthValue) :
      ∃ tlv, ReadsRecord tlvAt record tlv ∧
        ISISTLV.bytes tlv = .ok record.encoded := by
    obtain ⟨body, unpacked⟩ :=
      (tlvClass record.type.toNat).unpackValue_total record.value
    exact ⟨.of record body, readsRecord_of unpacked,
      ISISTLV.bytes_of record body⟩
  obtain ⟨tlvs, all⟩ := exists_items each records
  have chunks : List.Forall₂ (fun chunk tlv => ISISTLV.bytes tlv = .ok chunk)
      (records.map encoded) tlvs :=
    List.forall₂_map_left_iff.mpr (all.imp fun _record _tlv both => both.2)
  refine ⟨tlvs, all.imp fun _record _tlv both => both.1, ?_⟩
  unfold encodedAll
  rw [joinBytes_chunks chunks, List.flatMap_def]

/-- The TLVs of any bytes are the whole ones in front. -/
theorem parseTlvs_longest (buf : Bytes) :
    ∃ tlvs joined, parseTlvs buf = .ok tlvs ∧
      joinBytes ISISTLV.bytes tlvs = .ok joined ∧ LongestFront buf joined := by
  obtain ⟨records, rest, rfl, short⟩ := exists_records buf
  obtain ⟨tlvs, reads, joined⟩ := exists_tlvs records
  exact ⟨tlvs, encodedAll records, recordsFrom_encoded reads short [], joined,
    longestFront short⟩

/-! ### Encoded entries -/

/-- A neighbour of seven bytes, a metric of 24 bits, and sub-TLVs whose length
is a byte. -/
structure ReachabilityEntry extends Reachability where
  seven : neighbor.length = 7
  narrow : metric < 256 ^ 3
  short : subtlvs.length < 256

def ReachabilityEntry.encoded (entry : ReachabilityEntry) : Bytes :=
  entry.neighbor ++ (beBytes 3 entry.metric ++
    (beBytes 1 entry.subtlvs.length ++ entry.subtlvs))

/-- Four metrics of a byte each, a prefix and a mask of four bytes. -/
structure IpReachabilityEntry extends IpReachability where
  default : defaultMetric < 256
  delay : delayMetric < 256
  expense : expenseMetric < 256
  error : errorMetric < 256
  prefixFour : prefix_.length = 4
  maskFour : mask.length = 4

def IpReachabilityEntry.encoded (entry : IpReachabilityEntry) : Bytes :=
  beBytes 1 entry.defaultMetric ++ (beBytes 1 entry.delayMetric ++
    (beBytes 1 entry.expenseMetric ++ (beBytes 1 entry.errorMetric ++
      (entry.prefix_ ++ entry.mask))))

/-- Three bytes are read as the upper ones of four. -/
theorem unpack_metric {metric : Nat} (narrow : metric < 256 ^ 3) :
    unpackBe 4 (beBytes 3 metric ++ [0]) = .ok (metric * 256) := by
  have length : (beBytes 3 metric ++ [0]).length = 4 := by
    rw [List.length_append, beBytes_length]
    rfl
  unfold unpackBe
  rw [if_pos length, beNat_snoc, beNat_beBytes narrow]
  exact congrArg Except.ok (Nat.add_zero _)

theorem ReachabilityEntry.encoded_length (entry : ReachabilityEntry) :
    entry.encoded.length = 11 + entry.subtlvs.length := by
  have seven := entry.seven
  unfold ReachabilityEntry.encoded
  simp only [List.length_append, beBytes_length]
  omega

theorem ReachabilityEntry.long (entry : ReachabilityEntry) :
    11 ≤ entry.encoded.length := by
  rw [entry.encoded_length]
  exact Nat.le_add_right _ _

theorem ReachabilityEntry.reads (entry : ReachabilityEntry) :
    reachabilityReader.Reads entry.encoded entry.toReachability where
  read := by
    intro behind
    have seven := entry.seven
    have shifted : (entry.metric * 256) >>> 8 = entry.metric := by
      rw [Nat.shiftRight_eq_div_pow]
      omega
    rw [entry.encoded_length]
    change readReachability _ = _
    unfold ReachabilityEntry.encoded readReachability
    simp only [List.append_assoc]
    rw [cut_front seven, cut_behind seven (by omega), cut_beBytes,
      unpack_metric entry.narrow, ok_bind, byteAt_behind seven (by omega),
      byteAt_behind_beBytes (by omega), byteAt_front entry.short, ok_bind,
      cut_behind seven (by omega), cut_behind_beBytes (by omega),
      cut_behind_beBytes (by omega), cut_front (by omega), shifted]

theorem IpReachabilityEntry.encoded_length (entry : IpReachabilityEntry) :
    entry.encoded.length = 12 := by
  have prefixFour := entry.prefixFour
  have maskFour := entry.maskFour
  unfold IpReachabilityEntry.encoded
  simp only [List.length_append, beBytes_length]
  omega

theorem IpReachabilityEntry.long (entry : IpReachabilityEntry) :
    12 ≤ entry.encoded.length :=
  Nat.le_of_eq entry.encoded_length.symm

theorem IpReachabilityEntry.reads (entry : IpReachabilityEntry) :
    ipReachabilityReader.Reads entry.encoded entry.toIpReachability where
  read := by
    intro behind
    have prefixFour := entry.prefixFour
    have maskFour := entry.maskFour
    rw [entry.encoded_length]
    change readIpReachability _ = _
    unfold IpReachabilityEntry.encoded readIpReachability
    simp only [List.append_assoc]
    rw [byteAt_front entry.default, ok_bind,
      byteAt_behind_beBytes (by omega), byteAt_front entry.delay, ok_bind,
      byteAt_behind_beBytes (by omega), byteAt_behind_beBytes (by omega),
      byteAt_front entry.expense, ok_bind, byteAt_behind_beBytes (by omega),
      byteAt_behind_beBytes (by omega), byteAt_behind_beBytes (by omega),
      byteAt_front entry.error, ok_bind]
    simp (disch := omega) only [cut_behind_beBytes]
    rw [cut_front prefixFour, cut_behind prefixFour (by omega),
      cut_front maskFour]

section Values

variable {tlv : TypeLengthValue}

theorem unpackValue_reachabilities (entries : List ReachabilityEntry) :
    TlvClass.eisReach.unpackValue
        (entries.flatMap ReachabilityEntry.encoded) =
      .ok (.reachabilities
        (entries.map ReachabilityEntry.toReachability)) := by
  have read := ItemReader.strides_entries (Nat.succ_pos 10)
    ReachabilityEntry.reads ReachabilityEntry.long entries
  unfold TlvClass.unpackValue
  rw [read]
  rfl

theorem unpackValue_prefixes (entries : List IpReachabilityEntry)
    {cls : TlvClass} (ip : cls = .ipIntReach ∨ cls = .ipExtReach) :
    cls.unpackValue (entries.flatMap IpReachabilityEntry.encoded) =
      .ok (.prefixes (entries.map IpReachabilityEntry.toIpReachability)) := by
  have read := ItemReader.strides_entries (Nat.succ_pos 11)
    IpReachabilityEntry.reads IpReachabilityEntry.long entries
  rcases ip with rfl | rfl
  · unfold TlvClass.unpackValue
    rw [read]
    rfl
  · unfold TlvClass.unpackValue
    rw [read]
    rfl

/-- Between any whole TLVs and any bytes, this TLV is decoded so. -/
def DecodedAs (tlv : TypeLengthValue) (body : TlvBody) : Prop :=
  ∀ front behind, ∃ before after,
    parseTlvs (encodedAll front ++ (tlv.encoded ++ behind)) =
      .ok (before ++ ISISTLV.of tlv body :: after) ∧
    before.length = front.length

theorem decodedAs {body : TlvBody}
    (unpacked : (tlvClass tlv.type.toNat).unpackValue tlv.value = .ok body) :
    DecodedAs tlv body := by
  intro front behind
  obtain ⟨records, rest, rfl, short⟩ := exists_records behind
  obtain ⟨before, readsBefore, _joined⟩ := exists_tlvs front
  obtain ⟨after, readsAfter, _joined⟩ := exists_tlvs records
  have reads : List.Forall₂ (ReadsRecord tlvAt) (front ++ tlv :: records)
      (before ++ .of tlv body :: after) :=
    List.rel_append readsBefore (.cons (readsRecord_of unpacked) readsAfter)
  have parsed := recordsFrom_encoded reads short []
  unfold encodedAll at parsed ⊢
  rw [List.flatMap_append, List.flatMap_cons, List.nil_append,
    List.append_assoc, List.append_assoc] at parsed
  exact ⟨before, after, parsed, readsBefore.length_eq.symm⟩

end Values

/-- `_parse_tlvs` gives the whole TLVs in front of any bytes, and the encoded
entries of a TLV back. -/
theorem parseTlvs_reads :
    (∀ buf, ∃ tlvs joined, parseTlvs buf = .ok tlvs ∧
      joinBytes ISISTLV.bytes tlvs = .ok joined ∧ LongestFront buf joined) ∧
    (∀ (tlv : TypeLengthValue) (entries : List ReachabilityEntry),
      tlv.type = 22 →
      tlv.value = entries.flatMap ReachabilityEntry.encoded →
      DecodedAs tlv (.reachabilities
        (entries.map ReachabilityEntry.toReachability))) ∧
    ∀ (tlv : TypeLengthValue) (entries : List IpReachabilityEntry),
      tlv.type = 128 ∨ tlv.type = 130 →
      tlv.value = entries.flatMap IpReachabilityEntry.encoded →
      DecodedAs tlv (.prefixes
        (entries.map IpReachabilityEntry.toIpReachability)) := by
  refine ⟨parseTlvs_longest, ?_, ?_⟩
  · intro tlv entries type encoded
    apply decodedAs
    rw [type, encoded]
    exact unpackValue_reachabilities entries
  · intro tlv entries type encoded
    apply decodedAs
    rw [encoded]
    refine unpackValue_prefixes entries ?_
    rcases type with interior | exterior
    · rw [interior]
      exact Or.inl rfl
    · rw [exterior]
      exact Or.inr rfl

section Examples

/-- A neighbour with a metric of 24 bits and one byte of sub-TLVs. -/
def farNeighbor : ReachabilityEntry where
  neighbor := [0, 0, 0, 0, 0, 2, 1]
  metric := 0x10203
  subtlvs := [9]
  seven := rfl
  narrow := Nat.le_of_ble_eq_true rfl
  short := Nat.le_of_ble_eq_true rfl

/-- 10.0.0.0/8 -/
def privateNet : IpReachabilityEntry where
  defaultMetric := 10
  delayMetric := 128
  expenseMetric := 128
  errorMetric := 128
  prefix_ := [10, 0, 0, 0]
  mask := [255, 0, 0, 0]
  default := Nat.le_of_ble_eq_true rfl
  delay := Nat.le_of_ble_eq_true rfl
  expense := Nat.le_of_ble_eq_true rfl
  error := Nat.le_of_ble_eq_true rfl
  prefixFour := rfl
  maskFour := rfl

theorem parseTlvs_reads_entries :
    DecodedAs
        { type := 22, value := farNeighbor.encoded ++ farNeighbor.encoded,
          short := Nat.le_of_ble_eq_true rfl }
        (.reachabilities
          [farNeighbor.toReachability, farNeighbor.toReachability]) ∧
      DecodedAs
        { type := 130, value := privateNet.encoded,
          short := Nat.le_of_ble_eq_true rfl }
        (.prefixes [privateNet.toIpReachability]) :=
  ⟨parseTlvs_reads.2.1 _ [farNeighbor, farNeighbor] rfl rfl,
    parseTlvs_reads.2.2 _ [privateNet] (Or.inr rfl) rfl⟩

end Examples

end DpktNg.Isis
