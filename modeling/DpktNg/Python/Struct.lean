/-
Big-endian integers of a fixed width, as the `struct` module packs and unpacks
them, and slices with bounds that may lie outside the buffer.
-/

import DpktNg.Python.Error

namespace DpktNg

open Library

/-- `buf[start:stop]` for bounds that are not negative. -/
def cut (buf : Bytes) (start stop : Nat) : Bytes :=
  (buf.drop start).take (stop - start)

/-- `buf[:stop]`, where a negative bound counts from the end. -/
def cutTo (buf : Bytes) (stop : Int) : Bytes :=
  if 0 ≤ stop then buf.take stop.toNat
  else buf.take (buf.length - stop.natAbs)

/-- `buf[index]` -/
def byteAt (buf : Bytes) (index : Nat) : Except PyError Nat :=
  match buf[index]? with
  | none => .error .indexError
  | some byte => .ok byte.toNat

def byteOf (value : Nat) : Except PyError Bytes :=
  if value < 256 then .ok [UInt8.ofNat value]
  else .error (.other "ValueError" "bytes must be in range(0, 256)".toList)

def beNat (bytes : Bytes) : Nat :=
  bytes.foldl (fun value byte => value * 256 + byte.toNat) 0

def beBytes : Nat → Nat → Bytes
  | 0, _ => []
  | width + 1, value => beBytes width (value / 256) ++ [UInt8.ofNat value]

/-- `struct.unpack` of one unsigned integer, which wants exactly its width. -/
def unpackBe (width : Nat) (bytes : Bytes) : Except PyError Nat :=
  if bytes.length = width then .ok (beNat bytes) else .error .structError

/-- `struct.pack` of one unsigned integer. -/
def packBe (width value : Nat) : Except PyError Bytes :=
  if value < 256 ^ width then .ok (beBytes width value)
  else .error .structError

/-- `struct.pack` of several unsigned integers, each after its width. -/
def packFields : List (Nat × Nat) → Except PyError Bytes
  | [] => .ok []
  | (width, value) :: rest => do
      let field ← packBe width value
      let fields ← packFields rest
      .ok (field ++ fields)

/-- `struct.pack` of `'<size>s'`: cut, or filled up with zero bytes. -/
def packString (size : Nat) (bytes : Bytes) : Bytes :=
  (bytes ++ zeros size).take size

/-- `pack_hdr` for the integers of a header.  The message of its error is the
text of `struct.error`, which is not spelled out here. -/
def packHdr (fields : List (Nat × Nat)) : Except PyError Bytes :=
  match packFields fields with
  | .ok header => .ok header
  | .error _ => .error (.packError [])

/-- Every value fits its width. -/
def FieldsFit (fields : List (Nat × Nat)) : Prop :=
  ∀ field ∈ fields, field.2 < 256 ^ field.1

instance (fields : List (Nat × Nat)) : Decidable (FieldsFit fields) :=
  inferInstanceAs (Decidable (∀ field ∈ fields, field.2 < 256 ^ field.1))

def fieldValues : List Nat → Bytes → List Nat
  | [], _ => []
  | width :: rest, bytes =>
      beNat (bytes.take width) :: fieldValues rest (bytes.drop width)

/-- `struct.unpack` of unsigned integers of the given widths. -/
def unpackFields (widths : List Nat) (bytes : Bytes) :
    Except PyError (List Nat) :=
  if bytes.length = widths.sum then .ok (fieldValues widths bytes)
  else .error .structError

/-- The header and the rest, as `Packet.unpack` splits a buffer. -/
def takeHeader (hdrLen : Nat) (buf : Bytes) : Except PyError (Bytes × Bytes) :=
  if buf.length < hdrLen then .error .structError
  else .ok (buf.take hdrLen, buf.drop hdrLen)

/-! ### Loops that parse one item after another -/

/-- `while data: item = parse(data); data = data[len(item):]` -/
def parseAll {α : Type} (parse : Bytes → Except PyError α) (size : α → Nat)
    (positive : ∀ item, 0 < size item) : Bytes → Except PyError (List α)
  | [] => .ok []
  | byte :: rest => do
      let item ← parse (byte :: rest)
      let items ←
        parseAll parse size positive ((byte :: rest).drop (size item))
      .ok (item :: items)
termination_by data => data.length
decreasing_by
  have := positive item
  simp only [List.length_drop, List.length_cons]
  omega

/-- The same loop while a byte count is above zero; it yields the data behind
the last item as well. -/
def parseCounted {α : Type} (parse : Bytes → Except PyError α)
    (size : α → Nat) (positive : ∀ item, 0 < size item) (count : Int)
    (data : Bytes) : Except PyError (List α × Bytes) :=
  if count > 0 then do
    let item ← parse data
    let (items, behind) ← parseCounted parse size positive
      (count - size item) (data.drop (size item))
    .ok (item :: items, behind)
  else .ok ([], data)
termination_by count.toNat
decreasing_by
  have := positive item
  omega

@[simp] theorem beBytes_length (width value : Nat) :
    (beBytes width value).length = width := by
  induction width generalizing value with
  | zero => rfl
  | succ width ih => rw [beBytes, List.length_append, ih, List.length_singleton]

theorem beNat_snoc (bytes : Bytes) (byte : UInt8) :
    beNat (bytes ++ [byte]) = beNat bytes * 256 + byte.toNat := by
  unfold beNat
  rw [List.foldl_append]
  rfl

theorem beNat_beBytes {width value : Nat} (fits : value < 256 ^ width) :
    beNat (beBytes width value) = value := by
  induction width generalizing value with
  | zero =>
      rw [pow_zero] at fits
      have zero : value = 0 := by omega
      rw [zero]
      rfl
  | succ width ih =>
      have smaller : value / 256 < 256 ^ width := by
        rw [Nat.div_lt_iff_lt_mul (by omega), ← pow_succ]
        exact fits
      rw [beBytes, beNat_snoc, ih smaller, UInt8.toNat_ofNat']
      omega

theorem packBe_ok {width value : Nat} (fits : value < 256 ^ width) :
    packBe width value = .ok (beBytes width value) :=
  if_pos fits

theorem unpackBe_beBytes {width value : Nat} (fits : value < 256 ^ width) :
    unpackBe width (beBytes width value) = .ok value := by
  unfold unpackBe
  rw [if_pos (beBytes_length width value), beNat_beBytes fits]

theorem packBe_eq_ok {width value : Nat} {bytes : Bytes}
    (packed : packBe width value = .ok bytes) :
    value < 256 ^ width ∧ bytes = beBytes width value := by
  unfold packBe at packed
  split at packed
  · rename_i fits
    rw [Except.ok.injEq] at packed
    exact ⟨fits, packed.symm⟩
  · cases packed

theorem packFields_length {fields : List (Nat × Nat)} {bytes : Bytes}
    (packed : packFields fields = .ok bytes) :
    bytes.length = (fields.map Prod.fst).sum := by
  induction fields generalizing bytes with
  | nil =>
      rw [packFields, Except.ok.injEq] at packed
      rw [← packed]
      rfl
  | cons field rest ih =>
      obtain ⟨first, packedFirst, remaining⟩ := bind_eq_ok.mp packed
      obtain ⟨others, packedRest, done⟩ := bind_eq_ok.mp remaining
      rw [Except.ok.injEq] at done
      rw [← done, List.length_append, ih packedRest,
        (packBe_eq_ok packedFirst).2, beBytes_length, List.map_cons,
        List.sum_cons]

theorem packFields_eq_ok_iff {fields : List (Nat × Nat)} {bytes : Bytes} :
    packFields fields = .ok bytes ↔
      FieldsFit fields ∧
        bytes = fields.flatMap fun field => beBytes field.1 field.2 := by
  unfold FieldsFit
  induction fields generalizing bytes with
  | nil =>
      rw [packFields, Except.ok.injEq]
      simp [eq_comm]
  | cons field rest ih =>
      rw [packFields, List.forall_mem_cons, List.flatMap_cons]
      constructor
      · intro packed
        obtain ⟨first, packedFirst, remaining⟩ := bind_eq_ok.mp packed
        obtain ⟨others, packedRest, done⟩ := bind_eq_ok.mp remaining
        rw [Except.ok.injEq] at done
        obtain ⟨fits, firstBytes⟩ := packBe_eq_ok packedFirst
        obtain ⟨restFit, restBytes⟩ := ih.mp packedRest
        refine ⟨⟨fits, restFit⟩, ?_⟩
        rw [← done, firstBytes, restBytes]
      · intro packable
        obtain ⟨⟨fits, restFit⟩, same⟩ := packable
        have first : packBe field.1 field.2 =
            .ok (beBytes field.1 field.2) := if_pos fits
        rw [first, ih.mpr ⟨restFit, rfl⟩, same]
        rfl

theorem packHdr_eq_ok_iff {fields : List (Nat × Nat)} {bytes : Bytes} :
    packHdr fields = .ok bytes ↔
      FieldsFit fields ∧
        bytes = fields.flatMap fun field => beBytes field.1 field.2 := by
  rw [← packFields_eq_ok_iff]
  unfold packHdr
  cases packFields fields with
  | error problem =>
      constructor
      · intro impossible
        cases impossible
      · intro impossible
        cases impossible
  | ok header => exact Iff.rfl

theorem wrapped_eq_ok_iff {packed : Except PyError Bytes} {fits : Prop}
    {bytes out : Bytes} {wrap : Bytes → Bytes}
    (packs : ∀ numbers, packed = .ok numbers ↔ fits ∧ numbers = bytes) :
    (packed >>= fun numbers => .ok (wrap numbers)) = .ok out ↔
      fits ∧ out = wrap bytes := by
  rw [bind_eq_ok]
  constructor
  · intro written
    obtain ⟨numbers, packedNumbers, done⟩ := written
    obtain ⟨fit, same⟩ := (packs numbers).mp packedNumbers
    rw [Except.ok.injEq] at done
    exact ⟨fit, by rw [← done, same]⟩
  · intro packable
    exact ⟨bytes, (packs bytes).mpr ⟨packable.1, rfl⟩, by rw [packable.2]⟩

@[simp] theorem packString_length (size : Nat) (bytes : Bytes) :
    (packString size bytes).length = size := by
  unfold packString
  rw [List.length_take, List.length_append, zeros_length]
  omega

theorem packString_exact {size : Nat} {bytes : Bytes}
    (length : bytes.length = size) : packString size bytes = bytes :=
  List.take_left' length

theorem packString_packString (size : Nat) (bytes : Bytes) :
    packString size (packString size bytes) = packString size bytes :=
  packString_exact (packString_length size bytes)

theorem fieldValues_packFields {fields : List (Nat × Nat)} {bytes : Bytes}
    (packed : packFields fields = .ok bytes) :
    fieldValues (fields.map Prod.fst) bytes = fields.map Prod.snd := by
  induction fields generalizing bytes with
  | nil => rfl
  | cons field rest ih =>
      obtain ⟨first, packedFirst, remaining⟩ := bind_eq_ok.mp packed
      obtain ⟨others, packedRest, done⟩ := bind_eq_ok.mp remaining
      rw [Except.ok.injEq] at done
      obtain ⟨fits, firstBytes⟩ := packBe_eq_ok packedFirst
      have width : first.length = field.1 := by
        rw [firstBytes, beBytes_length]
      rw [List.map_cons, List.map_cons, fieldValues, ← done,
        List.take_left' width, List.drop_left' width, ih packedRest,
        firstBytes, beNat_beBytes fits]

theorem unpackFields_packFields {fields : List (Nat × Nat)} {bytes : Bytes}
    (packed : packFields fields = .ok bytes) :
    unpackFields (fields.map Prod.fst) bytes = .ok (fields.map Prod.snd) := by
  unfold unpackFields
  rw [if_pos (packFields_length packed), fieldValues_packFields packed]

/-! ### Headers -/

theorem takeHeader_eq_ok {hdrLen : Nat} {buf header data : Bytes} :
    takeHeader hdrLen buf = .ok (header, data) ↔
      hdrLen ≤ buf.length ∧ header = buf.take hdrLen ∧
        data = buf.drop hdrLen := by
  unfold takeHeader
  split
  · rename_i short
    constructor
    · intro impossible
      cases impossible
    · intro enough
      omega
  · rename_i enough
    rw [Except.ok.injEq, Prod.mk.injEq]
    constructor
    · intro same
      exact ⟨by omega, same.1.symm, same.2.symm⟩
    · intro same
      exact ⟨same.2.1.symm, same.2.2.symm⟩

theorem takeHeader_raisesOnly (hdrLen : Nat) (buf : Bytes) :
    RaisesOnly (fun problem => problem = .structError)
      (takeHeader hdrLen buf) := by
  unfold takeHeader
  split
  · exact raisesOnly_error.mpr rfl
  · exact raisesOnly_ok _

theorem unpackFields_take {widths : List Nat} {buf : Bytes}
    (enough : widths.sum ≤ buf.length) :
    unpackFields widths (buf.take widths.sum) =
      .ok (fieldValues widths (buf.take widths.sum)) := by
  unfold unpackFields
  rw [if_pos]
  rw [List.length_take]
  omega

/-- Reading a header of fixed widths: `struct.error`, or its values. -/
theorem header_bind {α : Type} {widths : List Nat} {buf : Bytes}
    (rest : Bytes × Bytes → List Nat → Except PyError α) :
    (takeHeader widths.sum buf >>= fun split =>
      unpackFields widths split.1 >>= fun values => rest split values) =
      if buf.length < widths.sum then .error .structError
      else rest (buf.take widths.sum, buf.drop widths.sum)
        (fieldValues widths (buf.take widths.sum)) := by
  unfold takeHeader
  split
  · rfl
  · rename_i enough
    rw [ok_bind, unpackFields_take (by omega), ok_bind]

theorem beNat_lt (bytes : Bytes) : beNat bytes < 256 ^ bytes.length := by
  induction bytes using List.reverseRecOn with
  | nil => decide
  | append_singleton before byte ih =>
      have range := byte.toNat_lt
      rw [beNat_snoc, List.length_append, List.length_singleton, pow_succ]
      omega

theorem beBytes_beNat (bytes : Bytes) :
    beBytes bytes.length (beNat bytes) = bytes := by
  induction bytes using List.reverseRecOn with
  | nil => rfl
  | append_singleton before byte ih =>
      have range := byte.toNat_lt
      have high : (beNat before * 256 + byte.toNat) / 256 = beNat before := by
        omega
      have low : UInt8.ofNat (beNat before * 256 + byte.toNat) = byte := by
        apply UInt8.toNat_inj.mp
        rw [UInt8.toNat_ofNat']
        omega
      rw [beNat_snoc, List.length_append, List.length_singleton, beBytes, high,
        low, ih]

theorem packFields_fieldValues {widths : List Nat} {bytes : Bytes}
    (exact_length : bytes.length = widths.sum) :
    packFields (widths.zip (fieldValues widths bytes)) = .ok bytes := by
  induction widths generalizing bytes with
  | nil =>
      rw [List.sum_nil] at exact_length
      rw [List.eq_nil_of_length_eq_zero exact_length]
      rfl
  | cons width rest ih =>
      rw [List.sum_cons] at exact_length
      have first : (bytes.take width).length = width := by
        rw [List.length_take]
        omega
      have others : (bytes.drop width).length = rest.sum := by
        rw [List.length_drop]
        omega
      have fits := beNat_lt (bytes.take width)
      have again := beBytes_beNat (bytes.take width)
      rw [first] at fits again
      have packed : packBe width (beNat (bytes.take width)) =
          .ok (bytes.take width) := by
        unfold packBe
        rw [if_pos fits, again]
      rw [fieldValues, List.zip_cons_cons, packFields, packed, ok_bind,
        ih others, ok_bind, List.take_append_drop]

theorem unpackFields_length {widths values : List Nat} {bytes : Bytes}
    (read : unpackFields widths bytes = .ok values) :
    bytes.length = widths.sum := by
  unfold unpackFields at read
  split at read
  · assumption
  · cases read

theorem packFields_of_unpackFields {widths values : List Nat} {bytes : Bytes}
    (read : unpackFields widths bytes = .ok values) :
    packFields (widths.zip values) = .ok bytes := by
  unfold unpackFields at read
  split at read
  · rename_i exact_length
    rw [Except.ok.injEq] at read
    rw [← read]
    exact packFields_fieldValues exact_length
  · cases read

theorem packHdr_fieldValues {widths : List Nat} {buf : Bytes}
    (enough : widths.sum ≤ buf.length) :
    packHdr (widths.zip (fieldValues widths (buf.take widths.sum))) =
      .ok (buf.take widths.sum) := by
  have packed : packFields (widths.zip
      (fieldValues widths (buf.take widths.sum))) =
        .ok (buf.take widths.sum) := by
    apply packFields_fieldValues
    rw [List.length_take]
    omega
  unfold packHdr
  rw [packed]

theorem cut_take {buf : Bytes} {start stop bound : Nat}
    (within : stop ≤ bound) : cut (buf.take bound) start stop =
      cut buf start stop := by
  unfold cut
  rw [List.drop_take, List.take_take]
  congr 1
  omega

theorem cut_append (front middle behind : Bytes) :
    cut (front ++ middle ++ behind) front.length
      (front.length + middle.length) = middle := by
  unfold cut
  rw [List.append_assoc, List.drop_left, Nat.add_sub_cancel_left,
    List.take_left]

theorem cut_front {front : Bytes} {stop : Nat} (length : front.length = stop)
    (behind : Bytes) : cut (front ++ behind) 0 stop = front := by
  unfold cut
  rw [List.drop_zero, Nat.sub_zero, List.take_left' length]

theorem cut_behind {front : Bytes} {size start : Nat}
    (length : front.length = size) (le : size ≤ start) (behind : Bytes)
    (stop : Nat) :
    cut (front ++ behind) start stop =
      cut behind (start - size) (stop - size) := by
  unfold cut
  rw [List.drop_append, length, List.drop_eq_nil_of_le (by omega),
    List.nil_append]
  congr 1
  omega

theorem cut_middle {front middle : Bytes} {start stop : Nat}
    (length : front.length = start) (stop_eq : start + middle.length = stop)
    (behind : Bytes) : cut (front ++ middle ++ behind) start stop = middle := by
  rw [← length, ← stop_eq, ← length]
  exact cut_append front middle behind

theorem drop_behind {front : Bytes} {size start : Nat}
    (length : front.length = size) (le : size ≤ start) (behind : Bytes) :
    (front ++ behind).drop start = behind.drop (start - size) := by
  rw [List.drop_append, length, List.drop_eq_nil_of_le (by omega),
    List.nil_append]

theorem cutTo_length (buf : Bytes) (stop : Int) :
    (cutTo buf stop).length ≤ buf.length := by
  unfold cutTo
  split
  · exact (List.take_sublist _ _).length_le
  · exact (List.take_sublist _ _).length_le

theorem take_append_cut {buf : Bytes} {off behind : Nat} (le : off ≤ behind) :
    buf.take off ++ cut buf off behind = buf.take behind := by
  unfold cut
  rw [← List.take_add, Nat.add_sub_cancel' le]

theorem fields_end {widths values : List Nat} {buf : Bytes} {off size : Nat}
    (total : widths.sum = size) (positive : 0 < size)
    (read : unpackFields widths (cut buf off (off + size)) = .ok values) :
    off + size ≤ buf.length := by
  have whole := unpackFields_length read
  unfold cut at whole
  rw [List.length_take, List.length_drop, total] at whole
  omega

/-! ### Single bytes, and headers in front of data -/

theorem beNat_singleton (byte : UInt8) : beNat [byte] = byte.toNat := by
  unfold beNat
  rw [List.foldl_cons, List.foldl_nil]
  omega

theorem beBytes_one (byte : UInt8) : beBytes 1 byte.toNat = [byte] := by
  rw [beBytes, beBytes, List.nil_append, UInt8.ofNat_toNat]

theorem beBytes_head {width value : Nat} (fits : value < 256 ^ (width + 1)) :
    ∃ first rest, beBytes (width + 1) value = first :: rest ∧
      first.toNat = value / 256 ^ width := by
  induction width generalizing value with
  | zero =>
      refine ⟨UInt8.ofNat value, [], rfl, ?_⟩
      rw [UInt8.toNat_ofNat', pow_zero, Nat.div_one]
      rw [zero_add, pow_one] at fits
      exact Nat.mod_eq_of_lt fits
  | succ width ih =>
      have smaller : value / 256 < 256 ^ (width + 1) := by
        rw [Nat.div_lt_iff_lt_mul (by omega), ← pow_succ]
        exact fits
      obtain ⟨first, rest, same, high⟩ := ih smaller
      refine ⟨first, rest ++ [UInt8.ofNat value], ?_, ?_⟩
      · rw [beBytes, same, List.cons_append]
      · rw [high, Nat.div_div_eq_div_mul, pow_succ' 256 width]

theorem beBytes_drop_one {width value : Nat} (fits : value < 256 ^ width) :
    (beBytes (width + 1) value).drop 1 = beBytes width value := by
  induction width generalizing value with
  | zero => rfl
  | succ width ih =>
      have smaller : value / 256 < 256 ^ width := by
        rw [Nat.div_lt_iff_lt_mul (by omega), ← pow_succ]
        exact fits
      have length := beBytes_length (width + 1) (value / 256)
      rw [beBytes, List.drop_append_of_le_length (by omega), ih smaller]
      rfl

theorem count_toNat {count : Nat} (short : count < 256) :
    (UInt8.ofNat count).toNat = count := by
  rw [UInt8.toNat_ofNat']
  omega

theorem byteOf_ok {value : Nat} (fits : value < 256) :
    byteOf value = .ok (beBytes 1 value) :=
  if_pos fits

theorem byteAt_front {value : Nat} (fits : value < 256) (behind : Bytes) :
    byteAt (beBytes 1 value ++ behind) 0 = .ok value := by
  change Except.ok (UInt8.ofNat value).toNat = _
  rw [count_toNat fits]

theorem byteAt_inside {buf : Bytes} {index : Nat} (inside : index < buf.length) :
    byteAt buf index = .ok buf[index].toNat := by
  unfold byteAt
  rw [List.getElem?_eq_getElem inside]

theorem byteAt_outside {buf : Bytes} {index : Nat}
    (outside : buf.length ≤ index) : byteAt buf index = .error .indexError := by
  unfold byteAt
  rw [List.getElem?_eq_none outside]

theorem byteAt_behind {front : Bytes} {size index : Nat}
    (length : front.length = size) (le : size ≤ index) (behind : Bytes) :
    byteAt (front ++ behind) index = byteAt behind (index - size) := by
  unfold byteAt
  rw [List.getElem?_append_right (by omega), length]

section Fields

variable {width start stop value index : Nat}

theorem cut_beBytes (width value : Nat) (behind : Bytes) :
    cut (beBytes width value ++ behind) 0 width = beBytes width value :=
  cut_front (beBytes_length width value) behind

theorem cut_behind_beBytes (le : width ≤ start) (behind : Bytes) :
    cut (beBytes width value ++ behind) start stop =
      cut behind (start - width) (stop - width) :=
  cut_behind (beBytes_length width value) le behind stop

theorem byteAt_behind_beBytes (le : width ≤ index) (behind : Bytes) :
    byteAt (beBytes width value ++ behind) index =
      byteAt behind (index - width) :=
  byteAt_behind (beBytes_length width value) le behind

end Fields

theorem takeHeader_append (hdrLen : Nat) {header rest : Bytes}
    (length : header.length = hdrLen) :
    takeHeader hdrLen (header ++ rest) = .ok (header, rest) := by
  rw [takeHeader_eq_ok, List.length_append]
  exact ⟨by omega, (List.take_left' length).symm,
    (List.drop_left' length).symm⟩

theorem takeHeader_byte (byte : UInt8) (rest : Bytes) :
    takeHeader 1 (byte :: rest) = .ok ([byte], rest) := by
  change takeHeader 1 ([byte] ++ rest) = _
  exact takeHeader_append 1 rfl

theorem unpackBe_byte (byte : UInt8) (rest : Bytes) :
    unpackBe 1 ((byte :: rest).take 1) = .ok byte.toNat := by
  rw [← beNat_singleton]
  rfl

theorem packBe_byte {value : Nat} (small : value < 256) :
    packBe 1 value = .ok [UInt8.ofNat value] :=
  if_pos small

theorem packHdr_ok {fields : List (Nat × Nat)} (fits : FieldsFit fields) :
    packHdr fields =
      .ok (fields.flatMap fun field => beBytes field.1 field.2) :=
  packHdr_eq_ok_iff.mpr ⟨fits, rfl⟩

theorem packHdr_length {fields : List (Nat × Nat)} {bytes : Bytes}
    (packed : packHdr fields = .ok bytes) :
    bytes.length = (fields.map Prod.fst).sum := by
  obtain ⟨fits, same⟩ := packHdr_eq_ok_iff.mp packed
  exact packFields_length (packFields_eq_ok_iff.mpr ⟨fits, same⟩)

theorem packHdr_byte (byte : UInt8) :
    packHdr [(1, byte.toNat)] = .ok [byte] := by
  rw [packHdr_eq_ok_iff]
  refine ⟨?_, ?_⟩
  · intro field member
    rw [List.mem_singleton.mp member]
    exact byte.toNat_lt
  · rw [List.flatMap_singleton, beBytes_one]

theorem packHdr_two (first second : UInt8) :
    packHdr [(1, first.toNat), (1, second.toNat)] = .ok [first, second] := by
  rw [packHdr_eq_ok_iff]
  constructor
  · intro field member
    rcases List.mem_pair.mp member with here | here
    · rw [here]
      exact first.toNat_lt
    · rw [here]
      exact second.toNat_lt
  · rw [List.flatMap_cons, List.flatMap_singleton, beBytes_one, beBytes_one]
    rfl

theorem packHdr_of_packFields {fields : List (Nat × Nat)} {bytes : Bytes}
    (packed : packFields fields = .ok bytes) : packHdr fields = .ok bytes := by
  unfold packHdr
  rw [packed]

theorem packBe_beNat {width : Nat} {bytes : Bytes}
    (sized : bytes.length = width) :
    packBe width (beNat bytes) = .ok bytes := by
  unfold packBe
  rw [← sized, if_pos (beNat_lt bytes), beBytes_beNat]

/-! ### Slices -/

theorem cut_length_of_le {buf : Bytes} {start stop : Nat}
    (within : stop ≤ buf.length) :
    (cut buf start stop).length = stop - start := by
  unfold cut
  rw [List.length_take, List.length_drop]
  omega

theorem cut_drop (buf : Bytes) (skipped start stop : Nat) :
    cut (buf.drop skipped) start stop =
      cut buf (skipped + start) (skipped + stop) := by
  unfold cut
  rw [List.drop_drop]
  congr 1
  omega

theorem cut_cut {buf : Bytes} {start stop first last : Nat}
    (within : start + last ≤ stop) :
    cut (cut buf start stop) first last =
      cut buf (start + first) (start + last) := by
  unfold cut
  rw [List.drop_take, List.take_take, List.drop_drop]
  congr 1
  omega

theorem cut_append_cut (buf : Bytes) {start middle stop : Nat}
    (first : start ≤ middle) (second : middle ≤ stop) :
    cut buf start middle ++ cut buf middle stop = cut buf start stop := by
  have split := @take_append_cut (buf.drop start) (middle - start)
    (stop - start) (by omega)
  rw [cut_drop, show start + (middle - start) = middle by omega,
    show start + (stop - start) = stop by omega] at split
  exact split

theorem cut_append_drop (buf : Bytes) {start stop : Nat} (le : start ≤ stop) :
    cut buf start stop ++ buf.drop stop = buf.drop start := by
  have split := List.take_append_drop (stop - start) (buf.drop start)
  rw [List.drop_drop, show start + (stop - start) = stop by omega] at split
  exact split

theorem packBe_of_byteAt {buf : Bytes} {index value : Nat}
    (read : byteAt buf index = .ok value) :
    packBe 1 value = .ok (cut buf index (index + 1)) := by
  unfold byteAt at read
  split at read
  · cases read
  · rename_i byte found
    obtain ⟨within, same⟩ := List.getElem?_eq_some_iff.mp found
    have slice : cut buf index (index + 1) = [byte] := by
      unfold cut
      rw [List.drop_eq_getElem_cons within, same, Nat.add_sub_cancel_left]
      rfl
    rw [Except.ok.injEq] at read
    rw [← read, slice, packBe_ok byte.toNat_lt, beBytes_one]

theorem unpackBe_eq_ok {width value : Nat} {bytes : Bytes} :
    unpackBe width bytes = .ok value ↔
      bytes.length = width ∧ value = beNat bytes := by
  unfold unpackBe
  split
  · rename_i sized
    rw [Except.ok.injEq]
    constructor
    · intro same
      exact ⟨sized, same.symm⟩
    · intro both
      exact both.2.symm
  · rename_i other
    constructor
    · intro impossible
      cases impossible
    · intro both
      exact absurd both.1 other

theorem packBe_of_unpackBe {width value : Nat} {bytes : Bytes}
    (read : unpackBe width bytes = .ok value) :
    packBe width value = .ok bytes := by
  obtain ⟨sized, same⟩ := unpackBe_eq_ok.mp read
  rw [same, packBe_beNat sized]

end DpktNg
