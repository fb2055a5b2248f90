/-
Variable-length integers of dpkt/quic.py.  The two high bits of the first byte
give the width, the other bits hold the value.
-/

import DpktNg.Python.Struct

namespace DpktNg.Quic

open Library

/-- The branches of `decode_varint` for more than one byte. -/
def decodeWide (width mask : Nat) (buf : Bytes) (offset : Nat) :
    Except PyError (Nat × Nat) :=
  if offset + width > buf.length then
    .error (.needData
      ("varint: need ".toList ++ decimal width ++ " bytes".toList))
  else do
    let value ← unpackBe width (cut buf offset (offset + width))
    .ok (value &&& mask, width)

/-- The value at an offset, and the bytes that it takes. -/
def decodeVarint (buf : Bytes) (offset : Nat) : Except PyError (Nat × Nat) :=
  match buf[offset]? with
  | none => .error (.needData "varint: buffer too short".toList)
  | some b =>
      let tag := b.toNat >>> 6
      if tag = 0 then .ok (b.toNat &&& 0x3f, 1)
      else if tag = 1 then decodeWide 2 0x3fff buf offset
      else if tag = 2 then decodeWide 4 0x3fffffff buf offset
      else decodeWide 8 0x3fffffffffffffff buf offset

def encodeVarint (v : Nat) : Except PyError Bytes :=
  if v ≤ 63 then .ok [UInt8.ofNat v]
  else if v ≤ 16383 then packBe 2 (v ||| 0x4000)
  else if v ≤ 1073741823 then packBe 4 (v ||| 0x80000000)
  else packBe 8 (v ||| 0xc000000000000000)

/-- The widths of an encoded integer. -/
inductive Width where
  | one
  | two
  | four
  | eight
deriving DecidableEq, Repr

namespace Width

def octets : Width → Nat
  | .one => 1
  | .two => 2
  | .four => 4
  | .eight => 8

def tag : Width → Nat
  | .one => 0
  | .two => 1
  | .four => 2
  | .eight => 3

/-- The number of values that a width has room for. -/
def capacity (width : Width) : Nat := 2 ^ (8 * width.octets - 2)

/-- The narrowest width that has room for a value below `2 ^ 62`. -/
def narrowest (v : Nat) : Width :=
  if v < 2 ^ 6 then .one
  else if v < 2 ^ 14 then .two
  else if v < 2 ^ 30 then .four
  else .eight

theorem capacity_le (width : Width) : width.capacity ≤ 2 ^ 62 := by
  cases width <;> decide

theorem octets_pos (width : Width) : 0 < width.octets := by
  cases width <;> decide

theorem narrowest_holds {v : Nat} (small : v < 2 ^ 62) :
    v < (narrowest v).capacity := by
  unfold narrowest capacity
  split
  · assumption
  · split
    · assumption
    · split
      · assumption
      · exact small

theorem narrowest_le {v : Nat} {width : Width} (room : v < width.capacity) :
    (narrowest v).octets ≤ width.octets := by
  unfold narrowest
  split
  · exact width.octets_pos
  · split
    · cases width with
      | one =>
          change v < 2 ^ 6 at room
          omega
      | two => exact Nat.le_refl 2
      | four => decide
      | eight => decide
    · split
      · cases width with
        | one =>
            change v < 2 ^ 6 at room
            omega
        | two =>
            change v < 2 ^ 14 at room
            omega
        | four => exact Nat.le_refl 4
        | eight => decide
      · cases width with
        | one =>
            change v < 2 ^ 6 at room
            omega
        | two =>
            change v < 2 ^ 14 at room
            omega
        | four =>
            change v < 2 ^ 30 at room
            omega
        | eight => exact Nat.le_refl 8

end Width

/-- The encoding of a value in a given width. -/
def varint (width : Width) (v : Nat) : Bytes :=
  beBytes width.octets (width.tag * width.capacity + v)

@[simp] theorem varint_length (width : Width) (v : Nat) :
    (varint width v).length = width.octets :=
  beBytes_length _ _

theorem varint_fits {width : Width} {v : Nat} (room : v < width.capacity) :
    width.tag * width.capacity + v < 256 ^ width.octets := by
  cases width with
  | one =>
      change v < 2 ^ 6 at room
      change 0 * 2 ^ 6 + v < 256 ^ 1
      omega
  | two =>
      change v < 2 ^ 14 at room
      change 1 * 2 ^ 14 + v < 256 ^ 2
      omega
  | four =>
      change v < 2 ^ 30 at room
      change 2 * 2 ^ 30 + v < 256 ^ 4
      omega
  | eight =>
      change v < 2 ^ 62 at room
      change 3 * 2 ^ 62 + v < 256 ^ 8
      omega

theorem varint_tag {width : Width} {v : Nat} (room : v < width.capacity) :
    ∃ first rest, varint width v = first :: rest ∧
      first.toNat >>> 6 = width.tag := by
  have fits := varint_fits room
  have positive := width.octets_pos
  obtain ⟨high, split⟩ : ∃ high, width.octets = high + 1 :=
    ⟨width.octets - 1, by omega⟩
  rw [split] at fits
  obtain ⟨first, rest, same, top⟩ := beBytes_head fits
  refine ⟨first, rest, ?_, ?_⟩
  · unfold varint
    rw [split, same]
  · have units : width.capacity = 2 ^ 6 * 256 ^ high := by
      unfold Width.capacity
      rw [split, show 8 * (high + 1) - 2 = 6 + 8 * high by omega, pow_add,
        pow_mul]
      rfl
    have zero : v / width.capacity = 0 := Nat.div_eq_of_lt room
    rw [Nat.shiftRight_eq_div_pow, top, Nat.div_div_eq_div_mul,
      Nat.mul_comm (256 ^ high), ← units,
      Nat.add_comm, Nat.add_mul_div_right _ _ (by omega), zero, zero_add]

/-- What the mask leaves of an encoded value. -/
theorem masked_value {bits tag v : Nat} (room : v < 2 ^ bits) :
    (tag * 2 ^ bits + v) &&& (2 ^ bits - 1) = v := by
  rw [Nat.and_two_pow_sub_one_eq_mod, Nat.add_comm, Nat.add_mul_mod_self_right,
    Nat.mod_eq_of_lt room]

theorem decodeWide_varint {width : Width} {v : Nat}
    (room : v < width.capacity) (front behind : Bytes) :
    decodeWide width.octets (width.capacity - 1)
        (front ++ varint width v ++ behind) front.length =
      .ok (v, width.octets) := by
  unfold decodeWide
  have long : ¬front.length + width.octets >
      (front ++ varint width v ++ behind).length := by
    rw [List.length_append, List.length_append, varint_length]
    omega
  have field : cut (front ++ varint width v ++ behind) front.length
      (front.length + width.octets) = varint width v := by
    have whole := cut_append front (varint width v) behind
    rw [varint_length] at whole
    exact whole
  have value : unpackBe width.octets (varint width v) =
      .ok (width.tag * width.capacity + v) := by
    unfold unpackBe
    rw [if_pos (varint_length width v)]
    unfold varint
    rw [beNat_beBytes (varint_fits room)]
  rw [if_neg long, field, value, ok_bind]
  unfold Width.capacity at room ⊢
  rw [masked_value room]

/-- Whatever is around it, an encoded integer is read back, in any width that
has room for it. -/
theorem decodeVarint_varint {width : Width} {v : Nat}
    (room : v < width.capacity) (front behind : Bytes) :
    decodeVarint (front ++ varint width v ++ behind) front.length =
      .ok (v, width.octets) := by
  obtain ⟨first, rest, same, shown⟩ := varint_tag room
  have byte : (front ++ varint width v ++ behind)[front.length]? =
      some first := by
    rw [same, List.append_assoc, List.getElem?_append_right (Nat.le_refl _),
      Nat.sub_self]
    rfl
  have wide := decodeWide_varint room front behind
  unfold decodeVarint
  rw [byte]
  dsimp only
  rw [shown]
  cases width with
  | one =>
      change v < 2 ^ 6 at room
      have alone : varint .one v = [UInt8.ofNat v] := by
        change [] ++ [UInt8.ofNat (0 * 2 ^ 6 + v)] = [UInt8.ofNat v]
        rw [Nat.zero_mul, Nat.zero_add, List.nil_append]
      rw [alone, List.cons.injEq] at same
      have value : first.toNat = v := by
        rw [← same.1, UInt8.toNat_ofNat', Nat.mod_eq_of_lt (by omega)]
      have masked := @masked_value 6 0 v room
      rw [Nat.zero_mul, Nat.zero_add] at masked
      change Except.ok (first.toNat &&& (2 ^ 6 - 1), 1) = Except.ok (v, 1)
      rw [value, masked]
  | two => exact wide
  | four => exact wide
  | eight => exact wide

theorem tagged_value {bits tag v : Nat} (room : v < 2 ^ bits) :
    v ||| tag * 2 ^ bits = tag * 2 ^ bits + v := by
  rw [Nat.or_comm, Nat.mul_comm, Nat.two_pow_add_eq_or_of_lt room]

theorem packBe_varint {width : Width} {v : Nat} (room : v < width.capacity) :
    packBe width.octets (v ||| width.tag * width.capacity) =
      .ok (varint width v) := by
  have tagged : v ||| width.tag * width.capacity =
      width.tag * width.capacity + v := tagged_value room
  unfold packBe
  rw [tagged, if_pos (varint_fits room)]
  rfl

theorem encodeVarint_of_lt {v : Nat} (small : v < 2 ^ 62) :
    encodeVarint v = .ok (varint (.narrowest v) v) := by
  have room := Width.narrowest_holds small
  have packed := packBe_varint room
  unfold encodeVarint
  unfold Width.narrowest at packed room ⊢
  split
  · rename_i below
    have one : v < 2 ^ 6 := by omega
    rw [if_pos one]
    change _ = Except.ok ([] ++ [UInt8.ofNat (0 * 2 ^ 6 + v)])
    rw [Nat.zero_mul, Nat.zero_add, List.nil_append]
  · rename_i above
    have notOne : ¬v < 2 ^ 6 := by omega
    rw [if_neg notOne] at packed ⊢
    split
    · rename_i below
      have two : v < 2 ^ 14 := by omega
      rw [if_pos two] at packed ⊢
      exact packed
    · rename_i above
      have notTwo : ¬v < 2 ^ 14 := by omega
      rw [if_neg notTwo] at packed ⊢
      split
      · rename_i below
        have four : v < 2 ^ 30 := by omega
        rw [if_pos four] at packed ⊢
        exact packed
      · rename_i above
        have notFour : ¬v < 2 ^ 30 := by omega
        rw [if_neg notFour] at packed ⊢
        exact packed

theorem decodeWide_lt {bits width : Nat} {buf : Bytes} {offset v used : Nat}
    (decoded : decodeWide width (2 ^ bits - 1) buf offset = .ok (v, used)) :
    v < 2 ^ bits := by
  unfold decodeWide at decoded
  split at decoded
  · cases decoded
  · obtain ⟨value, _unpacked, same⟩ := bind_eq_ok.mp decoded
    rw [Except.ok.injEq, Prod.mk.injEq] at same
    rw [← same.1, Nat.and_two_pow_sub_one_eq_mod]
    exact Nat.mod_lt _ (Nat.two_pow_pos bits)

theorem decodeVarint_lt {buf : Bytes} {offset v used : Nat}
    (decoded : decodeVarint buf offset = .ok (v, used)) : v < 2 ^ 62 := by
  unfold decodeVarint at decoded
  split at decoded
  · cases decoded
  · rename_i b _present
    dsimp only at decoded
    split at decoded
    · rw [Except.ok.injEq, Prod.mk.injEq] at decoded
      have masked := @Nat.and_le_right b.toNat 0x3f
      omega
    · split at decoded
      · have small := @decodeWide_lt 14 _ _ _ _ _ decoded
        omega
      · split at decoded
        · have small := @decodeWide_lt 30 _ _ _ _ _ decoded
          omega
        · exact @decodeWide_lt 62 _ _ _ _ _ decoded

/-- The encoded bytes, wherever they stand, are decoded to the value and their
own length. -/
def DecodesBack (v : Nat) (encoded : Bytes) : Prop :=
  ∀ front behind : Bytes,
    decodeVarint (front ++ encoded ++ behind) front.length =
      .ok (v, encoded.length)

/-- Of the four widths, the least that has room for the value. -/
def IsShortest (v octets : Nat) : Prop :=
  (∃ width : Width, width.octets = octets ∧ v < width.capacity) ∧
    ∀ width : Width, v < width.capacity → octets ≤ width.octets

/-- The encoder also takes values of 63 and 64 bits, over which it writes the
tag.  It encodes the others alone. -/
theorem varint_round_trip_iff (v : Nat) (encoded : Bytes)
    (succeeds : encodeVarint v = .ok encoded) :
    DecodesBack v encoded ∧ IsShortest v encoded.length ↔ v < 2 ^ 62 := by
  constructor
  · intro correct
    exact decodeVarint_lt (correct.1 [] [])
  · intro small
    have room := Width.narrowest_holds small
    rw [encodeVarint_of_lt small, Except.ok.injEq] at succeeds
    rw [← succeeds]
    constructor
    · intro front behind
      rw [varint_length]
      exact decodeVarint_varint room front behind
    · rw [varint_length]
      exact ⟨⟨_, rfl, room⟩, fun _width => Width.narrowest_le⟩

theorem varint_round_trip_max :
    DecodesBack (2 ^ 62 - 1) (List.replicate 8 0xff) ∧
      IsShortest (2 ^ 62 - 1) 8 :=
  (varint_round_trip_iff (2 ^ 62 - 1) (List.replicate 8 0xff)
    (by decide)).mpr (by decide)

theorem varint_above_62_bits :
    ¬∀ v encoded, encodeVarint v = .ok encoded →
      DecodesBack v encoded ∧ IsShortest v encoded.length := by
  intro always
  have encodes : encodeVarint (2 ^ 62) =
      .ok [0xc0, 0, 0, 0, 0, 0, 0, 0] := by decide
  have decodes := (always _ _ encodes).1 [] []
  exact absurd decodes (by decide)

end DpktNg.Quic
