/-
Domain names on the wire, dpkt/dns.py: `pack_name` with its table of label
pointers and `unpack_name`.

The packer takes the function that writes a pointer.  The source writes
`packPointer`; proofs compare it with one that refuses some pointers.

`pack_name` compares names by the bytes of their UTF-8 text in upper case, where
only ASCII letters change; so two names are the same up to case exactly when
their bytes are.
-/

import DpktNg.Library.Dict
import DpktNg.Python.Struct

namespace DpktNg.Dns

open Library

def dot : UInt8 := 0x2e

/-- `b'.'.join(labels)` -/
def joinDots (labels : List Bytes) : Bytes := [dot].intercalate labels

/-- `label_ptrs`: the offset at which a name was written, by the name in upper
case. -/
abbrev LabelPtrs := Dict Bytes Nat

/-- `struct.pack('>H', (0xc000 | ptr))` -/
def packPointer (ptr : Nat) : Except PyError Bytes := packBe 2 (0xc000 ||| ptr)

section Packing

variable (pointer : Nat → Except PyError Bytes)

def packLabels (off : Nat) (buf : Bytes) (labelPtrs : LabelPtrs) :
    List Bytes → Except PyError (Bytes × LabelPtrs)
  | [] => .ok (buf, labelPtrs)
  | label :: rest =>
      let key := upper (joinDots (label :: rest))
      match labelPtrs.get? key with
      | none => do
          let ptr := off + buf.length
          let labelPtrs :=
            if key.length > 1 ∧ ptr < 0xc000 then labelPtrs.set key ptr
            else labelPtrs
          let size ← packBe 1 label.length
          packLabels off (buf ++ size ++ label) labelPtrs rest
      | some ptr => do
          let written ← pointer ptr
          .ok (buf ++ written, labelPtrs)

/-- `name.split(b'.')`; the empty name has no label of its own. -/
def dotLabels (name : Bytes) : List Bytes :=
  if name ≠ [] then name.splitOn dot else []

def packName (name : PyStr) (off : Nat) (labelPtrs : LabelPtrs) :
    Except PyError (Bytes × LabelPtrs) :=
  packLabels pointer off [] labelPtrs (dotLabels (encodeUtf8 name) ++ [[]])

variable {pointer} {off : Nat} {buf : Bytes} {labelPtrs : LabelPtrs}
  {label : Bytes} {rest : List Bytes}

theorem packLabels_cons_found {ptr : Nat}
    (found : labelPtrs.get? (upper (joinDots (label :: rest))) = some ptr) :
    packLabels pointer off buf labelPtrs (label :: rest) =
      pointer ptr >>= fun written => .ok (buf ++ written, labelPtrs) := by
  rw [packLabels]
  simp only [found]

theorem packLabels_cons_absent
    (absent : labelPtrs.get? (upper (joinDots (label :: rest))) = none) :
    packLabels pointer off buf labelPtrs (label :: rest) =
      packBe 1 label.length >>= fun size =>
        packLabels pointer off (buf ++ size ++ label)
          (if (upper (joinDots (label :: rest))).length > 1 ∧
              off + buf.length < 0xc000
            then labelPtrs.set (upper (joinDots (label :: rest)))
              (off + buf.length)
            else labelPtrs) rest := by
  rw [packLabels]
  simp only [absent]

end Packing

/-- The loop of `unpack_name`.  A pointer has to lead below the start of the
segment it stands in, so the segment moves down whenever the offset jumps. -/
def unpackLabels (buf : Bytes) (off startOff savedOff nameLength : Nat)
    (name : List Bytes) : Except PyError (List Bytes × Nat) :=
  if inside : off < buf.length then
    let n := buf[off].toNat
    if n = 0 then
      .ok (name, if savedOff = 0 then off + 1 else savedOff)
    else if n &&& 0xc0 = 0xc0 then do
      let word ← unpackBe 2 (cut buf off (off + 2))
      let ptr := word &&& 0x3fff
      if below : ptr ≥ startOff then
        .error (.unpackError "Invalid label compression pointer".toList)
      else
        unpackLabels buf ptr ptr (if savedOff = 0 then off + 2 else savedOff)
          nameLength name
    else if n &&& 0xc0 = 0x00 then
      let label := cut buf (off + 1) (off + 1 + n)
      let nameLength := nameLength + (n + 1)
      if nameLength > 255 then
        .error (.unpackError "name longer than 255 bytes".toList)
      else
        unpackLabels buf (off + 1 + n) startOff savedOff nameLength
          (name ++ [label])
    else
      .error (.unpackError ("Invalid label length ".toList ++ hex2 n))
  else
    .error (.needData [])
termination_by (startOff, buf.length - off)
decreasing_by
  · exact Prod.Lex.left _ _ (Nat.lt_of_not_le below)
  · apply Prod.Lex.right
    omega

def unpackName (buf : Bytes) (off : Nat) : Except PyError (PyStr × Nat) := do
  let (name, behind) ← unpackLabels buf off off 0 0 []
  match decodeUtf8 (joinDots name) with
  | some text => .ok (text, behind)
  | none => .error .unicodeError

example : packName packPointer [] 0 Dict.empty = .ok ([0], Dict.empty) := by
  decide

theorem encodeUtf8_decodeLatin1 {bytes : Bytes}
    (ascii : ∀ byte ∈ bytes, byte < 0x80) :
    encodeUtf8 (decodeLatin1 bytes) = bytes := by
  have table : ∀ n < 128,
      String.utf8EncodeChar (Char.ofNat n) = [UInt8.ofNat n] := by
    decide +kernel
  induction bytes with
  | nil => rfl
  | cons byte rest ih =>
      have small : byte.toNat < 128 := by
        have below := UInt8.lt_iff_toNat_lt.mp (ascii byte List.mem_cons_self)
        exact below
      unfold encodeUtf8 decodeLatin1 at ih ⊢
      rw [List.map_cons, List.flatMap_cons, table _ small, UInt8.ofNat_toNat,
        ih (fun other member => ascii other (List.mem_cons_of_mem _ member)),
        List.singleton_append]

/-- A name with its ASCII letters in upper case. -/
def upToCase (name : PyStr) : PyStr := name.map Char.toUpper

theorem toUpper_byte : ∀ byte : UInt8,
    (Char.ofNat byte.toNat).toUpper = Char.ofNat (upperByte byte).toNat :=
  forall_byte (by decide +kernel)

theorem upperByte_ascii : ∀ byte : UInt8,
    upperByte byte < 0x80 ↔ byte < 0x80 :=
  forall_byte (by decide +kernel)

theorem utf8EncodeChar_ascii {c : Char} (ascii : c.toNat < 0x80) :
    String.utf8EncodeChar c = [UInt8.ofNat c.toNat] := by
  have first : c.val.toNat ≤ 0x7f := Nat.le_of_lt_succ ascii
  unfold String.utf8EncodeChar
  dsimp only
  rw [if_pos first]
  rfl

theorem utf8EncodeChar_not_ascii {c : Char} (large : ¬c.toNat < 0x80) :
    ∀ byte ∈ String.utf8EncodeChar c, ¬byte < 0x80 := by
  have notFirst : ¬c.val.toNat ≤ 0x7f := by
    change ¬c.val.toNat < 0x80 at large
    omega
  intro byte member
  rw [UInt8.lt_iff_toNat_lt]
  unfold String.utf8EncodeChar at member
  dsimp only at member
  rw [if_neg notFirst] at member
  split at member
  · simp only [List.mem_cons, List.not_mem_nil, or_false] at member
    rcases member with same | same <;>
      (rw [same, UInt8.toNat_ofNat', show (0x80 : UInt8).toNat = 0x80 from rfl]
       omega)
  · split at member
    · simp only [List.mem_cons, List.not_mem_nil, or_false] at member
      rcases member with same | same | same <;>
        (rw [same, UInt8.toNat_ofNat', show (0x80 : UInt8).toNat = 0x80 from rfl]
         omega)
    · simp only [List.mem_cons, List.not_mem_nil, or_false] at member
      rcases member with same | same | same | same <;>
        (rw [same, UInt8.toNat_ofNat', show (0x80 : UInt8).toNat = 0x80 from rfl]
         omega)

theorem toUpper_ascii {c : Char} (ascii : c.toNat < 0x80) :
    c.toUpper = Char.ofNat (upperByte (UInt8.ofNat c.toNat)).toNat := by
  have byte := toUpper_byte (UInt8.ofNat c.toNat)
  have size : (UInt8.ofNat c.toNat).toNat = c.toNat := by
    rw [UInt8.toNat_ofNat']
    omega
  rw [size, Char.ofNat_toNat] at byte
  exact byte

theorem toUpper_not_ascii {c : Char} (large : ¬c.toNat < 0x80) :
    c.toUpper = c := by
  unfold Char.toUpper
  split
  · rename_i letter
    have upTo : c.toNat ≤ 0x7a := letter.2
    omega
  · rfl

theorem upperByte_not_ascii : ∀ byte : UInt8, ¬byte < 0x80 → upperByte byte = byte :=
  forall_byte (by decide +kernel)

theorem upper_not_ascii {bytes : Bytes}
    (large : ∀ byte ∈ bytes, ¬byte < 0x80) : upper bytes = bytes := by
  unfold upper
  rw [List.map_congr_left fun byte member =>
    upperByte_not_ascii byte (large byte member)]
  exact List.map_id _

theorem ofNat_ascii {c : Char} (ascii : c.toNat < 0x80) :
    UInt8.ofNat c.toNat < 0x80 := by
  rw [UInt8.lt_iff_toNat_lt, UInt8.toNat_ofNat']
  exact Nat.lt_of_le_of_lt (Nat.mod_le _ _) ascii

theorem utf8EncodeChar_byte {byte : UInt8} (ascii : byte < 0x80) :
    String.utf8EncodeChar (Char.ofNat byte.toNat) = [byte] := by
  have text : encodeUtf8 (decodeLatin1 [byte]) = [byte] := by
    apply encodeUtf8_decodeLatin1
    intro other member
    rw [List.mem_singleton.mp member]
    exact ascii
  unfold encodeUtf8 decodeLatin1 at text
  rw [List.map_singleton, List.flatMap_singleton] at text
  exact text

theorem encodeUtf8_upToCase (text : PyStr) :
    encodeUtf8 (upToCase text) = upper (encodeUtf8 text) := by
  induction text with
  | nil => rfl
  | cons c rest ih =>
      unfold encodeUtf8 upToCase upper at ih ⊢
      rw [List.map_cons, List.flatMap_cons, ih, List.flatMap_cons,
        List.map_append]
      by_cases ascii : c.toNat < 0x80
      · have small := (upperByte_ascii _).mpr (ofNat_ascii ascii)
        rw [toUpper_ascii ascii, utf8EncodeChar_byte small,
          utf8EncodeChar_ascii ascii]
        rfl
      · have kept := upper_not_ascii (utf8EncodeChar_not_ascii ascii)
        unfold upper at kept
        rw [toUpper_not_ascii ascii, kept]

/-- Bytes that agree with those of a character up to case are those of a
character. -/
theorem exists_sameChar {c : Char} {bytes : Bytes}
    (same : upper bytes = upper (String.utf8EncodeChar c)) :
    ∃ c', String.utf8EncodeChar c' = bytes ∧ c'.toUpper = c.toUpper := by
  by_cases ascii : c.toNat < 0x80
  · rw [utf8EncodeChar_ascii ascii] at same
    obtain ⟨byte, alone, upperSame⟩ := List.map_eq_singleton_iff.mp same
    have small : byte < 0x80 := by
      rw [← upperByte_ascii, upperSame, upperByte_ascii]
      exact ofNat_ascii ascii
    refine ⟨Char.ofNat byte.toNat, ?_, ?_⟩
    · rw [utf8EncodeChar_byte small, alone]
    · rw [toUpper_byte, upperSame, toUpper_ascii ascii]
  · have large := utf8EncodeChar_not_ascii ascii
    rw [upper_not_ascii large] at same
    have largeToo : ∀ byte ∈ bytes, ¬byte < 0x80 := by
      intro byte member
      rw [← upperByte_ascii]
      apply large
      rw [← same]
      exact List.mem_map_of_mem member
    rw [upper_not_ascii largeToo] at same
    exact ⟨c, same.symm, rfl⟩

theorem exists_sameText {text : PyStr} {bytes : Bytes}
    (same : upper bytes = upper (encodeUtf8 text)) :
    ∃ text', encodeUtf8 text' = bytes ∧ upToCase text' = upToCase text := by
  induction text generalizing bytes with
  | nil =>
      have empty : bytes = [] := List.map_eq_nil_iff.mp same
      exact ⟨[], empty.symm, rfl⟩
  | cons c rest ih =>
      unfold upper encodeUtf8 at same
      rw [List.flatMap_cons, List.map_append] at same
      obtain ⟨first, behind, split, sameFirst, sameBehind⟩ :=
        List.map_eq_append_iff.mp same
      obtain ⟨c', encodedFirst, upperFirst⟩ := exists_sameChar sameFirst
      obtain ⟨rest', encodedRest, upperRest⟩ := ih sameBehind
      refine ⟨c' :: rest', ?_, ?_⟩
      · unfold encodeUtf8 at encodedRest ⊢
        rw [List.flatMap_cons, encodedFirst, encodedRest, split]
      · unfold upToCase at upperRest ⊢
        rw [List.map_cons, List.map_cons, upperFirst, upperRest]

end DpktNg.Dns
