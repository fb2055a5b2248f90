/-
Gzip members of dpkt/gzip.py: the header, the optional parts that its flags
announce, and the compressed data.

`unpack` skips what the flags for encryption and for the checksum of the header
announce, and `pack_hdr` leaves the flags standing.  So a member with one of
these flags loses the first bytes of its data each time it is written and read.
-/

import DpktNg.Python.Splitting
import DpktNg.Python.StructFormat

namespace DpktNg.GzipFormat

open Library

/-! ### The code -/

def gzipFhcrc : Nat := 0x02

def gzipFextra : Nat := 0x04

def gzipFname : Nat := 0x08

def gzipFcomment : Nat := 0x10

def gzipFencrypt : Nat := 0x20

def gzipFencryptLen : Nat := 12

/-- `flags & mask`, as a condition. -/
def hasFlag (flags mask : Nat) : Bool := flags &&& mask ≠ 0

structure ExtraHeader where
  id : Bytes
  len : Nat
deriving DecidableEq, Repr

def ExtraHeader.format : StructFormat ExtraHeader where
  items := [.str 2, .int 2]
  values header := (header.id, header.len, ())
  ofValues := fun (id, len, _) => { id, len }
  ofValues_values _ := rfl

structure GzipExtra where
  header : ExtraHeader
  data : Bytes
deriving DecidableEq, Repr

def GzipExtra.parse (buf : Bytes) : Except PyError GzipExtra := do
  let (header, data) ← ExtraHeader.format.parsePacket .little "GzipExtra" buf
  .ok { header, data }

def GzipExtra.bytes (self : GzipExtra) : Except PyError Bytes := do
  .ok ((← ExtraHeader.format.packHdr .little self.header) ++ self.data)

structure GzipHeader where
  magic : Bytes
  method : Nat
  flags : Nat
  mtime : Nat
  xflags : Nat
  os : Nat
deriving DecidableEq, Repr

def GzipHeader.format : StructFormat GzipHeader where
  items := [.str 2, .int 1, .int 1, .int 4, .int 1, .int 1]
  values header :=
    (header.magic, header.method, header.flags, header.mtime, header.xflags,
      header.os, ())
  ofValues := fun (magic, method, flags, mtime, xflags, os, _) =>
    { magic, method, flags, mtime, xflags, os }
  ofValues_values _ := rfl

structure Gzip where
  header : GzipHeader
  extra : Option GzipExtra
  filename : Option PyStr
  comment : Option Bytes
  data : Bytes
deriving DecidableEq, Repr

namespace Gzip

def needData (message : String) : PyError := .needData message.toList

def unpackExtra (flags : Nat) (data : Bytes) :
    Except PyError (Option GzipExtra × Bytes) :=
  if hasFlag flags gzipFextra then
    if data.length < 2 then .error (needData "Gzip extra")
    else do
      let n ← ByteOrder.little.unpackInt 2 (data.take 2)
      if data.length < 2 + n then .error (needData "Gzip extra")
      else do
        let extra ← GzipExtra.parse (cut data 2 (2 + n))
        .ok (some extra, data.drop (2 + n))
  else .ok (none, data)

/-- The two texts differ in the flag, in how they are decoded and in the
message. -/
def unpackText {α : Type} (decode : Bytes → Except PyError α)
    (flags mask : Nat) (message : String) (data : Bytes) :
    Except PyError (Option α × Bytes) :=
  if hasFlag flags mask then
    match findBytes [0] data with
    | none => .error (needData message)
    | some n => do
        let text ← decode (data.take n)
        .ok (some text, data.drop (n + 1))
  else .ok (none, data)

def decodeName (bytes : Bytes) : Except PyError PyStr :=
  match decodeUtf8 bytes with
  | none => .error .unicodeError
  | some filename => .ok filename

def unpackFilename (flags : Nat) :
    Bytes → Except PyError (Option PyStr × Bytes) :=
  unpackText decodeName flags gzipFname "Gzip end of file name not found"

def unpackComment (flags : Nat) :
    Bytes → Except PyError (Option Bytes × Bytes) :=
  unpackText .ok flags gzipFcomment "Gzip end of comment not found"

/-- The two parts that are skipped differ in the flag, the length and the
message. -/
def skipPart (flags mask length : Nat) (message : String) (data : Bytes) :
    Except PyError Bytes :=
  if hasFlag flags mask then
    if data.length < length then .error (needData message)
    else .ok (data.drop length)
  else .ok data

def unpack (buf : Bytes) : Except PyError Gzip := do
  let (header, data) ← GzipHeader.format.unpackHdr .little buf
  let (extra, data) ← unpackExtra header.flags data
  let (filename, data) ← unpackFilename header.flags data
  let (comment, data) ← unpackComment header.flags data
  let data ← skipPart header.flags gzipFencrypt gzipFencryptLen "Gzip encrypt"
    data
  let data ← skipPart header.flags gzipFhcrc 2 "Gzip hcrc" data
  .ok { header, extra, filename, comment, data }

def parse : Bytes → Except PyError Gzip :=
  packetInit "Gzip" (some GzipHeader.format.size) unpack

/-- `if self.extra:`; a packet is true. -/
def packExtra : Option GzipExtra → Except PyError Bytes
  | none => .ok []
  | some extra => do
      let s ← extra.bytes
      let length ← packBe 2 s.length
      .ok (ByteOrder.little.arrange length ++ s)

def textBytes {α : Type} (encode : α → Bytes) : Option α → Bytes
  | none => []
  | some text => encode text ++ [0]

def nameBytes : Option PyStr → Bytes := textBytes encodeUtf8

def commentBytes : Option Bytes → Bytes := textBytes id

/-- `if value:`; an empty value counts as none. -/
def present {α : Type} (value : Option (List α)) : Option (List α) :=
  value.filter fun items => !items.isEmpty

/-- `if part: self.flags |= mask` -/
def flagIf (part : Bool) (mask flags : Nat) : Nat :=
  if part then flags ||| mask else flags

def setFlags (self : Gzip) : Nat :=
  flagIf (present self.comment).isSome gzipFcomment
    (flagIf (present self.filename).isSome gzipFname
      (flagIf self.extra.isSome gzipFextra self.header.flags))

def bytes (self : Gzip) : Except PyError (Gzip × Bytes) := do
  let next : Gzip :=
    { self with header := { self.header with flags := self.setFlags } }
  let extra ← packExtra self.extra
  let hdr ← GzipHeader.format.packHdr .little next.header
  .ok (next, hdr ++ (extra ++ (nameBytes (present self.filename) ++
    (commentBytes (present self.comment) ++ self.data))))

end Gzip

theorem hasFlag_two_pow (flags index : Nat) :
    hasFlag flags (2 ^ index) = flags.testBit index := by
  unfold hasFlag
  rw [Nat.and_two_pow]
  cases flags.testBit index <;> simp

theorem Gzip.testBit_flagIf (part : Bool) (index flags other : Nat) :
    (flagIf part (2 ^ index) flags).testBit other =
      (flags.testBit other || (part && decide (index = other))) := by
  unfold flagIf
  cases part with
  | false => rw [if_neg Bool.false_ne_true, Bool.false_and, Bool.or_false]
  | true =>
      rw [if_pos rfl, Nat.testBit_or, Nat.testBit_two_pow, Bool.true_and]

/-! ### Parts -/

theorem find_zero_append {front : Bytes} (free : 0 ∉ front) (rest : Bytes) :
    findBytes [0] (front ++ 0 :: rest) = some front.length := by
  induction front with
  | nil => rfl
  | cons byte front ih =>
      rw [List.mem_cons, not_or] at free
      have other : ¬List.isPrefixOf [0] (byte :: (front ++ 0 :: rest)) := by
        rw [List.isPrefixOf_iff_prefix, List.cons_prefix_cons]
        exact fun both => free.1 both.1
      rw [List.cons_append, findBytes, if_neg other, ih free.2]
      rfl

theorem find_zero {data : Bytes} {n : Nat}
    (found : findBytes [0] data = some n) :
    data = data.take n ++ 0 :: data.drop (n + 1) ∧ 0 ∉ data.take n := by
  induction data generalizing n with
  | nil => cases found
  | cons byte rest ih =>
      rw [findBytes] at found
      split at found
      · rename_i here
        rw [List.isPrefixOf_iff_prefix, List.cons_prefix_cons] at here
        rw [← Option.some.inj found, ← here.1]
        exact ⟨rfl, List.not_mem_nil⟩
      · rename_i other
        obtain ⟨m, later, same⟩ := Option.map_eq_some_iff.mp found
        obtain ⟨split, free⟩ := ih later
        rw [← same, List.take_succ_cons, List.drop_succ_cons, List.cons_append,
          ← split, List.mem_cons, not_or]
        refine ⟨rfl, ?_, free⟩
        intro zero
        apply other
        rw [List.isPrefixOf_iff_prefix, List.cons_prefix_cons]
        exact ⟨zero, List.nil_prefix⟩

namespace Gzip

variable {flags : Nat} {data rest : Bytes}

theorem unpackText_eq_ok {α : Type} {decode : Bytes → Except PyError α}
    {encode : α → Bytes} {mask : Nat} {message : String} {text : Option α}
    (decodes : ∀ {bytes text}, decode bytes = .ok text ↔ bytes = encode text) :
    unpackText decode flags mask message data = .ok (text, rest) ↔
      text.isSome = hasFlag flags mask ∧ (∀ value ∈ text, 0 ∉ encode value) ∧
        data = textBytes encode text ++ rest := by
  unfold unpackText
  cases hasFlag flags mask with
  | false =>
      rw [if_neg Bool.false_ne_true, Except.ok.injEq, Prod.mk.injEq]
      constructor
      · rintro ⟨rfl, rfl⟩
        exact ⟨rfl, nofun, rfl⟩
      · rintro ⟨absent, _free, same⟩
        rw [Option.isSome_eq_false_iff, Option.isNone_iff_eq_none] at absent
        rw [absent] at same ⊢
        exact ⟨rfl, same⟩
  | true =>
      rw [if_pos rfl]
      constructor
      · intro read
        split at read
        · cases read
        · rename_i n found
          obtain ⟨value, decoded, done⟩ := bind_eq_ok.mp read
          obtain ⟨split, free⟩ := find_zero found
          have encoded := decodes.mp decoded
          rw [Except.ok.injEq, Prod.mk.injEq] at done
          rw [← done.1, ← done.2]
          refine ⟨rfl, ?_, ?_⟩
          · rintro _ ⟨⟩
            rw [← encoded]
            exact free
          · rw [textBytes, ← encoded, List.append_assoc]
            exact split
      · rintro ⟨there, free, same⟩
        obtain ⟨value, rfl⟩ := Option.isSome_iff_exists.mp there
        have layout : data = encode value ++ 0 :: rest := by
          rw [same, textBytes, List.append_assoc]
          rfl
        rw [layout, find_zero_append (free value rfl)]
        dsimp only
        rw [List.take_left, decodes.mpr rfl, ok_bind, ← List.drop_drop,
          List.drop_left]
        rfl

theorem decodeName_eq_ok {bytes : Bytes} {filename : PyStr} :
    decodeName bytes = .ok filename ↔ bytes = encodeUtf8 filename := by
  unfold decodeName
  constructor
  · intro read
    split at read
    · cases read
    · rename_i text decoded
      rw [← Except.ok.inj read, encodeUtf8_decodeUtf8 decoded]
  · rintro rfl
    rw [decodeUtf8_encodeUtf8]

theorem kept_eq_ok {bytes text : Bytes} :
    (Except.ok bytes : Except PyError Bytes) = .ok text ↔ bytes = id text :=
  Except.ok.injEq bytes text ▸ Iff.rfl

theorem skipPart_eq_ok {mask length : Nat} {message : String} :
    skipPart flags mask length message data = .ok rest ↔
      ∃ skipped, skipped.length = (if hasFlag flags mask then length else 0) ∧
        data = skipped ++ rest := by
  unfold skipPart
  cases hasFlag flags mask with
  | false =>
      rw [if_neg Bool.false_ne_true, if_neg Bool.false_ne_true, Except.ok.injEq]
      constructor
      · intro same
        exact ⟨[], rfl, same⟩
      · rintro ⟨skipped, nothing, same⟩
        rw [same, List.eq_nil_of_length_eq_zero nothing]
        rfl
  | true =>
      rw [if_pos rfl, if_pos rfl]
      constructor
      · intro read
        split at read
        · cases read
        · rename_i enough
          rw [Except.ok.injEq] at read
          refine ⟨data.take length, ?_, ?_⟩
          · rw [List.length_take]
            omega
          · rw [← read, List.take_append_drop]
      · rintro ⟨skipped, sized, same⟩
        rw [same, List.drop_left' sized, if_neg]
        rw [List.length_append]
        omega

theorem extraHeader_exact : ExtraHeader.format.Exact := fun _values => rfl

theorem header_exact : GzipHeader.format.Exact := fun _values => rfl

def extraBytes : Option GzipExtra → Bytes
  | none => []
  | some extra =>
      ByteOrder.little.arrange (beBytes 2 (4 + extra.data.length)) ++
        (ExtraHeader.format.bytes .little extra.header ++ extra.data)

structure ExtraFits (extra : GzipExtra) : Prop where
  header : ExtraHeader.format.Fits extra.header
  length : 4 + extra.data.length < 256 ^ 2

theorem parse_extra {buf : Bytes} {extra : GzipExtra} :
    GzipExtra.parse buf = .ok extra ↔
      ExtraHeader.format.Fits extra.header ∧
        buf = ExtraHeader.format.bytes .little extra.header ++ extra.data := by
  constructor
  · intro parsed
    obtain ⟨⟨header, data⟩, read, done⟩ := bind_eq_ok.mp parsed
    rw [Except.ok.injEq] at done
    have unpacked := packetInit_eq_ok.mp read
    obtain ⟨fits, _enough, behind⟩ :=
      StructFormat.unpackHdr_fits extraHeader_exact unpacked
    obtain ⟨packed, _enough, _behind⟩ :=
      StructFormat.repacked extraHeader_exact unpacked
    rw [StructFormat.packHdr_ok fits, Except.ok.injEq] at packed
    rw [← done]
    refine ⟨fits, ?_⟩
    rw [packed, behind, List.take_append_drop]
  · rintro ⟨fits, same⟩
    unfold GzipExtra.parse
    rw [same, StructFormat.parsePacket_bytes fits, ok_bind]

theorem unpackInt_take {n : Nat} (two : 2 ≤ data.length)
    (word : ByteOrder.little.unpackInt 2 (data.take 2) = .ok n) :
    data.take 2 = ByteOrder.little.arrange (beBytes 2 n) ∧ n < 256 ^ 2 := by
  have length : (ByteOrder.little.arrange (data.take 2)).length = 2 := by
    rw [ByteOrder.arrange_length, List.length_take]
    omega
  unfold ByteOrder.unpackInt at word
  rw [if_pos (by rw [List.length_take]; omega), Except.ok.injEq] at word
  have again := beBytes_beNat (ByteOrder.little.arrange (data.take 2))
  have bound := beNat_lt (ByteOrder.little.arrange (data.take 2))
  rw [length] at again bound
  rw [← word]
  unfold ByteOrder.nat
  rw [again, ByteOrder.arrange_arrange]
  exact ⟨rfl, bound⟩

theorem unpackExtra_eq_ok {extra : Option GzipExtra} :
    unpackExtra flags data = .ok (extra, rest) ↔
      extra.isSome = hasFlag flags gzipFextra ∧
        (∀ part ∈ extra, ExtraFits part) ∧
        data = extraBytes extra ++ rest := by
  unfold unpackExtra
  cases hasFlag flags gzipFextra with
  | false =>
      rw [if_neg Bool.false_ne_true, Except.ok.injEq, Prod.mk.injEq]
      constructor
      · rintro ⟨rfl, rfl⟩
        exact ⟨rfl, nofun, rfl⟩
      · rintro ⟨absent, _free, same⟩
        rw [Option.isSome_eq_false_iff, Option.isNone_iff_eq_none] at absent
        rw [absent] at same ⊢
        exact ⟨rfl, same⟩
  | true =>
      rw [if_pos rfl]
      constructor
      · intro read
        split at read
        · cases read
        · rename_i two
          obtain ⟨n, word, read⟩ := bind_eq_ok.mp read
          split at read
          · cases read
          · rename_i enough
            obtain ⟨part, parsed, done⟩ := bind_eq_ok.mp read
            obtain ⟨fits, same⟩ := parse_extra.mp parsed
            have length := congrArg List.length same
            rw [List.length_append, StructFormat.bytes_length fits,
              cut_length_of_le (by omega)] at length
            have four : ExtraHeader.format.size = 4 := rfl
            obtain ⟨front, small⟩ := unpackInt_take (by omega) word
            rw [Except.ok.injEq, Prod.mk.injEq] at done
            rw [← done.1, ← done.2]
            refine ⟨rfl, ?_, ?_⟩
            · rintro _ ⟨⟩
              exact ⟨fits, by omega⟩
            · rw [extraBytes, ← same, show 4 + part.data.length = n by omega,
                ← front, List.append_assoc,
                cut_append_drop data (by omega), List.take_append_drop]
      · rintro ⟨there, fits, same⟩
        obtain ⟨part, rfl⟩ := Option.isSome_iff_exists.mp there
        obtain ⟨header, small⟩ := fits part rfl
        have four : ExtraHeader.format.size = 4 := rfl
        have body : (ExtraHeader.format.bytes .little part.header ++
            part.data).length = 4 + part.data.length := by
          rw [List.length_append, StructFormat.bytes_length header, four]
        have front : (ByteOrder.little.arrange
            (beBytes 2 (4 + part.data.length))).length = 2 := by
          rw [ByteOrder.arrange_length, beBytes_length]
        have total := congrArg List.length same
        rw [List.length_append, extraBytes, List.length_append, front, body]
          at total
        rw [extraBytes] at same
        have first : data.take 2 = ByteOrder.little.arrange
            (beBytes 2 (4 + part.data.length)) := by
          rw [same, List.append_assoc, List.take_left' front]
        have here : cut data 2 (2 + (4 + part.data.length)) =
            ExtraHeader.format.bytes .little part.header ++ part.data := by
          rw [same]
          exact cut_middle front (by rw [body]) rest
        have behind : data.drop (2 + (4 + part.data.length)) = rest := by
          rw [same]
          apply List.drop_left'
          rw [List.length_append, front, body]
        rw [if_neg (by omega), first,
          ByteOrder.little.unpackInt_arrange small, ok_bind,
          if_neg (by omega), here, parse_extra.mpr ⟨header, rfl⟩, ok_bind,
          behind]

/-! ### Whole members -/

variable {self : Gzip} {buf : Bytes}

/-- The flags announce the parts that are there, and each part can be found
again. -/
structure WellFormed (member : Gzip) : Prop where
  header : GzipHeader.format.Fits member.header
  extra : member.extra.isSome = hasFlag member.header.flags gzipFextra
  extraFits : ∀ part ∈ member.extra, ExtraFits part
  filename : member.filename.isSome = hasFlag member.header.flags gzipFname
  filenameFree : ∀ name ∈ member.filename, 0 ∉ encodeUtf8 name
  comment : member.comment.isSome = hasFlag member.header.flags gzipFcomment
  commentFree : ∀ text ∈ member.comment, 0 ∉ text

/-- How many bytes `unpack` skips. -/
def skips (self : Gzip) : Nat :=
  (if hasFlag self.header.flags gzipFencrypt then gzipFencryptLen else 0) +
    if hasFlag self.header.flags gzipFhcrc then 2 else 0

/-- The member, with bytes that are skipped in front of the data. -/
def layOut (self : Gzip) (skipped : Bytes) : Bytes :=
  GzipHeader.format.bytes .little self.header ++ (extraBytes self.extra ++
    (nameBytes self.filename ++ (commentBytes self.comment ++
      (skipped ++ self.data))))

theorem split_at {first second : Nat} {skipped : Bytes}
    (length : skipped.length = first + second) :
    ∃ front behind, front.length = first ∧ behind.length = second ∧
      skipped = front ++ behind := by
  refine ⟨skipped.take first, skipped.drop first, ?_, ?_, ?_⟩
  · rw [List.length_take]
    omega
  · rw [List.length_drop]
    omega
  · rw [List.take_append_drop]

theorem layOut_of_parse (parsed : parse buf = .ok self) :
    self.WellFormed ∧
      ∃ skipped, skipped.length = self.skips ∧ buf = self.layOut skipped := by
  have unpacked := packetInit_eq_ok.mp parsed
  obtain ⟨⟨header, data⟩, hdr, unpacked⟩ := bind_eq_ok.mp unpacked
  obtain ⟨⟨extra, data₁⟩, first, unpacked⟩ := bind_eq_ok.mp unpacked
  obtain ⟨⟨filename, data₂⟩, second, unpacked⟩ := bind_eq_ok.mp unpacked
  obtain ⟨⟨comment, data₃⟩, third, unpacked⟩ := bind_eq_ok.mp unpacked
  obtain ⟨data₄, fourth, unpacked⟩ := bind_eq_ok.mp unpacked
  obtain ⟨data₅, fifth, done⟩ := bind_eq_ok.mp unpacked
  obtain ⟨fits, _enough, _behind⟩ :=
    StructFormat.unpackHdr_fits header_exact hdr
  obtain ⟨packed, _enough, behind⟩ := StructFormat.repacked header_exact hdr
  rw [StructFormat.packHdr_ok fits, Except.ok.injEq] at packed
  obtain ⟨hasExtra, extraFits, same₁⟩ := unpackExtra_eq_ok.mp first
  obtain ⟨hasName, nameFree, same₂⟩ :=
    (unpackText_eq_ok decodeName_eq_ok).mp second
  obtain ⟨hasComment, commentFree, same₃⟩ :=
    (unpackText_eq_ok kept_eq_ok).mp third
  obtain ⟨skipped, length, same₄⟩ := skipPart_eq_ok.mp fourth
  obtain ⟨skipped', length', same₅⟩ := skipPart_eq_ok.mp fifth
  rw [Except.ok.injEq] at done
  rw [← done]
  refine ⟨⟨fits, hasExtra, extraFits, hasName, nameFree, hasComment,
    commentFree⟩, skipped ++ skipped', ?_, ?_⟩
  · rw [List.length_append, length, length']
    rfl
  · unfold layOut nameBytes commentBytes
    dsimp only at same₁ same₂ same₃ same₄ same₅ packed behind ⊢
    rw [packed, List.append_assoc, ← same₅, ← same₄, ← same₃, ← same₂,
      ← same₁, behind, List.take_append_drop]

theorem parse_layOut (wellFormed : self.WellFormed) {skipped : Bytes}
    (length : skipped.length = self.skips) :
    parse (self.layOut skipped) = .ok self := by
  refine packetInit_eq_ok.mpr ?_
  obtain ⟨front, last, frontLength, lastLength, rfl⟩ := split_at length
  have first (rest : Bytes) :
      unpackExtra self.header.flags (extraBytes self.extra ++ rest) =
        .ok (self.extra, rest) :=
    unpackExtra_eq_ok.mpr ⟨wellFormed.extra, wellFormed.extraFits, rfl⟩
  have second (rest : Bytes) :
      unpackFilename self.header.flags (nameBytes self.filename ++ rest) =
        .ok (self.filename, rest) :=
    (unpackText_eq_ok decodeName_eq_ok).mpr
      ⟨wellFormed.filename, wellFormed.filenameFree, rfl⟩
  have third (rest : Bytes) :
      unpackComment self.header.flags (commentBytes self.comment ++ rest) =
        .ok (self.comment, rest) :=
    (unpackText_eq_ok kept_eq_ok).mpr
      ⟨wellFormed.comment, wellFormed.commentFree, rfl⟩
  have fourth : skipPart self.header.flags gzipFencrypt gzipFencryptLen
      "Gzip encrypt" (front ++ (last ++ self.data)) =
        .ok (last ++ self.data) :=
    skipPart_eq_ok.mpr ⟨front, frontLength, rfl⟩
  have fifth : skipPart self.header.flags gzipFhcrc 2 "Gzip hcrc"
      (last ++ self.data) = .ok self.data :=
    skipPart_eq_ok.mpr ⟨last, lastLength, rfl⟩
  unfold unpack
  rw [layOut, StructFormat.unpackHdr_bytes wellFormed.header, ok_bind]
  dsimp only
  rw [first, ok_bind]
  dsimp only
  rw [second, ok_bind]
  dsimp only
  rw [third, ok_bind]
  dsimp only
  rw [List.append_assoc, fourth, ok_bind, fifth, ok_bind]

/-- The buffers that `Gzip` takes, and what it finds in each. -/
theorem gzip_parse_iff (buf : Bytes) (self : Gzip) :
    parse buf = .ok self ↔ self.WellFormed ∧
      ∃ skipped, skipped.length = self.skips ∧ buf = self.layOut skipped := by
  constructor
  · exact layOut_of_parse
  · rintro ⟨wellFormed, skipped, length, rfl⟩
    exact parse_layOut wellFormed length

/-! ### Writing -/

theorem testBit_setFlags (self : Gzip) (index : Nat) :
    self.setFlags.testBit index =
      (self.header.flags.testBit index ||
        (self.extra.isSome && decide (2 = index)) ||
        ((present self.filename).isSome && decide (3 = index)) ||
        ((present self.comment).isSome && decide (4 = index))) := by
  unfold setFlags
  rw [show gzipFextra = 2 ^ 2 from rfl, show gzipFname = 2 ^ 3 from rfl,
    show gzipFcomment = 2 ^ 4 from rfl, testBit_flagIf, testBit_flagIf,
    testBit_flagIf]

def flagged (self : Gzip) : Gzip :=
  { self with header := { self.header with flags := self.setFlags } }

def written (self : Gzip) : Bytes :=
  GzipHeader.format.bytes .little self.flagged.header ++
    (extraBytes self.extra ++ (nameBytes (present self.filename) ++
      (commentBytes (present self.comment) ++ self.data)))

theorem packExtra_ok {extra : Option GzipExtra}
    (fits : ∀ part ∈ extra, ExtraFits part) :
    packExtra extra = .ok (extraBytes extra) := by
  cases extra with
  | none => rfl
  | some part =>
      obtain ⟨header, small⟩ := fits part rfl
      have four : ExtraHeader.format.size = 4 := rfl
      have length : (ExtraHeader.format.bytes .little part.header ++
          part.data).length = 4 + part.data.length := by
        rw [List.length_append, StructFormat.bytes_length header, four]
      unfold packExtra GzipExtra.bytes
      dsimp only
      rw [StructFormat.packHdr_ok header, ok_bind, ok_bind, length,
        packBe_ok small, ok_bind]
      rfl

theorem bytes_ok (header : GzipHeader.format.Fits self.flagged.header)
    (extra : ∀ part ∈ self.extra, ExtraFits part) :
    self.bytes = .ok (self.flagged, self.written) := by
  have packed := @StructFormat.packHdr_ok _ _ .little _ header
  unfold bytes
  dsimp only
  rw [packExtra_ok extra, ok_bind]
  rw [show GzipHeader.format.packHdr .little
    { self.header with flags := self.setFlags } = _ from packed, ok_bind]
  rfl

theorem isSome_of_present {α : Type} {value : Option (List α)}
    (there : (present value).isSome = true) : value.isSome = true := by
  cases value with
  | none => exact there
  | some items => rfl

theorem flagged_parsed (wellFormed : self.WellFormed) : self.flagged = self := by
  have flags : self.setFlags = self.header.flags := by
    apply Nat.eq_of_testBit_eq
    intro index
    have extra := wellFormed.extra
    have filename := wellFormed.filename
    have comment := wellFormed.comment
    rw [show gzipFextra = 2 ^ 2 from rfl, hasFlag_two_pow] at extra
    rw [show gzipFname = 2 ^ 3 from rfl, hasFlag_two_pow] at filename
    rw [show gzipFcomment = 2 ^ 4 from rfl, hasFlag_two_pow] at comment
    rw [testBit_setFlags, extra]
    have name := @isSome_of_present _ self.filename
    have text := @isSome_of_present _ self.comment
    rw [filename] at name
    rw [comment] at text
    grind
  unfold flagged
  rw [flags]

theorem bytes_parsed (wellFormed : self.WellFormed) :
    self.bytes = .ok (self, self.written) := by
  have same := flagged_parsed wellFormed
  have header : GzipHeader.format.Fits self.flagged.header := by
    rw [same]
    exact wellFormed.header
  have wrote := bytes_ok header wellFormed.extraFits
  rw [same] at wrote
  exact wrote

/-- A text that is not empty, or none. -/
def Named {α : Type} (text : Option (List α)) : Prop := text ≠ some []

theorem present_named {α : Type} {text : Option (List α)}
    (named : Named text) : present text = text := by
  cases text with
  | none => rfl
  | some items =>
      cases items with
      | nil => exact absurd rfl named
      | cons item rest => rfl

theorem reread (wellFormed : self.WellFormed) (filename : Named self.filename)
    (comment : Named self.comment) (enough : self.skips ≤ self.data.length) :
    parse self.written =
      .ok { self with data := self.data.drop self.skips } := by
  have skipped : (self.data.take self.skips).length = self.skips := by
    rw [List.length_take]
    omega
  have again : ({ self with data := self.data.drop self.skips } :
      Gzip).WellFormed :=
    ⟨wellFormed.header, wellFormed.extra, wellFormed.extraFits,
      wellFormed.filename, wellFormed.filenameFree, wellFormed.comment,
      wellFormed.commentFree⟩
  have parsed := parse_layOut again skipped
  unfold layOut at parsed
  dsimp only at parsed
  rw [List.take_append_drop] at parsed
  unfold written
  rw [flagged_parsed wellFormed, present_named filename,
    present_named comment]
  exact parsed

/-- Writing a member and reading it, so many times. -/
def passes : Nat → Gzip → Except PyError Gzip
  | 0, self => .ok self
  | count + 1, self => do
      let (_, out) ← self.bytes
      passes count (← parse out)

theorem passes_wellFormed (count : Nat) (wellFormed : self.WellFormed)
    (filename : Named self.filename) (comment : Named self.comment)
    (enough : count * self.skips ≤ self.data.length) :
    passes count self =
      .ok { self with data := self.data.drop (count * self.skips) } := by
  induction count generalizing self with
  | zero =>
      rw [Nat.zero_mul]
      rfl
  | succ count ih =>
      have more : count * self.skips + self.skips ≤ self.data.length := by
        rw [← Nat.succ_mul]
        exact enough
      have parsed := reread wellFormed filename comment (by omega)
      obtain ⟨again, _layout⟩ := layOut_of_parse parsed
      rw [passes, bytes_parsed wellFormed, ok_bind]
      dsimp only
      rw [parsed, ok_bind, ih again filename comment]
      · dsimp only
        rw [List.drop_drop, Nat.succ_mul, Nat.add_comm]
        rfl
      · rw [List.length_drop]
        change count * self.skips ≤ _
        omega

/-- Each pass takes the bytes off the data that the flags of the member
announce. -/
theorem gzip_passes {buf : Bytes} (parsed : parse buf = .ok self) (count : Nat)
    (filename : Named self.filename) (comment : Named self.comment)
    (enough : count * self.skips ≤ self.data.length) :
    passes count self =
      .ok { self with data := self.data.drop (count * self.skips) } :=
  passes_wellFormed count (layOut_of_parse parsed).1 filename comment enough

def checkedMember : Gzip where
  header :=
    { magic := [0x1f, 0x8b], method := 8, flags := 2, mtime := 0, xflags := 0
      os := 3 }
  extra := none
  filename := none
  comment := none
  data := [75, 4, 0]

theorem gzip_passes_checked :
    passes 1 checkedMember = .ok { checkedMember with data := [0] } := by
  have parsed : parse [31, 139, 8, 2, 0, 0, 0, 0, 0, 3, 18, 52, 75, 4, 0] =
      .ok checkedMember := rfl
  exact gzip_passes parsed 1 nofun nofun (by decide)

theorem textBytes_length {α : Type} (encode : List α → Bytes)
    (text : Option (List α)) :
    (textBytes encode (present text)).length ≤ (textBytes encode text).length ∧
      ((textBytes encode (present text)).length =
        (textBytes encode text).length → Named text) := by
  by_cases named : Named text
  · rw [present_named named]
    exact ⟨le_rfl, fun _same => named⟩
  · have empty : text = some [] := not_not.mp named
    rw [empty]
    change 0 ≤ (encode [] ++ [0]).length ∧ (0 = (encode [] ++ [0]).length → _)
    rw [List.length_append, List.length_singleton]
    exact ⟨Nat.zero_le _, fun impossible => absurd impossible (by omega)⟩

/-- A member is written as it was read when nothing was skipped and no text is
empty. -/
theorem gzip_rewritten_iff {buf : Bytes} (parsed : parse buf = .ok self) :
    (∃ next, self.bytes = .ok (next, buf)) ↔
      self.skips = 0 ∧ Named self.filename ∧ Named self.comment := by
  obtain ⟨wellFormed, skipped, length, rfl⟩ := layOut_of_parse parsed
  have wrote := bytes_parsed wellFormed
  constructor
  · rintro ⟨next, written⟩
    rw [wrote, Except.ok.injEq, Prod.mk.injEq] at written
    have sizes := congrArg List.length written.2
    obtain ⟨nameLe, name⟩ := textBytes_length encodeUtf8 self.filename
    obtain ⟨textLe, text⟩ := textBytes_length id self.comment
    unfold Gzip.written layOut nameBytes commentBytes at sizes
    rw [flagged_parsed wellFormed] at sizes
    simp only [List.length_append] at sizes
    refine ⟨by omega, name (by omega), text (by omega)⟩
  · rintro ⟨nothing, filename, comment⟩
    have empty : skipped = [] := by
      rw [nothing] at length
      exact List.eq_nil_of_length_eq_zero length
    refine ⟨self, ?_⟩
    rw [wrote]
    unfold Gzip.written layOut
    rw [flagged_parsed wellFormed, present_named filename,
      present_named comment, empty, List.nil_append]

def plainMember : Gzip where
  header :=
    { magic := [0x1f, 0x8b], method := 8, flags := 0, mtime := 0, xflags := 0
      os := 3 }
  extra := none
  filename := none
  comment := none
  data := [75, 4, 0]

theorem gzip_rewritten_iff_plain :
    ∃ next, plainMember.bytes =
      .ok (next, [31, 139, 8, 0, 0, 0, 0, 0, 0, 3, 75, 4, 0]) := by
  have parsed : parse [31, 139, 8, 0, 0, 0, 0, 0, 0, 3, 75, 4, 0] =
      .ok plainMember := rfl
  exact (gzip_rewritten_iff parsed).mpr ⟨rfl, nofun, nofun⟩

/-! ### Members that are built -/

/-- A member of which everything can be written; no flag announces a part that
is not there. -/
structure Sendable (member : Gzip) : Prop where
  header : GzipHeader.format.Fits member.header
  extraFits : ∀ part ∈ member.extra, ExtraFits part
  filenameFree : ∀ name ∈ member.filename, 0 ∉ encodeUtf8 name
  commentFree : ∀ text ∈ member.comment, 0 ∉ text
  extra : hasFlag member.header.flags gzipFextra = true →
    member.extra.isSome = true
  filename : hasFlag member.header.flags gzipFname = true →
    (present member.filename).isSome = true
  comment : hasFlag member.header.flags gzipFcomment = true →
    (present member.comment).isSome = true
  encrypt : hasFlag member.header.flags gzipFencrypt = false
  hcrc : hasFlag member.header.flags gzipFhcrc = false

/-- The member with its flags set and without empty texts. -/
def asRead (self : Gzip) : Gzip :=
  { self.flagged with
    filename := present self.filename
    comment := present self.comment }

theorem mem_present {α : Type} {value : Option (List α)} {items : List α}
    (member : items ∈ present value) : items ∈ value :=
  (Option.mem_filter_iff.mp member).1

theorem flagIf_lt {part : Bool} {mask flags : Nat} (small : mask < 256)
    (word : flags < 256) : flagIf part mask flags < 256 := by
  unfold flagIf
  split
  · exact Nat.or_lt_two_pow (n := 8) word small
  · exact word

theorem hasFlag_setFlags (self : Gzip) (index : Nat) :
    hasFlag self.setFlags (2 ^ index) =
      (hasFlag self.header.flags (2 ^ index) ||
        (self.extra.isSome && decide (2 = index)) ||
        ((present self.filename).isSome && decide (3 = index)) ||
        ((present self.comment).isSome && decide (4 = index))) := by
  rw [hasFlag_two_pow, hasFlag_two_pow, testBit_setFlags]

theorem asRead_wellFormed (sendable : self.Sendable) :
    self.asRead.WellFormed := by
  obtain ⟨magic, method, flags, others⟩ := sendable.header
  have word : self.setFlags < 256 :=
    flagIf_lt (by decide) (flagIf_lt (by decide) (flagIf_lt (by decide) flags))
  have extra := sendable.extra
  have filename := sendable.filename
  have comment := sendable.comment
  exact
    { header := ⟨magic, method, word, others⟩
      extra := by
        rw [show gzipFextra = 2 ^ 2 from rfl] at extra ⊢
        change self.extra.isSome = hasFlag self.setFlags (2 ^ 2)
        rw [hasFlag_setFlags]
        grind
      extraFits := sendable.extraFits
      filename := by
        rw [show gzipFname = 2 ^ 3 from rfl] at filename ⊢
        change (present self.filename).isSome = hasFlag self.setFlags (2 ^ 3)
        rw [hasFlag_setFlags]
        grind
      filenameFree := fun name member =>
        sendable.filenameFree name (mem_present member)
      comment := by
        rw [show gzipFcomment = 2 ^ 4 from rfl] at comment ⊢
        change (present self.comment).isSome = hasFlag self.setFlags (2 ^ 4)
        rw [hasFlag_setFlags]
        grind
      commentFree := fun text member =>
        sendable.commentFree text (mem_present member) }

theorem asRead_skips (sendable : self.Sendable) : self.asRead.skips = 0 := by
  have encrypt : hasFlag self.setFlags gzipFencrypt = false := by
    have clear := sendable.encrypt
    rw [show gzipFencrypt = 2 ^ 5 from rfl] at clear ⊢
    rw [hasFlag_setFlags, clear]
    simp
  have hcrc : hasFlag self.setFlags gzipFhcrc = false := by
    have clear := sendable.hcrc
    rw [show gzipFhcrc = 2 ^ 1 from rfl] at clear ⊢
    rw [hasFlag_setFlags, clear]
    simp
  change (if hasFlag self.setFlags gzipFencrypt then gzipFencryptLen else 0) +
    (if hasFlag self.setFlags gzipFhcrc then 2 else 0) = 0
  rw [encrypt, hcrc]
  rfl

/-- What is built, written and read is what was built, with its flags set and
without empty texts. -/
theorem gzip_bytes_read (sendable : self.Sendable) :
    ∃ out, self.bytes = .ok (self.flagged, out) ∧
      parse out = .ok self.asRead := by
  have wellFormed := asRead_wellFormed sendable
  have nothing : ([] : Bytes).length = self.asRead.skips :=
    (asRead_skips sendable).symm
  have same : self.written = self.asRead.layOut [] := rfl
  refine ⟨_, bytes_ok wellFormed.header sendable.extraFits, ?_⟩
  rw [same]
  exact parse_layOut wellFormed nothing

/-- A member with a name and no flags, as `Gzip(filename=...)` makes it. -/
def namedMember : Gzip where
  header :=
    { magic := [0x1f, 0x8b], method := 8, flags := 0, mtime := 0, xflags := 0
      os := 3 }
  extra := none
  filename := some ['a', 'b']
  comment := none
  data := [3, 0]

theorem gzip_bytes_read_named :
    ∃ out, namedMember.bytes = .ok (namedMember.flagged, out) ∧
      parse out = .ok namedMember.asRead :=
  gzip_bytes_read
    { header := ⟨rfl, by decide, by decide, by decide, by decide, by decide,
        trivial⟩
      extraFits := nofun
      filenameFree := by
        rintro _ ⟨⟩
        decide
      commentFree := nofun
      extra := by decide
      filename := by decide
      comment := by decide
      encrypt := rfl
      hcrc := rfl }

end Gzip

end DpktNg.GzipFormat
